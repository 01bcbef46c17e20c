namespace BoxedCalls

inductive HelperResult where
  | boolean
  | boxedValue
  deriving DecidableEq, Repr

structure HelperContract where
  name : String
  symbol : String
  header : String
  parameterCount : Nat
  trailing : List String
  result : HelperResult
  deriving DecidableEq, Repr

def callHeader : String := "kernel/fcall"

def stringHeader : String := "kernel/string"

def objectHeader : String := "kernel/object"

namespace Builtin

def contracts : List HelperContract := [
  ⟨"memstr", "zephir_memnstr", stringHeader, 2, [], .boolean⟩,
  ⟨"get_class_ns", "zephir_get_class_ns", objectHeader, 1, ["0"], .boxedValue⟩,
  ⟨"get_ns_class", "zephir_get_ns_class", objectHeader, 1, ["0"], .boxedValue⟩,
  ⟨"camelize", "zephir_camelize", stringHeader, 1, [], .boxedValue⟩,
  ⟨"uncamelize", "zephir_uncamelize", stringHeader, 1, [], .boxedValue⟩,
  ⟨"starts_with", "zephir_start_with", stringHeader, 2, ["NULL"], .boolean⟩,
  ⟨"ends_with", "zephir_end_with", stringHeader, 2, ["NULL"], .boolean⟩]

def contract? (name : String) : Option HelperContract :=
  contracts.find? (·.name = name)

def contains (name : String) : Bool :=
  (contract? name).isSome

end Builtin

end BoxedCalls
