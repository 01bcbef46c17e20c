import BoxedCalls.NameMap
import BoxedCalls.Text.Lowercase

namespace BoxedCalls

inductive Passing where
  | byValue
  | byReference
  deriving DecidableEq, Repr

structure Signature where
  required : Nat
  parameters : List Passing
  deriving DecidableEq, Repr

namespace Signature

def byValue (required count : Nat) : Signature :=
  ⟨required, List.replicate count .byValue⟩

def anyByReference (signature : Signature) (count : Nat) : Bool :=
  (signature.parameters.take count).any (· = .byReference)

end Signature

structure HostFunctions where
  signatures : NameMap (Option Signature) := .empty
  deriving Repr

namespace HostFunctions

def register (host : HostFunctions) (name : String) (signature : Option Signature) :
    HostFunctions :=
  ⟨host.signatures.insert (Text.lowercase name) signature⟩

def unregister (host : HostFunctions) (name : String) : HostFunctions :=
  ⟨host.signatures.erase (Text.lowercase name)⟩

def contains (host : HostFunctions) (name : String) : Bool :=
  host.signatures.contains (Text.lowercase name)

def signatureOf? (host : HostFunctions) (name : String) : Option Signature :=
  (host.signatures.find? (Text.lowercase name)).join

end HostFunctions

end BoxedCalls
