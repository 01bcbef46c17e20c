import BoxedCalls.Functions.Builtin
import BoxedCalls.Functions.Host
import BoxedCalls.Scope.Diagnostic

namespace BoxedCalls

structure SignatureCache where
  signatures : NameMap (Option Signature) := .empty
  deriving Repr

namespace SignatureCache

def signatureOf (cache : SignatureCache) (host : HostFunctions) (name : String) :
    Option Signature × SignatureCache :=
  match cache.signatures.find? name with
  | some signature => (signature, cache)
  | none =>
      let signature := host.signatureOf? name
      (signature, ⟨cache.signatures.insert name signature⟩)

/-- Every one of `count` arguments goes to a parameter passed by value. Too few arguments are an
error. Nothing is known of builtin functions and of those without a signature. -/
def isReadOnly (cache : SignatureCache) (host : HostFunctions) (name : String) (count : Nat)
    (span : Span) : Except CompileError Bool × SignatureCache :=
  if Builtin.contains name then (.ok false, cache)
  else
    match cache.signatureOf host name with
    | (none, cache) => (.ok false, cache)
    | (some signature, cache) =>
        if count < signature.required then (.error ⟨.insufficientArguments name, span⟩, cache)
        else (.ok (!signature.anyByReference count), cache)

def contains (cache : SignatureCache) (name : String) : Bool :=
  cache.signatures.contains name

def invalidate (cache : SignatureCache) (name : String) : Bool × SignatureCache :=
  (cache.contains name, ⟨cache.signatures.erase name⟩)

end SignatureCache

end BoxedCalls
