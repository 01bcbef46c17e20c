import BoxedCalls.Compile.Call

namespace BoxedCalls

structure Knowledge where
  known : String → Bool
  optimizer : String → Option Optimizer
  signature : String → Option Signature

namespace OptimizerLookup

theorem resolve_resolve (lookup : OptimizerLookup) (first name : String) :
    ((lookup.resolve first).2.resolve name).1 = (lookup.resolve name).1 := by
  cases hfirst : lookup.resolved.find? first with
  | some outcome => simp [resolve, hfirst]
  | none =>
    by_cases hname : name = first
    · subst hname
      simp [resolve, hfirst, NameMap.find?_insert]
    · cases hother : lookup.resolved.find? name <;>
        simp [resolve, hfirst, hother, NameMap.find?_insert, hname]

end OptimizerLookup

namespace SignatureCache

theorem signatureOf_signatureOf (cache : SignatureCache) (host : HostFunctions)
    (first name : String) :
    ((cache.signatureOf host first).2.signatureOf host name).1 =
      (cache.signatureOf host name).1 := by
  cases hfirst : cache.signatures.find? first with
  | some signature => simp [signatureOf, hfirst]
  | none =>
    by_cases hname : name = first
    · subst hname
      simp [signatureOf, hfirst, NameMap.find?_insert]
    · cases hother : cache.signatures.find? name <;>
        simp [signatureOf, hfirst, hother, NameMap.find?_insert, hname]

theorem isReadOnly_of_builtin {cache : SignatureCache} {name : String}
    (h : Builtin.contains name = true) (host : HostFunctions) (count : Nat) (span : Span) :
    cache.isReadOnly host name count span = (.ok false, cache) := by
  simp [isReadOnly, h]

theorem isReadOnly_of_not_builtin {cache : SignatureCache} {name : String}
    (h : Builtin.contains name = false) (host : HostFunctions) (count : Nat) (span : Span) :
    cache.isReadOnly host name count span =
      (match (cache.signatureOf host name).1 with
        | none => .ok false
        | some signature =>
            if count < signature.required then .error ⟨.insufficientArguments name, span⟩
            else .ok (!signature.anyByReference count),
        (cache.signatureOf host name).2) := by
  simp only [isReadOnly, h, Bool.false_eq_true, if_false]
  rcases cache.signatureOf host name with ⟨_ | signature, rest⟩
  · rfl
  · simp only
    split <;> rfl

end SignatureCache

namespace Compiler

def knowledge (compiler : Compiler) : Knowledge where
  known := compiler.knows
  optimizer name := (compiler.optimizers.resolve name).1
  signature name := (compiler.signatures.signatureOf compiler.host name).1

def afterLookup (compiler : Compiler) (name : String) : Compiler :=
  { compiler with optimizers := (compiler.optimizers.resolve name).2 }

def afterDeclining (compiler : Compiler) : Compiler :=
  { compiler with declined := compiler.declined + 1 }

def afterQuestion (compiler : Compiler) (name : String) (count : Nat) (span : Span) : Compiler :=
  { compiler with
    signatures := (compiler.signatures.isReadOnly compiler.host name count span).2 }

variable (compiler : Compiler)

@[simp] theorem knowledge_afterLookup (name : String) :
    (compiler.afterLookup name).knowledge = compiler.knowledge := by
  unfold knowledge afterLookup
  simp only [OptimizerLookup.resolve_resolve]
  rfl

@[simp] theorem knowledge_afterQuestion (name : String) (count : Nat) (span : Span) :
    (compiler.afterQuestion name count span).knowledge = compiler.knowledge := by
  cases hbuiltin : Builtin.contains name with
  | true => simp [afterQuestion, SignatureCache.isReadOnly_of_builtin hbuiltin]
  | false =>
    unfold knowledge afterQuestion
    simp only [SignatureCache.isReadOnly_of_not_builtin hbuiltin,
      SignatureCache.signatureOf_signatureOf]
    rfl

end Compiler

inductive Routine where
  | helper (contract : HelperContract)
  | function (mode : ArgumentMode)
  deriving DecidableEq, Repr

inductive Shape where
  | condition (contract : HelperContract)
  | routine (routine : Routine)
  deriving DecidableEq, Repr

namespace Knowledge

variable (k : Knowledge)

def FollowsCalls : Prop :=
  ∀ name result, k.optimizer name ≠ some (.fixed result)

def refuses (function : String) (arity : Nat) : Bool :=
  k.known function && !Builtin.contains function &&
    (k.signature function).any fun signature => arity < signature.required

def lends (function : String) (arity : Nat) : Bool :=
  k.known function && !Builtin.contains function &&
    (k.signature function).any fun signature => !signature.anyByReference arity

def mode (function : String) (arity : Nat) : ArgumentMode :=
  if k.lends function arity then .lent else .owned

def shape (function : String) (arity : Nat) (wanted : Bool) : Shape :=
  match k.optimizer function with
  | some (.booleanHelper contract) =>
      if arity = contract.parameterCount then .condition contract
      else .routine (.function (k.mode function arity))
  | some (.boxedHelper contract) =>
      if arity = contract.parameterCount ∧ wanted then .routine (.helper contract)
      else .routine (.function (k.mode function arity))
  | _ => .routine (.function (k.mode function arity))

def announce (function : String) (span : Span) (ctx : Context) : Context :=
  if k.known function then ctx else ctx.warn (.unknownFunction function span)

end Knowledge

end BoxedCalls
