import BoxedCalls.Functions.Builtin
import BoxedCalls.Proofs.Scope.Context

namespace BoxedCalls

namespace HostFunctions

variable (host : HostFunctions) (function : String) (arity : Nat)

def requiresMore : Bool :=
  !Builtin.contains function &&
    (host.signatureOf? function).any fun signature => arity < signature.required

def arityViolations (span : Span) : List CompileError :=
  if host.requiresMore function arity then [⟨.insufficientArguments function, span⟩] else []

theorem contains_of_signatureOf? {host : HostFunctions} {function : String}
    {signature : Signature} (h : host.signatureOf? function = some signature) :
    host.contains function = true := by
  have hstored : host.signatures.find? (Text.lowercase function) = some (some signature) :=
    Option.join_eq_some_iff.mp h
  simp [contains, NameMap.contains, hstored]

end HostFunctions

def Literal.violations (span : Span) : Literal → List CompileError
  | null => [⟨.unsupportedValue "null", span⟩]
  | _ => []

def readViolations (name : String) (span : Span) : Option VariableType → List CompileError
  | none => [⟨.undeclaredVariable name, span⟩]
  | some .char => [⟨.unsupportedVariable "char", span⟩]
  | some .array => [⟨.unsupportedVariable "array", span⟩]
  | some _ => []

def targetViolations (name : String) (span : Span) : Option VariableType → List CompileError
  | none => [⟨.undeclaredVariable name, span⟩]
  | some .boxed => []
  | some _ => [⟨.unboxedDestination, span⟩]

theorem targetViolations_of_ne_boxed {type : VariableType} (name : String) (span : Span)
    (h : type ≠ .boxed) :
    targetViolations name span (some type) = [⟨.unboxedDestination, span⟩] := by
  cases type with
  | boxed => exact absurd rfl h
  | _ => rfl

section Syntax

variable (host : HostFunctions) (types : String → Option VariableType)

mutual

def Expression.violations : Expression → List CompileError
  | .literal value span => value.violations span
  | .var name span => readViolations name span (types name)
  | .call function arguments span =>
      host.arityViolations (Text.lowercase function) arguments.length span ++
        allViolations arguments

def Expression.allViolations : List Expression → List CompileError
  | [] => []
  | argument :: rest => argument.violations ++ allViolations rest

end

def Call.violations (call : Call) : List CompileError :=
  host.arityViolations (Text.lowercase call.function) call.arguments.length call.span ++
    Expression.allViolations host types call.arguments

def Statement.violations : Statement → List CompileError
  | .call c => c.violations host types
  | .assign name c => c.violations host types ++ targetViolations name c.span (types name)

end Syntax

namespace CallUnit

def violations (unit : CallUnit) (host : HostFunctions) : List CompileError :=
  unit.statements.flatMap (·.violations host (declaredType unit.declarations))

def declares (unit : CallUnit) (name : String) : Prop :=
  name ∈ unit.declarations.map Declaration.name

instance (unit : CallUnit) (name : String) : Decidable (unit.declares name) :=
  inferInstanceAs (Decidable (name ∈ unit.declarations.map Declaration.name))

end CallUnit

def Statement.mentions (name : String) : Statement → Bool
  | call c => c.argumentsRead name
  | assign target c => target = name || c.argumentsRead name

def CallUnit.mentions (unit : CallUnit) (name : String) : Bool :=
  unit.statements.any (·.mentions name)

theorem Expression.forall_anyReads_cons {P : String → Prop} {argument : Expression}
    {rest : List Expression} :
    (∀ name, anyReads name (argument :: rest) = true → P name) ↔
      (∀ name, argument.reads name = true → P name) ∧
        ∀ name, anyReads name rest = true → P name := by
  simp [anyReads, or_imp, forall_and]

theorem Statement.forall_mentions_assign {P : String → Prop} {target : String} {c : Call} :
    (∀ name, (assign target c).mentions name = true → P name) ↔
      P target ∧ ∀ name, c.argumentsRead name = true → P name := by
  simp [mentions, or_imp, forall_and]

/-- A name of the form that temporaries have is mentioned only where it is declared. -/
def CallUnit.SparesTemporaries (unit : CallUnit) : Prop :=
  ∀ number, unit.mentions (temporaryName number) = true → unit.declares (temporaryName number)

theorem declaredType_eq_none_iff {declarations : List Declaration} {name : String} :
    declaredType declarations name = none ↔ name ∉ declarations.map Declaration.name := by
  simp [declaredType]

namespace CallUnit

variable {unit : CallUnit}

theorem declares_iff {name : String} :
    unit.declares name ↔ declaredType unit.declarations name ≠ none := by
  rw [Ne, declaredType_eq_none_iff, not_not]
  rfl

theorem declaredType_of_mentions
    (h : ∀ name, unit.mentions name = true → unit.declares name) :
    ∀ statement ∈ unit.statements, ∀ name, statement.mentions name = true →
      declaredType unit.declarations name ≠ none := by
  intro statement hmem name hmentions
  exact declares_iff.mp (h name (List.any_eq_true.mpr ⟨statement, hmem, hmentions⟩))

end CallUnit

end BoxedCalls
