import BoxedCalls.Functions.Builtin
import BoxedCalls.Syntax.CallUnit
import BoxedCalls.Text.Lowercase

namespace BoxedCalls

variable {V : Type}

inductive Cell (V : Type) where
  | integer (value : Int)
  | double (value : Double)
  | truth (value : Bool)
  | text (value : String)
  | char (value : UInt8)
  | array (value : V)
  | boxed (value : V)
  deriving DecidableEq, Repr

def Cell.types : Cell V → List VariableType
  | integer _ => [.int, .uint, .long, .ulong]
  | double _ => [.double]
  | truth _ => [.bool]
  | text _ => [.string]
  | char _ => [.char]
  | array _ => [.array]
  | boxed _ => [.boxed]

inductive Actual (V : Type) where
  | value (value : V)
  | constant (text : String)
  deriving DecidableEq, Repr

structure Runtime (V : Type) where
  null : V
  integer : Int → V
  double : Double → V
  truth : Bool → V
  text : String → V
  call : String → List V → V
  helper : String → List (Actual V) → V
  condition : String → List (Actual V) → Bool

def HelperContract.actuals (contract : HelperContract) (values : List V) : List (Actual V) :=
  values.map .value ++ contract.trailing.map .constant

/-- A kernel helper, given the constants of its contract, means the same as its builtin function. -/
structure Runtime.Lawful (R : Runtime V) : Prop where
  condition : ∀ contract ∈ Builtin.contracts, contract.result = .boolean →
    ∀ values : List V, values.length = contract.parameterCount →
      R.truth (R.condition contract.symbol (contract.actuals values)) =
        R.call contract.name values
  helper : ∀ contract ∈ Builtin.contracts, contract.result = .boxedValue →
    ∀ values : List V, values.length = contract.parameterCount →
      R.helper contract.symbol (contract.actuals values) = R.call contract.name values

def Store (V : Type) : Type := String → Option (Cell V)

namespace Store

def set (σ : Store V) (name : String) (value : V) : Store V :=
  fun other => if other = name then some (.boxed value) else σ other

@[simp] theorem set_same (σ : Store V) (name : String) (value : V) :
    σ.set name value name = some (.boxed value) :=
  if_pos rfl

theorem set_other {σ : Store V} {name other : String} (value : V) (h : other ≠ name) :
    σ.set name value other = σ other :=
  if_neg h

theorem set_set (σ : Store V) (name : String) (first second : V) :
    (σ.set name first).set name second = σ.set name second := by
  funext other
  by_cases h : other = name <;> simp [set, h]

end Store

section Evaluation

variable (R : Runtime V) (σ : Store V)

def Literal.value : Literal → V
  | int value => R.integer value.toInt
  | uint value => R.integer value.toNat
  | long value => R.integer value.toInt
  | ulong value => R.integer value.toNat
  | double value => R.double value
  | bool value => R.truth value
  | string value => R.text value
  | null => R.null

def Cell.value? : Cell V → Option V
  | integer value => some (R.integer value)
  | double value => some (R.double value)
  | truth value => some (R.truth value)
  | text value => some (R.text value)
  | boxed value => some value
  | char _ => none
  | array _ => none

mutual

def Expression.value? : Expression → Option V
  | .literal value _ => some (value.value R)
  | .var name _ => (σ name).bind (·.value? R)
  | .call function arguments _ => (values? arguments).map (R.call (Text.lowercase function))

def Expression.values? : List Expression → Option (List V)
  | [] => some []
  | argument :: rest => do
      let value ← argument.value?
      let values ← values? rest
      return value :: values

end

def Call.value? (call : Call) : Option V :=
  (Expression.values? R σ call.arguments).map (R.call (Text.lowercase call.function))

def Statement.run : Statement → Option (Store V)
  | .call c => (c.value? R σ).map fun _ => σ
  | .assign name c => (c.value? R σ).map (σ.set name)

def CallUnit.run (unit : CallUnit) : Option (Store V) :=
  unit.statements.foldlM (fun σ statement => statement.run R σ) σ

end Evaluation

section Congruence

variable (R : Runtime V) {σ τ : Store V}

mutual

theorem Expression.value?_congr (argument : Expression)
    (h : ∀ name, argument.reads name = true → σ name = τ name) :
    argument.value? R σ = argument.value? R τ := by
  cases argument with
  | literal value span => rfl
  | var name span => rw [value?, value?, h name (by simp [reads])]
  | call function arguments span => rw [value?, value?, values?_congr arguments h]

theorem Expression.values?_congr (arguments : List Expression)
    (h : ∀ name, anyReads name arguments = true → σ name = τ name) :
    values? R σ arguments = values? R τ arguments := by
  cases arguments with
  | nil => rfl
  | cons argument rest =>
    have hfirst := argument.value?_congr fun name hread => h name (by simp [anyReads, hread])
    have hrest := values?_congr rest fun name hread => h name (by simp [anyReads, hread])
    rw [values?, values?, hfirst, hrest]

end

theorem Call.value?_congr {call : Call}
    (h : ∀ name, call.argumentsRead name = true → σ name = τ name) :
    call.value? R σ = call.value? R τ := by
  rw [value?, value?, Expression.values?_congr R call.arguments h]

end Congruence

end BoxedCalls
