import Mathlib.Data.List.Infix
import BoxedCalls.Proofs.Semantics.Source

namespace BoxedCalls

inductive Scalar where
  | null
  | integer (value : Int)
  | double (value : Double)
  | truth (value : Bool)
  | text (value : String)
  deriving DecidableEq, Repr

namespace Scalar

def holds (function : String) : List Scalar → Bool
  | [text whole, text part] =>
      if function = "memstr" then part.toList <:+: whole.toList
      else if function = "starts_with" then part.toList <+: whole.toList
      else if function = "ends_with" then part.toList <:+ whole.toList
      else false
  | _ => false

def compute (function : String) : List Scalar → Scalar
  | [text value] => if function = "strlen" then integer value.utf8ByteSize else null
  | _ => null

def apply (function : String) (values : List Scalar) : Scalar :=
  match Builtin.contract? function with
  | some ⟨_, _, _, _, _, .boolean⟩ => truth (holds function values)
  | _ => compute function values

end Scalar

def Actual.value? {V : Type} : Actual V → Option V
  | value v => some v
  | constant _ => none

theorem HelperContract.filterMap_actuals {V : Type} (contract : HelperContract) (values : List V) :
    (contract.actuals values).filterMap Actual.value? = values := by
  have hvalues : (values.map Actual.value).filterMap Actual.value? = values := by
    rw [List.filterMap_map]
    exact List.filterMap_some
  have hconstants :
      (contract.trailing.map Actual.constant).filterMap Actual.value? = ([] : List V) := by
    rw [List.filterMap_eq_nil_iff]
    intro actual hmem
    obtain ⟨text, _, rfl⟩ := List.mem_map.mp hmem
    rfl
  rw [actuals, List.filterMap_append, hvalues, hconstants, List.append_nil]

namespace Builtin

def functionOf (symbol : String) : String :=
  match contracts.find? (·.symbol = symbol) with
  | some contract => contract.name
  | none => ""

theorem functionOf_symbol : ∀ contract ∈ contracts, functionOf contract.symbol = contract.name := by
  decide

theorem contract?_name : ∀ contract ∈ contracts, contract? contract.name = some contract := by
  decide

end Builtin

namespace Scalar

def runtime : Runtime Scalar where
  null := null
  integer := integer
  double := double
  truth := truth
  text := text
  call := apply
  helper symbol actuals := apply (Builtin.functionOf symbol) (actuals.filterMap Actual.value?)
  condition symbol actuals := holds (Builtin.functionOf symbol) (actuals.filterMap Actual.value?)

theorem runtime_lawful : runtime.Lawful where
  condition contract hmem hresult values _ := by
    obtain ⟨name, symbol, header, count, trailing, result⟩ := contract
    cases hresult
    change truth (holds (Builtin.functionOf symbol) (List.filterMap Actual.value?
      (HelperContract.actuals _ values))) = apply name values
    rw [HelperContract.filterMap_actuals, Builtin.functionOf_symbol _ hmem, apply,
      Builtin.contract?_name _ hmem]
  helper contract hmem _ values _ := by
    change apply (Builtin.functionOf contract.symbol) (List.filterMap Actual.value?
      (contract.actuals values)) = apply contract.name values
    rw [HelperContract.filterMap_actuals, Builtin.functionOf_symbol _ hmem]

end Scalar

end BoxedCalls
