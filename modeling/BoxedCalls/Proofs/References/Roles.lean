import BoxedCalls.Proofs.Compile.Statements
import BoxedCalls.Proofs.Ownership.Steps

namespace BoxedCalls

inductive Role where
  | initialized
  | reinitialized
  | stored
  | returned
  | overwritten
  | copied
  | passed
  | integer
  | double
  | truth
  | text
  deriving DecidableEq, Repr

namespace Role

def types : Role → List VariableType
  | integer => [.int, .uint, .long, .ulong]
  | double => [.double]
  | truth => [.bool]
  | text => [.string]
  | _ => [.boxed]

def storages : Role → List Storage
  | initialized => [.heapTemporary]
  | reinitialized => [.named]
  | stored => [.heapTemporary, .stackTemporary, .named]
  | returned => [.heapTemporary, .named]
  | overwritten => [.named]
  | copied => [.heapTemporary]
  | passed => [.heapTemporary, .stackTemporary, .named]
  | _ => [.named]

end Role

structure Reference where
  role : Role
  operand : Operand
  deriving DecidableEq, Repr

def passes (arguments : List Operand) : List Reference :=
  arguments.map (⟨.passed, ·⟩)

def Code.references (role : Role) : Code → List Reference
  | var name => [⟨role, .var name⟩]
  | predicate _ arguments => passes arguments
  | verbatim text => [⟨role, .verbatim text⟩]
  | integer _ => []
  | double _ => []
  | truth _ => []
  | null => []
  | quoted _ => []

def Instruction.references : Instruction → List Reference
  | init target => [⟨.initialized, target⟩]
  | reinit target => [⟨.reinitialized, target⟩]
  | storeNull target => [⟨.stored, target⟩]
  | storeLong target value => value.references .integer ++ [⟨.stored, target⟩]
  | storeDouble target value => value.references .double ++ [⟨.stored, target⟩]
  | storeBool target value => value.references .truth ++ [⟨.stored, target⟩]
  | storeString target literal _ => literal.references .text ++ [⟨.stored, target⟩]
  | storeStringWithLength target source _ => [⟨.text, source⟩, ⟨.stored, target⟩]
  | copyOnWrite destination source => [⟨.copied, source⟩, ⟨.overwritten, destination⟩]
  | callFunction _ destination arguments =>
      passes arguments ++ destination.toList.map (⟨.returned, ·⟩)
  | kernelCall _ operands =>
      match operands with
      | [] => []
      | destination :: arguments => passes arguments ++ [⟨.returned, destination⟩]

def rolesOf (name : String) (references : List Reference) : List Role :=
  references.filterMap fun reference =>
    if reference.operand.container? = some name then some reference.role else none

def history (name : String) (code : List Instruction) : List Role :=
  rolesOf name (code.flatMap Instruction.references)

theorem Variable.container?_handle (v : Variable) : v.handle.container? = some v.name := by
  obtain ⟨name, storage, type⟩ := v
  cases storage <;> rfl

section Roles

variable {name : String} {references : List Reference}

@[simp] theorem rolesOf_append (first second : List Reference) :
    rolesOf name (first ++ second) = rolesOf name first ++ rolesOf name second :=
  List.filterMap_append

theorem rolesOf_eq_nil
    (h : ∀ reference ∈ references, reference.operand.container? ≠ some name) :
    rolesOf name references = [] := by
  rw [rolesOf, List.filterMap_eq_nil_iff]
  intro reference hmem
  exact if_neg (h reference hmem)

theorem mem_rolesOf {role : Role} :
    role ∈ rolesOf name references ↔
      ∃ reference ∈ references, reference.operand.container? = some name ∧
        reference.role = role := by
  simp [rolesOf]

theorem rolesOf_same {operand : Operand} (h : operand.container? = some name)
    (roles : List Role) : rolesOf name (roles.map (⟨·, operand⟩)) = roles := by
  simp [rolesOf, List.filterMap_map, h]

theorem rolesOf_other {operand : Operand} (h : operand.container? ≠ some name)
    (roles : List Role) : rolesOf name (roles.map (⟨·, operand⟩)) = [] := by
  apply rolesOf_eq_nil
  intro reference hmem
  obtain ⟨role, _, rfl⟩ := List.mem_map.mp hmem
  exact h

end Roles

def Boxing.references : Boxing → List Reference
  | long value => value.references .integer
  | double value => value.references .double
  | bool value => value.references .truth
  | string literal => literal.references .text
  | text name => [⟨.text, .var name⟩]

theorem Boxing.references_store (boxing : Boxing) (mode : ArgumentMode) (target : Operand) :
    (boxing.store mode target).references = boxing.references ++ [⟨.stored, target⟩] := by
  cases boxing <;> rfl

theorem passes_append (first second : List Operand) :
    passes (first ++ second) = passes first ++ passes second :=
  List.map_append

theorem Boxing.references_condition (contract : HelperContract) (arguments : List Operand) :
    (contract.conditionBoxing arguments).references =
      passes arguments ++ passes contract.trailingOperands :=
  passes_append _ _

def Routine.constants : Routine → List Operand
  | helper contract => contract.trailingOperands
  | function _ => []

theorem Routine.references_instruction (routine : Routine) (function : String)
    (arguments : List Operand) (destination : Operand) :
    (routine.instruction function arguments (some destination)).references =
      passes arguments ++ passes routine.constants ++ [⟨.returned, destination⟩] := by
  cases routine with
  | helper contract =>
    rw [← passes_append]
    rfl
  | function mode =>
    rw [constants, passes, passes, List.map_nil, List.append_nil]
    rfl

namespace Context

def references (ctx : Context) : List Reference :=
  ctx.instructions.flatMap Instruction.references

theorem references_of_instructions {first second : Context} {emitted : List Instruction}
    (h : second.instructions = first.instructions ++ emitted) :
    second.references = first.references ++ emitted.flatMap Instruction.references := by
  rw [references, references, h, List.flatMap_append]

end Context

end BoxedCalls
