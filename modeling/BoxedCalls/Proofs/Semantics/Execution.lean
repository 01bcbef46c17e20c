import BoxedCalls.Proofs.Scope.SymbolTable
import BoxedCalls.Proofs.Semantics.Source
import BoxedCalls.Target.Instruction

namespace BoxedCalls

variable {V : Type}

def isIdentifier (name : String) : Bool :=
  match name.toList with
  | [] => false
  | first :: rest =>
      (first.isAlpha || first = '_') && rest.all fun char => char.isAlphanum || char = '_'

theorem isIdentifier_temporaryName (number : Nat) : isIdentifier (temporaryName number) = true := by
  have hdigits :
      (Nat.toDigits 10 number).all (fun char => char.isAlphanum || char = '_') = true := by
    rw [List.all_eq_true]
    intro char hmem
    have hdigit := Nat.isDigit_of_mem_toDigits (by decide) (by decide) hmem
    simp [Char.isAlphanum, hdigit]
  simp [isIdentifier, toList_temporaryName, hdigits]

namespace Store

def read (σ : Store V) (name : String) : Option (Cell V) :=
  if isIdentifier name then σ name else none

def boxed? (σ : Store V) (name : String) : Option V :=
  match σ.read name with
  | some (.boxed value) => some value
  | _ => none

end Store

namespace Operand

variable (σ : Store V)

def value? : Operand → Option V
  | var name => σ.boxed? name
  | addressOf name => σ.boxed? name
  | verbatim _ => none

def actual? : Operand → Option (Actual V)
  | verbatim text => some (.constant text)
  | operand => (operand.value? σ).map .value

def text? : Operand → Option String
  | var name =>
      match σ.read name with
      | some (.text value) => some value
      | _ => none
  | _ => none

def write (target : Operand) (value : V) : Option (Store V) :=
  match target with
  | var name => (σ.boxed? name).map fun _ => σ.set name value
  | addressOf name => if isIdentifier name then some (σ.set name value) else none
  | verbatim _ => none

def create (target : Operand) (value : V) : Option (Store V) :=
  match target with
  | var name => if isIdentifier name then some (σ.set name value) else none
  | _ => none

end Operand

namespace Code

variable (R : Runtime V) (σ : Store V)

def integer? : Code → Option Int
  | integer value => some value
  | var name =>
      match σ.read name with
      | some (.integer value) => some value
      | _ => none
  | _ => none

def double? : Code → Option Double
  | double value => if value.isFinite then some value else none
  | var name =>
      match σ.read name with
      | some (.double value) => some value
      | _ => none
  | _ => none

def truth? : Code → Option Bool
  | integer value => some (value ≠ 0)
  | var name =>
      match σ.read name with
      | some (.truth value) => some value
      | _ => none
  | predicate symbol operands => (operands.mapM (Operand.actual? σ)).map (R.condition symbol)
  | _ => none

def text? : Code → Option String
  | quoted value => some value
  | _ => none

end Code

section Running

variable (R : Runtime V)

def Instruction.step (σ : Store V) : Instruction → Option (Store V)
  | init target => target.create σ R.null
  | reinit target => target.write σ R.null
  | storeNull target => target.write σ R.null
  | storeLong target value => do target.write σ (R.integer (← value.integer? σ))
  | storeDouble target value => do target.write σ (R.double (← value.double? σ))
  | storeBool target value => do target.write σ (R.truth (← value.truth? R σ))
  | storeString target literal _ => do target.write σ (R.text (← literal.text?))
  | storeStringWithLength target source _ => do target.write σ (R.text (← source.text? σ))
  | copyOnWrite destination source => do destination.write σ (← source.value? σ)
  | callFunction function destination arguments => do
      let values ← arguments.mapM (Operand.value? σ)
      match destination with
      | none => return σ
      | some destination => destination.write σ (R.call function values)
  | kernelCall symbol operands =>
      match operands with
      | [] => none
      | destination :: rest => do
          destination.write σ (R.helper symbol (← rest.mapM (Operand.actual? σ)))

def execute (instructions : List Instruction) (σ : Store V) : Option (Store V) :=
  instructions.foldlM (fun σ instruction => instruction.step R σ) σ

theorem execute_append (first second : List Instruction) (σ : Store V) :
    execute R (first ++ second) σ = (execute R first σ).bind (execute R second) :=
  List.foldlM_append

end Running

end BoxedCalls
