import BoxedCalls.Proofs.Scope.Context

namespace BoxedCalls

def temporaryNumber? (name : String) : Option Nat :=
  let number := Nat.ofDigitChars 10 (name.toList.drop 1) 0
  if name = temporaryName number then some number else none

@[simp] theorem temporaryNumber?_temporaryName (number : Nat) :
    temporaryNumber? (temporaryName number) = some number := by
  simp [temporaryNumber?, toList_temporaryName]

theorem temporaryNumber?_eq_some_iff {name : String} {number : Nat} :
    temporaryNumber? name = some number ↔ name = temporaryName number := by
  constructor
  · intro h
    simp only [temporaryNumber?, Option.ite_none_right_eq_some, Option.some.injEq] at h
    rw [← h.2]
    exact h.1
  · rintro rfl
    exact temporaryNumber?_temporaryName number

def IsPlain (name : String) : Prop :=
  ∀ number, name ≠ temporaryName number

theorem IsPlain.temporaryNumber? {name : String} (h : IsPlain name) :
    temporaryNumber? name = none := by
  rw [Option.eq_none_iff_forall_ne_some]
  intro number hnumber
  exact h number (temporaryNumber?_eq_some_iff.mp hnumber)

def Demand.IsPlain : Demand → Prop
  | nothing => True
  | anywhere => True
  | inVariable name => BoxedCalls.IsPlain name

def renumber (offset : Nat) (name : String) : String :=
  match temporaryNumber? name with
  | some number => temporaryName (number + offset)
  | none => name

@[simp] theorem renumber_temporaryName (offset number : Nat) :
    renumber offset (temporaryName number) = temporaryName (number + offset) := by
  simp [renumber]

theorem IsPlain.renumber {name : String} (h : IsPlain name) (offset : Nat) :
    renumber offset name = name := by
  simp [BoxedCalls.renumber, h.temporaryNumber?]

theorem isPlain_or_temporary (name : String) :
    IsPlain name ∨ ∃ number, name = temporaryName number := by
  by_cases h : ∃ number, name = temporaryName number
  · exact .inr h
  · exact .inl fun number hnumber => h ⟨number, hnumber⟩

theorem renumber_eq_iff {offset : Nat} {name target : String} (h : IsPlain target) :
    renumber offset name = target ↔ name = target := by
  rcases isPlain_or_temporary name with hplain | ⟨number, rfl⟩
  · rw [hplain.renumber]
  · rw [renumber_temporaryName]
    constructor
    · intro hsame
      exact absurd hsame.symm (h _)
    · intro hsame
      exact absurd hsame.symm (h _)

theorem renumber_injective (offset : Nat) : Function.Injective (renumber offset) := by
  intro first second hsame
  rcases isPlain_or_temporary second with hplain | ⟨number, rfl⟩
  · rw [hplain.renumber] at hsame
    exact (renumber_eq_iff hplain).mp hsame
  · rcases isPlain_or_temporary first with hplain | ⟨other, rfl⟩
    · rw [hplain.renumber] at hsame
      exact ((renumber_eq_iff hplain).mp hsame.symm).symm
    · simp only [renumber_temporaryName] at hsame
      have := temporaryName_injective hsame
      rw [show other = number by omega]

def Operand.mapNames (f : String → String) : Operand → Operand
  | var name => var (f name)
  | addressOf name => addressOf (f name)
  | verbatim text => verbatim text

def Code.mapNames (f : String → String) : Code → Code
  | var name => var (f name)
  | predicate symbol arguments => predicate symbol (arguments.map (·.mapNames f))
  | integer value => integer value
  | double value => double value
  | truth value => truth value
  | null => null
  | quoted value => quoted value
  | verbatim text => verbatim text

def Instruction.mapNames (f : String → String) : Instruction → Instruction
  | init target => init (target.mapNames f)
  | reinit target => reinit (target.mapNames f)
  | storeNull target => storeNull (target.mapNames f)
  | storeLong target value => storeLong (target.mapNames f) (value.mapNames f)
  | storeDouble target value => storeDouble (target.mapNames f) (value.mapNames f)
  | storeBool target value => storeBool (target.mapNames f) (value.mapNames f)
  | storeString target literal duplicate =>
      storeString (target.mapNames f) (literal.mapNames f) duplicate
  | storeStringWithLength target source duplicate =>
      storeStringWithLength (target.mapNames f) (source.mapNames f) duplicate
  | copyOnWrite destination source => copyOnWrite (destination.mapNames f) (source.mapNames f)
  | callFunction function destination arguments =>
      callFunction function (destination.map (·.mapNames f)) (arguments.map (·.mapNames f))
  | kernelCall symbol operands => kernelCall symbol (operands.map (·.mapNames f))

def Variable.mapName (f : String → String) (v : Variable) : Variable :=
  { v with name := f v.name }

def Destination.mapName (f : String → String) (destination : Destination) : Destination :=
  { destination with target := destination.target.mapName f }

def Compiled.mapNames (f : String → String) (value : Compiled) : Compiled :=
  { value with code := value.code.mapNames f }

section Maps

variable (f : String → String)

@[simp] theorem Variable.handle_mapName (v : Variable) :
    (v.mapName f).handle = v.handle.mapNames f := by
  obtain ⟨name, storage, type⟩ := v
  cases storage <;> rfl

theorem Variable.initialization_mapName (v : Variable) :
    (v.mapName f).initialization = v.initialization.map (·.mapNames f) := by
  obtain ⟨name, storage, type⟩ := v
  cases storage <;> rfl

@[simp] theorem HelperContract.trailingOperands_mapNames (contract : HelperContract) :
    contract.trailingOperands.map (·.mapNames f) = contract.trailingOperands := by
  simp [trailingOperands, Function.comp_def, Operand.mapNames]

@[simp] theorem Literal.compiled_mapNames (value : Literal) (span : Span) :
    (value.compiled span).mapNames f = value.compiled span := by
  cases value <;> rfl

end Maps

section Renumbering

variable {offset : Nat}

theorem IsPlain.addressOf (name : String) : IsPlain ("&" ++ name) :=
  ne_temporaryName (by simp)

theorem IsPlain.render_handle {v : Variable} (h : IsPlain v.name) : IsPlain v.handle.render := by
  obtain ⟨name, storage, type⟩ := v
  cases storage with
  | stackTemporary => exact .addressOf name
  | heapTemporary => exact h
  | named => exact h

theorem IsPlain.handle_renumber {v : Variable} (h : IsPlain v.name) (offset : Nat) :
    v.handle.mapNames (BoxedCalls.renumber offset) = v.handle := by
  obtain ⟨name, storage, type⟩ := v
  have hname := h.renumber offset
  cases storage <;> exact congrArg _ hname

theorem Code.flag_renumber (code : Code) :
    (code.mapNames (renumber offset)).flag = code.flag.mapNames (renumber offset) := by
  have htrue : IsPlain "true" := ne_temporaryName (by decide)
  have hfalse : IsPlain "false" := ne_temporaryName (by decide)
  cases code with
  | var name =>
    change (var (renumber offset name)).flag = _
    simp only [flag, render, renumber_eq_iff htrue, renumber_eq_iff hfalse]
    by_cases hname : name = "true"
    · simp [hname, mapNames]
    · by_cases hother : name = "false" <;> simp [hname, hother, mapNames]
  | truth value => cases value <;> rfl
  | predicate symbol arguments => rfl
  | _ =>
    simp only [mapNames, flag]
    split
    · rfl
    · split <;> rfl

theorem storeScalar_renumber (target : Operand) (value : Compiled) :
    storeScalar (target.mapNames (renumber offset)) (value.mapNames (renumber offset)) =
      (storeScalar target value).mapNames (renumber offset) := by
  obtain ⟨kind, code, span⟩ := value
  cases kind with
  | bool => exact congrArg _ code.flag_renumber
  | _ => rfl

end Renumbering

end BoxedCalls
