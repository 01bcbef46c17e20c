import BoxedCalls.Proofs.Compile.Derivation
import BoxedCalls.Proofs.Semantics.Execution

namespace BoxedCalls

variable {V : Type}

def Store.Keeps (table : SymbolTable) (σ τ : Store V) : Prop :=
  ∀ name v, table.find? name = some v → τ name = σ name

namespace Store.Keeps

variable {table after : SymbolTable} {σ τ υ : Store V}

theorem refl (table : SymbolTable) (σ : Store V) : σ.Keeps table σ :=
  fun _ _ _ => rfl

theorem trans (hextends : table.Extends after) (h₁ : σ.Keeps table τ) (h₂ : τ.Keeps after υ) :
    σ.Keeps table υ := by
  intro name v hfind
  rw [h₂ name v (hextends.kept hfind), h₁ name v hfind]

theorem set_new (h : σ.Keeps table τ) {name : String} (hnew : table.find? name = none) (value : V) :
    σ.Keeps table (τ.set name value) := by
  intro other v hfind
  have hother : other ≠ name := by
    rintro rfl
    rw [hnew] at hfind
    cases hfind
  rw [Store.set_other value hother, h other v hfind]

theorem set (h : σ.Keeps table τ) (name : String) (value : V) :
    (σ.set name value).Keeps table (τ.set name value) := by
  intro other v hfind
  by_cases hother : other = name
  · rw [hother, Store.set_same, Store.set_same]
  · rw [Store.set_other value hother, Store.set_other value hother, h other v hfind]

end Store.Keeps

theorem Variable.value?_handle (σ : Store V) (v : Variable) :
    v.handle.value? σ = σ.boxed? v.name := by
  obtain ⟨name, storage, type⟩ := v
  cases storage <;> rfl

theorem Variable.actual?_handle (σ : Store V) (v : Variable) :
    v.handle.actual? σ = (v.handle.value? σ).map .value := by
  obtain ⟨name, storage, type⟩ := v
  cases storage <;> rfl

structure Operand.Holds (table : SymbolTable) (σ : Store V) (operand : Operand) (value : V) :
    Prop where
  value : operand.value? σ = some value
  container : ∃ v, table.find? v.name = some v ∧ operand = v.handle

namespace Operand

variable {table after : SymbolTable} {σ τ : Store V} {operand : Operand} {value : V}

theorem Holds.keep (h : operand.Holds table σ value) (hextends : table.Extends after)
    (hkeeps : σ.Keeps table τ) : operand.Holds after τ value := by
  obtain ⟨hvalue, v, hfind, rfl⟩ := h
  refine ⟨?_, v, hextends.kept hfind, rfl⟩
  rw [Variable.value?_handle] at hvalue ⊢
  rw [Store.boxed?, Store.read, hkeeps v.name v hfind]
  exact hvalue

theorem values?_of_holds {operands : List Operand} {values : List V}
    (h : List.Forall₂ (Holds table σ) operands values) :
    operands.mapM (value? σ) = some values := by
  induction h with
  | nil => rfl
  | cons hfirst _ ih => simp [List.mapM_cons, hfirst.value, ih]

theorem actuals?_constants (σ : Store V) (constants : List String) :
    (constants.map Operand.verbatim).mapM (actual? σ) = some (constants.map .constant) := by
  induction constants with
  | nil => rfl
  | cons constant rest ih => simp [List.mapM_cons, actual?, ih]

theorem actuals?_of_holds {operands : List Operand} {values : List V}
    (h : List.Forall₂ (Holds table σ) operands values) (constants : List String) :
    (operands ++ constants.map Operand.verbatim).mapM (actual? σ) =
      some (values.map .value ++ constants.map .constant) := by
  induction h with
  | nil => exact actuals?_constants σ constants
  | cons hfirst _ ih =>
    obtain ⟨hvalue, v, _, rfl⟩ := hfirst
    rw [List.cons_append, List.mapM_cons, Variable.actual?_handle, hvalue, ih]
    rfl

end Operand

def RunsTo (R : Runtime V) (ctx : Context) (σ : Store V) (ctx' : Context) (τ : Store V) : Prop :=
  ∃ emitted, ctx'.instructions = ctx.instructions ++ emitted ∧ execute R emitted σ = some τ

namespace RunsTo

variable {R : Runtime V} {first second third : Context} {σ τ υ : Store V}

theorem of_instructions_eq (h : second.instructions = first.instructions) :
    RunsTo R first σ second σ :=
  ⟨[], by simpa using h, rfl⟩

theorem trans (h₁ : RunsTo R first σ second τ) (h₂ : RunsTo R second τ third υ) :
    RunsTo R first σ third υ := by
  obtain ⟨emitted, hemitted, hexecute⟩ := h₁
  obtain ⟨others, hothers, hexecuteOthers⟩ := h₂
  refine ⟨emitted ++ others, by rw [hothers, hemitted, List.append_assoc], ?_⟩
  rw [execute_append, hexecute]
  exact hexecuteOthers

theorem single {instruction : Instruction}
    (hemits : second.instructions = first.instructions ++ [instruction])
    (hstep : instruction.step R σ = some τ) : RunsTo R first σ second τ := by
  refine ⟨[instruction], hemits, ?_⟩
  change (instruction.step R σ).bind pure = some τ
  rw [hstep]
  rfl

end RunsTo

section Boxing

variable (R : Runtime V)

def Boxing.value? (σ : Store V) : Boxing → Option V
  | long value => (value.integer? σ).map R.integer
  | double value => (value.double? σ).map R.double
  | bool value => (value.truth? R σ).map R.truth
  | string literal => literal.text?.map R.text
  | text name => ((Operand.var name).text? σ).map R.text

theorem Boxing.step_store (boxing : Boxing) (mode : ArgumentMode) (target : Operand)
    (σ : Store V) :
    (boxing.store mode target).step R σ = (boxing.value? R σ).bind (target.write σ) := by
  cases boxing <;>
    simp only [store, Instruction.step, value?, Option.bind_map, Option.bind_eq_bind] <;> rfl

variable {R} {ctx : Context} {σ : Store V}

theorem Store.boxed?_set {name : String} (hname : isIdentifier name = true) (value : V) :
    (σ.set name value).boxed? name = some value := by
  simp [boxed?, read, hname]

theorem Operand.write_var {name : String} {old : V} (h : σ.boxed? name = some old) (value : V) :
    (Operand.var name).write σ value = some (σ.set name value) := by
  rw [write, h]
  rfl

theorem Operand.write_addressOf {name : String} (hname : isIdentifier name = true) (value : V) :
    (Operand.addressOf name).write σ value = some (σ.set name value) :=
  if_pos hname

theorem SymbolTable.isIdentifier_allocate (table : SymbolTable) (storage : Storage) :
    isIdentifier (table.allocate storage).1.name = true := by
  obtain ⟨number, hname⟩ := table.allocate_name storage
  rw [hname]
  exact isIdentifier_temporaryName number

theorem allocate_runs (ctx : Context) (σ : Store V) :
    RunsTo R ctx σ (ctx.allocate .heapTemporary).2 (σ.set ctx.fresh.target.name R.null) := by
  have hstep : (Instruction.init (.var ctx.fresh.target.name)).step R σ =
      some (σ.set ctx.fresh.target.name R.null) := by
    rw [Context.fresh_target]
    exact if_pos (ctx.symbols.isIdentifier_allocate .heapTemporary)
  refine .single ?_ hstep
  rw [Context.allocate_instructions, Context.fresh_target]
  rfl

theorem box_runs (h : ctx.symbols.Consistent) (mode : ArgumentMode) {boxing : Boxing} {value : V}
    (hvalue : ∀ τ, σ.Keeps ctx.symbols τ → boxing.value? R τ = some value) :
    RunsTo R ctx σ (ctx.box mode boxing).2
      (σ.set (ctx.symbols.allocate mode.storage).1.name value) := by
  cases mode with
  | owned =>
    have hidentifier := ctx.symbols.isIdentifier_allocate .heapTemporary
    have hinit : σ.Keeps ctx.symbols
        (σ.set (ctx.symbols.allocate .heapTemporary).1.name R.null) :=
      (Store.Keeps.refl ctx.symbols σ).set_new (h.find?_allocated_name .heapTemporary) R.null
    refine (allocate_runs ctx σ).trans (.single rfl ?_)
    rw [Context.allocate_variable, Context.fresh_target, Boxing.step_store, hvalue _ hinit]
    change (Operand.var (ctx.symbols.allocate .heapTemporary).1.name).write _ value =
      some (σ.set (ctx.symbols.allocate .heapTemporary).1.name value)
    rw [Operand.write_var (Store.boxed?_set hidentifier R.null), Store.set_set]
  | lent =>
    refine .single rfl ?_
    rw [Boxing.step_store, hvalue σ (.refl _ _)]
    exact Operand.write_addressOf (ctx.symbols.isIdentifier_allocate .stackTemporary) value

end Boxing

end BoxedCalls
