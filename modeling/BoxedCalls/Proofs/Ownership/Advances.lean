import Mathlib.Data.List.Forall2
import BoxedCalls.Proofs.Compile.Builtins
import BoxedCalls.Proofs.Compile.Statements
import BoxedCalls.Proofs.Ownership.Steps

namespace BoxedCalls

def Carrier.shape (host : HostFunctions) (function : String) (arity : Nat) : Carrier → Shape
  | name => .routine (.function (if host.lends function arity then .lent else .owned))
  | helper contract => .routine (.helper contract)
  | condition contract => .condition contract

def Routine.carrier : Routine → Carrier
  | helper contract => .helper contract
  | function _ => .name

theorem Compiler.lends_new (host : HostFunctions) (table : OptimizerTable) (function : String)
    (arity : Nat) :
    (new host table).knowledge.lends function arity = host.lends function arity := by
  simp only [Knowledge.lends, HostFunctions.lends, knowledge_new_known, knowledge_new_signature]
  cases hbuiltin : Builtin.contains function with
  | true => simp
  | false =>
    cases hsignature : host.signatureOf? function with
    | none => simp
    | some signature => simp [HostFunctions.contains_of_signatureOf? hsignature]

theorem Compiler.shape_new (host : HostFunctions) (function : String) (arity : Nat)
    (wanted : Bool) :
    (new host .builtin).knowledge.shape function arity wanted =
      (Builtin.carrier function arity wanted).shape host function arity := by
  unfold Knowledge.shape Builtin.carrier
  rw [knowledge_new_optimizer, OptimizerTable.find?_builtin]
  cases hcontract : Builtin.contract? function with
  | none => simp [Carrier.shape, Knowledge.mode, lends_new]
  | some contract =>
    cases hresult : contract.result <;> cases wanted <;>
      by_cases hcount : arity = contract.parameterCount <;>
      simp [Optimizer.ofContract, hresult, hcount, Carrier.shape, Knowledge.mode, lends_new]

namespace Context

def emissions (ctx : Context) : List Emission :=
  ctx.instructions.flatMap Instruction.emissions

end Context

theorem exists_of_forall₂_of_mem {α β : Type} {R : α → β → Prop} {xs : List α} {ys : List β}
    (h : List.Forall₂ R xs ys) {y : β} (hmem : y ∈ ys) : ∃ x ∈ xs, R x y := by
  induction h with
  | nil => cases hmem
  | cons hfirst _ ih =>
    rcases List.mem_cons.mp hmem with rfl | hrest
    · exact ⟨_, List.mem_cons_self .., hfirst⟩
    · obtain ⟨x, hx, hrel⟩ := ih hrest
      exact ⟨x, List.mem_cons_of_mem _ hx, hrel⟩

def Advances (host : HostFunctions) (types : String → Option VariableType) (table : SymbolTable)
    (steps : List PassingStep) (before after : Context) : Prop :=
  ∃ emitted, after.emissions = before.emissions ++ emitted ∧
    List.Forall₂ (PassingStep.Emits host types table) steps emitted

namespace Advances

variable {host : HostFunctions} {types : String → Option VariableType} {table : SymbolTable}
  {first second third : Context} {steps later : List PassingStep}

theorem of_emissions_eq (h : second.emissions = first.emissions) :
    Advances host types table [] first second :=
  ⟨[], by simpa using h, .nil⟩

theorem trans (h₁ : Advances host types table steps first second)
    (h₂ : Advances host types table later second third) :
    Advances host types table (steps ++ later) first third := by
  obtain ⟨emitted, hemitted, hsteps⟩ := h₁
  obtain ⟨others, hothers, hlater⟩ := h₂
  refine ⟨emitted ++ others, ?_, List.rel_append hsteps hlater⟩
  rw [hothers, hemitted, List.append_assoc]

theorem of_start (hsame : second.instructions = first.instructions)
    (h : Advances host types table steps second third) :
    Advances host types table steps first third := by
  obtain ⟨emitted, hemitted, hsteps⟩ := h
  exact ⟨emitted, by simpa [Context.emissions, hsame] using hemitted, hsteps⟩

theorem single {step : PassingStep} {emission : Emission}
    (hemissions : second.emissions = first.emissions ++ [emission])
    (h : step.Emits host types table emission) :
    Advances host types table [step] first second :=
  ⟨[emission], hemissions, .cons h .nil⟩

end Advances

namespace Boxing

def tests : Boxing → List Emission
  | bool value => value.emissions
  | _ => []

def duplicate (mode : ArgumentMode) : Boxing → Option Bool
  | string _ => some mode.duplicates
  | text _ => some mode.duplicates
  | _ => none

theorem emissions_store (boxing : Boxing) (mode : ArgumentMode) (target : Operand) :
    (boxing.store mode target).emissions =
      boxing.tests ++ [.stored target (boxing.duplicate mode)] := by
  cases boxing <;> rfl

theorem duplicate_ne (boxing : Boxing) (mode : ArgumentMode) :
    boxing.duplicate mode ≠ some (!mode.duplicates) := by
  cases boxing <;> simp [duplicate]

end Boxing

section Containers

variable {host : HostFunctions} {types : String → Option VariableType}
  {ctx : Context} {final : SymbolTable} {mode : ArgumentMode}

variable (ctx mode)

theorem Context.emissions_emit (instruction : Instruction) :
    (ctx.emit instruction).emissions = ctx.emissions ++ instruction.emissions := by
  simp [emissions]

theorem Context.emissions_allocate (storage : Storage) :
    (ctx.allocate storage).2.emissions = ctx.emissions := by
  cases storage <;> simp [emissions, Variable.initialization, Instruction.emissions]

theorem Context.emissions_box (boxing : Boxing) :
    (ctx.box mode boxing).2.emissions =
      ctx.emissions ++ boxing.tests ++
        [.stored (ctx.box mode boxing).1 (boxing.duplicate mode)] := by
  simp only [box, emissions_emit, emissions_allocate, Boxing.emissions_store, List.append_assoc]

theorem Context.emissions_deliver (routine : Routine) (function : String)
    (arguments : List Operand) (destination : Destination) :
    (ctx.deliver routine function arguments destination).emissions =
      ctx.emissions ++
        (routine.instruction function arguments
          (some (.var destination.target.name))).emissions := by
  cases hreused : destination.reused <;>
    simp [emissions, Destination.opening, hreused, Instruction.emissions]

theorem Context.emissions_copy (target : Operand) (source : Code) :
    (ctx.copy target source).emissions = ctx.emissions := by
  unfold copy
  split
  · rfl
  · rw [emissions_emit]
    exact List.append_nil _

theorem Binds.emissions_eq {call : Call} {demand : Demand} {ctx ctx' : Context}
    {destination : Destination} (h : Binds call demand ctx destination ctx') :
    ctx'.emissions = ctx.emissions := by
  cases h with
  | anywhere => exact ctx.emissions_allocate .heapTemporary
  | apart _ _ => exact ctx.emissions_allocate .heapTemporary
  | reused _ _ => rfl

theorem Context.emissions_assign_condition {v : Variable} (hnamed : v.storage = .named)
    (isRead : Bool) (contract : HelperContract) (operands : List Operand) (span : Span) :
    ∃ name, (ctx.assign v isRead ⟨.bool, contract.condition operands, span⟩).emissions =
      ctx.emissions ++ [.tested contract.symbol (operands ++ contract.trailingOperands),
        .stored (.var name) none] := by
  have hhandle : v.handle = .var v.name := by rw [Variable.handle, hnamed]
  cases isRead with
  | true =>
    refine ⟨ctx.fresh.target.name, ?_⟩
    change (ctx.storeApart v.handle ⟨.bool, contract.condition operands, span⟩).emissions = _
    rw [storeApart, emissions_emit, emissions_emit, emissions_allocate]
    exact List.append_nil _
  | false =>
    refine ⟨v.name, ?_⟩
    change (ctx.storeInto v.handle ⟨.bool, contract.condition operands, span⟩).emissions = _
    rw [storeInto, emissions_emit, emissions_emit, hhandle, List.append_assoc]
    rfl

variable {ctx mode}

theorem box_emits (h : ctx.symbols.Consistent) {boxing : Boxing}
    (hfinal : (ctx.box mode boxing).2.symbols.Extends final) (argument : Expression) :
    PassingStep.Emits host types final (.box argument mode)
      (.stored (ctx.box mode boxing).1 (boxing.duplicate mode)) := by
  have hduplicate := boxing.duplicate_ne mode
  rw [Context.box_symbols] at hfinal
  obtain ⟨number, hnew, hcontainer⟩ := h.hasTemporary_allocate hfinal
  rw [Context.box_operand, hnew]
  cases mode with
  | owned => exact .owned hcontainer hduplicate
  | lent => exact .lent hcontainer hduplicate

theorem box_handsOver (h : ctx.symbols.Consistent) {boxing : Boxing}
    (hfinal : (ctx.box mode boxing).2.symbols.Extends final) {argument : Expression}
    (hneeds : argument.needsContainer types = true) :
    HandsOver types final mode argument (ctx.box mode boxing).1 := by
  rw [Context.box_symbols] at hfinal
  obtain ⟨number, hnew, hcontainer⟩ := h.hasTemporary_allocate hfinal
  rw [Context.box_operand, hnew]
  cases mode with
  | owned => exact .owned hneeds hcontainer
  | lent => exact .lent hneeds hcontainer

theorem fresh_handsOver (h : ctx.symbols.Consistent)
    (hfinal : (ctx.symbols.allocate .heapTemporary).2.Extends final)
    {function : String} {arguments : List Expression} {span : Span}
    (hboxed : (Call.site ⟨function, arguments, span⟩ true).isCondition = false) :
    HandsOver types final mode (.call function arguments span) (.var ctx.fresh.target.name) := by
  obtain ⟨number, hnew, hcontainer⟩ := h.hasTemporary_allocate hfinal
  rw [Context.fresh_target, hnew]
  exact .result hboxed hcontainer

end Containers

end BoxedCalls
