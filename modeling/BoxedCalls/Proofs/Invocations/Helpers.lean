import BoxedCalls.Proofs.Invocations.CallOrder

namespace BoxedCalls

def Code.helper? : Code → Option String
  | predicate symbol _ => some symbol
  | _ => none

def Instruction.helper? : Instruction → Option String
  | kernelCall symbol _ => some symbol
  | storeLong _ value => value.helper?
  | storeDouble _ value => value.helper?
  | storeBool _ value => value.helper?
  | storeString _ literal _ => literal.helper?
  | _ => none

theorem CallNode.InvokedBy.contract_of_helper? {node : CallNode} {instruction : Instruction}
    (h : node.InvokedBy instruction) {symbol : String}
    (hhelper : instruction.helper? = some symbol) :
    ∃ contract, node.contract? = some contract ∧ contract.symbol = symbol := by
  cases h with
  | name _ _ _ => cases hhelper
  | helper hcontract _ _ => exact ⟨_, hcontract, Option.some.inj hhelper⟩
  | condition hcontract _ _ => exact ⟨_, hcontract, Option.some.inj hhelper⟩

theorem Literal.helper?_boxing? {value : Literal} {boxing : Boxing}
    (h : value.boxing? = some boxing) (mode : ArgumentMode) (target : Operand) :
    (boxing.store mode target).helper? = none := by
  cases value with
  | null => cases h
  | bool value => cases h; cases value <;> rfl
  | _ => cases h; rfl

theorem VariableType.helper?_boxing? {type : VariableType} {name : String} {boxing : Boxing}
    (h : type.boxing? name = some boxing) (mode : ArgumentMode) (target : Operand) :
    (boxing.store mode target).helper? = none := by
  cases type <;> cases h <;> rfl

def Context.MentionsInvoked (ctx : Context) : Prop :=
  ∀ instruction ∈ ctx.instructions, instruction.helper?.isSome = true → instruction.invokes = true

namespace Context.MentionsInvoked

variable {ctx ctx' : Context}

theorem of_empty (h : ctx.instructions = []) : ctx.MentionsInvoked := by
  intro instruction hmem
  rw [h] at hmem
  cases hmem

theorem of_instructions_eq (h : ctx.MentionsInvoked)
    (hsame : ctx'.instructions = ctx.instructions) : ctx'.MentionsInvoked := by
  intro instruction hmem
  rw [hsame] at hmem
  exact h instruction hmem

theorem emit (h : ctx.MentionsInvoked) {instruction : Instruction}
    (hinvokes : instruction.helper?.isSome = true → instruction.invokes = true) :
    (ctx.emit instruction).MentionsInvoked := by
  intro other hmem
  rcases List.mem_append.mp hmem with hold | hnew
  · exact h other hold
  · rw [List.mem_singleton.mp hnew]
    exact hinvokes

theorem allocate (h : ctx.MentionsInvoked) (storage : Storage) :
    (ctx.allocate storage).2.MentionsInvoked := by
  cases storage with
  | heapTemporary => exact emit (h.of_instructions_eq rfl) nofun
  | stackTemporary => exact h.of_instructions_eq rfl
  | named => exact h.of_instructions_eq rfl

theorem box (h : ctx.MentionsInvoked) {argument : Expression} {boxing : Boxing}
    (hboxing : ctx.boxing? argument = some boxing) (mode : ArgumentMode) :
    (ctx.box mode boxing).2.MentionsInvoked := by
  have hstore : ∀ target, (boxing.store mode target).helper? = none := by
    intro target
    cases argument with
    | literal value span => exact value.helper?_boxing? hboxing mode target
    | var name span =>
      obtain ⟨v, _, htype⟩ := Option.bind_eq_some_iff.mp hboxing
      exact VariableType.helper?_boxing? htype mode target
    | call function arguments span => cases hboxing
  refine (h.allocate mode.storage).emit fun hsome => ?_
  rw [hstore] at hsome
  cases hsome

theorem deliver (h : ctx.MentionsInvoked) (routine : Routine) (function : String)
    (arguments : List Operand) (destination : Destination) :
    (ctx.deliver routine function arguments destination).MentionsInvoked := by
  have hannounced : (routine.announceCall ctx).MentionsInvoked := h.of_instructions_eq (by simp)
  have hopened : ((routine.announceCall ctx).openFor destination).MentionsInvoked := by
    unfold openFor
    split
    · exact hannounced.emit nofun
    · exact hannounced
  exact hopened.emit (by cases routine <;> exact fun _ => rfl)

theorem copy (h : ctx.MentionsInvoked) (target : Operand) (source : Code) :
    (ctx.copy target source).MentionsInvoked := by
  unfold Context.copy
  split
  · exact h
  · exact h.emit nofun

theorem assign_condition (h : ctx.MentionsInvoked) (v : Variable) (isRead : Bool)
    (contract : HelperContract) (arguments : List Operand) (span : Span) :
    (ctx.assign v isRead ⟨.bool, contract.condition arguments, span⟩).MentionsInvoked := by
  cases isRead with
  | true => exact ((h.allocate .heapTemporary).emit fun _ => rfl).emit nofun
  | false =>
    have hopened : (ctx.emit (.reinit v.handle)).MentionsInvoked := h.emit nofun
    exact hopened.emit fun _ => rfl

end Context.MentionsInvoked

section Derivations

variable {k : Knowledge} {ctx ctx' : Context}

theorem Boxes.mentionsInvoked {arguments : List Expression} {mode : ArgumentMode}
    {operands : List Operand} (h : Boxes k arguments mode ctx operands ctx')
    (hstart : ctx.MentionsInvoked) : ctx'.MentionsInvoked := by
  induction h with
  | nil _ => exact hstart
  | store _ hboxing _ ih => exact ih (hstart.box hboxing _)
  | pass _ _ _ _ ih => exact ih hstart
  | condition _ _ _ _ iharguments ihrest =>
    have harguments := iharguments (hstart.of_instructions_eq (by simp))
    exact ihrest ((harguments.allocate _).emit fun _ => rfl)
  | routine _ _ _ _ iharguments ihrest =>
    have harguments := iharguments (hstart.of_instructions_eq (by simp))
    exact ihrest ((harguments.allocate .heapTemporary).deliver _ _ _ _)

theorem Binds.mentionsInvoked {call : Call} {demand : Demand} {destination : Destination}
    (h : Binds call demand ctx destination ctx') (hstart : ctx.MentionsInvoked) :
    ctx'.MentionsInvoked := by
  cases h with
  | anywhere => exact hstart.allocate .heapTemporary
  | apart _ _ => exact hstart.allocate .heapTemporary
  | reused _ _ => exact hstart

theorem Compiles.mentionsInvoked {call : Call} {demand : Demand} {result : Compiled}
    (h : Compiles k call demand ctx result ctx') (hstart : ctx.MentionsInvoked) :
    ctx'.MentionsInvoked := by
  cases h with
  | condition _ harguments =>
    exact harguments.mentionsInvoked (hstart.of_instructions_eq (by simp))
  | discarded _ harguments =>
    have hpassed := harguments.mentionsInvoked (hstart.of_instructions_eq (by simp))
    have hannounced := hpassed.of_instructions_eq (Context.require_instructions _ callHeader)
    exact hannounced.emit fun _ => rfl
  | delivered _ harguments hdestination _ =>
    have hpassed := harguments.mentionsInvoked (hstart.of_instructions_eq (by simp))
    exact (hdestination.mentionsInvoked hpassed).deliver _ _ _ _

theorem Performs.mentionsInvoked {statement : Statement} (h : Performs k statement ctx ctx')
    (hstart : ctx.MentionsInvoked) : ctx'.MentionsInvoked := by
  cases h with
  | call hcompiles => exact hcompiles.mentionsInvoked hstart
  | assign hcompiles _ _ =>
    have hcompiled := hcompiles.mentionsInvoked hstart
    cases hcompiles with
    | condition _ _ => exact hcompiled.assign_condition _ _ _ _ _
    | delivered _ _ _ _ => exact hcompiled.copy _ _

theorem Runs.mentionsInvoked {statements : List Statement} (h : Runs k statements ctx ctx')
    (hstart : ctx.MentionsInvoked) : ctx'.MentionsInvoked := by
  induction h with
  | nil _ => exact hstart
  | cons hperforms _ ih => exact ih (hperforms.mentionsInvoked hstart)

end Derivations

end BoxedCalls
