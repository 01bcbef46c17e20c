import BoxedCalls.Proofs.Compile.Lowering
import BoxedCalls.Proofs.Scope.Context

namespace BoxedCalls

inductive Boxing where
  | long (value : Code)
  | double (value : Code)
  | bool (value : Code)
  | string (literal : Code)
  | text (name : String)
  deriving DecidableEq, Repr

def Boxing.store (boxing : Boxing) (mode : ArgumentMode) (target : Operand) : Instruction :=
  match boxing with
  | long value => .storeLong target value
  | double value => .storeDouble target value
  | bool value => .storeBool target value
  | string literal => .storeString target literal mode.duplicates
  | text name => .storeStringWithLength target (.var name) mode.duplicates

def HelperContract.condition (contract : HelperContract) (arguments : List Operand) : Code :=
  .predicate contract.symbol (arguments ++ contract.trailingOperands)

def HelperContract.conditionBoxing (contract : HelperContract) (arguments : List Operand) :
    Boxing :=
  .bool (contract.condition arguments)

def Literal.boxing? : Literal → Option Boxing
  | int value => some (.long (.integer value.toInt))
  | uint value => some (.long (.integer value.toNat))
  | long value => some (.long (.integer value.toInt))
  | ulong value => some (.long (.integer value.toNat))
  | double value => some (.double (.double value))
  | bool value => some (.bool (Code.truth value).flag)
  | string value => some (.string (.quoted value))
  | null => none

def VariableType.boxing? (name : String) : VariableType → Option Boxing
  | int => some (.long (.var name))
  | uint => some (.long (.var name))
  | long => some (.long (.var name))
  | ulong => some (.long (.var name))
  | double => some (.double (.var name))
  | bool => some (.bool (.var name))
  | string => some (.text name)
  | char => none
  | array => none
  | boxed => none

namespace Context

def boxing? (ctx : Context) : Expression → Option Boxing
  | .literal value _ => value.boxing?
  | .var name _ => (ctx.symbols.find? name).bind fun v => v.type.boxing? name
  | .call _ _ _ => none

def box (ctx : Context) (mode : ArgumentMode) (boxing : Boxing) : Operand × Context :=
  ((ctx.allocate mode.storage).1.handle,
    (ctx.allocate mode.storage).2.emit
      (boxing.store mode (ctx.allocate mode.storage).1.handle))

end Context

namespace Routine

def mode : Routine → ArgumentMode
  | helper _ => .lent
  | function mode => mode

def instruction (function : String) (arguments : List Operand) (destination : Option Operand) :
    Routine → Instruction
  | helper contract =>
      .kernelCall contract.symbol (destination.toList ++ arguments ++ contract.trailingOperands)
  | .function _ => .callFunction function destination arguments

def prepare (ctx : Context) : Routine → Context
  | helper contract => ctx.require contract.header
  | function _ => ctx

def announceCall (ctx : Context) : Routine → Context
  | helper _ => ctx
  | function _ => ctx.require callHeader

end Routine

def Context.openFor (ctx : Context) (destination : Destination) : Context :=
  if destination.reused then ctx.emit (.reinit (.var destination.target.name)) else ctx

def Context.discard (ctx : Context) (routine : Routine) (function : String)
    (arguments : List Operand) : Context :=
  (routine.announceCall ctx).emit (routine.instruction function arguments none)

def Context.deliver (ctx : Context) (routine : Routine) (function : String)
    (arguments : List Operand) (destination : Destination) : Context :=
  ((routine.announceCall ctx).openFor destination).emit
    (routine.instruction function arguments (some (.var destination.target.name)))

def Context.fresh (ctx : Context) : Destination :=
  ⟨(ctx.allocate .heapTemporary).1, false⟩

section Fields

variable (ctx : Context) (k : Knowledge) (function : String) (span : Span) (routine : Routine)
  (arguments : List Operand) (destination : Destination) (mode : ArgumentMode) (boxing : Boxing)

@[simp] theorem Knowledge.announce_symbols :
    (k.announce function span ctx).symbols = ctx.symbols := by
  unfold announce
  split <;> rfl

@[simp] theorem Knowledge.announce_instructions :
    (k.announce function span ctx).instructions = ctx.instructions := by
  unfold announce
  split <;> rfl

@[simp] theorem Routine.prepare_symbols : (routine.prepare ctx).symbols = ctx.symbols := by
  cases routine <;> rfl

@[simp] theorem Routine.prepare_instructions :
    (routine.prepare ctx).instructions = ctx.instructions := by
  cases routine <;> rfl

@[simp] theorem Routine.announceCall_symbols :
    (routine.announceCall ctx).symbols = ctx.symbols := by
  cases routine <;> rfl

@[simp] theorem Routine.announceCall_instructions :
    (routine.announceCall ctx).instructions = ctx.instructions := by
  cases routine <;> rfl

def Destination.opening : List Instruction :=
  if destination.reused then [.reinit (.var destination.target.name)] else []

namespace Context

@[simp] theorem openFor_symbols : (ctx.openFor destination).symbols = ctx.symbols := by
  unfold openFor
  split <;> rfl

@[simp] theorem openFor_instructions :
    (ctx.openFor destination).instructions = ctx.instructions ++ destination.opening := by
  unfold openFor Destination.opening
  split
  · rfl
  · exact (List.append_nil _).symm

@[simp] theorem discard_symbols :
    (ctx.discard routine function arguments).symbols = ctx.symbols := by
  simp [discard]

@[simp] theorem discard_instructions :
    (ctx.discard routine function arguments).instructions =
      ctx.instructions ++ [routine.instruction function arguments none] := by
  simp [discard]

@[simp] theorem deliver_symbols :
    (ctx.deliver routine function arguments destination).symbols = ctx.symbols := by
  simp [deliver]

@[simp] theorem deliver_instructions :
    (ctx.deliver routine function arguments destination).instructions =
      ctx.instructions ++ destination.opening ++
        [routine.instruction function arguments (some (.var destination.target.name))] := by
  simp [deliver]

@[simp] theorem box_operand :
    (ctx.box mode boxing).1 = (ctx.symbols.allocate mode.storage).1.handle := by
  simp [box]

@[simp] theorem box_symbols :
    (ctx.box mode boxing).2.symbols = (ctx.symbols.allocate mode.storage).2 := by
  simp [box]

@[simp] theorem box_instructions :
    (ctx.box mode boxing).2.instructions =
      ctx.instructions ++ (ctx.symbols.allocate mode.storage).1.initialization ++
        [boxing.store mode (ctx.symbols.allocate mode.storage).1.handle] := by
  simp [box]

@[simp] theorem fresh_target : ctx.fresh.target = (ctx.symbols.allocate .heapTemporary).1 := by
  simp [fresh]

@[simp] theorem fresh_opening : ctx.fresh.opening = [] := rfl

end Context

end Fields

inductive Boxes (k : Knowledge) :
    List Expression → ArgumentMode → Context → List Operand → Context → Prop where
  | nil {mode ctx} (hconsistent : ctx.symbols.Consistent) : Boxes k [] mode ctx [] ctx
  | store {argument boxing rest mode ctx operands ctx'} (hconsistent : ctx.symbols.Consistent)
      (hboxing : ctx.boxing? argument = some boxing)
      (hrest : Boxes k rest mode (ctx.box mode boxing).2 operands ctx') :
      Boxes k (argument :: rest) mode ctx ((ctx.box mode boxing).1 :: operands) ctx'
  | pass {name span v rest mode ctx operands ctx'} (hconsistent : ctx.symbols.Consistent)
      (hfind : ctx.symbols.find? name = some v) (hboxed : v.type = .boxed)
      (hrest : Boxes k rest mode ctx operands ctx') :
      Boxes k (.var name span :: rest) mode ctx (v.handle :: operands) ctx'
  | condition {function arguments span contract inner ctx₁ rest mode ctx operands ctx'}
      (hconsistent : ctx.symbols.Consistent)
      (hshape : k.shape (Text.lowercase function) arguments.length true = .condition contract)
      (harguments : Boxes k arguments .lent
        ((k.announce (Text.lowercase function) span ctx).require contract.header) inner ctx₁)
      (hrest : Boxes k rest mode
        (ctx₁.box mode (contract.conditionBoxing inner)).2 operands ctx') :
      Boxes k (.call function arguments span :: rest) mode ctx
        ((ctx₁.box mode (contract.conditionBoxing inner)).1 :: operands) ctx'
  | routine {function arguments span routine inner ctx₁ rest mode ctx operands ctx'}
      (hconsistent : ctx.symbols.Consistent)
      (hshape : k.shape (Text.lowercase function) arguments.length true = .routine routine)
      (harguments : Boxes k arguments routine.mode
        (routine.prepare (k.announce (Text.lowercase function) span ctx)) inner ctx₁)
      (hrest : Boxes k rest mode
        ((ctx₁.allocate .heapTemporary).2.deliver routine (Text.lowercase function) inner
          ctx₁.fresh)
        operands ctx') :
      Boxes k (.call function arguments span :: rest) mode ctx
        (.var ctx₁.fresh.target.name :: operands) ctx'

inductive Binds (call : Call) : Demand → Context → Destination → Context → Prop where
  | anywhere {ctx} : Binds call .anywhere ctx ctx.fresh (ctx.allocate .heapTemporary).2
  | apart {name v ctx} (hfind : ctx.symbols.find? name = some v)
      (hread : call.argumentsRead v.name = true) :
      Binds call (.inVariable name) ctx ctx.fresh (ctx.allocate .heapTemporary).2
  | reused {name v ctx} (hfind : ctx.symbols.find? name = some v)
      (hread : call.argumentsRead v.name = false) :
      Binds call (.inVariable name) ctx ⟨v, true⟩ ctx

inductive Compiles (k : Knowledge) (call : Call) :
    Demand → Context → Compiled → Context → Prop where
  | condition {contract arguments demand ctx ctx'}
      (hshape : k.shape (Text.lowercase call.function) call.arguments.length
        (demand ≠ .nothing) = .condition contract)
      (harguments : Boxes k call.arguments .lent
        ((k.announce (Text.lowercase call.function) call.span ctx).require contract.header)
        arguments ctx') :
      Compiles k call demand ctx
        ⟨.bool, contract.condition arguments, call.span⟩ ctx'
  | discarded {mode arguments ctx ctx'}
      (hshape : k.shape (Text.lowercase call.function) call.arguments.length false =
        .routine (.function mode))
      (harguments : Boxes k call.arguments mode
        (k.announce (Text.lowercase call.function) call.span ctx) arguments ctx') :
      Compiles k call .nothing ctx ⟨.null, .null, call.span⟩
        (ctx'.discard (.function mode) (Text.lowercase call.function) arguments)
  | delivered {routine arguments destination demand ctx ctx₁ ctx'}
      (hshape : k.shape (Text.lowercase call.function) call.arguments.length true =
        .routine routine)
      (harguments : Boxes k call.arguments routine.mode
        (routine.prepare (k.announce (Text.lowercase call.function) call.span ctx)) arguments ctx₁)
      (hdestination : Binds call demand ctx₁ destination ctx')
      (hboxed : destination.target.type = .boxed) :
      Compiles k call demand ctx ⟨.var, .var destination.target.name, call.span⟩
        (ctx'.deliver routine (Text.lowercase call.function) arguments destination)

theorem ArgumentMode.storage_ne_named (mode : ArgumentMode) : mode.storage ≠ .named := by
  cases mode <;> decide

structure Context.Grows (before after : Context) : Prop where
  consistent : after.symbols.Consistent
  symbols : before.symbols.Extends after.symbols
  instructions : before.instructions <+: after.instructions

namespace Context.Grows

variable {first second third : Context}

theorem refl (h : first.symbols.Consistent) : first.Grows first :=
  ⟨h, .refl _, List.prefix_refl _⟩

theorem trans (h₁ : first.Grows second) (h₂ : second.Grows third) : first.Grows third :=
  ⟨h₂.consistent, h₁.symbols.trans h₂.symbols, h₁.instructions.trans h₂.instructions⟩

theorem of_symbols_eq (h : first.symbols.Consistent) (hsymbols : second.symbols = first.symbols)
    (hinstructions : first.instructions <+: second.instructions) : first.Grows second := by
  refine ⟨hsymbols ▸ h, ?_, hinstructions⟩
  rw [hsymbols]
  exact .refl _

theorem of_allocate (h : first.symbols.Consistent) {storage : Storage} (hstorage : storage ≠ .named)
    (hsymbols : second.symbols = (first.symbols.allocate storage).2)
    (hinstructions : first.instructions <+: second.instructions) : first.Grows second := by
  refine ⟨hsymbols ▸ h.allocate storage, ?_, hinstructions⟩
  rw [hsymbols]
  exact h.extends_allocate hstorage

theorem of_start (hsymbols : second.symbols = first.symbols)
    (hinstructions : second.instructions = first.instructions) (h : second.Grows third) :
    first.Grows third :=
  ⟨h.consistent, hsymbols ▸ h.symbols, hinstructions ▸ h.instructions⟩

theorem of_announced {k : Knowledge} {function header : String} {span : Span}
    (h : ((k.announce function span first).require header).Grows second) : first.Grows second :=
  h.of_start (by simp) (by simp)

theorem of_prepared {k : Knowledge} {function : String} {span : Span} {routine : Routine}
    (h : (routine.prepare (k.announce function span first)).Grows second) : first.Grows second :=
  h.of_start (by simp) (by simp)

theorem box (h : first.symbols.Consistent) (mode : ArgumentMode) (boxing : Boxing) :
    first.Grows (first.box mode boxing).2 :=
  of_allocate h mode.storage_ne_named (by simp) (by simp [List.append_assoc])

theorem allocate (h : first.symbols.Consistent) :
    first.Grows (first.allocate .heapTemporary).2 :=
  of_allocate h (show Storage.heapTemporary ≠ .named by decide) (by simp) (by simp)

theorem deliver (h : first.symbols.Consistent) (routine : Routine) (function : String)
    (arguments : List Operand) (destination : Destination) :
    first.Grows (first.deliver routine function arguments destination) :=
  of_symbols_eq h (by simp) (by simp [List.append_assoc])

theorem discard (h : first.symbols.Consistent) (routine : Routine) (function : String)
    (arguments : List Operand) : first.Grows (first.discard routine function arguments) :=
  of_symbols_eq h (by simp) (by simp)

end Context.Grows

theorem Context.Grows.deliverFresh {ctx : Context} (h : ctx.symbols.Consistent)
    (routine : Routine) (function : String) (arguments : List Operand) :
    ctx.Grows
      ((ctx.allocate .heapTemporary).2.deliver routine function arguments ctx.fresh) :=
  (Context.Grows.allocate h).trans (.deliver (Context.Grows.allocate h).consistent _ _ _ _)

section Emits

variable {α : Type} {matters : Instruction → Bool} {Stands : α → Instruction → Prop}

def Context.Emits (matters : Instruction → Bool) (Stands : α → Instruction → Prop)
    (items : List α) (before after : Context) : Prop :=
  ∃ emitted, after.instructions.filter matters = before.instructions.filter matters ++ emitted ∧
    List.Forall₂ Stands items emitted

namespace Context.Emits

variable {items later : List α} {first second third : Context}

theorem of_block {block : List Instruction}
    (hblock : second.instructions = first.instructions ++ block)
    (h : List.Forall₂ Stands items (block.filter matters)) :
    Emits matters Stands items first second :=
  ⟨block.filter matters, by rw [hblock, List.filter_append], h⟩

theorem trans (h₁ : Emits matters Stands items first second)
    (h₂ : Emits matters Stands later second third) :
    Emits matters Stands (items ++ later) first third := by
  obtain ⟨emitted, hemitted, hitems⟩ := h₁
  obtain ⟨others, hothers, hlater⟩ := h₂
  refine ⟨emitted ++ others, ?_, List.rel_append hitems hlater⟩
  rw [hothers, hemitted, List.append_assoc]

theorem of_start (hsame : second.instructions = first.instructions)
    (h : Emits matters Stands items second third) : Emits matters Stands items first third := by
  obtain ⟨emitted, hemitted, hitems⟩ := h
  exact ⟨emitted, hsame ▸ hemitted, hitems⟩

theorem of_end (hsame : third.instructions.filter matters = second.instructions.filter matters)
    (h : Emits matters Stands items first second) : Emits matters Stands items first third := by
  obtain ⟨emitted, hemitted, hitems⟩ := h
  exact ⟨emitted, hsame.trans hemitted, hitems⟩

end Context.Emits

end Emits

theorem Boxes.grows {k : Knowledge} {arguments : List Expression} {mode : ArgumentMode}
    {ctx ctx' : Context} {operands : List Operand} (h : Boxes k arguments mode ctx operands ctx') :
    ctx.Grows ctx' := by
  induction h with
  | nil hconsistent => exact .refl hconsistent
  | store hconsistent _ _ ih => exact (Context.Grows.box hconsistent _ _).trans ih
  | pass _ _ _ _ ih => exact ih
  | condition _ _ _ _ iharguments ihrest =>
    have harguments := iharguments.of_announced
    exact (harguments.trans (.box harguments.consistent _ _)).trans ihrest
  | routine _ _ _ _ iharguments ihrest =>
    have harguments := iharguments.of_prepared
    exact (harguments.trans (.deliverFresh harguments.consistent _ _ _)).trans ihrest

theorem Binds.grows {call : Call} {demand : Demand} {ctx ctx' : Context}
    {destination : Destination} (h : Binds call demand ctx destination ctx')
    (hconsistent : ctx.symbols.Consistent) : ctx.Grows ctx' := by
  cases h with
  | anywhere => exact .allocate hconsistent
  | apart _ _ => exact .allocate hconsistent
  | reused _ _ => exact .refl hconsistent

theorem Compiles.grows {k : Knowledge} {call : Call} {demand : Demand} {ctx ctx' : Context}
    {result : Compiled} (h : Compiles k call demand ctx result ctx') : ctx.Grows ctx' := by
  cases h with
  | condition _ harguments => exact harguments.grows.of_announced
  | @discarded mode _ _ _ _ harguments =>
    have hgrows : ctx.Grows _ := harguments.grows.of_start (by simp) (by simp)
    exact hgrows.trans (.discard hgrows.consistent _ _ _)
  | delivered _ harguments hdestination _ =>
    have hgrows := harguments.grows.of_prepared
    have hbound := hdestination.grows hgrows.consistent
    exact (hgrows.trans hbound).trans (.deliver hbound.consistent _ _ _ _)

end BoxedCalls
