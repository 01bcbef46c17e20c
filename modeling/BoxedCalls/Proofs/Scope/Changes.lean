import Mathlib.Logic.Relation
import BoxedCalls.Proofs.Diagnostics.Warnings
import BoxedCalls.Proofs.Scope.Context

namespace BoxedCalls

open CompileM

theorem SymbolTable.mem_of_find? {table : SymbolTable} {name : String} {v : Variable}
    (h : table.find? name = some v) : v ∈ table.entries := by
  obtain ⟨position, _, hentry⟩ := Option.bind_eq_some_iff.mp h
  exact List.mem_of_getElem? hentry

theorem SymbolTable.mem_allocate {table : SymbolTable} {storage : Storage} {v : Variable}
    (h : v ∈ (table.allocate storage).2.entries) :
    v ∈ table.entries ∨ v = (table.allocate storage).1 := by
  change v ∈ (table.insert (table.allocate storage).1).entries at h
  unfold SymbolTable.insert at h
  split at h
  · exact List.mem_or_eq_of_mem_set h
  · simpa using h

structure Context.Names (p : String → Prop) (ctx : Context) : Prop where
  temporaries : ∀ number, p (temporaryName number)
  entries : ∀ v ∈ ctx.symbols.entries, p v.name

def Operand.Names (p : String → Prop) : Operand → Prop
  | var name => p name
  | addressOf name => p name
  | verbatim _ => False

def Instruction.CallsAmong (calls : List Call) (p : String → Prop) : Instruction → Prop
  | callFunction function destination arguments =>
      (∃ call ∈ calls, Text.lowercase call.function = function) ∧
        ∀ operand ∈ destination.toList ++ arguments, operand.Names p
  | _ => True

theorem Operand.names_handle {p : String → Prop} {v : Variable} (h : p v.name) :
    v.handle.Names p := by
  obtain ⟨name, storage, type⟩ := v
  cases storage <;> exact h

theorem callsAmong_storeScalar {calls : List Call} {p : String → Prop} (target : Operand)
    (value : Compiled) : (storeScalar target value).CallsAmong calls p := by
  obtain ⟨kind, code, span⟩ := value
  cases kind <;> trivial

inductive Context.Change (calls : List Call) (p : String → Prop) : Context → Context → Prop where
  | emit {ctx} {instruction : Instruction} (hcalls : instruction.CallsAmong calls p) :
      Change calls p ctx (ctx.emit instruction)
  | warn {ctx} (warning : Warning) : Change calls p ctx (ctx.warn warning)
  | require {ctx} (header : String) : Change calls p ctx (ctx.require header)
  | allocate {ctx} {storage : Storage} (hstorage : storage ≠ .named) :
      Change calls p ctx (ctx.allocate storage).2

def Context.Changes (calls : List Call) (p : String → Prop) : Context → Context → Prop :=
  Relation.ReflTransGen (Context.Change calls p)

namespace Context.Changes

variable {calls : List Call} {p : String → Prop} {ctx ctx' : Context}

theorem names (h : Changes calls p ctx ctx') (hnames : ctx.Names p) : ctx'.Names p := by
  refine ⟨hnames.temporaries, ?_⟩
  induction h with
  | refl => exact hnames.entries
  | tail _ hchange ih =>
    cases hchange with
    | emit hcalls => exact ih
    | warn warning => exact ih
    | require header => exact ih
    | allocate hstorage =>
      intro v hmem
      rw [allocate_symbols] at hmem
      rcases SymbolTable.mem_allocate hmem with hold | rfl
      · exact ih v hold
      · exact hnames.temporaries _

theorem instructions (h : Changes calls p ctx ctx') :
    ∀ instruction ∈ ctx'.instructions,
      instruction ∈ ctx.instructions ∨ instruction.CallsAmong calls p := by
  induction h with
  | refl => exact fun _ => .inl
  | tail _ hchange ih =>
    cases hchange with
    | warn warning => exact ih
    | require header => exact ih
    | emit hcalls =>
      intro instruction hmem
      rcases List.mem_append.mp hmem with hold | hnew
      · exact ih instruction hold
      · rw [List.mem_singleton.mp hnew]
        exact .inr hcalls
    | allocate hstorage =>
      intro instruction hmem
      rw [allocate_instructions] at hmem
      rcases List.mem_append.mp hmem with hold | hnew
      · exact ih instruction hold
      · right
        unfold Variable.initialization at hnew
        split at hnew
        · rw [List.mem_singleton.mp hnew]
          trivial
        · cases hnew

end Context.Changes

inductive Context.LeadsTo (calls : List Call) (p : String → Prop) (before : Context) {α : Type}
    (P : α → Prop) : EStateM.Result CompileError Workspace α → Prop where
  | ok {a w} (hresult : P a) (hchanges : Changes calls p before w.context) :
      LeadsTo calls p before P (.ok a w)
  | error {error w} (hchanges : Changes calls p before w.context) :
      LeadsTo calls p before P (.error error w)

section Rules

variable {calls : List Call} {p : String → Prop} {α β : Type} {P : α → Prop} {Q : β → Prop}

theorem Context.LeadsTo.of_changes {before middle : Context}
    {result : EStateM.Result CompileError Workspace α} (hchanges : Changes calls p before middle)
    (h : LeadsTo calls p middle P result) : LeadsTo calls p before P result := by
  cases h with
  | ok hresult hrest => exact .ok hresult (hchanges.trans hrest)
  | error hrest => exact .error (hchanges.trans hrest)

theorem Knowledge.announce_changes (k : Knowledge) (function : String) (span : Span)
    (ctx : Context) : ctx.Changes calls p (k.announce function span ctx) := by
  unfold announce
  split
  · exact .refl
  · exact .single (.warn _)

variable (calls p P) in
def CompileM.Builds (x : CompileM α) : Prop :=
  ∀ w : Workspace, w.context.Names p → w.context.LeadsTo calls p P (x w)

end Rules

namespace CompileM.Builds

variable {calls : List Call} {p : String → Prop} {α β : Type} {P : α → Prop} {Q : β → Prop}

theorem pure {a : α} (h : P a) : Builds calls p P (Pure.pure a) :=
  fun _ _ => .ok h .refl

theorem fail (cause : ErrorCause) (span : Span) : Builds calls p P (CompileM.fail cause span) :=
  fun _ _ => .error .refl

theorem bind {x : CompileM α} {f : α → CompileM β} (hx : Builds calls p P x)
    (hf : ∀ a, P a → Builds calls p Q (f a)) : Builds calls p Q (x >>= f) := by
  intro w hnames
  have hfirst := hx w hnames
  rw [bind_run]
  generalize x w = result at hfirst ⊢
  cases hfirst with
  | ok hresult hchanges => exact (hf _ hresult _ (hchanges.names hnames)).of_changes hchanges
  | error hchanges => exact .error hchanges

theorem emit {instruction : Instruction} (h : instruction.CallsAmong calls p) :
    Builds calls p (fun _ => True) (emit instruction) :=
  fun _ _ => .ok trivial (.single (.emit h))

theorem require (header : String) : Builds calls p (fun _ => True) (require header) :=
  fun _ _ => .ok trivial (.single (.require header))

theorem modifyCompiler (change : Compiler → Compiler) :
    Builds calls p (fun _ => True) (modifyCompiler change) :=
  fun _ _ => .ok trivial .refl

theorem resolveOptimizer (name : String) : Builds calls p (fun _ => True) (resolveOptimizer name) :=
  fun _ _ => .ok trivial .refl

theorem allocate {storage : Storage} (h : storage ≠ .named) :
    Builds calls p (fun v => p v.name) (allocate storage) := by
  intro w hnames
  have hname : p (w.context.allocate storage).1.name := by
    rw [Context.allocate_variable]
    exact hnames.temporaries _
  exact .ok hname (.single (.allocate h))

theorem allocateFresh : Builds calls p (fun v => p v.name) (CompileM.allocate .heapTemporary) :=
  allocate nofun

theorem lookup (name : String) (span : Span) :
    Builds calls p (fun v => p v.name) (lookup name span) := by
  intro w hnames
  unfold CompileM.lookup
  cases hlookup : w.context.lookup name span with
  | ok v =>
    have hfind := (Context.lookup_eq_ok_iff w.context).mp hlookup
    exact .ok (hnames.entries v (SymbolTable.mem_of_find? hfind)) .refl
  | error error => exact .error .refl

theorem isReadOnly (name : String) (count : Nat) (span : Span) :
    Builds calls p (fun _ => True) (isReadOnly name count span) := by
  intro w _
  unfold CompileM.isReadOnly
  simp only
  split
  · exact .ok trivial .refl
  · exact .error .refl

theorem checkBoxed (destination : Destination) (span : Span) :
    Builds calls p (fun _ => True) (checkBoxed destination span) := by
  unfold BoxedCalls.checkBoxed
  split
  · exact pure trivial
  · exact fail _ span

theorem openDestination {destination : Destination} (h : p destination.target.name) :
    Builds calls p (Operand.Names p) (openDestination destination) := by
  unfold BoxedCalls.openDestination
  split
  · exact (emit (by trivial)).bind fun _ _ => pure h
  · exact pure h

theorem chooseDestination (call : Call) (demand : Demand) :
    Builds calls p (fun choice => ∀ destination : Destination, choice = some destination →
      p destination.target.name) (chooseDestination call demand) := by
  have hfresh : Builds calls p
      (fun choice => ∀ destination : Destination, choice = some destination →
        p destination.target.name)
      (do return some (Destination.mk (← CompileM.allocate .heapTemporary) false)) :=
    allocateFresh.bind fun v hv => pure (by simpa using hv)
  cases demand with
  | nothing => exact pure (by simp)
  | anywhere => exact hfresh
  | inVariable name =>
    refine (lookup name call.span).bind fun v hv => ?_
    split
    · exact hfresh
    · exact pure (by simpa using hv)

theorem storeArgument (mode : ArgumentMode) {store : Operand → Instruction}
    (hstore : ∀ target, (store target).CallsAmong calls p) :
    Builds calls p (Operand.Names p) (storeArgument mode store) :=
  (allocate mode.storage_ne_named).bind fun v hv =>
    (emit (hstore v.handle)).bind fun _ _ => pure (Operand.names_handle hv)

theorem boxVariable {v : Variable} (hv : p v.name) (span : Span) (mode : ArgumentMode) :
    Builds calls p (Operand.Names p) (boxVariable v span mode) := by
  unfold BoxedCalls.boxVariable
  split <;>
    first
      | exact pure (Operand.names_handle hv)
      | exact storeArgument mode fun _ => trivial
      | exact fail _ span

theorem boxArgument (argument : Compiled) (span : Span) (mode : ArgumentMode) :
    Builds calls p (Operand.Names p) (boxArgument argument span mode) := by
  unfold BoxedCalls.boxArgument
  split <;>
    first
      | exact storeArgument mode fun _ => trivial
      | exact (lookup _ span).bind fun v hv => boxVariable hv span mode
      | exact fail _ span

section Calls

variable {call : Call} (hcall : call ∈ calls)
include hcall

theorem emitCall {arguments : List Operand} {choice : Option Destination}
    (harguments : ∀ operand ∈ arguments, operand.Names p)
    (hchoice : ∀ destination, choice = some destination → p destination.target.name) :
    Builds calls p (fun _ => True)
      (emitCall (Text.lowercase call.function) arguments choice call.span) := by
  have hnamed : ∀ destination : Option Operand,
      (∀ operand ∈ destination.toList, operand.Names p) →
        (Instruction.callFunction (Text.lowercase call.function) destination
          arguments).CallsAmong calls p := by
    intro destination hdestination
    exact ⟨⟨call, hcall, rfl⟩, List.forall_mem_append.mpr ⟨hdestination, harguments⟩⟩
  cases choice with
  | none =>
    exact (require _).bind fun _ _ => (emit (hnamed none (by simp))).bind fun _ _ => pure trivial
  | some destination =>
    exact (checkBoxed destination call.span).bind fun _ _ => (require _).bind fun _ _ =>
      (openDestination (hchoice destination rfl)).bind fun target htarget =>
        (emit (hnamed (some target) (by simpa using htarget))).bind fun _ _ => pure trivial

variable (demand : Demand) {box : ArgumentMode → CompileM (List Operand)}
  (hbox : ∀ mode,
    Builds calls p (fun operands => ∀ operand ∈ operands, operand.Names p) (box mode))
include hbox

omit hcall in
theorem compileOptimized (optimizer : Optimizer) :
    Builds calls p (fun _ => True) (optimizer.compile call demand box) := by
  cases optimizer with
  | fixed result => exact pure trivial
  | declining => exact (modifyCompiler _).bind fun _ _ => pure trivial
  | booleanHelper contract =>
    rw [Optimizer.compile, compileBooleanHelper]
    split
    · exact pure trivial
    · exact (require _).bind fun _ _ => (hbox .lent).bind fun _ _ => pure trivial
  | boxedHelper contract =>
    rw [Optimizer.compile, compileBoxedHelper]
    split
    · exact pure trivial
    · refine (require _).bind fun _ _ => (hbox .lent).bind fun _ _ =>
        (chooseDestination call demand).bind fun choice hchoice => ?_
      cases choice with
      | none => exact pure trivial
      | some destination =>
        exact (checkBoxed destination call.span).bind fun _ _ =>
          (openDestination (hchoice destination rfl)).bind fun _ _ =>
            (emit (by trivial)).bind fun _ _ => pure trivial

omit hcall in
theorem optimize (function : String) :
    Builds calls p (fun _ => True) (optimize function call demand box) := by
  refine (resolveOptimizer function).bind fun outcome _ => ?_
  cases outcome with
  | none => exact pure trivial
  | some optimizer => exact compileOptimized demand hbox optimizer

theorem askAndCall (known : Bool) :
    Builds calls p (fun _ => True) (Knowledge.askAndCall call demand box known) := by
  have hnamed : ∀ readOnly : Bool, Builds calls p (fun _ => True) (do
      let arguments ← box (if readOnly then .lent else .owned)
      let destination ← BoxedCalls.chooseDestination call demand
      BoxedCalls.emitCall (Text.lowercase call.function) arguments destination call.span) :=
    fun _ => (hbox _).bind fun _ harguments =>
      (chooseDestination call demand).bind fun _ hchoice => emitCall hcall harguments hchoice
  cases known with
  | true => exact (isReadOnly _ _ _).bind fun readOnly _ => hnamed readOnly
  | false => exact hnamed false

theorem compileCallWith :
    Builds calls p (fun _ => True) (compileCallWith call demand box) := by
  intro w hnames
  rw [Knowledge.compileCallWith_announced]
  have hrest : Builds calls p (fun _ => True)
      (BoxedCalls.optimize (Text.lowercase call.function) call demand box >>=
        Knowledge.valueOr (Knowledge.askAndCall call demand box
          (w.compiler.knowledge.known (Text.lowercase call.function)))) := by
    refine (optimize demand hbox _).bind fun outcome _ => ?_
    cases outcome with
    | none => exact askAndCall hcall demand hbox _
    | some result => exact pure trivial
  have hannounced : w.context.Changes calls p
      (w.compiler.knowledge.announce (Text.lowercase call.function) call.span w.context) :=
    Knowledge.announce_changes _ _ _ _
  exact (hrest ⟨w.compiler, _⟩ (hannounced.names hnames)).of_changes hannounced

end Calls

mutual

theorem compileExpression (expression : Expression)
    (hcalls : expression.callsInPreorder ⊆ calls) :
    Builds calls p (fun _ => True) (compileExpression expression) := by
  cases expression with
  | literal value span => exact pure trivial
  | var name span => exact pure trivial
  | call function arguments span =>
    obtain ⟨hroot, hinner⟩ := List.cons_subset.mp hcalls
    exact compileCallWith hroot .anywhere (boxArguments arguments hinner)

theorem boxArguments (arguments : List Expression)
    (hcalls : Expression.allCallsInPreorder arguments ⊆ calls) (mode : ArgumentMode) :
    Builds calls p (fun operands => ∀ operand ∈ operands, operand.Names p)
      (boxArguments arguments mode) := by
  cases arguments with
  | nil => exact pure (by simp)
  | cons argument rest =>
    obtain ⟨hfirst, hrest⟩ := List.append_subset.mp hcalls
    refine (compileExpression argument hfirst).bind fun compiled _ =>
      (boxArgument compiled argument.span mode).bind fun operand hoperand =>
        (boxArguments rest hrest mode).bind fun operands hoperands => pure ?_
    exact List.forall_mem_cons.mpr ⟨hoperand, hoperands⟩

end

theorem compileCall (call : Call) (hcalls : call.callsInPreorder ⊆ calls) (demand : Demand) :
    Builds calls p (fun _ => True) (compileCall call demand) := by
  obtain ⟨hroot, hinner⟩ := List.cons_subset.mp hcalls
  exact compileCallWith hroot demand (boxArguments call.arguments hinner)

theorem copyResult (target : Operand) (source : Code) :
    Builds calls p (fun _ => True) (copyResult target source) := by
  unfold BoxedCalls.copyResult
  split
  · exact pure trivial
  · exact emit (by trivial)

theorem assignScalar (target : Operand) (isRead : Bool) (value : Compiled) :
    Builds calls p (fun _ => True) (assignScalar target isRead value) := by
  unfold BoxedCalls.assignScalar
  split
  · exact allocateFresh.bind fun _ _ => (emit (callsAmong_storeScalar _ value)).bind fun _ _ =>
      emit (by trivial)
  · exact (emit (by trivial)).bind fun _ _ => emit (callsAmong_storeScalar target value)

theorem compileStatement {statement : Statement}
    (hcalls : statement.rootCall.callsInPreorder ⊆ calls) :
    Builds calls p (fun _ => True) (compileStatement statement) := by
  cases statement with
  | call call => exact (compileCall call hcalls .nothing).bind fun _ _ => pure trivial
  | assign name call =>
    refine (compileCall call hcalls (.inVariable name)).bind fun value _ =>
      (lookup name call.span).bind fun v _ =>
        (checkBoxed ⟨v, false⟩ call.span).bind fun _ _ => ?_
    split
    · exact copyResult _ _
    · exact assignScalar _ _ value

theorem compileStatements (statements : List Statement)
    (hcalls : (statements.flatMap fun statement => statement.rootCall.callsInPreorder) ⊆ calls) :
    Builds calls p (fun _ => True) (compileStatements statements) := by
  induction statements with
  | nil => exact pure trivial
  | cons statement rest ih =>
    obtain ⟨hfirst, hrest⟩ := List.append_subset.mp hcalls
    exact (compileStatement hfirst).bind fun _ _ => ih hrest

end CompileM.Builds

end BoxedCalls
