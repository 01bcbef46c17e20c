import BoxedCalls.Compile.Unit
import BoxedCalls.Proofs.Compile.Lowering
import BoxedCalls.Proofs.Text.Lowercase

namespace BoxedCalls

open CompileM

def ErrorCause.countsArguments : ErrorCause → Bool
  | insufficientArguments _ => true
  | _ => false

structure CompileM.Contextual (P : ∀ {α : Type}, CompileM α → Prop) : Prop where
  pure : ∀ {α : Type} (a : α), P (Pure.pure a : CompileM α)
  fail : ∀ {α : Type} (cause : ErrorCause) (span : Span), cause.countsArguments = false →
    P (fail cause span : CompileM α)
  bind : ∀ {α β : Type} {x : CompileM α} {f : α → CompileM β}, P x → (∀ a, P (f a)) → P (x >>= f)
  emit : ∀ instruction, P (emit instruction)
  require : ∀ header, P (require header)
  allocate : ∀ {storage}, storage ≠ .named → P (allocate storage)
  lookup : ∀ name span, P (lookup name span)

namespace CompileM.Contextual

variable {P : ∀ {α : Type}, CompileM α → Prop} (h : Contextual P)
include h

theorem allocateFresh : P (CompileM.allocate .heapTemporary) :=
  h.allocate nofun

theorem checkBoxed (destination : Destination) (span : Span) :
    P (checkBoxed destination span) := by
  unfold BoxedCalls.checkBoxed
  split
  · exact h.pure ()
  · exact h.fail _ span rfl

theorem openDestination (destination : Destination) : P (openDestination destination) := by
  unfold BoxedCalls.openDestination
  split
  · exact h.bind (h.emit _) fun _ => h.pure _
  · exact h.pure _

theorem chooseDestination (call : Call) (demand : Demand) : P (chooseDestination call demand) := by
  cases demand with
  | nothing => exact h.pure none
  | anywhere => exact h.bind h.allocateFresh fun _ => h.pure _
  | inVariable name =>
    refine h.bind (h.lookup name call.span) fun v => ?_
    split
    · exact h.bind h.allocateFresh fun _ => h.pure _
    · exact h.pure _

theorem storeArgument (mode : ArgumentMode) (store : Operand → Instruction) :
    P (storeArgument mode store) := by
  have hstorage : mode.storage ≠ .named := by cases mode <;> nofun
  exact h.bind (h.allocate hstorage) fun _ => h.bind (h.emit _) fun _ => h.pure _

theorem boxVariable (v : Variable) (span : Span) (mode : ArgumentMode) :
    P (boxVariable v span mode) := by
  unfold BoxedCalls.boxVariable
  split <;> first | exact h.pure _ | exact h.storeArgument mode _ | exact h.fail _ span rfl

theorem boxArgument (argument : Compiled) (span : Span) (mode : ArgumentMode) :
    P (boxArgument argument span mode) := by
  unfold BoxedCalls.boxArgument
  split <;>
    first
      | exact h.storeArgument mode _
      | exact h.bind (h.lookup _ span) fun v => h.boxVariable v span mode
      | exact h.fail _ span rfl

theorem emitCall (function : String) (arguments : List Operand)
    (destination : Option Destination) (span : Span) :
    P (emitCall function arguments destination span) := by
  cases destination with
  | none => exact h.bind (h.require _) fun _ => h.bind (h.emit _) fun _ => h.pure _
  | some destination =>
    exact h.bind (h.checkBoxed destination span) fun _ => h.bind (h.require _) fun _ =>
      h.bind (h.openDestination destination) fun _ => h.bind (h.emit _) fun _ => h.pure _

theorem copyResult (target : Operand) (source : Code) : P (copyResult target source) := by
  unfold BoxedCalls.copyResult
  split
  · exact h.pure ()
  · exact h.emit _

theorem assignScalar (target : Operand) (isRead : Bool) (value : Compiled) :
    P (assignScalar target isRead value) := by
  unfold BoxedCalls.assignScalar
  split
  · exact h.bind h.allocateFresh fun _ => h.bind (h.emit _) fun _ => h.emit _
  · exact h.bind (h.emit _) fun _ => h.emit _

theorem compileOptimized (call : Call) (demand : Demand)
    {box : ArgumentMode → CompileM (List Operand)} (hbox : ∀ mode, P (box mode))
    (hdecline : P (modifyCompiler Compiler.afterDeclining)) (optimizer : Optimizer) :
    P (optimizer.compile call demand box) := by
  cases optimizer with
  | fixed result => exact h.pure _
  | declining => exact h.bind hdecline fun _ => h.pure none
  | booleanHelper contract =>
    rw [Optimizer.compile, compileBooleanHelper]
    split
    · exact h.pure none
    · exact h.bind (h.require _) fun _ => h.bind (hbox .lent) fun _ => h.pure _
  | boxedHelper contract =>
    rw [Optimizer.compile, compileBoxedHelper]
    split
    · exact h.pure none
    · refine h.bind (h.require _) fun _ => h.bind (hbox .lent) fun arguments =>
        h.bind (h.chooseDestination call demand) fun destination => ?_
      cases destination with
      | none => exact h.pure none
      | some destination =>
        exact h.bind (h.checkBoxed destination call.span) fun _ =>
          h.bind (h.openDestination destination) fun _ => h.bind (h.emit _) fun _ => h.pure _

end CompileM.Contextual

/-- What holds of the other actions as well. `Tells` is what may be relied on once a compiler has
said whether it knows a function. Only of a function that it knows is it asked whether the arguments
may be lent. -/
structure CompileM.Compositional (Tells : String → Bool → Prop)
    (P : ∀ {α : Type}, CompileM α → Prop) : Prop extends Contextual P where
  warn : ∀ warning, P (warn warning)
  knows : ∀ {β : Type} (name : String) {f : Bool → CompileM β},
    (∀ known, Tells name known → P (f known)) → P (knows name >>= f)
  resolveOptimizer : ∀ name, P (resolveOptimizer name)
  decline : P (modifyCompiler Compiler.afterDeclining)
  isReadOnly : ∀ {name} count span, Text.lowercase name = name → Tells name true →
    P (isReadOnly name count span)

namespace CompileM.Compositional

variable {Tells : String → Bool → Prop} {P : ∀ {α : Type}, CompileM α → Prop}
  (h : Compositional Tells P)
include h

section Calls

variable (call : Call) (demand : Demand) {box : ArgumentMode → CompileM (List Operand)}
  (hbox : ∀ mode, P (box mode))
include hbox

theorem compileOptimized (optimizer : Optimizer) : P (optimizer.compile call demand box) :=
  h.toContextual.compileOptimized call demand hbox h.decline optimizer

theorem optimize (function : String) : P (optimize function call demand box) := by
  refine h.bind (h.resolveOptimizer function) fun outcome => ?_
  cases outcome with
  | none => exact h.pure none
  | some optimizer => exact h.compileOptimized call demand hbox optimizer

theorem askAndCall {known : Bool} (htells : Tells (Text.lowercase call.function) known) :
    P (Knowledge.askAndCall call demand box known) := by
  have hnamed : ∀ readOnly : Bool, P (do
      let arguments ← box (if readOnly then .lent else .owned)
      let destination ← BoxedCalls.chooseDestination call demand
      BoxedCalls.emitCall (Text.lowercase call.function) arguments destination call.span) :=
    fun _ => h.bind (hbox _) fun _ => h.bind (h.chooseDestination call demand) fun _ =>
      h.emitCall _ _ _ _
  cases known with
  | true => exact h.bind (h.isReadOnly _ _ (Text.lowercase_lowercase _) htells) hnamed
  | false => exact hnamed false

theorem compileCallWith : P (compileCallWith call demand box) := by
  have hcall : ∀ known, Tells (Text.lowercase call.function) known →
      P (BoxedCalls.optimize (Text.lowercase call.function) call demand box >>=
        Knowledge.valueOr (Knowledge.askAndCall call demand box known)) := by
    intro known htells
    refine h.bind (h.optimize call demand hbox _) fun outcome => ?_
    cases outcome with
    | none => exact h.askAndCall call demand hbox htells
    | some result => exact h.pure result
  refine h.knows _ fun known htells => ?_
  cases known with
  | true => exact hcall true htells
  | false => exact h.bind (h.warn _) fun _ => hcall false htells

end Calls

mutual

theorem compileExpression (expression : Expression) : P (compileExpression expression) := by
  cases expression with
  | literal value span => exact h.pure _
  | var name span => exact h.pure _
  | call function arguments span =>
    exact h.compileCallWith ⟨function, arguments, span⟩ .anywhere (boxArguments arguments)

theorem boxArguments (arguments : List Expression) (mode : ArgumentMode) :
    P (boxArguments arguments mode) := by
  cases arguments with
  | nil => exact h.pure []
  | cons argument rest =>
    exact h.bind (compileExpression argument) fun compiled =>
      h.bind (h.boxArgument compiled argument.span mode) fun _ =>
        h.bind (boxArguments rest mode) fun _ => h.pure _

end

theorem compileCall (call : Call) (demand : Demand) : P (compileCall call demand) :=
  h.compileCallWith call demand (h.boxArguments call.arguments)

theorem compileStatement (statement : Statement) : P (compileStatement statement) := by
  cases statement with
  | call call => exact h.bind (h.compileCall call .nothing) fun _ => h.pure ()
  | assign name call =>
    refine h.bind (h.compileCall call (.inVariable name)) fun value =>
      h.bind (h.lookup name call.span) fun v =>
        h.bind (h.checkBoxed ⟨v, false⟩ call.span) fun _ => ?_
    split
    · exact h.copyResult _ _
    · exact h.assignScalar _ _ value

theorem compileStatements (statements : List Statement) : P (compileStatements statements) := by
  induction statements with
  | nil => exact h.pure ()
  | cons statement rest ih => exact h.bind (h.compileStatement statement) fun _ => ih

end CompileM.Compositional

end BoxedCalls
