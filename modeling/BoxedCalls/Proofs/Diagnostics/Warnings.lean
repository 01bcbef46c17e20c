import BoxedCalls.Proofs.Compile.Actions
import BoxedCalls.Proofs.Compile.Builtins
import BoxedCalls.Proofs.Compile.Statements

namespace BoxedCalls

open CompileM

mutual

def Expression.callsInPreorder : Expression → List Call
  | .literal _ _ => []
  | .var _ _ => []
  | .call function arguments span =>
      ⟨function, arguments, span⟩ :: allCallsInPreorder arguments

def Expression.allCallsInPreorder : List Expression → List Call
  | [] => []
  | argument :: rest => argument.callsInPreorder ++ allCallsInPreorder rest

end

def Call.callsInPreorder (call : Call) : List Call :=
  call :: Expression.allCallsInPreorder call.arguments

def Statement.rootCall : Statement → Call
  | .call c => c
  | .assign _ c => c

def Knowledge.unknownWarnings (k : Knowledge) (calls : List Call) : List Warning :=
  (calls.filter fun call => !k.known (Text.lowercase call.function)).map fun call =>
    .unknownFunction (Text.lowercase call.function) call.span

theorem Knowledge.unknownWarnings_append (k : Knowledge) (first second : List Call) :
    k.unknownWarnings (first ++ second) = k.unknownWarnings first ++ k.unknownWarnings second := by
  simp [unknownWarnings]

theorem Knowledge.announce_warnings (k : Knowledge) (call : Call) (ctx : Context) :
    (k.announce (Text.lowercase call.function) call.span ctx).warnings =
      ctx.warnings ++ k.unknownWarnings [call] := by
  unfold announce unknownWarnings
  cases hknown : k.known (Text.lowercase call.function) with
  | true => simp [hknown]
  | false => simp [hknown, Context.warn]

inductive Warned (k : Knowledge) (before warnings : List Warning) {α : Type} :
    EStateM.Result CompileError Workspace α → Prop where
  | ok {a w} (hknowledge : w.compiler.knowledge = k)
      (hwarnings : w.context.warnings = before ++ warnings) : Warned k before warnings (.ok a w)
  | error {error w given} (hgiven : given <+: warnings)
      (hwarnings : w.context.warnings = before ++ given) :
      Warned k before warnings (.error error w)

theorem Warned.of_announced {k : Knowledge} {before first second : List Warning} {α : Type}
    {result : EStateM.Result CompileError Workspace α}
    (h : Warned k (before ++ first) second result) : Warned k before (first ++ second) result := by
  cases h with
  | ok hknowledge hwarnings => exact .ok hknowledge (by rw [hwarnings, List.append_assoc])
  | error hgiven hwarnings =>
    exact .error ((List.prefix_append_right_inj first).mpr hgiven)
      (by rw [hwarnings, List.append_assoc])

def CompileM.Warns (k : Knowledge) (warnings : List Warning) {α : Type} (x : CompileM α) : Prop :=
  ∀ w : Workspace, w.compiler.knowledge = k → Warned k w.context.warnings warnings (x w)

namespace CompileM.Warns

variable {k : Knowledge} {first second : List Warning} {α β : Type}

theorem pure (a : α) : Warns k [] (Pure.pure a : CompileM α) :=
  fun _ hknowledge => .ok hknowledge (List.append_nil _).symm

theorem fail (warnings : List Warning) (cause : ErrorCause) (span : Span) :
    Warns k warnings (CompileM.fail cause span : CompileM α) :=
  fun _ _ => .error warnings.nil_prefix (List.append_nil _).symm

theorem bind {x : CompileM α} {f : α → CompileM β} (hx : Warns k first x)
    (hf : ∀ a, Warns k second (f a)) : Warns k (first ++ second) (x >>= f) := by
  intro w hknowledge
  rw [bind_run]
  have hfirst := hx w hknowledge
  generalize x w = result at hfirst ⊢
  cases hfirst with
  | @ok a w' hknowledge hwarnings =>
    have hsecond := hf a w' hknowledge
    rw [hwarnings] at hsecond
    exact hsecond.of_announced
  | error hgiven hwarnings => exact .error (hgiven.trans (List.prefix_append _ _)) hwarnings

theorem bind_quiet {x : CompileM α} {f : α → CompileM β} (hx : Warns k first x)
    (hf : ∀ a, Warns k [] (f a)) : Warns k first (x >>= f) := by
  rw [← List.append_nil first]
  exact hx.bind hf

theorem quiet_bind {x : CompileM α} {f : α → CompileM β} (hx : Warns k [] x)
    (hf : ∀ a, Warns k second (f a)) : Warns k second (x >>= f) :=
  hx.bind hf

theorem modifyContext {change : Context → Context}
    (h : ∀ ctx, (change ctx).warnings = ctx.warnings) : Warns k [] (modifyContext change) := by
  intro w hknowledge
  refine .ok hknowledge ?_
  rw [List.append_nil]
  exact h w.context

theorem emit (instruction : Instruction) : Warns k [] (emit instruction) :=
  modifyContext fun _ => rfl

theorem require (header : String) : Warns k [] (require header) :=
  modifyContext fun _ => rfl

theorem allocate (storage : Storage) : Warns k [] (allocate storage) := by
  intro w hknowledge
  refine .ok hknowledge ?_
  rw [List.append_nil]
  cases storage <;> rfl

theorem lookup (name : String) (span : Span) : Warns k [] (lookup name span) := by
  intro w hknowledge
  unfold CompileM.lookup
  cases w.context.lookup name span with
  | ok v => exact .ok hknowledge (List.append_nil _).symm
  | error error => exact .error (List.prefix_refl []) (List.append_nil _).symm

theorem quiet : Contextual (@Warns k []) where
  pure := pure
  fail cause span _ := fail [] cause span
  bind := bind_quiet
  emit := emit
  require := require
  allocate _ := allocate _
  lookup := lookup

section Calls

variable {warnings : List Warning} (call : Call) (demand : Demand)
  {box : ArgumentMode → CompileM (List Operand)} (hbox : ∀ mode, Warns k warnings (box mode))
include hbox

theorem lowerCall : Warns k warnings (k.lowerCall call demand box) := by
  unfold Knowledge.lowerCall
  split
  · exact (require _).quiet_bind fun _ => (hbox .lent).bind_quiet fun _ => pure _
  · refine (require _).quiet_bind fun _ => (hbox .lent).bind_quiet fun arguments =>
      (quiet.chooseDestination call demand).bind_quiet fun destination => ?_
    cases destination with
    | none => exact pure _
    | some destination =>
      exact (quiet.checkBoxed destination call.span).bind_quiet fun _ =>
        (quiet.openDestination destination).bind_quiet fun _ =>
          (emit _).bind_quiet fun _ => pure _
  · unfold Knowledge.lowerByName
    simp only
    split
    · exact fail warnings _ call.span
    · exact (hbox _).bind_quiet fun arguments =>
        (quiet.chooseDestination call demand).bind_quiet fun destination => quiet.emitCall _ _ _ _

theorem compileCallWith (hfollows : k.FollowsCalls) :
    Warns k (k.unknownWarnings [call] ++ warnings) (compileCallWith call demand box) := by
  intro w hknowledge
  subst hknowledge
  obtain ⟨compiler, hcompiler, hrun⟩ := Knowledge.compileCallWith_run call demand box w hfollows
  rw [hrun]
  have hlowered := lowerCall call demand hbox
    ⟨compiler, w.compiler.knowledge.announce (Text.lowercase call.function) call.span w.context⟩
    hcompiler
  rw [Knowledge.announce_warnings] at hlowered
  exact hlowered.of_announced

end Calls

mutual

theorem compileExpression (hfollows : k.FollowsCalls) (expression : Expression) :
    Warns k (k.unknownWarnings expression.callsInPreorder) (compileExpression expression) := by
  cases expression with
  | literal value span => exact pure _
  | var name span => exact pure _
  | call function arguments span =>
    rw [Expression.callsInPreorder, ← List.singleton_append, Knowledge.unknownWarnings_append]
    exact compileCallWith ⟨function, arguments, span⟩ .anywhere
      (boxArguments hfollows arguments) hfollows

theorem boxArguments (hfollows : k.FollowsCalls) (arguments : List Expression)
    (mode : ArgumentMode) :
    Warns k (k.unknownWarnings (Expression.allCallsInPreorder arguments))
      (boxArguments arguments mode) := by
  cases arguments with
  | nil => exact pure []
  | cons argument rest =>
    rw [Expression.allCallsInPreorder, Knowledge.unknownWarnings_append]
    exact (compileExpression hfollows argument).bind fun compiled =>
      (quiet.boxArgument compiled argument.span mode).quiet_bind fun _ =>
        (boxArguments hfollows rest mode).bind_quiet fun _ => pure _

end

theorem compileCall (hfollows : k.FollowsCalls) (call : Call) (demand : Demand) :
    Warns k (k.unknownWarnings call.callsInPreorder) (compileCall call demand) := by
  rw [Call.callsInPreorder, ← List.singleton_append, Knowledge.unknownWarnings_append]
  exact compileCallWith call demand (boxArguments hfollows call.arguments) hfollows

theorem compileStatement (hfollows : k.FollowsCalls) (statement : Statement) :
    Warns k (k.unknownWarnings statement.rootCall.callsInPreorder)
      (compileStatement statement) := by
  cases statement with
  | call call => exact (compileCall hfollows call .nothing).bind_quiet fun _ => pure ()
  | assign name call =>
    refine (compileCall hfollows call (.inVariable name)).bind_quiet fun value =>
      (lookup name call.span).bind_quiet fun v =>
        (quiet.checkBoxed ⟨v, false⟩ call.span).bind_quiet fun _ => ?_
    split
    · exact quiet.copyResult _ _
    · exact quiet.assignScalar _ _ value

theorem compileStatements (hfollows : k.FollowsCalls) (statements : List Statement) :
    Warns k (statements.flatMap fun statement =>
      k.unknownWarnings statement.rootCall.callsInPreorder) (compileStatements statements) := by
  induction statements with
  | nil => exact pure ()
  | cons statement rest ih => exact (compileStatement hfollows statement).bind fun _ => ih

end CompileM.Warns

theorem warnings_name_unknown_calls (compiler : Compiler)
    (hfollows : compiler.knowledge.FollowsCalls) :
    (∀ call demand ctx,
      match compileCall call demand ⟨compiler, ctx⟩ with
      | .ok _ w =>
          w.context.warnings =
            ctx.warnings ++ compiler.knowledge.unknownWarnings call.callsInPreorder
      | .error _ w =>
          ∃ given, given <+: compiler.knowledge.unknownWarnings call.callsInPreorder ∧
            w.context.warnings = ctx.warnings ++ given) ∧
      ∀ unit compiled, (compileUnit unit compiler).1 = .ok compiled →
        compiled.warnings = unit.statements.flatMap fun statement =>
          compiler.knowledge.unknownWarnings statement.rootCall.callsInPreorder := by
  constructor
  · intro call demand ctx
    have hwarned := CompileM.Warns.compileCall hfollows call demand ⟨compiler, ctx⟩ rfl
    generalize compileCall call demand ⟨compiler, ctx⟩ = result at hwarned ⊢
    cases hwarned with
    | ok _ hwarnings => exact hwarnings
    | error hgiven hwarnings => exact ⟨_, hgiven, hwarnings⟩
  · intro unit compiled hcompiled
    have hwarned := CompileM.Warns.compileStatements hfollows unit.statements
      ⟨compiler, declareAll unit.declarations⟩ rfl
    unfold compileUnit EStateM.run at hcompiled
    generalize compileStatements unit.statements ⟨compiler, declareAll unit.declarations⟩ = result
      at hwarned hcompiled
    cases hwarned with
    | ok _ hwarnings =>
      cases hcompiled
      rwa [declareAll_warnings] at hwarnings
    | error _ _ => cases hcompiled

def CallUnit.strangers : CallUnit where
  functionName := "f"
  declarations := [⟨"found", .boxed⟩]
  statements := [
    .call ⟨"Foo",
      [.call "bar" [] (.point 1 5),
        .call "MEMSTR" [.call "FOO" [] (.point 1 18), .call "time" [] (.point 1 25)] (.point 1 10)],
      .point 1 1⟩,
    .assign "found" ⟨"strlen", [.call "bar" [.var "found" {}] (.point 2 8)], .point 2 1⟩]

theorem strangers_warned :
    (Compiler.new .standard .builtin).knowledge.FollowsCalls ∧
      ∃ compiled, (compileUnit .strangers (.new .standard .builtin)).1 = .ok compiled ∧
        compiled.warnings = [
          ⟨"Function \"foo\" does not exist at compile time", "nonexistant-function", .point 1 1⟩,
          ⟨"Function \"bar\" does not exist at compile time", "nonexistant-function", .point 1 5⟩,
          ⟨"Function \"foo\" does not exist at compile time", "nonexistant-function", .point 1 18⟩,
          ⟨"Function \"bar\" does not exist at compile time", "nonexistant-function", .point 2 8⟩
        ] := by
  have hfollows := (Compiler.usesContracts_new .standard (.inl rfl)).followsCalls
  have haccepted : (acceptedCode .strangers (.new .standard .builtin)).isSome = true := by
    decide +kernel
  obtain ⟨code, hcode⟩ := Option.isSome_iff_exists.mp haccepted
  obtain ⟨compiled, hcompiled, _⟩ := acceptedCode_eq_some_iff.mp hcode
  refine ⟨hfollows, compiled, hcompiled, ?_⟩
  rw [(warnings_name_unknown_calls _ hfollows).2 _ _ hcompiled]
  decide +kernel

end BoxedCalls
