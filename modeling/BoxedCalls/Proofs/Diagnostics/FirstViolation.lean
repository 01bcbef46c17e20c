import BoxedCalls.Proofs.Compile.Statements
import BoxedCalls.Proofs.Diagnostics.Reports

namespace BoxedCalls

open CompileM

structure Knowledge.Reflects (k : Knowledge) (host : HostFunctions) : Prop where
  usesContracts : k.UsesContracts
  refuses : ∀ function arity, k.refuses function arity = host.requiresMore function arity

theorem Compiler.reflects_new (host : HostFunctions) {table : OptimizerTable} (h : table.Plain) :
    (new host table).knowledge.Reflects host where
  usesContracts := usesContracts_new host h
  refuses := by
    intro function arity
    simp only [Knowledge.refuses, HostFunctions.requiresMore, knowledge_new_known,
      knowledge_new_signature]
    cases hbuiltin : Builtin.contains function with
    | true => simp
    | false =>
      cases hsignature : host.signatureOf? function with
      | none => simp
      | some signature => simp [HostFunctions.contains_of_signatureOf? hsignature]

section Calls

variable {k : Knowledge} {host : HostFunctions} {declarations : List Declaration}

theorem HostFunctions.arityViolations_of_builtin {function : String}
    (h : Builtin.contains function = true) (arity : Nat) (span : Span) :
    host.arityViolations function arity span = [] := by
  simp [arityViolations, requiresMore, h]

variable {call : Call} {demand : Demand} {box : ArgumentMode → CompileM (List Operand)}
  {violations : List CompileError} {w : Workspace}

theorem lowerCall_reports (hk : k.Reflects host) (hdemand : demand.Settled declarations)
    (hbox : ∀ {mode w}, w.Elaborates k declarations → Reports violations (box mode w))
    (hafter : ∀ {mode w operands w'}, w.Elaborates k declarations →
      box mode w = .ok operands w' → w'.Elaborates k declarations)
    (h : w.Elaborates k declarations) :
    ReportsPartly
      (host.arityViolations (Text.lowercase call.function) call.arguments.length call.span ++
        violations)
      (demand.violations (declaredType declarations) call.span)
      (k.lowerCall call demand box w) := by
  have hprepared : ∀ header,
      (⟨w.compiler, w.context.require header⟩ : Workspace).Elaborates k declarations :=
    fun header => h.of_symbols_eq (by simp) h.ready.knowledge
  unfold Knowledge.lowerCall
  cases hshape : k.shape (Text.lowercase call.function) call.arguments.length
      (demand ≠ .nothing) with
  | condition contract =>
    obtain ⟨hcontract, _, _⟩ := hk.usesContracts.of_shape_condition hshape
    rw [HostFunctions.arityViolations_of_builtin (Builtin.contains_of_contract? hcontract)]
    simp only [require_bind_run]
    exact .bind (hbox (hprepared contract.header)) fun _ => .of_ok rfl
  | routine routine =>
    cases routine with
    | helper contract =>
      obtain ⟨hcontract, _, _⟩ := hk.usesContracts.of_shape_helper hshape
      rw [HostFunctions.arityViolations_of_builtin (Builtin.contains_of_contract? hcontract)]
      simp only [require_bind_run]
      refine .bind (hbox (hprepared contract.header)) fun {arguments w'} hrun => ?_
      refine choose_reports (hafter (hprepared contract.header) hrun) hdemand ?_ ?_
      · intro _ w
        exact ⟨_, _, rfl⟩
      · intro destination
        refine ⟨_, rfl, fun w => ?_⟩
        rw [bind_run, openDestination_run]
        exact ⟨_, _, rfl⟩
    | function mode =>
      simp only [Knowledge.lowerByName]
      rw [hk.refuses, HostFunctions.arityViolations]
      split
      · exact .of_reports rfl
      · refine .bind (hbox h) fun {arguments w'} hrun => ?_
        refine choose_reports (hafter h hrun) hdemand ?_ ?_
        · intro _ w
          exact ⟨_, _, rfl⟩
        · intro destination
          refine ⟨_, rfl, fun w => ?_⟩
          rw [require_bind_run, bind_run, openDestination_run]
          exact ⟨_, _, rfl⟩

variable (call demand box) in
theorem compileCallWith_reports (hk : k.Reflects host) (hdemand : demand.Settled declarations)
    (hbox : ∀ {mode w}, w.Elaborates k declarations → Reports violations (box mode w))
    (hafter : ∀ {mode w operands w'}, w.Elaborates k declarations →
      box mode w = .ok operands w' → w'.Elaborates k declarations)
    (h : w.Elaborates k declarations) :
    ReportsPartly
      (host.arityViolations (Text.lowercase call.function) call.arguments.length call.span ++
        violations)
      (demand.violations (declaredType declarations) call.span)
      (compileCallWith call demand box w) := by
  have hknowledge := h.ready.knowledge
  have hfollows : w.compiler.knowledge.FollowsCalls := by
    rw [hknowledge]
    exact hk.usesContracts.followsCalls
  obtain ⟨compiler, hcompiler, hrun⟩ := Knowledge.compileCallWith_run call demand box w hfollows
  rw [hrun, hknowledge]
  exact lowerCall_reports hk hdemand hbox hafter
    (h.of_symbols_eq (by simp) (hcompiler.trans hknowledge))

end Calls

section Arguments

variable {k : Knowledge} {host : HostFunctions} {declarations : List Declaration}
  {mode : ArgumentMode} {w w' : Workspace}

theorem boxArguments_elaborates (hfollows : k.FollowsCalls) {arguments : List Expression}
    {operands : List Operand} (h : w.Elaborates k declarations)
    (hrun : boxArguments arguments mode w = .ok operands w') : w'.Elaborates k declarations := by
  obtain ⟨hboxes, hknowledge⟩ := boxArguments_derives hfollows arguments h.ready hrun
  exact h.of_grows hboxes.grows hknowledge

theorem boxLiteral_reports (value : Literal) (span place : Span) :
    Reports (value.violations place) (boxArgument (value.compiled span) place mode w) := by
  rw [boxArgument_literal]
  cases value with
  | null => rfl
  | int _ => exact .of_ok (storeArgument_run mode _ w)
  | uint _ => exact .of_ok (storeArgument_run mode _ w)
  | long _ => exact .of_ok (storeArgument_run mode _ w)
  | ulong _ => exact .of_ok (storeArgument_run mode _ w)
  | double _ => exact .of_ok (storeArgument_run mode _ w)
  | bool _ => exact .of_ok (storeArgument_run mode _ w)
  | string _ => exact .of_ok (storeArgument_run mode _ w)

theorem boxVariable_reports (h : w.Elaborates k declarations) {name : String}
    (hname : Settled declarations name) (span : Span) :
    Reports (readViolations name span (declaredType declarations name))
      (boxArgument ⟨.var, .var name, span⟩ span mode w) := by
  have hlookup := lookup_run h hname span
  change Reports _ ((lookup name span >>= fun v => boxVariable v span mode) w)
  rw [bind_run, hlookup]
  cases declaredType declarations name with
  | none => rfl
  | some type =>
    simp only [boxVariable_eq]
    cases type with
    | boxed => rfl
    | char => rfl
    | array => rfl
    | int => exact .of_ok (storeArgument_run mode _ w)
    | uint => exact .of_ok (storeArgument_run mode _ w)
    | long => exact .of_ok (storeArgument_run mode _ w)
    | ulong => exact .of_ok (storeArgument_run mode _ w)
    | double => exact .of_ok (storeArgument_run mode _ w)
    | bool => exact .of_ok (storeArgument_run mode _ w)
    | string => exact .of_ok (storeArgument_run mode _ w)

mutual

theorem argument_reports (hk : k.Reflects host) (argument : Expression)
    (hsettled : ∀ name, argument.reads name = true → Settled declarations name)
    {mode : ArgumentMode} {w : Workspace} (h : w.Elaborates k declarations) :
    Reports (argument.violations host (declaredType declarations))
      ((compileExpression argument >>= fun compiled =>
        boxArgument compiled argument.span mode) w) := by
  cases argument with
  | literal value span => exact boxLiteral_reports value span span
  | var name span =>
    exact boxVariable_reports h (hsettled name (by simp [Expression.reads])) span
  | call function arguments span =>
    have hsettledAll : ∀ name, Expression.anyReads name arguments = true →
        Settled declarations name := fun name hread => hsettled name hread
    have hfollows := hk.usesContracts.followsCalls
    have hcall := compileCallWith_reports ⟨function, arguments, span⟩ .anywhere
      (boxArguments arguments) hk trivial
      (fun h => boxArguments_reports hk arguments hsettledAll h)
      (fun h hrun => boxArguments_elaborates hfollows h hrun) h
    rw [← List.append_nil (Expression.violations ..)]
    refine hcall.reports.bind fun {compiled w₁} hrun => ?_
    obtain ⟨hcompiles, hknowledge⟩ := compileCallWith_derives hfollows
      (fun hrun hready => boxArguments_derives hfollows arguments hready hrun) h.ready hrun
    obtain ⟨_, _, hbox, _⟩ := boxCall_derives mode h.ready.consistent hcompiles hknowledge
    exact .of_ok hbox

theorem boxArguments_reports (hk : k.Reflects host) (arguments : List Expression)
    (hsettled : ∀ name, Expression.anyReads name arguments = true → Settled declarations name)
    {mode : ArgumentMode} {w : Workspace} (h : w.Elaborates k declarations) :
    Reports (Expression.allViolations host (declaredType declarations) arguments)
      (boxArguments arguments mode w) := by
  cases arguments with
  | nil => rfl
  | cons argument rest =>
    obtain ⟨hfirst, hrest⟩ := Expression.forall_anyReads_cons.mp hsettled
    have hassoc : boxArguments (argument :: rest) mode =
        (compileExpression argument >>= fun compiled =>
          boxArgument compiled argument.span mode) >>= fun operand =>
            boxArguments rest mode >>= fun operands => pure (operand :: operands) := by
      simp only [boxArguments, bind_assoc]
    rw [hassoc]
    refine (argument_reports hk argument hfirst h).bind fun {operand w'} hrun => ?_
    obtain ⟨compiled, w₁, hcompile, hbox⟩ := bind_eq_ok.mp hrun
    have hhands := boxArgument_derives hk.usesContracts.followsCalls argument h.ready hcompile hbox
    have h' := h.of_grows hhands.grows hhands.ready.knowledge
    rw [← List.append_nil (Expression.allViolations ..)]
    exact (boxArguments_reports hk rest hrest h').bind fun _ => .of_ok rfl

end

end Arguments

section Units

variable {k : Knowledge} {host : HostFunctions} {declarations : List Declaration} {w : Workspace}

theorem compileCall_reports (hk : k.Reflects host) (call : Call) (demand : Demand)
    (hdemand : demand.Settled declarations)
    (hsettled : ∀ name, call.argumentsRead name = true → Settled declarations name)
    (h : w.Elaborates k declarations) :
    ReportsPartly (call.violations host (declaredType declarations))
      (demand.violations (declaredType declarations) call.span)
      (compileCall call demand w) :=
  compileCallWith_reports call demand (boxArguments call.arguments) hk hdemand
    (fun h => boxArguments_reports hk call.arguments hsettled h)
    (fun h hrun => boxArguments_elaborates hk.usesContracts.followsCalls h hrun) h

theorem compileStatement_reports (hk : k.Reflects host) {statement : Statement}
    (hsettled : ∀ name, statement.mentions name = true → Settled declarations name)
    (h : w.Elaborates k declarations) :
    Reports (statement.violations host (declaredType declarations))
      (compileStatement statement w) := by
  cases statement with
  | call call =>
    have hcall := (compileCall_reports hk call .nothing trivial hsettled h).reports
    rw [← List.append_nil (Statement.violations ..)]
    exact hcall.bind fun _ => .of_ok rfl
  | assign name call =>
    obtain ⟨hname, hread⟩ := Statement.forall_mentions_assign.mp hsettled
    refine (compileCall_reports hk call (.inVariable name) hname hread h).followed
      fun {result w'} hrun => ?_
    obtain ⟨hcompiles, hknowledge⟩ :=
      compileCall_derives hk.usesContracts.followsCalls h.ready hrun
    have h' := h.of_grows hcompiles.grows hknowledge
    rw [bind_run, lookup_run h' hname]
    change Reports (targetViolations name call.span (declaredType declarations name)) _
    cases htype : declaredType declarations name with
    | none => rfl
    | some type =>
      simp only
      rw [bind_run, checkBoxed]
      by_cases hboxed : type = .boxed
      · rw [if_pos hboxed]
        subst hboxed
        change Reports [] ((if result.kind = .var then _ else _ : CompileM Unit) w')
        split
        · exact .of_ok (copyResult_run _ _ w')
        · exact .of_ok (assignScalar_run _ _ result w')
      · rw [if_neg hboxed, targetViolations_of_ne_boxed name call.span hboxed]
        rfl

theorem compileStatements_reports (hk : k.Reflects host) {statements : List Statement}
    (hsettled : ∀ statement ∈ statements, ∀ name, statement.mentions name = true →
      Settled declarations name)
    (h : w.Elaborates k declarations) :
    Reports (statements.flatMap (·.violations host (declaredType declarations)))
      (compileStatements statements w) := by
  induction statements generalizing w with
  | nil => rfl
  | cons statement rest ih =>
    obtain ⟨hfirst, hrest⟩ := List.forall_mem_cons.mp hsettled
    rw [List.flatMap_cons]
    refine (compileStatement_reports hk hfirst h).bind fun {u w'} hrun => ?_
    obtain ⟨hperforms, hknowledge⟩ :=
      compileStatement_performs hk.usesContracts.followsCalls h.ready hrun
    exact ih hrest (h.of_grows hperforms.grows hknowledge)

theorem CallUnit.SparesTemporaries.settled {unit : CallUnit} (h : unit.SparesTemporaries)
    {name : String} (hmentions : unit.mentions name = true) :
    Settled unit.declarations name := by
  intro number hnumber habsent
  subst hnumber
  exact declaredType_eq_none_iff.mp habsent (h number hmentions)

theorem Workspace.elaborates_declareAll (compiler : Compiler) (declarations : List Declaration) :
    (⟨compiler, declareAll declarations⟩ : Workspace).Elaborates compiler.knowledge
      declarations where
  ready := ⟨rfl, declareAll_consistent declarations⟩
  extends_declared := .refl _

variable {table : OptimizerTable} {unit : CallUnit}

variable (host) in
theorem compileUnit_statements_report (htable : table.Plain) (hspares : unit.SparesTemporaries) :
    Reports (unit.violations host)
      (compileStatements unit.statements
        ⟨Compiler.new host table, declareAll unit.declarations⟩) := by
  have hsettled : ∀ statement ∈ unit.statements, ∀ name, statement.mentions name = true →
      Settled unit.declarations name := by
    intro statement hmem name hmentions
    exact hspares.settled (List.any_eq_true.mpr ⟨statement, hmem, hmentions⟩)
  exact compileStatements_reports (Compiler.reflects_new host htable) hsettled
    (Workspace.elaborates_declareAll (.new host table) unit.declarations)

theorem compileUnit_eq_error (htable : table.Plain) (hspares : unit.SparesTemporaries)
    {error : CompileError} {later : List CompileError}
    (hcons : unit.violations host = error :: later) :
    (compileUnit unit (.new host table)).1 = .error error := by
  have hreports := compileUnit_statements_report host htable hspares
  unfold compileUnit EStateM.run
  cases hrun : compileStatements unit.statements
      ⟨Compiler.new host table, declareAll unit.declarations⟩ with
  | ok u w =>
    rw [hrun, hcons] at hreports
    cases hreports
  | error first w =>
    rw [hrun, hcons] at hreports
    cases hreports
    rfl

end Units

end BoxedCalls
