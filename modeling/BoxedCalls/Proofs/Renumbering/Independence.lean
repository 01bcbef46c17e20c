import BoxedCalls.Proofs.Compile.Builtins
import BoxedCalls.Proofs.Compile.Statements
import BoxedCalls.Proofs.Diagnostics.Violations
import BoxedCalls.Proofs.Renumbering.SideBySide

namespace BoxedCalls

open CompileM

theorem Compiles.code_of_var {k : Knowledge} {call : Call} {demand : Demand} {ctx ctx' : Context}
    {value : Compiled} (h : Compiles k call demand ctx value ctx') (hkind : value.kind = .var) :
    ∃ name, value.code = .var name := by
  cases h with
  | condition _ _ => cases hkind
  | discarded _ _ => cases hkind
  | delivered _ _ _ _ => exact ⟨_, rfl⟩

namespace Prior

variable {prior : Prior}

namespace Actions

section Calls

variable {call : Call} {demand : Demand} {box : ArgumentMode → CompileM (List Operand)}

theorem deliver (destination : Destination) (span : Span) {call call' : Operand → Instruction}
    (hcall : ∀ target, (call target).mapNames prior.rename =
      call' (target.mapNames prior.rename)) :
    prior.Actions (·.mapNames prior.rename)
      (do
        let target ← BoxedCalls.openDestination destination
        CompileM.emit (call target)
        return Compiled.mk .var (.var destination.target.name) span)
      (do
        let target ← BoxedCalls.openDestination (destination.mapName prior.rename)
        CompileM.emit (call' target)
        return Compiled.mk .var (.var (destination.mapName prior.rename).target.name) span) :=
  (openDestination destination).bind fun target => (emit (hcall target)).bind fun _ => pure rfl

theorem emitCall (function : String) (arguments : List Operand) (destination : Option Destination)
    (span : Span) :
    prior.Actions (·.mapNames prior.rename) (emitCall function arguments destination span)
      (BoxedCalls.emitCall function (arguments.map (·.mapNames prior.rename))
        (destination.map (·.mapName prior.rename)) span) := by
  cases destination with
  | none => exact (require _).bind fun _ => (emit rfl).bind fun _ => pure rfl
  | some destination =>
    exact (checkBoxed destination span).bind fun _ => (require _).bind fun _ =>
      deliver destination span fun _ => rfl

variable (hdemand : demand.IsPlain)
  (hbox : ∀ mode, prior.Actions (·.map (·.mapNames prior.rename)) (box mode) (box mode))
include hdemand hbox

theorem lowerCall (k : Knowledge) :
    prior.Actions (·.mapNames prior.rename) (k.lowerCall call demand box)
      (k.lowerCall call demand box) := by
  unfold Knowledge.lowerCall
  split
  · next contract _ =>
    refine (require _).bind fun _ => (hbox .lent).bind fun arguments => ?_
    refine pure ?_
    simp [Compiled.mapNames, Code.mapNames]
  · next contract _ =>
    refine (require _).bind fun _ => (hbox .lent).bind fun arguments =>
      (chooseDestination call hdemand).bind fun destination => ?_
    cases destination with
    | none => exact pure rfl
    | some destination =>
      refine (checkBoxed destination call.span).bind fun _ => deliver destination call.span ?_
      intro target
      simp [Instruction.mapNames]
  · next mode _ =>
    unfold Knowledge.lowerByName
    simp only
    split
    · exact fail _ _
    · exact (hbox mode).bind fun arguments =>
        (chooseDestination call hdemand).bind fun destination => emitCall _ arguments destination _

theorem compileCallWith (hfollows : prior.knowledge.FollowsCalls) :
    prior.Actions (·.mapNames prior.rename) (compileCallWith call demand box)
      (BoxedCalls.compileCallWith call demand box) := by
  intro w w' h
  have hknowledge := h.ready.knowledge
  have hafter := h.knowledge_after
  obtain ⟨compiler, hcompiler, hrun⟩ :=
    Knowledge.compileCallWith_run call demand box w (by rwa [hknowledge])
  obtain ⟨compiler', hcompiler', hrun'⟩ :=
    Knowledge.compileCallWith_run call demand box w' (by rwa [hafter])
  rw [hrun, hrun', hknowledge, hafter]
  have hcontexts := h.contexts.announce prior.knowledge (Text.lowercase call.function) call.span
  exact lowerCall hdemand hbox _ _ _
    { ready := ⟨hcompiler.trans hknowledge, hcontexts.numbered.consistent⟩
      knowledge_after := hcompiler'.trans hafter
      contexts := hcontexts }

end Calls

end Actions

theorem readable_of_compileExpression (hfollows : prior.knowledge.FollowsCalls)
    {expression : Expression} (hplain : ∀ name, expression.reads name = true → IsPlain name)
    {w w₁ : Workspace} {value : Compiled} (hready : w.Ready prior.knowledge)
    (hrun : compileExpression expression w = .ok value w₁) :
    value.Readable w₁.context.symbols := by
  cases expression with
  | literal literal span =>
    cases hrun
    intro hkind
    cases literal <;> cases hkind
  | var name span =>
    cases hrun
    exact fun _ => ⟨name, rfl, .inl (hplain name (by simp [Expression.reads]))⟩
  | call function arguments span =>
    have hcall : compileCall ⟨function, arguments, span⟩ .anywhere w = .ok value w₁ := hrun
    obtain ⟨hcompiles, _⟩ := compileCall_derives hfollows hready hcall
    generalize w₁.context = ctx₁ at hcompiles
    cases hcompiles with
    | condition _ _ =>
      intro hkind
      cases hkind
    | delivered _ harguments hdestination _ =>
      cases hdestination
      refine fun _ => ⟨_, rfl, .inr ?_⟩
      simp [harguments.grows.consistent.find?_allocate]

namespace Actions

mutual

theorem compileExpression (hfollows : prior.knowledge.FollowsCalls) (expression : Expression)
    (hplain : ∀ name, expression.reads name = true → IsPlain name) :
    prior.Actions (·.mapNames prior.rename) (compileExpression expression)
      (BoxedCalls.compileExpression expression) := by
  cases expression with
  | literal value span =>
    exact pure (value.compiled_mapNames prior.rename span)
  | var name span =>
    have hname : prior.rename name = name :=
      rename_eq (hplain name (by simp [Expression.reads]))
    refine pure ?_
    simp [Compiled.mapNames, Code.mapNames, hname]
  | call function arguments span =>
    exact compileCallWith trivial (boxArguments hfollows arguments hplain) hfollows

theorem boxArguments (hfollows : prior.knowledge.FollowsCalls) (arguments : List Expression)
    (hplain : ∀ name, Expression.anyReads name arguments = true → IsPlain name)
    (mode : ArgumentMode) :
    prior.Actions (·.map (·.mapNames prior.rename)) (boxArguments arguments mode)
      (BoxedCalls.boxArguments arguments mode) := by
  cases arguments with
  | nil => exact pure rfl
  | cons argument rest =>
    obtain ⟨hfirst, hrest⟩ := Expression.forall_anyReads_cons.mp hplain
    intro w w' h
    refine (compileExpression hfollows argument hfirst w w' h).bind
      fun {value w₁ w₁'} hrun h₁ => ?_
    have hvalue := readable_of_compileExpression hfollows hfirst h.ready hrun
    refine (h₁.boxArgument hvalue argument.span mode).bind fun {operand w₂ w₂'} _ h₂ => ?_
    refine (boxArguments hfollows rest hrest mode).bind (fun _ => ?_) w₂ w₂' h₂
    exact pure rfl

end

theorem compileCall (hfollows : prior.knowledge.FollowsCalls) (call : Call) {demand : Demand}
    (hdemand : demand.IsPlain)
    (hplain : ∀ name, call.argumentsRead name = true → IsPlain name) :
    prior.Actions (·.mapNames prior.rename) (compileCall call demand)
      (BoxedCalls.compileCall call demand) :=
  compileCallWith hdemand (boxArguments hfollows call.arguments hplain) hfollows

theorem copyResult {target : Operand} (htarget : IsPlain target.render)
    (hrename : target.mapNames prior.rename = target) (name : String) :
    prior.Actions id (copyResult target (.var name))
      (BoxedCalls.copyResult target (.var (prior.rename name))) := by
  have hsame : prior.rename name = target.render ↔ name = target.render :=
    renumber_eq_iff htarget
  unfold BoxedCalls.copyResult
  by_cases hname : name = target.render
  · rw [if_pos (by exact hname), if_pos (by exact hsame.mpr hname)]
    exact pure rfl
  · rw [if_neg (by exact hname), if_neg (by exact mt hsame.mp hname)]
    exact emit (congrArg (Instruction.copyOnWrite · _) hrename)

theorem assignScalar (target : Operand) (isRead : Bool) (value : Compiled) :
    prior.Actions id (assignScalar target isRead value)
      (BoxedCalls.assignScalar (target.mapNames prior.rename) isRead
        (value.mapNames prior.rename)) := by
  have hstore : ∀ target : Operand, prior.Actions id (CompileM.emit (storeScalar target value))
      (CompileM.emit (storeScalar (target.mapNames prior.rename)
        (value.mapNames prior.rename))) :=
    fun target => emit (storeScalar_renumber target value).symm
  unfold BoxedCalls.assignScalar
  split
  · refine allocateFresh.bind fun v => ?_
    rw [Variable.handle_mapName]
    exact (hstore v.handle).bind fun _ => emit rfl
  · exact (emit rfl).bind fun _ => hstore target

theorem compileStatement (hfollows : prior.knowledge.FollowsCalls) {statement : Statement}
    (hplain : ∀ name, statement.mentions name = true → IsPlain name) :
    prior.Actions id (compileStatement statement) (BoxedCalls.compileStatement statement) := by
  cases statement with
  | call call =>
    have hdemand : Demand.IsPlain .nothing := trivial
    exact (compileCall hfollows call hdemand hplain).bind fun _ => pure rfl
  | assign name call =>
    obtain ⟨hname, hread⟩ := Statement.forall_mentions_assign.mp hplain
    intro w w' h
    have hdemand : Demand.IsPlain (.inVariable name) := hname
    refine (compileCall hfollows call hdemand hread w w' h).bind fun {value w₁ w₁'} hrun h₁ => ?_
    refine (lookup hname call.span w₁ w₁' h₁).bind fun {v w₂ w₂'} hlookup h₂ => ?_
    refine (checkBoxed ⟨v, false⟩ call.span w₂ w₂' h₂).bind fun {_ w₃ w₃'} _ h₃ => ?_
    have hv : IsPlain v.name := plain_of_lookup h₁ hname hlookup
    by_cases hkind : value.kind = .var
    · obtain ⟨hcompiles, _⟩ := compileCall_derives hfollows h.ready hrun
      obtain ⟨source, hsource⟩ := hcompiles.code_of_var hkind
      have hrenamed : (value.mapNames prior.rename).code = .var (prior.rename source) :=
        congrArg (Code.mapNames prior.rename) hsource
      have hhandle : (v.mapName prior.rename).handle = v.handle := by
        rw [Variable.handle_mapName]
        exact hv.handle_renumber _
      rw [if_pos hkind, if_pos (by exact hkind), hsource, hrenamed, hhandle]
      exact copyResult hv.render_handle (hv.handle_renumber _) source w₃ w₃' h₃
    · rw [if_neg hkind, if_neg (by exact hkind), Variable.handle_mapName]
      exact assignScalar v.handle _ value w₃ w₃' h₃

theorem compileStatements (hfollows : prior.knowledge.FollowsCalls) {statements : List Statement}
    (hplain : ∀ statement ∈ statements, ∀ name, statement.mentions name = true → IsPlain name) :
    prior.Actions id (compileStatements statements) (BoxedCalls.compileStatements statements) := by
  induction statements with
  | nil => exact pure rfl
  | cons statement rest ih =>
    obtain ⟨hfirst, hrest⟩ := List.forall_mem_cons.mp hplain
    exact (compileStatement hfollows hfirst).bind fun _ => ih hrest

end Actions

theorem contexts_declareAll {declarations : List Declaration} (h : PlainlyDeclared declarations)
    (hnumbered : prior.context.symbols.Numbered)
    (hextends : (declareAll declarations).symbols.Extends prior.context.symbols) :
    prior.Contexts (declareAll declarations) prior.context where
  numbered := declareAll_numbered h
  numbered_after := hnumbered
  next := by
    rw [declareAll_nextTemporary, Nat.zero_add]
    exact hnumbered.count.symm
  found := by
    intro name
    rcases isPlain_or_temporary name with hname | ⟨number, rfl⟩
    · rw [rename_eq hname,
        hextends.find?_settled fun number hnumber => absurd hnumber (hname number),
        find?_declareAll]
      cases declaredType declarations name with
      | none => rfl
      | some type => simp [Variable.mapName, rename_eq hname]
    · have hpast : prior.context.symbols.nextTemporary ≤ number + prior.offset := by
        rw [offset, hnumbered.count]
        omega
      have hzero : (declareAll declarations).symbols.nextTemporary ≤ number := by
        simp [declareAll_nextTemporary]
      rw [rename, renumber_temporaryName, hnumbered.free hpast, (declareAll_numbered h).free hzero]
      rfl
  entries := by
    have hnone : (declareAll declarations).symbols.temporaryCount = 0 := by
      rw [(declareAll_numbered h).count, declareAll_nextTemporary]
    rw [List.length_eq_zero_iff.mp hnone]
    simp
  instructions := by simp [declareAll_instructions]
  warnings := by simp [declareAll_warnings]

end Prior

theorem compileStatements_append (first later : List Statement) :
    compileStatements (first ++ later) =
      compileStatements first >>= fun _ => compileStatements later := by
  induction first with
  | nil => rfl
  | cons statement rest ih =>
    simp only [List.cons_append, compileStatements, ih, bind_assoc]

inductive CompiledFunction.Continues (before : CompiledFunction) :
    Except CompileError CompiledFunction → Except CompileError CompiledFunction → Prop where
  | ok {alone after : CompiledFunction}
      (hinstructions : after.context.instructions = before.context.instructions ++
        alone.context.instructions.map
          (·.mapNames (renumber before.context.symbols.temporaryCount)))
      (hentries : after.context.symbols.entries = before.context.symbols.entries ++
        (alone.context.symbols.entries.filter Variable.isTemporary).map
          (·.mapName (renumber before.context.symbols.temporaryCount)))
      (hwarnings : after.warnings = before.warnings ++ alone.warnings) :
      Continues before (.ok alone) (.ok after)
  | error {error : CompileError} : Continues before (.error error) (.error error)

theorem statements_compile_independently (host : HostFunctions) (unit : CallUnit)
    (later : List Statement) (hdeclared : PlainlyDeclared unit.declarations)
    (hplain : ∀ statement ∈ later, ∀ name, statement.mentions name = true → IsPlain name)
    {before : CompiledFunction}
    (hbefore : (compileUnit unit (.new host .builtin)).1 = .ok before) :
    before.Continues
      (compileUnit { unit with statements := later } (.new host .builtin)).1
      (compileUnit { unit with statements := unit.statements ++ later }
        (.new host .builtin)).1 := by
  have hfollows := (Compiler.usesContracts_new host (.inl rfl)).followsCalls
  unfold compileUnit EStateM.run at hbefore ⊢
  simp only [compileStatements_append, bind_run]
  cases hrun : compileStatements unit.statements
      ⟨.new host .builtin, declareAll unit.declarations⟩ with
  | error error w => rw [hrun] at hbefore; cases hbefore
  | ok u w =>
    rw [hrun] at hbefore
    cases hbefore
    obtain ⟨hruns, hknowledge⟩ := compileStatements_runs hfollows
      ⟨rfl, declareAll_consistent unit.declarations⟩ hrun
    let prior : Prior := ⟨(Compiler.new host .builtin).knowledge, w.context⟩
    have hstart : prior.Workspaces ⟨.new host .builtin, declareAll unit.declarations⟩ w :=
      { ready := ⟨rfl, declareAll_consistent unit.declarations⟩
        knowledge_after := hknowledge
        contexts := Prior.contexts_declareAll hdeclared
          (compileStatements_numbered hrun (declareAll_numbered hdeclared)) hruns.grows.symbols }
    have hlater := Prior.Actions.compileStatements hfollows hplain _ _ hstart
    simp only
    generalize compileStatements later ⟨.new host .builtin, declareAll unit.declarations⟩ = first
      at hlater ⊢
    generalize compileStatements later w = second at hlater ⊢
    cases hlater with
    | ok h => exact .ok h.contexts.instructions h.contexts.entries h.contexts.warnings
    | error => exact .error

def CallUnit.greeting : CallUnit where
  functionName := "f"
  declarations := [⟨"text", .boxed⟩]
  statements := [.assign "text" ⟨"greet", [.literal (.string "_0") {}, .var "text" {}], {}⟩]

def Statement.comparison : Statement :=
  .assign "text"
    ⟨"ends_with", [.call "uncamelize" [.var "text" {}] {}, .literal (.string "_0") {}], {}⟩

def comparisonCode : List Instruction := [
  .init (.var "_0"),
  .kernelCall "zephir_uncamelize" [.var "_0", .var "text"],
  .storeString (.addressOf "_1") (.quoted "_0") false,
  .init (.var "_2"),
  .storeBool (.var "_2")
    (.predicate "zephir_end_with" [.var "_0", .addressOf "_1", .verbatim "NULL"]),
  .copyOnWrite (.var "text") (.var "_2")]

theorem comparison_after_greeting :
    PlainlyDeclared CallUnit.greeting.declarations ∧
      (∀ statement ∈ [Statement.comparison], ∀ name, statement.mentions name = true →
        IsPlain name) ∧
      ∃ before, (compileUnit .greeting (.new .standard .builtin)).1 = .ok before ∧
        acceptedCode
            { CallUnit.greeting with
              statements := CallUnit.greeting.statements ++ [Statement.comparison] }
            (.new .standard .builtin) =
          some (before.context.instructions ++
            comparisonCode.map (·.mapNames (renumber before.context.symbols.temporaryCount))) := by
  have htext : IsPlain "text" := ne_temporaryName (by decide)
  have hdeclared : PlainlyDeclared CallUnit.greeting.declarations := by
    intro number
    simpa [CallUnit.greeting] using (htext number).symm
  have hplain : ∀ statement ∈ [Statement.comparison], ∀ name, statement.mentions name = true →
      IsPlain name := by
    intro statement hmem name hmentions
    rw [List.mem_singleton.mp hmem] at hmentions
    have hname : name = "text" := by
      simpa [Statement.comparison, Statement.mentions, Call.argumentsRead, Expression.anyReads,
        Expression.reads, eq_comm] using hmentions
    rwa [hname]
  have haccepted : (acceptedCode .greeting (.new .standard .builtin)).isSome = true := by
    decide +kernel
  have halone : acceptedCode { CallUnit.greeting with statements := [Statement.comparison] }
      (.new .standard .builtin) = some comparisonCode := by decide +kernel
  obtain ⟨_, hsome⟩ := Option.isSome_iff_exists.mp haccepted
  obtain ⟨before, hbefore, _⟩ := acceptedCode_eq_some_iff.mp hsome
  obtain ⟨alone, hsuccess, hcode⟩ := acceptedCode_eq_some_iff.mp halone
  have hindependent := statements_compile_independently .standard .greeting [.comparison]
    hdeclared hplain hbefore
  rw [hsuccess] at hindependent
  refine ⟨hdeclared, hplain, before, hbefore, ?_⟩
  unfold acceptedCode
  generalize (compileUnit
    { CallUnit.greeting with
      statements := CallUnit.greeting.statements ++ [Statement.comparison] }
    (.new .standard .builtin)).1 = outcome at hindependent ⊢
  cases hindependent with
  | ok hinstructions _ _ =>
    rw [← hcode, ← hinstructions]
    rfl

end BoxedCalls
