import BoxedCalls.Proofs.Compile.Derivation

namespace BoxedCalls

open CompileM

structure Workspace.Ready (k : Knowledge) (w : Workspace) : Prop where
  knowledge : w.compiler.knowledge = k
  consistent : w.context.symbols.Consistent

theorem CompileM.lookup_eq_ok {name : String} {span : Span} {w w' : Workspace} {v : Variable}
    (h : lookup name span w = .ok v w') : w.context.symbols.find? name = some v ∧ w' = w := by
  unfold lookup at h
  split at h
  · next hlookup =>
    cases h
    exact ⟨(Context.lookup_eq_ok_iff _).mp hlookup, rfl⟩
  · cases h

theorem chooseDestination_eq_none {call : Call} {demand : Demand} {w w' : Workspace}
    (h : chooseDestination call demand w = .ok none w') : demand = .nothing ∧ w' = w := by
  have hdemand : demand = .nothing :=
    Decidable.byContradiction fun hne => Knowledge.chooseDestination_ne_none hne h
  subst hdemand
  cases h
  exact ⟨rfl, rfl⟩

theorem chooseDestination_binds {call : Call} {demand : Demand} {w w' : Workspace}
    {destination : Destination} (h : chooseDestination call demand w = .ok (some destination) w') :
    Binds call demand w.context destination w'.context ∧ w'.compiler = w.compiler := by
  cases demand with
  | nothing => cases h
  | anywhere =>
    obtain ⟨v, middle, hallocate, hpure⟩ := bind_eq_ok.mp h
    cases hallocate
    cases hpure
    exact ⟨.anywhere, rfl⟩
  | inVariable name =>
    obtain ⟨v, middle, hlookup, hrest⟩ := bind_eq_ok.mp h
    obtain ⟨hfind, rfl⟩ := lookup_eq_ok hlookup
    split at hrest
    · next hread =>
      obtain ⟨fresh, middle, hallocate, hpure⟩ := bind_eq_ok.mp hrest
      cases hallocate
      cases hpure
      exact ⟨.apart hfind hread, rfl⟩
    · next hread =>
      cases hrest
      exact ⟨.reused hfind (by simpa using hread), rfl⟩

theorem Binds.wanted {call : Call} {demand : Demand} {ctx ctx' : Context}
    {destination : Destination} (h : Binds call demand ctx destination ctx') :
    demand ≠ .nothing := by
  cases h <;> exact nofun

theorem checkBoxed_eq_ok {destination : Destination} {span : Span} {w w' : Workspace} {u : Unit}
    (h : checkBoxed destination span w = .ok u w') :
    destination.target.type = .boxed ∧ w' = w := by
  unfold checkBoxed at h
  split at h
  · next hboxed =>
    cases h
    exact ⟨hboxed, rfl⟩
  · cases h

theorem openDestination_run (destination : Destination) (w : Workspace) :
    openDestination destination w =
      .ok (.var destination.target.name)
        { w with context := w.context.openFor destination } := by
  unfold openDestination Context.openFor
  split <;> rfl

theorem Knowledge.wanted_of_shape_helper {k : Knowledge} {function : String} {arity : Nat}
    {wanted : Bool} {contract : HelperContract}
    (h : k.shape function arity wanted = .routine (.helper contract)) : wanted = true := by
  unfold shape at h
  split at h
  · split at h <;> cases h
  · split at h
    · next htaken => exact htaken.2
    · cases h
  · cases h

section Calls

variable {k : Knowledge} {call : Call} {demand : Demand}
  {box : ArgumentMode → CompileM (List Operand)} {result : Compiled} {w w' : Workspace}

theorem deliver_derives (routine : Routine) {arguments : List Operand} (ctx : Context)
    {destination : Destination} {span : Span} {w₁ w₂ w₃ : Workspace} {target : Operand}
    (hopen : openDestination destination w₁ = .ok target w₂)
    (hfinish : (do
      emit (routine.instruction (Text.lowercase call.function) arguments (some target))
      return ⟨.var, .var destination.target.name, span⟩ : CompileM Compiled) w₂ = .ok result w₃)
    (hcontext : w₁.context = routine.announceCall ctx) :
    result = ⟨.var, .var destination.target.name, span⟩ ∧
      w₃ = { w₁ with
        context := ctx.deliver routine (Text.lowercase call.function) arguments destination } := by
  rw [openDestination_run] at hopen
  cases hopen
  cases hfinish
  refine ⟨rfl, ?_⟩
  unfold Context.deliver
  rw [← hcontext]

theorem lowerCall_derives
    (hbox : ∀ {mode w operands w'}, box mode w = .ok operands w' → w.Ready k →
      Boxes k call.arguments mode w.context operands w'.context ∧ w'.compiler.knowledge = k)
    {ctx : Context} (hready : w.Ready k)
    (hcontext : w.context = k.announce (Text.lowercase call.function) call.span ctx)
    (h : k.lowerCall call demand box w = .ok result w') :
    Compiles k call demand ctx result w'.context ∧ w'.compiler.knowledge = k := by
  unfold Knowledge.lowerCall at h
  cases hshape : k.shape (Text.lowercase call.function) call.arguments.length
      (demand ≠ .nothing) with
  | condition contract =>
    rw [hshape] at h
    obtain ⟨_, w₁, hrequire, h⟩ := bind_eq_ok.mp h
    cases hrequire
    obtain ⟨arguments, w₂, harguments, hpure⟩ := bind_eq_ok.mp h
    cases hpure
    obtain ⟨hboxes, hknowledge⟩ := hbox harguments ⟨hready.1, hready.2⟩
    refine ⟨.condition hshape ?_, hknowledge⟩
    rw [← hcontext]
    exact hboxes
  | routine routine =>
    cases routine with
    | helper contract =>
      have hwanted := Knowledge.wanted_of_shape_helper hshape
      rw [hshape] at h
      obtain ⟨_, w₁, hrequire, h⟩ := bind_eq_ok.mp h
      cases hrequire
      obtain ⟨arguments, w₂, harguments, h⟩ := bind_eq_ok.mp h
      obtain ⟨hboxes, hknowledge⟩ := hbox harguments ⟨hready.1, hready.2⟩
      obtain ⟨choice, w₃, hchoice, h⟩ := bind_eq_ok.mp h
      cases choice with
      | none =>
        obtain ⟨rfl, _⟩ := chooseDestination_eq_none hchoice
        simp at hwanted
      | some destination =>
        obtain ⟨hbinds, hcompiler⟩ := chooseDestination_binds hchoice
        obtain ⟨_, w₄, hcheck, hrest⟩ := bind_eq_ok.mp h
        obtain ⟨hboxed, rfl⟩ := checkBoxed_eq_ok hcheck
        obtain ⟨target, w₅, hopen, hfinish⟩ := bind_eq_ok.mp hrest
        obtain ⟨hresult, hw'⟩ := deliver_derives (.helper contract) w₄.context
          hopen hfinish rfl
        rw [hresult, hw']
        refine ⟨.delivered (hwanted ▸ hshape) ?_ hbinds hboxed, by rw [hcompiler, hknowledge]⟩
        rw [← hcontext]
        exact hboxes
    | function mode =>
      rw [hshape] at h
      simp only [Knowledge.lowerByName] at h
      split at h
      · cases h
      · obtain ⟨arguments, w₂, harguments, h⟩ := bind_eq_ok.mp h
        obtain ⟨hboxes, hknowledge⟩ := hbox harguments hready
        rw [hcontext] at hboxes
        obtain ⟨choice, w₃, hchoice, h⟩ := bind_eq_ok.mp h
        cases choice with
        | none =>
          obtain ⟨rfl, rfl⟩ := chooseDestination_eq_none hchoice
          cases h
          exact ⟨.discarded (by simpa using hshape) hboxes, hknowledge⟩
        | some destination =>
          obtain ⟨hbinds, hcompiler⟩ := chooseDestination_binds hchoice
          obtain ⟨_, w₄, hcheck, hrest⟩ := bind_eq_ok.mp h
          obtain ⟨hboxed, rfl⟩ := checkBoxed_eq_ok hcheck
          obtain ⟨_, w₅, hrequire, hrest⟩ := bind_eq_ok.mp hrest
          cases hrequire
          obtain ⟨target, w₅, hopen, hfinish⟩ := bind_eq_ok.mp hrest
          obtain ⟨hresult, hw'⟩ := deliver_derives (.function mode) w₄.context
            hopen hfinish rfl
          rw [hresult, hw']
          refine ⟨.delivered (by simpa [hbinds.wanted] using hshape) hboxes hbinds hboxed, ?_⟩
          rw [hcompiler, hknowledge]

theorem compileCallWith_derives (hfollows : k.FollowsCalls)
    (hbox : ∀ {mode w operands w'}, box mode w = .ok operands w' → w.Ready k →
      Boxes k call.arguments mode w.context operands w'.context ∧ w'.compiler.knowledge = k)
    (hready : w.Ready k) (h : compileCallWith call demand box w = .ok result w') :
    Compiles k call demand w.context result w'.context ∧ w'.compiler.knowledge = k := by
  obtain ⟨rfl, hconsistent⟩ := hready
  obtain ⟨compiler, hcompiler, hrun⟩ := Knowledge.compileCallWith_run call demand box w hfollows
  rw [hrun] at h
  exact lowerCall_derives hbox ⟨hcompiler, by simpa using hconsistent⟩ rfl h

end Calls

theorem storeArgument_run (mode : ArgumentMode) (boxing : Boxing) (w : Workspace) :
    storeArgument mode (boxing.store mode) w =
      .ok (w.context.box mode boxing).1
        { w with context := (w.context.box mode boxing).2 } := by
  cases mode <;> rfl

theorem boxArgument_literal (value : Literal) (span place : Span) (mode : ArgumentMode) :
    boxArgument (value.compiled span) place mode =
      match value.boxing? with
      | some boxing => storeArgument mode (boxing.store mode)
      | none => fail (.unsupportedValue ValueKind.null.name) place := by
  cases value <;> rfl

theorem boxVariable_eq (v : Variable) (place : Span) (mode : ArgumentMode) :
    boxVariable v place mode =
      match v.type.boxing? v.name with
      | some boxing => storeArgument mode (boxing.store mode)
      | none =>
          if v.type = .boxed then pure v.handle
          else fail (.unsupportedVariable v.type.name) place := by
  obtain ⟨name, storage, type⟩ := v
  cases type <;> rfl

structure Hands (k : Knowledge) (argument : Expression) (mode : ArgumentMode) (w : Workspace)
    (operand : Operand) (w' : Workspace) : Prop where
  ready : w'.Ready k
  derives : ∀ {rest operands ctx'}, Boxes k rest mode w'.context operands ctx' →
    Boxes k (argument :: rest) mode w.context (operand :: operands) ctx'

theorem Hands.grows {k : Knowledge} {argument : Expression} {mode : ArgumentMode}
    {w w' : Workspace} {operand : Operand} (h : Hands k argument mode w operand w') :
    w.context.Grows w'.context :=
  (h.derives (.nil h.ready.consistent)).grows

section Arguments

variable {k : Knowledge} {mode : ArgumentMode} {w w₁ w₂ : Workspace} {operand : Operand}

theorem Workspace.Ready.box (hready : w.Ready k) (mode : ArgumentMode) (boxing : Boxing) :
    (⟨w.compiler, (w.context.box mode boxing).2⟩ : Workspace).Ready k :=
  ⟨hready.knowledge, (Context.Grows.box hready.consistent mode boxing).consistent⟩

theorem boxLiteral_derives {value : Literal} {span : Span} (hready : w.Ready k)
    (h : boxArgument (value.compiled span) span mode w = .ok operand w₂) :
    Hands k (.literal value span) mode w operand w₂ := by
  rw [boxArgument_literal] at h
  cases hboxing : value.boxing? with
  | none => rw [hboxing] at h; cases h
  | some boxing =>
    rw [hboxing] at h
    simp only [storeArgument_run] at h
    cases h
    exact ⟨hready.box mode boxing, .store hready.consistent hboxing⟩

theorem boxVariable_derives {name : String} {span : Span} (hready : w.Ready k)
    (h : boxArgument ⟨.var, .var name, span⟩ span mode w = .ok operand w₂) :
    Hands k (.var name span) mode w operand w₂ := by
  obtain ⟨v, middle, hlookup, hv⟩ := bind_eq_ok.mp h
  obtain ⟨hfind, rfl⟩ := lookup_eq_ok hlookup
  change middle.context.symbols.find? name = some v at hfind
  have hname := hready.consistent.name_of_find? hfind
  rw [boxVariable_eq, hname] at hv
  cases hboxing : v.type.boxing? name with
  | some boxing =>
    rw [hboxing] at hv
    simp only [storeArgument_run] at hv
    cases hv
    exact ⟨hready.box mode boxing,
      .store hready.consistent (by simp [Context.boxing?, hfind, hboxing])⟩
  | none =>
    rw [hboxing] at hv
    simp only at hv
    split at hv
    · next hboxed =>
      cases hv
      exact ⟨hready, .pass hready.consistent hfind hboxed⟩
    · cases hv

theorem boxFresh_run {ctx : Context} (hconsistent : ctx.symbols.Consistent)
    (hsymbols : w.context.symbols = (ctx.symbols.allocate .heapTemporary).2) (span place : Span) :
    boxArgument ⟨.var, .var ctx.fresh.target.name, span⟩ place mode w =
      .ok (.var ctx.fresh.target.name) w := by
  have hlookup : lookup ctx.fresh.target.name place w = .ok ctx.fresh.target w := by
    simp [lookup, Context.lookup, hsymbols, hconsistent.find?_allocate]
  change (lookup ctx.fresh.target.name place >>= fun v => boxVariable v place mode) w = _
  rw [bind_run, hlookup]
  simp only [boxVariable_eq, Context.fresh_target, SymbolTable.allocate_type,
    VariableType.boxing?, if_true]
  rfl

theorem boxCall_derives {function : String} {arguments : List Expression} {span : Span}
    {compiled : Compiled} (mode : ArgumentMode) (hconsistent : w.context.symbols.Consistent)
    (hcompiles : Compiles k ⟨function, arguments, span⟩ .anywhere w.context compiled w₁.context)
    (hknowledge : w₁.compiler.knowledge = k) :
    ∃ operand w₂, boxArgument compiled span mode w₁ = .ok operand w₂ ∧
      Hands k (.call function arguments span) mode w operand w₂ := by
  have hready : w₁.Ready k := ⟨hknowledge, hcompiles.grows.consistent⟩
  generalize hctx : w₁.context = ctx₁ at hcompiles
  cases hcompiles with
  | @condition contract inner _ _ _ hshape harguments =>
    refine ⟨_, _, storeArgument_run mode (contract.conditionBoxing inner) w₁,
      hready.box mode _, ?_⟩
    rw [hctx]
    exact .condition hconsistent hshape harguments
  | @delivered routine inner destination _ _ ctx₂ _ hshape harguments hdestination hboxed =>
    cases hdestination
    refine ⟨_, _, boxFresh_run harguments.grows.consistent (by simp [hctx]) span span, hready, ?_⟩
    rw [hctx]
    exact .routine hconsistent hshape harguments

end Arguments

section Recursion

variable {k : Knowledge}

mutual

theorem boxArgument_derives (hfollows : k.FollowsCalls) (argument : Expression)
    {mode : ArgumentMode} {w w₁ w₂ : Workspace} {compiled : Compiled} {operand : Operand}
    (hready : w.Ready k)
    (hcompile : compileExpression argument w = .ok compiled w₁)
    (hbox : boxArgument compiled argument.span mode w₁ = .ok operand w₂) :
    Hands k argument mode w operand w₂ := by
  cases argument with
  | literal value span =>
    cases hcompile
    exact boxLiteral_derives hready hbox
  | var name span =>
    cases hcompile
    exact boxVariable_derives hready hbox
  | call function arguments span =>
    have hcall : compileCallWith ⟨function, arguments, span⟩ .anywhere (boxArguments arguments) w =
        .ok compiled w₁ := hcompile
    obtain ⟨hcompiles, hknowledge⟩ := compileCallWith_derives hfollows
      (fun hrun hready => boxArguments_derives hfollows arguments hready hrun) hready hcall
    obtain ⟨_, _, hrun, hhands⟩ := boxCall_derives mode hready.consistent hcompiles hknowledge
    cases hbox.symm.trans hrun
    exact hhands

theorem boxArguments_derives (hfollows : k.FollowsCalls) (arguments : List Expression)
    {mode : ArgumentMode} {w w' : Workspace} {operands : List Operand} (hready : w.Ready k)
    (h : boxArguments arguments mode w = .ok operands w') :
    Boxes k arguments mode w.context operands w'.context ∧ w'.compiler.knowledge = k := by
  cases arguments with
  | nil =>
    cases h
    exact ⟨.nil hready.consistent, hready.knowledge⟩
  | cons argument rest =>
    obtain ⟨compiled, w₁, hcompile, h⟩ := bind_eq_ok.mp h
    obtain ⟨operand, w₂, hbox, h⟩ := bind_eq_ok.mp h
    obtain ⟨operands, w₃, hrest, hpure⟩ := bind_eq_ok.mp h
    cases hpure
    have hhands := boxArgument_derives hfollows argument hready hcompile hbox
    obtain ⟨hboxes, hknowledge⟩ := boxArguments_derives hfollows rest hhands.ready hrest
    exact ⟨hhands.derives hboxes, hknowledge⟩

end

theorem compileCall_derives (hfollows : k.FollowsCalls) {call : Call} {demand : Demand}
    {w w' : Workspace} {result : Compiled} (hready : w.Ready k)
    (h : compileCall call demand w = .ok result w') :
    Compiles k call demand w.context result w'.context ∧ w'.compiler.knowledge = k :=
  compileCallWith_derives hfollows
    (fun hrun hready => boxArguments_derives hfollows call.arguments hready hrun) hready h

end Recursion

end BoxedCalls
