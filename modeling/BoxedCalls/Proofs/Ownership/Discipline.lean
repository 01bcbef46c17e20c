import BoxedCalls.Proofs.Ownership.Advances

namespace BoxedCalls

section Shapes

variable {host : HostFunctions} (call : Call) {wanted : Bool}

theorem carrier_of_shape_condition {contract : HelperContract}
    (h : (Compiler.new host .builtin).knowledge.shape (Text.lowercase call.function)
      call.arguments.length wanted = .condition contract) :
    (call.site wanted).carrier = .condition contract := by
  rw [Compiler.shape_new] at h
  change Builtin.carrier _ _ _ = _
  cases hcarrier : Builtin.carrier (Text.lowercase call.function) call.arguments.length wanted with
  | name => rw [hcarrier] at h; cases h
  | helper other => rw [hcarrier] at h; cases h
  | condition other => rw [hcarrier] at h; cases h; rfl

theorem carrier_of_shape_routine {routine : Routine}
    (h : (Compiler.new host .builtin).knowledge.shape (Text.lowercase call.function)
      call.arguments.length wanted = .routine routine) :
    (call.site wanted).isCondition = false ∧ routine.mode = (call.site wanted).mode host ∧
      (call.site wanted).carrier = routine.carrier := by
  rw [Compiler.shape_new] at h
  unfold CallSite.isCondition CallSite.mode Call.site
  cases hcarrier : Builtin.carrier (Text.lowercase call.function) call.arguments.length wanted with
  | name => rw [hcarrier] at h; cases h; exact ⟨rfl, rfl, rfl⟩
  | helper other => rw [hcarrier] at h; cases h; exact ⟨rfl, rfl, rfl⟩
  | condition other => rw [hcarrier] at h; cases h

theorem CallSite.mode_of_condition {site : CallSite} {contract : HelperContract}
    (h : site.carrier = .condition contract) (host : HostFunctions) : site.mode host = .lent := by
  rw [mode, h]

theorem CallSite.isCondition_of_condition {site : CallSite} {contract : HelperContract}
    (h : site.carrier = .condition contract) : site.isCondition = true := by
  rw [isCondition, h]

variable (host : HostFunctions) (types : String → Option VariableType) (mode : ArgumentMode)

theorem steps_of_condition {contract : HelperContract}
    (h : (call.site true).carrier = .condition contract) :
    (Expression.ofCall call).steps host types mode =
      Expression.allSteps host types .lent call.arguments ++
        [.call (call.site true), .box (.ofCall call) mode] := by
  obtain ⟨function, arguments, span⟩ := call
  rw [Expression.ofCall, Expression.steps, CallSite.mode_of_condition h,
    CallSite.isCondition_of_condition h]
  rfl

theorem steps_of_routine (h : (call.site true).isCondition = false) :
    (Expression.ofCall call).steps host types mode =
      Expression.allSteps host types ((call.site true).mode host) call.arguments ++
        [.call (call.site true)] := by
  obtain ⟨function, arguments, span⟩ := call
  rw [Expression.ofCall, Expression.steps, h]
  rfl

end Shapes

section Steps

variable {host : HostFunctions} {declarations : List Declaration} {final : SymbolTable}

variable (host) in
theorem boxing?_needsContainer {types : String → Option VariableType} {ctx : Context}
    {argument : Expression} {boxing : Boxing} (hboxing : ctx.boxing? argument = some boxing)
    (hfind : ∀ name, argument.reads name = true →
      ctx.symbols.find? name = (types name).map fun type => ⟨name, .named, type⟩)
    (mode : ArgumentMode) :
    argument.needsContainer types = true ∧ argument.steps host types mode = [.box argument mode] ∧
      boxing.tests = [] := by
  cases argument with
  | literal value span =>
    refine ⟨rfl, rfl, ?_⟩
    cases value with
    | null => cases hboxing
    | bool value => cases hboxing; cases value <;> rfl
    | _ => cases hboxing; rfl
  | var name span =>
    rw [Context.boxing?, hfind name (by simp [Expression.reads])] at hboxing
    cases htype : types name with
    | none => rw [htype] at hboxing; cases hboxing
    | some type =>
      rw [htype] at hboxing
      change type.boxing? name = some boxing at hboxing
      have hunboxed : type ≠ .boxed := by
        rintro rfl
        cases hboxing
      refine ⟨by simp [Expression.needsContainer, htype, hunboxed],
        by simp [Expression.steps, htype, hunboxed], ?_⟩
      cases type <;> cases hboxing <;> rfl
  | call function arguments span => cases hboxing

theorem Routine.emits_instruction {site : CallSite} {operands : List Operand}
    {types : String → Option VariableType} (routine : Routine) (target : String)
    (hmode : routine.mode = site.mode host)
    (hcarrier : site.carrier = routine.carrier)
    (harguments : List.Forall₂ (HandsOver types final routine.mode) site.arguments operands) :
    ∃ emission, (routine.instruction site.function operands (some (.var target))).emissions =
        [emission] ∧ PassingStep.Emits host types final (.call site) emission := by
  cases routine with
  | helper contract => exact ⟨_, rfl, .helper hcarrier harguments⟩
  | function mode => exact ⟨_, rfl, .name hcarrier (hmode ▸ harguments)⟩

theorem Boxes.advances {arguments : List Expression} {mode : ArgumentMode} {ctx ctx' : Context}
    {operands : List Operand}
    (h : Boxes (Compiler.new host .builtin).knowledge arguments mode ctx operands ctx')
    (hextends : (declareAll declarations).symbols.Extends ctx.symbols)
    (hnames : ∀ name, Expression.anyReads name arguments = true →
      declaredType declarations name ≠ none)
    (hfinal : ctx'.symbols.Extends final) :
    Advances host (declaredType declarations) final
        (Expression.allSteps host (declaredType declarations) mode arguments) ctx ctx' ∧
      List.Forall₂ (HandsOver (declaredType declarations) final mode) arguments operands := by
  induction h with
  | nil _ => exact ⟨.of_emissions_eq rfl, .nil⟩
  | @store argument boxing rest mode ctx operands ctx' hconsistent hboxing hrest ih =>
    obtain ⟨hfirst, hothers⟩ := Expression.forall_anyReads_cons.mp hnames
    have hbox := Context.Grows.box hconsistent mode boxing
    have hafter := hrest.grows.symbols.trans hfinal
    have hfind : ∀ name, argument.reads name = true → ctx.symbols.find? name =
        (declaredType declarations name).map fun type => ⟨name, .named, type⟩ :=
      fun name hread => hextends.find?_settled (.of_declared (hfirst name hread))
    obtain ⟨hneeds, hsteps, htests⟩ := boxing?_needsContainer host hboxing hfind mode
    obtain ⟨hadvances, hhands⟩ := ih (hextends.trans hbox.symbols) hothers hfinal
    refine ⟨?_, .cons (box_handsOver hconsistent hafter hneeds) hhands⟩
    rw [Expression.allSteps, hsteps]
    have hstored := Context.emissions_box ctx mode boxing
    rw [htests, List.append_nil] at hstored
    exact (Advances.single hstored (box_emits hconsistent hafter argument)).trans hadvances
  | @pass name span v rest mode ctx operands ctx' hconsistent hfind hboxed hrest ih =>
    obtain ⟨hfirst, hothers⟩ := Expression.forall_anyReads_cons.mp hnames
    have hdeclared := hfirst name (by simp [Expression.reads])
    have hsame := hextends.find?_settled (.of_declared hdeclared)
    rw [hfind] at hsame
    obtain ⟨type, htype, rfl⟩ := Option.map_eq_some_iff.mp hsame.symm
    have hboxedType : declaredType declarations name = some .boxed := by rw [htype, ← hboxed]
    obtain ⟨hadvances, hhands⟩ := ih hextends hothers hfinal
    refine ⟨?_, .cons (.var hboxedType) hhands⟩
    simpa [Expression.allSteps, Expression.steps, hboxedType] using hadvances
  | @condition function arguments span contract inner ctx₁ rest mode ctx operands ctx' hconsistent
      hshape harguments hrest iharguments ihrest =>
    obtain ⟨hfirst, hothers⟩ := Expression.forall_anyReads_cons.mp hnames
    have hcarrier := carrier_of_shape_condition ⟨function, arguments, span⟩ hshape
    have hafter := hrest.grows.symbols.trans hfinal
    have hbox := Context.Grows.box harguments.grows.consistent mode
      (contract.conditionBoxing inner)
    have hgrows := harguments.grows.of_announced.trans hbox
    obtain ⟨hinner, hinnerHands⟩ := iharguments (by simpa using hextends) hfirst
      (hbox.symbols.trans hafter)
    obtain ⟨hadvances, hhands⟩ := ihrest (hextends.trans hgrows.symbols) hothers hfinal
    have hneeds : (Expression.call function arguments span).needsContainer
        (declaredType declarations) = true := CallSite.isCondition_of_condition hcarrier
    have hstored : Advances host (declaredType declarations) final
        [.call (Call.site ⟨function, arguments, span⟩ true),
          .box (.call function arguments span) mode]
        ctx₁ (ctx₁.box mode (contract.conditionBoxing inner)).2 := by
      refine ⟨_, ?_, .cons (.condition hcarrier hinnerHands)
        (.cons (box_emits harguments.grows.consistent hafter _) .nil)⟩
      rw [Context.emissions_box, List.append_assoc]
      rfl
    refine ⟨?_, .cons (box_handsOver harguments.grows.consistent hafter hneeds) hhands⟩
    have hsteps := steps_of_condition _ host (declaredType declarations) mode hcarrier
    rw [Expression.allSteps]
    rw [Expression.ofCall] at hsteps
    rw [hsteps]
    exact ((hinner.of_start (by simp)).trans hstored).trans hadvances
  | @routine function arguments span routine inner ctx₁ rest mode ctx operands ctx' hconsistent
      hshape harguments hrest iharguments ihrest =>
    obtain ⟨hfirst, hothers⟩ := Expression.forall_anyReads_cons.mp hnames
    obtain ⟨hboxed, hmode, hcarrier⟩ :=
      carrier_of_shape_routine ⟨function, arguments, span⟩ hshape
    have hafter := hrest.grows.symbols.trans hfinal
    have hdeliver := Context.Grows.deliverFresh harguments.grows.consistent routine
      (Text.lowercase function) inner
    have hgrows := harguments.grows.of_prepared.trans hdeliver
    obtain ⟨hinner, hinnerHands⟩ := iharguments (by simpa using hextends) hfirst
      (hdeliver.symbols.trans hafter)
    obtain ⟨hadvances, hhands⟩ := ihrest (hextends.trans hgrows.symbols) hothers hfinal
    obtain ⟨emission, hemissions, hemits⟩ := routine.emits_instruction ctx₁.fresh.target.name
      hmode hcarrier hinnerHands
    have hcalled : Advances host (declaredType declarations) final
        [.call (Call.site ⟨function, arguments, span⟩ true)] ctx₁
        ((ctx₁.allocate .heapTemporary).2.deliver routine (Text.lowercase function) inner
          ctx₁.fresh) := by
      refine .single ?_ hemits
      rw [Context.emissions_deliver, Context.emissions_allocate]
      exact congrArg (ctx₁.emissions ++ ·) hemissions
    rw [Context.deliver_symbols, Context.allocate_symbols] at hafter
    refine ⟨?_, .cons (fresh_handsOver harguments.grows.consistent hafter hboxed) hhands⟩
    have hsteps := steps_of_routine _ host (declaredType declarations) mode hboxed
    rw [Expression.allSteps]
    rw [Expression.ofCall] at hsteps
    rw [hsteps, ← hmode]
    exact ((hinner.of_start (by simp)).trans hcalled).trans hadvances

theorem Performs.advances {statement : Statement} {ctx ctx' : Context}
    (h : Performs (Compiler.new host .builtin).knowledge statement ctx ctx')
    (hextends : (declareAll declarations).symbols.Extends ctx.symbols)
    (hnames : ∀ name, statement.mentions name = true → declaredType declarations name ≠ none)
    (hfinal : ctx'.symbols.Extends final) :
    Advances host (declaredType declarations) final
      (statement.steps host (declaredType declarations)) ctx ctx' := by
  cases h with
  | @call call result _ _ hcompiles =>
    cases hcompiles with
    | @condition contract arguments _ _ _ hshape harguments =>
      have hcarrier : (call.site false).carrier = .condition contract :=
        carrier_of_shape_condition call (by simpa using hshape)
      obtain ⟨hinner, _⟩ := harguments.advances (by simpa using hextends) hnames hfinal
      rw [Statement.steps, CallSite.mode_of_condition hcarrier,
        CallSite.isCondition_of_condition hcarrier, if_pos rfl, List.append_nil]
      exact hinner.of_start (by simp)
    | @discarded mode arguments _ ctx₁ hshape harguments =>
      obtain ⟨hboxed, hmode, hcarrier⟩ := carrier_of_shape_routine call hshape
      obtain ⟨hinner, hhands⟩ := harguments.advances (by simpa using hextends) hnames
        (by simpa using hfinal)
      change mode = _ at hmode
      rw [Statement.steps, hboxed, ← hmode]
      refine (hinner.of_start (by simp)).trans (.single ?_ (.name hcarrier (hmode ▸ hhands)))
      simp [Context.emissions, Routine.instruction, Instruction.emissions, Call.site]
    | delivered _ _ hdestination _ => exact absurd rfl hdestination.wanted
  | @assign name call result v _ ctx₁ hcompiles hfind hboxed =>
    have hassign := Context.Grows.assign hcompiles.grows.consistent v (call.argumentsRead name)
      result
    have hafter := hassign.symbols.trans hfinal
    obtain ⟨hdeclared, hread⟩ := Statement.forall_mentions_assign.mp hnames
    have hsame := (hextends.trans hcompiles.grows.symbols).find?_settled (.of_declared hdeclared)
    rw [hfind] at hsame
    obtain ⟨type, _, rfl⟩ := Option.map_eq_some_iff.mp hsame.symm
    cases hcompiles with
    | @condition contract arguments _ _ _ hshape harguments =>
      have hcarrier : (call.site true).carrier = .condition contract :=
        carrier_of_shape_condition call (by simpa using hshape)
      obtain ⟨hinner, hhands⟩ := harguments.advances (by simpa using hextends) hread hafter
      obtain ⟨stored, hstored⟩ := Context.emissions_assign_condition ctx₁
        (v := ⟨name, .named, type⟩) rfl (call.argumentsRead name) contract arguments call.span
      rw [Statement.steps, CallSite.mode_of_condition hcarrier,
        CallSite.isCondition_of_condition hcarrier, if_pos rfl]
      exact (hinner.of_start (by simp)).trans
        ⟨_, hstored, .cons (.condition hcarrier hhands) (.cons .keep .nil)⟩
    | @delivered routine arguments destination _ _ ctx₂ ctx₃ hshape harguments hdestination _ =>
      obtain ⟨hcondition, hmode, hcarrier⟩ := carrier_of_shape_routine call hshape
      have hbound := hdestination.grows harguments.grows.consistent
      rw [Context.deliver_symbols] at hafter
      obtain ⟨hinner, hhands⟩ := harguments.advances (by simpa using hextends) hread
        (hbound.symbols.trans hafter)
      obtain ⟨emission, hemissions, hemits⟩ :=
        routine.emits_instruction destination.target.name hmode hcarrier hhands
      rw [Statement.steps, hcondition, ← hmode]
      refine (hinner.of_start (by simp)).trans (.single ?_ hemits)
      change (Context.copy _ _ _).emissions = _
      rw [Context.emissions_copy, Context.emissions_deliver, hdestination.emissions_eq]
      exact congrArg (ctx₂.emissions ++ ·) hemissions

theorem Runs.advances {statements : List Statement} {ctx ctx' : Context}
    (h : Runs (Compiler.new host .builtin).knowledge statements ctx ctx')
    (hextends : (declareAll declarations).symbols.Extends ctx.symbols)
    (hnames : ∀ statement ∈ statements, ∀ name, statement.mentions name = true →
      declaredType declarations name ≠ none)
    (hfinal : ctx'.symbols.Extends final) :
    Advances host (declaredType declarations) final
      (statements.flatMap (·.steps host (declaredType declarations))) ctx ctx' := by
  induction h with
  | nil _ => exact .of_emissions_eq rfl
  | cons hperforms hrest ih =>
    obtain ⟨hfirst, hothers⟩ := List.forall_mem_cons.mp hnames
    have hadvances := hperforms.advances hextends hfirst (hrest.grows.symbols.trans hfinal)
    exact hadvances.trans (ih (hextends.trans hperforms.grows.symbols) hothers hfinal)

end Steps

section Units

variable {host : HostFunctions} {unit : CallUnit} {compiled : CompiledFunction}

theorem compileUnit_advances (hdeclared : ∀ name, unit.mentions name = true → unit.declares name)
    (h : (compileUnit unit (.new host .builtin)).1 = .ok compiled) :
    List.Forall₂
      (PassingStep.Emits host (declaredType unit.declarations) compiled.context.symbols)
      (unit.steps host) compiled.context.emissions := by
  have hfollows := (Compiler.usesContracts_new host (.inl rfl)).followsCalls
  obtain ⟨emitted, hemitted, hsteps⟩ := (compileUnit_runs hfollows h).advances (.refl _)
    (CallUnit.declaredType_of_mentions hdeclared) (.refl _)
  have hstart : (declareAll unit.declarations).emissions = [] := by
    rw [Context.emissions, declareAll_instructions]
    rfl
  rw [hemitted, hstart]
  exact hsteps

section Forall

variable {types : String → Option VariableType} {table : SymbolTable} {steps : List PassingStep}
  {instructions : List Instruction}

theorem duplicate_of_emits
    (h : List.Forall₂ (PassingStep.Emits host types table) steps
      (instructions.flatMap Instruction.emissions))
    {instruction : Instruction} (hmem : instruction ∈ instructions) {target : Operand}
    {duplicate : Bool} (hstores : instruction.storesString target duplicate) :
    ∃ number,
      table.HasTemporary .stackTemporary number ∧ target = .addressOf (temporaryName number) ∧
          duplicate = false ∨
        table.HasTemporary .heapTemporary number ∧ target = .var (temporaryName number) ∧
          duplicate = true := by
  have hemission : Emission.stored target (some duplicate) ∈
      instructions.flatMap Instruction.emissions := by
    refine List.mem_flatMap.mpr ⟨instruction, hmem, ?_⟩
    cases instruction <;>
      first
        | exact absurd hstores id
        | (obtain ⟨rfl, rfl⟩ := hstores; exact List.mem_singleton_self _)
  obtain ⟨step, _, hemits⟩ := exists_of_forall₂_of_mem h hemission
  cases hemits with
  | owned hcontainer hduplicate =>
    refine ⟨_, .inr ⟨hcontainer, rfl, ?_⟩⟩
    simpa using hduplicate
  | lent hcontainer hduplicate =>
    refine ⟨_, .inl ⟨hcontainer, rfl, ?_⟩⟩
    simpa using hduplicate

theorem HostFunctions.of_lends {function : String} {arity : Nat}
    (h : host.lends function arity = true) :
    Builtin.contains function = false ∧ ∃ signature, host.signatureOf? function = some signature ∧
      ∀ i < arity, signature.parameters[i]? ≠ some .byReference := by
  rw [lends, Bool.and_eq_true, Bool.not_eq_true', Option.any_eq_true] at h
  obtain ⟨hbuiltin, signature, hsignature, hlends⟩ := h
  refine ⟨hbuiltin, signature, hsignature, ?_⟩
  intro i hi hreference
  have hmem : Passing.byReference ∈ signature.parameters.take arity :=
    List.mem_of_getElem? (by rw [List.getElem?_take_of_lt hi, hreference])
  have hany : signature.anyByReference arity = true :=
    List.any_eq_true.mpr ⟨_, hmem, by decide⟩
  rw [hany] at hlends
  cases hlends

theorem HandsOver.mode_of_borrowed {declarations : List Declaration}
    (hextends : (declareAll declarations).symbols.Extends table) {mode : ArgumentMode}
    {argument : Expression} {operand : Operand}
    (h : HandsOver (declaredType declarations) table mode argument operand) {v : Variable}
    (hv : operand.container?.bind table.find? = some v)
    (hborrowed : v.storage.ownership = .borrowed) :
    mode = .lent := by
  cases h with
  | owned _ hcontainer =>
    cases hcontainer.symm.trans hv
    cases hborrowed
  | lent _ _ => rfl
  | var hboxed =>
    have hfind := hextends.find?_settled (.of_declared (Option.ne_none_iff_exists'.mpr ⟨_, hboxed⟩))
    rw [hboxed] at hfind
    cases hfind.symm.trans hv
    cases hborrowed
  | result _ hcontainer =>
    cases hcontainer.symm.trans hv
    cases hborrowed

theorem borrowed_of_emits {declarations : List Declaration}
    (hextends : (declareAll declarations).symbols.Extends table)
    (h : List.Forall₂ (PassingStep.Emits host (declaredType declarations) table) steps
      (instructions.flatMap Instruction.emissions))
    {function : String} {destination : Option Operand} {operands : List Operand}
    (hmem : .callFunction function destination operands ∈ instructions)
    {operand : Operand} (hoperand : operand ∈ operands) {v : Variable}
    (hv : operand.container?.bind table.find? = some v)
    (hborrowed : v.storage.ownership = .borrowed) :
    Builtin.contains function = false ∧ ∃ signature, host.signatureOf? function = some signature ∧
      ∀ i < operands.length, signature.parameters[i]? ≠ some .byReference := by
  have hemission : Emission.called function operands ∈
      instructions.flatMap Instruction.emissions :=
    List.mem_flatMap.mpr ⟨_, hmem, List.mem_singleton_self _⟩
  obtain ⟨step, _, hemits⟩ := exists_of_forall₂_of_mem h hemission
  cases hemits with
  | @name site _ hcarrier harguments =>
    obtain ⟨argument, _, hhands⟩ := exists_of_forall₂_of_mem harguments hoperand
    have hmode := hhands.mode_of_borrowed hextends hv hborrowed
    rw [CallSite.mode, hcarrier] at hmode
    have hlends : host.lends site.function site.arguments.length = true := by
      cases hlends : host.lends site.function site.arguments.length with
      | true => rfl
      | false =>
        rw [hlends] at hmode
        cases hmode
    rw [← harguments.length_eq]
    exact HostFunctions.of_lends hlends

end Forall

theorem arguments_follow_ownership
    (hdeclared : ∀ name, unit.mentions name = true → unit.declares name)
    (h : (compileUnit unit (.new host .builtin)).1 = .ok compiled) :
    List.Forall₂
        (PassingStep.Emits host (declaredType unit.declarations) compiled.context.symbols)
        (unit.steps host) (compiled.context.instructions.flatMap Instruction.emissions) ∧
      (∀ instruction ∈ compiled.context.instructions, ∀ target duplicate,
        instruction.storesString target duplicate →
          ∃ number,
            compiled.context.symbols.HasTemporary .stackTemporary number ∧
                target = .addressOf (temporaryName number) ∧ duplicate = false ∨
              compiled.context.symbols.HasTemporary .heapTemporary number ∧
                target = .var (temporaryName number) ∧ duplicate = true) ∧
      (∀ function destination operands,
        .callFunction function destination operands ∈ compiled.context.instructions →
          ∀ operand ∈ operands, ∀ v,
            operand.container?.bind compiled.context.symbols.find? = some v →
              v.storage.ownership = .borrowed →
                Builtin.contains function = false ∧
                  ∃ signature, host.signatureOf? function = some signature ∧
                    ∀ i < operands.length, signature.parameters[i]? ≠ some .byReference) := by
  have hadvances := compileUnit_advances hdeclared h
  have hfollows := (Compiler.usesContracts_new host (.inl rfl)).followsCalls
  have hextends := (compileUnit_runs hfollows h).grows.symbols
  refine ⟨hadvances, ?_, ?_⟩
  · intro instruction hmem target duplicate hstores
    exact duplicate_of_emits hadvances hmem hstores
  · intro function destination operands hmem operand hoperand v hv hborrowed
    exact borrowed_of_emits hextends hadvances hmem hoperand hv hborrowed

end Units

def CallUnit.lendingText : CallUnit where
  functionName := "f"
  declarations := [⟨"size", .boxed⟩]
  statements := [
    .assign "size" ⟨"strlen", [.literal (.string "lent") {}], {}⟩,
    .call ⟨"foo", [.literal (.string "copied") {}], {}⟩]

def lendingTextCode : List Instruction := [
  .storeString (.addressOf "_0") (.quoted "lent") false,
  .reinit (.var "size"),
  .callFunction "strlen" (some (.var "size")) [.addressOf "_0"],
  .init (.var "_1"),
  .storeString (.var "_1") (.quoted "copied") true,
  .callFunction "foo" none [.var "_1"]]

theorem lendingText_follows_ownership :
    ∃ compiled, (compileUnit .lendingText (.new .standard .builtin)).1 = .ok compiled ∧
      compiled.context.instructions = lendingTextCode ∧
      List.Forall₂
        (PassingStep.Emits .standard (declaredType CallUnit.lendingText.declarations)
          compiled.context.symbols)
        (CallUnit.lendingText.steps .standard)
        (compiled.context.instructions.flatMap Instruction.emissions) := by
  have hdeclared : ∀ name, CallUnit.lendingText.mentions name = true →
      CallUnit.lendingText.declares name := by
    intro name hmentions
    have hname : "size" = name := by
      simpa [CallUnit.mentions, CallUnit.lendingText, Statement.mentions, Call.argumentsRead,
        Expression.anyReads, Expression.reads] using hmentions
    subst hname
    decide
  have hcode : acceptedCode .lendingText (.new .standard .builtin) = some lendingTextCode := by
    decide +kernel
  obtain ⟨compiled, hcompiled, hinstructions⟩ := acceptedCode_eq_some_iff.mp hcode
  exact ⟨compiled, hcompiled, hinstructions, (arguments_follow_ownership hdeclared hcompiled).1⟩

end BoxedCalls
