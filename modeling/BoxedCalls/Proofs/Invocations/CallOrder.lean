import BoxedCalls.Proofs.Ownership.Discipline

namespace BoxedCalls

structure CallNode where
  call : Call
  wanted : Bool
  deriving Repr

namespace CallNode

def contract? (node : CallNode) : Option HelperContract :=
  (Builtin.contract? (Text.lowercase node.call.function)).filter fun contract =>
    node.call.arguments.length = contract.parameterCount &&
      (contract.result = .boolean || node.wanted)

def isIdle (node : CallNode) : Bool :=
  !node.wanted && node.contract?.any (·.result = .boolean)

end CallNode

mutual

def Expression.callNodes : Expression → List CallNode
  | .literal _ _ => []
  | .var _ _ => []
  | .call function arguments span =>
      allCallNodes arguments ++ [⟨⟨function, arguments, span⟩, true⟩]

def Expression.allCallNodes : List Expression → List CallNode
  | [] => []
  | argument :: rest => argument.callNodes ++ allCallNodes rest

end

mutual

theorem Expression.wanted_of_mem_callNodes (argument : Expression) {node : CallNode}
    (h : node ∈ argument.callNodes) : node.wanted = true := by
  cases argument with
  | literal value span => cases h
  | var name span => cases h
  | call function arguments span =>
    rcases List.mem_append.mp h with hinner | hroot
    · exact wanted_of_mem_allCallNodes arguments hinner
    · rw [List.mem_singleton.mp hroot]

theorem Expression.wanted_of_mem_allCallNodes (arguments : List Expression) {node : CallNode}
    (h : node ∈ allCallNodes arguments) : node.wanted = true := by
  cases arguments with
  | nil => cases h
  | cons argument rest =>
    rcases List.mem_append.mp h with hfirst | hrest
    · exact wanted_of_mem_callNodes argument hfirst
    · exact wanted_of_mem_allCallNodes rest hrest

end

theorem Expression.filter_allCallNodes (arguments : List Expression) :
    (allCallNodes arguments).filter (!·.isIdle) = allCallNodes arguments := by
  rw [List.filter_eq_self]
  intro node hmem
  simp [CallNode.isIdle, wanted_of_mem_allCallNodes arguments hmem]

def Statement.callNodes : Statement → List CallNode
  | .call c => Expression.allCallNodes c.arguments ++ [⟨c, false⟩]
  | .assign _ c => Expression.allCallNodes c.arguments ++ [⟨c, true⟩]

def CallUnit.callNodes (unit : CallUnit) : List CallNode :=
  unit.statements.flatMap Statement.callNodes

def Instruction.invokes : Instruction → Bool
  | callFunction _ _ _ => true
  | kernelCall _ _ => true
  | storeBool _ (.predicate _ _) => true
  | _ => false

inductive CallNode.InvokedBy (node : CallNode) : Instruction → Prop where
  | name {destination operands} (hcontract : node.contract? = none)
      (hdestination : destination.isSome = node.wanted)
      (hoperands : operands.length = node.call.arguments.length) :
      node.InvokedBy (.callFunction (Text.lowercase node.call.function) destination operands)
  | helper {contract target operands} (hcontract : node.contract? = some contract)
      (hresult : contract.result = .boxedValue)
      (hoperands : operands.length = node.call.arguments.length) :
      node.InvokedBy
        (.kernelCall contract.symbol (target :: operands ++ contract.trailingOperands))
  | condition {contract target operands} (hcontract : node.contract? = some contract)
      (hresult : contract.result = .boolean)
      (hoperands : operands.length = node.call.arguments.length) :
      node.InvokedBy
        (.storeBool target (.predicate contract.symbol (operands ++ contract.trailingOperands)))

section Shapes

variable {host : HostFunctions} {call : Call} {wanted : Bool}

theorem CallNode.contract?_of_shape_condition {contract : HelperContract}
    (h : (Compiler.new host .builtin).knowledge.shape (Text.lowercase call.function)
      call.arguments.length wanted = .condition contract) :
    CallNode.contract? ⟨call, wanted⟩ = some contract ∧ contract.result = .boolean := by
  obtain ⟨hcontract, hresult, hcount⟩ :=
    (Compiler.usesContracts_new host (.inl rfl)).of_shape_condition h
  simp [contract?, hcontract, hresult, hcount]

theorem CallNode.contract?_of_shape_helper {contract : HelperContract}
    (h : (Compiler.new host .builtin).knowledge.shape (Text.lowercase call.function)
      call.arguments.length wanted = .routine (.helper contract)) :
    CallNode.contract? ⟨call, wanted⟩ = some contract ∧ contract.result = .boxedValue := by
  obtain ⟨hcontract, hresult, hcount⟩ :=
    (Compiler.usesContracts_new host (.inl rfl)).of_shape_helper h
  have hwanted := Knowledge.wanted_of_shape_helper h
  simp [contract?, hcontract, hresult, hcount, hwanted]

theorem CallNode.contract?_of_shape_function {mode : ArgumentMode}
    (h : (Compiler.new host .builtin).knowledge.shape (Text.lowercase call.function)
      call.arguments.length wanted = .routine (.function mode)) :
    CallNode.contract? ⟨call, wanted⟩ = none := by
  have hcarrier := (carrier_of_shape_routine call h).2.2
  simp only [Call.site, Routine.carrier, Builtin.carrier] at hcarrier
  unfold contract?
  cases hcontract : Builtin.contract? (Text.lowercase call.function) with
  | none => rfl
  | some contract =>
    rw [hcontract] at hcarrier
    by_cases hcount : call.arguments.length = contract.parameterCount
    · cases hresult : contract.result <;> simp [hresult, hcount] at hcarrier ⊢
      exact hcarrier
    · simp [hcount]

theorem Routine.invokedBy {routine : Routine}
    (h : (Compiler.new host .builtin).knowledge.shape (Text.lowercase call.function)
      call.arguments.length wanted = .routine routine)
    {operands : List Operand} (hoperands : operands.length = call.arguments.length)
    {destination : Option Operand} (hdestination : destination.isSome = wanted) :
    CallNode.InvokedBy ⟨call, wanted⟩
      (routine.instruction (Text.lowercase call.function) operands destination) := by
  cases routine with
  | helper contract =>
    have hwanted := Knowledge.wanted_of_shape_helper h
    obtain ⟨hcontract, hresult⟩ := CallNode.contract?_of_shape_helper h
    rw [hwanted] at hdestination
    obtain ⟨target, rfl⟩ := Option.isSome_iff_exists.mp hdestination
    exact .helper hcontract hresult hoperands
  | function mode => exact .name (CallNode.contract?_of_shape_function h) hdestination hoperands

end Shapes

namespace Context

def invocations (ctx : Context) : List Instruction :=
  ctx.instructions.filter Instruction.invokes

theorem invocations_emit (ctx : Context) (instruction : Instruction) :
    (ctx.emit instruction).invocations =
      ctx.invocations ++ [instruction].filter Instruction.invokes := by
  rw [invocations, emit_instructions, List.filter_append]
  rfl

theorem invocations_allocate (ctx : Context) (storage : Storage) :
    (ctx.allocate storage).2.invocations = ctx.invocations := by
  cases storage <;> simp [invocations, Variable.initialization, Instruction.invokes]

theorem invocations_openFor (ctx : Context) (destination : Destination) :
    (ctx.openFor destination).invocations = ctx.invocations := by
  cases hreused : destination.reused <;>
    simp [invocations, Destination.opening, hreused, Instruction.invokes]

theorem invocations_box (ctx : Context) (mode : ArgumentMode) (boxing : Boxing) :
    (ctx.box mode boxing).2.invocations =
      ctx.invocations ++
        [boxing.store mode (ctx.allocate mode.storage).1.handle].filter Instruction.invokes := by
  rw [box, invocations_emit, invocations_allocate]

end Context

def Invokes (nodes : List CallNode) (before after : Context) : Prop :=
  ∃ emitted, after.invocations = before.invocations ++ emitted ∧
    List.Forall₂ CallNode.InvokedBy nodes emitted

namespace Invokes

variable {first second third : Context} {nodes later : List CallNode}

theorem of_invocations_eq (h : second.invocations = first.invocations) : Invokes [] first second :=
  ⟨[], by rw [h, List.append_nil], .nil⟩

theorem single {node : CallNode} {instruction : Instruction}
    (hinvocations : second.invocations = first.invocations ++ [instruction])
    (h : node.InvokedBy instruction) : Invokes [node] first second :=
  ⟨[instruction], hinvocations, .cons h .nil⟩

theorem trans (h₁ : Invokes nodes first second) (h₂ : Invokes later second third) :
    Invokes (nodes ++ later) first third :=
  Context.Emits.trans h₁ h₂

theorem of_start (hsame : second.instructions = first.instructions)
    (h : Invokes nodes second third) : Invokes nodes first third :=
  Context.Emits.of_start hsame h

end Invokes

section Derivations

variable {host : HostFunctions} {ctx ctx' : Context}

theorem VariableType.invokes_boxing? {type : VariableType} {name : String} {boxing : Boxing}
    (h : type.boxing? name = some boxing) (mode : ArgumentMode) (target : Operand) :
    (boxing.store mode target).invokes = false := by
  cases type <;> cases h <;> rfl

theorem Literal.invokes_boxing? {value : Literal} {boxing : Boxing}
    (h : value.boxing? = some boxing) (mode : ArgumentMode) (target : Operand) :
    (boxing.store mode target).invokes = false := by
  cases value with
  | null => cases h
  | bool value => cases h; cases value <;> rfl
  | _ => cases h; rfl

theorem Invokes.box {argument : Expression} {boxing : Boxing}
    (h : ctx.boxing? argument = some boxing) (mode : ArgumentMode) :
    Invokes argument.callNodes ctx (ctx.box mode boxing).2 := by
  have hstore : ∀ target, (boxing.store mode target).invokes = false := by
    intro target
    cases argument with
    | literal value span => exact Literal.invokes_boxing? h mode target
    | var name span =>
      obtain ⟨v, _, hboxing⟩ := Option.bind_eq_some_iff.mp h
      exact VariableType.invokes_boxing? hboxing mode target
    | call function arguments span => cases h
  have hsame : (ctx.box mode boxing).2.invocations = ctx.invocations := by
    rw [Context.invocations_box, List.filter_singleton, hstore]
    exact List.append_nil _
  cases argument with
  | literal value span => exact .of_invocations_eq hsame
  | var name span => exact .of_invocations_eq hsame
  | call function arguments span => cases h

theorem Invokes.boxCondition (call : Call) {contract : HelperContract} {operands : List Operand}
    (hshape : (Compiler.new host .builtin).knowledge.shape (Text.lowercase call.function)
      call.arguments.length true = .condition contract)
    (hoperands : operands.length = call.arguments.length) (mode : ArgumentMode) :
    Invokes [⟨call, true⟩] ctx (ctx.box mode (contract.conditionBoxing operands)).2 := by
  obtain ⟨hcontract, hresult⟩ := CallNode.contract?_of_shape_condition hshape
  exact .single (ctx.invocations_box mode _) (.condition hcontract hresult hoperands)

theorem Invokes.deliver (call : Call) {routine : Routine} {operands : List Operand}
    (hshape : (Compiler.new host .builtin).knowledge.shape (Text.lowercase call.function)
      call.arguments.length true = .routine routine)
    (hoperands : operands.length = call.arguments.length) (destination : Destination) :
    Invokes [⟨call, true⟩] ctx
      (ctx.deliver routine (Text.lowercase call.function) operands destination) := by
  have hinvoked : CallNode.InvokedBy ⟨call, true⟩ (routine.instruction
      (Text.lowercase call.function) operands (some (.var destination.target.name))) :=
    routine.invokedBy hshape hoperands rfl
  have hannounced : (routine.announceCall ctx).invocations = ctx.invocations := by
    rw [Context.invocations, Routine.announceCall_instructions]
    rfl
  refine .single ?_ hinvoked
  rw [Context.deliver, Context.invocations_emit, Context.invocations_openFor, hannounced]
  cases routine <;> rfl

theorem Boxes.invokes {arguments : List Expression} {mode : ArgumentMode} {operands : List Operand}
    (h : Boxes (Compiler.new host .builtin).knowledge arguments mode ctx operands ctx') :
    Invokes (Expression.allCallNodes arguments) ctx ctx' ∧
      operands.length = arguments.length := by
  induction h with
  | nil _ => exact ⟨.of_invocations_eq rfl, rfl⟩
  | @store argument boxing rest mode ctx operands ctx' hconsistent hboxing hrest ih =>
    exact ⟨(Invokes.box hboxing mode).trans ih.1, congrArg (· + 1) ih.2⟩
  | @pass name span v rest mode ctx operands ctx' hconsistent hfind hboxed hrest ih =>
    exact ⟨ih.1, congrArg (· + 1) ih.2⟩
  | @condition function arguments span contract inner ctx₁ rest mode ctx operands ctx' hconsistent
      hshape harguments hrest iharguments ihrest =>
    have hinner : Invokes (Expression.allCallNodes arguments) ctx ctx₁ :=
      iharguments.1.of_start (by simp)
    have hstored : Invokes [⟨⟨function, arguments, span⟩, true⟩] ctx₁
        (ctx₁.box mode (contract.conditionBoxing inner)).2 :=
      .boxCondition ⟨function, arguments, span⟩ hshape iharguments.2 mode
    exact ⟨(hinner.trans hstored).trans ihrest.1, congrArg (· + 1) ihrest.2⟩
  | @routine function arguments span routine inner ctx₁ rest mode ctx operands ctx' hconsistent
      hshape harguments hrest iharguments ihrest =>
    have hinner : Invokes (Expression.allCallNodes arguments) ctx ctx₁ :=
      iharguments.1.of_start (by simp)
    have hallocated : Invokes [] ctx₁ (ctx₁.allocate .heapTemporary).2 :=
      .of_invocations_eq (ctx₁.invocations_allocate .heapTemporary)
    have hdelivered : Invokes [⟨⟨function, arguments, span⟩, true⟩]
        (ctx₁.allocate .heapTemporary).2
        ((ctx₁.allocate .heapTemporary).2.deliver routine (Text.lowercase function) inner
          ctx₁.fresh) :=
      .deliver ⟨function, arguments, span⟩ hshape iharguments.2 ctx₁.fresh
    exact ⟨(hinner.trans (hallocated.trans hdelivered)).trans ihrest.1,
      congrArg (· + 1) ihrest.2⟩

theorem Context.invocations_assign_condition (v : Variable) (isRead : Bool)
    (contract : HelperContract) (operands : List Operand) (span : Span) :
    ∃ target, (ctx.assign v isRead ⟨.bool, contract.condition operands, span⟩).invocations =
      ctx.invocations ++ [.storeBool target (contract.condition operands)] := by
  cases isRead with
  | true =>
    refine ⟨ctx.fresh.target.handle, ?_⟩
    change (ctx.storeApart v.handle ⟨.bool, contract.condition operands, span⟩).invocations = _
    rw [storeApart, invocations_emit, invocations_emit, invocations_allocate]
    exact List.append_nil _
  | false =>
    refine ⟨v.handle, ?_⟩
    change (ctx.storeInto v.handle ⟨.bool, contract.condition operands, span⟩).invocations = _
    rw [storeInto, invocations_emit, invocations_emit]
    exact congrArg (· ++ _) (List.append_nil _)

theorem Context.invocations_copy (target : Operand) (source : Code) :
    (ctx.copy target source).invocations = ctx.invocations := by
  unfold copy
  split
  · rfl
  · rw [invocations_emit]
    exact List.append_nil _

theorem Binds.invocations_eq {call : Call} {demand : Demand} {destination : Destination}
    (h : Binds call demand ctx destination ctx') : ctx'.invocations = ctx.invocations := by
  cases h with
  | anywhere => exact ctx.invocations_allocate .heapTemporary
  | apart _ _ => exact ctx.invocations_allocate .heapTemporary
  | reused _ _ => rfl

theorem Performs.invokes {statement : Statement}
    (h : Performs (Compiler.new host .builtin).knowledge statement ctx ctx') :
    Invokes (statement.callNodes.filter (!·.isIdle)) ctx ctx' := by
  cases h with
  | @call call result _ _ hcompiles =>
    rw [Statement.callNodes, List.filter_append, Expression.filter_allCallNodes]
    cases hcompiles with
    | @condition contract arguments _ _ _ hshape harguments =>
      obtain ⟨hcontract, hresult⟩ := CallNode.contract?_of_shape_condition hshape
      have hidle : CallNode.isIdle ⟨call, false⟩ = true := by
        rw [CallNode.isIdle, show CallNode.contract? ⟨call, false⟩ = _ from hcontract]
        simp [hresult]
      rw [List.filter_singleton, hidle]
      exact (harguments.invokes.1.of_start (by simp)).trans (.of_invocations_eq rfl)
    | @discarded mode arguments _ ctx₁ hshape harguments =>
      have hcontract := CallNode.contract?_of_shape_function hshape
      have hkept : CallNode.isIdle ⟨call, false⟩ = false := by
        rw [CallNode.isIdle, hcontract]
        rfl
      have hnamed : CallNode.InvokedBy ⟨call, false⟩
          (.callFunction (Text.lowercase call.function) none arguments) :=
        .name hcontract rfl harguments.invokes.2
      have hcalled : Invokes [⟨call, false⟩] ctx₁
          (ctx₁.discard (.function mode) (Text.lowercase call.function) arguments) := by
        refine .single ?_ hnamed
        rw [Context.invocations, Context.discard_instructions, List.filter_append]
        rfl
      rw [List.filter_singleton, hkept]
      exact (harguments.invokes.1.of_start (by simp)).trans hcalled
    | delivered _ _ hdestination _ => exact absurd rfl hdestination.wanted
  | @assign name call result v _ ctx₁ hcompiles hfind hboxed =>
    rw [Statement.callNodes, List.filter_append, Expression.filter_allCallNodes,
      List.filter_singleton]
    cases hcompiles with
    | @condition contract arguments _ _ _ hshape harguments =>
      obtain ⟨hcontract, hresult⟩ := CallNode.contract?_of_shape_condition hshape
      obtain ⟨target, hstored⟩ := ctx₁.invocations_assign_condition v
        (call.argumentsRead name) contract arguments call.span
      exact (harguments.invokes.1.of_start (by simp)).trans
        (.single hstored (.condition hcontract hresult harguments.invokes.2))
    | @delivered routine arguments destination _ _ ctx₂ ctx₃ hshape harguments hdestination _ =>
      have hbound : Invokes [] ctx₂ ctx₃ := .of_invocations_eq hdestination.invocations_eq
      have hdelivered : Invokes [⟨call, true⟩] ctx₃
          (ctx₃.deliver routine (Text.lowercase call.function) arguments destination) :=
        .deliver call hshape harguments.invokes.2 destination
      refine (harguments.invokes.1.of_start (by simp)).trans
        (hbound.trans (hdelivered.trans (.of_invocations_eq ?_)))
      exact Context.invocations_copy _ _

theorem Runs.invokes {statements : List Statement}
    (h : Runs (Compiler.new host .builtin).knowledge statements ctx ctx') :
    Invokes ((statements.flatMap Statement.callNodes).filter (!·.isIdle)) ctx ctx' := by
  induction h with
  | nil _ => exact .of_invocations_eq rfl
  | cons hperforms _ ih =>
    rw [List.flatMap_cons, List.filter_append]
    exact hperforms.invokes.trans ih

end Derivations

theorem invocations_follow_calls {host : HostFunctions} {unit : CallUnit}
    {compiled : CompiledFunction} (h : (compileUnit unit (.new host .builtin)).1 = .ok compiled) :
    List.Forall₂ CallNode.InvokedBy (unit.callNodes.filter (!·.isIdle))
      (compiled.context.instructions.filter Instruction.invokes) := by
  have hfollows := (Compiler.usesContracts_new host (.inl rfl)).followsCalls
  obtain ⟨emitted, hemitted, hnodes⟩ := (compileUnit_runs hfollows h).invokes
  rw [Context.invocations, Context.invocations, declareAll_instructions] at hemitted
  rw [hemitted]
  exact hnodes

def CallUnit.nestedCalls : CallUnit where
  functionName := "f"
  declarations := [⟨"text", .boxed⟩]
  statements := [
    .call ⟨"starts_with", [.call "Foo" [] {}, .call "Camelize" [.var "text" {}] {}], {}⟩,
    .assign "text"
      ⟨"bar", [.call "memstr" [.var "text" {}, .call "foo" [] {}] {}], {}⟩]

def nestedCallsCode : List Instruction := [
  .init (.var "_0"),
  .callFunction "foo" (some (.var "_0")) [],
  .init (.var "_1"),
  .kernelCall "zephir_camelize" [.var "_1", .var "text"],
  .init (.var "_2"),
  .callFunction "foo" (some (.var "_2")) [],
  .init (.var "_3"),
  .storeBool (.var "_3") (.predicate "zephir_memnstr" [.var "text", .var "_2"]),
  .init (.var "_4"),
  .callFunction "bar" (some (.var "_4")) [.var "_3"],
  .copyOnWrite (.var "text") (.var "_4")]

theorem nestedCalls_in_order :
    ∃ compiled, (compileUnit .nestedCalls (.new .standard .builtin)).1 = .ok compiled ∧
      compiled.context.instructions = nestedCallsCode ∧
      List.Forall₂ CallNode.InvokedBy (CallUnit.nestedCalls.callNodes.filter (!·.isIdle))
        (nestedCallsCode.filter Instruction.invokes) := by
  have hcode : acceptedCode .nestedCalls (.new .standard .builtin) = some nestedCallsCode := by
    decide +kernel
  obtain ⟨compiled, hcompiled, hinstructions⟩ := acceptedCode_eq_some_iff.mp hcode
  refine ⟨compiled, hcompiled, hinstructions, ?_⟩
  rw [← hinstructions]
  exact invocations_follow_calls hcompiled

end BoxedCalls
