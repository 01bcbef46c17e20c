import BoxedCalls.Proofs.Invocations.Helpers
import BoxedCalls.Proofs.Scope.Changes

namespace BoxedCalls

namespace Context

variable (ctx : Context)

@[simp] theorem emit_headers (instruction : Instruction) :
    (ctx.emit instruction).headers = ctx.headers := rfl

@[simp] theorem allocate_headers (storage : Storage) :
    (ctx.allocate storage).2.headers = ctx.headers := by
  cases storage <;> rfl

theorem mem_require_headers {header other : String} :
    other ∈ (ctx.require header).headers.names ↔ other = header ∨ other ∈ ctx.headers.names :=
  HeaderSet.mem_insertInto

@[simp] theorem announce_headers (k : Knowledge) (function : String) (span : Span) :
    (k.announce function span ctx).headers = ctx.headers := by
  unfold Knowledge.announce
  split <;> rfl

@[simp] theorem openFor_headers (destination : Destination) :
    (ctx.openFor destination).headers = ctx.headers := by
  unfold openFor
  split <;> rfl

@[simp] theorem box_headers (mode : ArgumentMode) (boxing : Boxing) :
    (ctx.box mode boxing).2.headers = ctx.headers := by
  simp [box]

@[simp] theorem assign_headers (v : Variable) (isRead : Bool) (value : Compiled) :
    (ctx.assign v isRead value).headers = ctx.headers := by
  unfold assign copy
  split
  · split <;> rfl
  · split
    · exact ctx.allocate_headers .heapTemporary
    · rfl

end Context

def CallNode.header (node : CallNode) : String :=
  node.contract?.elim callHeader HelperContract.header

def Requires (nodes : List CallNode) (before after : Context) : Prop :=
  ∀ header, header ∈ after.headers.names ↔
    header ∈ before.headers.names ∨ ∃ node ∈ nodes, node.header = header

namespace Requires

variable {first second third : Context} {nodes later : List CallNode}

theorem refl (ctx : Context) : Requires [] ctx ctx :=
  fun _ => by simp

theorem single {node : CallNode}
    (h : second.headers = (first.require node.header).headers) : Requires [node] first second := by
  intro header
  rw [h, first.mem_require_headers]
  simp [or_comm, eq_comm]

theorem trans (h₁ : Requires nodes first second) (h₂ : Requires later second third) :
    Requires (nodes ++ later) first third := by
  intro header
  rw [h₂ header, h₁ header, or_assoc]
  simp only [List.mem_append, or_and_right, exists_or]

theorem swap (h : Requires (nodes ++ later) first second) :
    Requires (later ++ nodes) first second := by
  intro header
  rw [h header]
  simp only [List.mem_append, or_comm]

theorem of_start (hsame : second.headers = first.headers) (h : Requires nodes second third) :
    Requires nodes first third := by
  intro header
  rw [h header, hsame]

theorem of_end (h : Requires nodes first second) (hsame : third.headers = second.headers) :
    Requires nodes first third := by
  intro header
  rw [hsame, h header]

end Requires

section Derivations

variable {host : HostFunctions} {ctx ctx' : Context} {call : Call} {wanted : Bool}
  {nodes : List CallNode}

theorem Requires.helper {k : Knowledge} {contract : HelperContract}
    (hcontract : CallNode.contract? ⟨call, wanted⟩ = some contract)
    (harguments : Requires nodes
      ((k.announce (Text.lowercase call.function) call.span ctx).require contract.header) ctx') :
    Requires (nodes ++ [⟨call, wanted⟩]) ctx ctx' := by
  have hroot : Requires [⟨call, wanted⟩] ctx
      ((k.announce (Text.lowercase call.function) call.span ctx).require contract.header) := by
    refine .single ?_
    rw [CallNode.header, hcontract, Context.require, Context.announce_headers]
    rfl
  exact (hroot.trans harguments).swap

theorem Requires.condition (call : Call) {contract : HelperContract}
    (hshape : (Compiler.new host .builtin).knowledge.shape (Text.lowercase call.function)
      call.arguments.length wanted = .condition contract)
    (harguments : Requires nodes
      (((Compiler.new host .builtin).knowledge.announce (Text.lowercase call.function) call.span
        ctx).require contract.header) ctx') :
    Requires (nodes ++ [⟨call, wanted⟩]) ctx ctx' :=
  .helper (CallNode.contract?_of_shape_condition hshape).1 harguments

theorem Requires.routine {routine : Routine} {middle : Context}
    (hshape : (Compiler.new host .builtin).knowledge.shape (Text.lowercase call.function)
      call.arguments.length wanted = .routine routine)
    (harguments : Requires nodes
      (routine.prepare ((Compiler.new host .builtin).knowledge.announce
        (Text.lowercase call.function) call.span ctx)) middle)
    (hcalled : ctx'.headers = (routine.announceCall middle).headers) :
    Requires (nodes ++ [⟨call, wanted⟩]) ctx ctx' := by
  cases routine with
  | helper contract =>
    -- required before the arguments of the call
    obtain ⟨hcontract, _⟩ := CallNode.contract?_of_shape_helper hshape
    exact (Requires.helper hcontract harguments).of_end hcalled
  | function mode =>
    -- required after them
    have hcalls : Requires [⟨call, wanted⟩] middle ctx' := by
      refine .single ?_
      rw [hcalled, CallNode.header, CallNode.contract?_of_shape_function hshape]
      rfl
    exact (harguments.trans hcalls).of_start (Context.announce_headers ..)

theorem Requires.stored {argument : Expression} {boxing : Boxing} (mode : ArgumentMode)
    (h : ctx.boxing? argument = some boxing) :
    Requires argument.callNodes ctx (ctx.box mode boxing).2 := by
  cases argument with
  | literal value span => exact (refl ctx).of_end (ctx.box_headers mode boxing)
  | var name span => exact (refl ctx).of_end (ctx.box_headers mode boxing)
  | call function arguments span => cases h

theorem Boxes.requires {arguments : List Expression} {mode : ArgumentMode}
    {operands : List Operand}
    (h : Boxes (Compiler.new host .builtin).knowledge arguments mode ctx operands ctx') :
    Requires (Expression.allCallNodes arguments) ctx ctx' := by
  induction h with
  | nil _ => exact .refl _
  | store _ hboxing _ ih => exact (Requires.stored _ hboxing).trans ih
  | pass _ _ _ _ ih => exact ih
  | @condition function arguments span contract inner ctx₁ rest mode ctx operands ctx' _ hshape _ _
      iharguments ihrest =>
    have hcall := Requires.condition ⟨function, arguments, span⟩ hshape iharguments
    exact (hcall.of_end (ctx₁.box_headers mode _)).trans ihrest
  | @routine function arguments span routine inner ctx₁ rest mode ctx operands ctx' _ hshape _ _
      iharguments ihrest =>
    have hcall : Requires
        (Expression.allCallNodes arguments ++ [⟨⟨function, arguments, span⟩, true⟩]) ctx
        ((ctx₁.allocate .heapTemporary).2.deliver routine (Text.lowercase function) inner
          ctx₁.fresh) := by
      refine Requires.routine hshape iharguments ?_
      cases routine <;> simp [Context.deliver, Routine.announceCall, Context.require]
    exact hcall.trans ihrest

theorem Binds.headers_eq {demand : Demand} {destination : Destination}
    (h : Binds call demand ctx destination ctx') : ctx'.headers = ctx.headers := by
  cases h with
  | anywhere => exact ctx.allocate_headers .heapTemporary
  | apart _ _ => exact ctx.allocate_headers .heapTemporary
  | reused _ _ => rfl

theorem Compiles.requires {demand : Demand} {result : Compiled}
    (h : Compiles (Compiler.new host .builtin).knowledge call demand ctx result ctx') :
    Requires (Expression.allCallNodes call.arguments ++ [⟨call, demand ≠ .nothing⟩]) ctx ctx' := by
  cases h with
  | condition hshape harguments => exact .condition call hshape harguments.requires
  | discarded hshape harguments =>
    exact Requires.routine hshape harguments.requires rfl
  | @delivered routine arguments destination _ _ ctx₁ ctx₂ hshape harguments hdestination _ =>
    have hwanted : decide (demand ≠ .nothing) = true := by simpa using hdestination.wanted
    rw [hwanted]
    refine Requires.routine hshape harguments.requires ?_
    cases routine <;>
      simp [Context.deliver, Routine.announceCall, Context.require, hdestination.headers_eq]

theorem Performs.requires {statement : Statement}
    (h : Performs (Compiler.new host .builtin).knowledge statement ctx ctx') :
    Requires statement.callNodes ctx ctx' := by
  cases h with
  | call hcompiles => exact hcompiles.requires
  | assign hcompiles _ _ => exact hcompiles.requires.of_end (Context.assign_headers ..)

theorem Runs.requires {statements : List Statement}
    (h : Runs (Compiler.new host .builtin).knowledge statements ctx ctx') :
    Requires (statements.flatMap Statement.callNodes) ctx ctx' := by
  induction h with
  | nil _ => exact .refl _
  | cons hperforms _ ih => exact hperforms.requires.trans ih

end Derivations

theorem Context.Changes.headers_sorted {calls : List Call} {p : String → Prop} {ctx ctx' : Context}
    (h : ctx.Changes calls p ctx') (hsorted : ctx.headers.names.Pairwise (· < ·)) :
    ctx'.headers.names.Pairwise (· < ·) := by
  induction h with
  | refl => exact hsorted
  | tail _ hchange ih =>
    cases hchange with
    | emit hcalls => exact ih
    | warn warning => exact ih
    | require header => exact HeaderSet.insertInto_sorted ih
    | allocate hstorage => rwa [allocate_headers]

theorem declareAll_headers (declarations : List Declaration) :
    (declareAll declarations).headers = {} := by
  induction declarations using List.reverseRecOn with
  | nil => rfl
  | append_singleton declarations last ih =>
    rw [declareAll_append]
    exact ih

theorem compileUnit_headers_sorted {compiler : Compiler} {unit : CallUnit}
    {compiled : CompiledFunction} (h : (compileUnit unit compiler).1 = .ok compiled) :
    compiled.headers.Pairwise (· < ·) := by
  unfold compileUnit EStateM.run at h
  split at h
  · next hrun =>
    cases h
    have hnames : (declareAll unit.declarations).Names fun _ => True :=
      ⟨fun _ => trivial, fun _ _ => trivial⟩
    have hbuilds := CompileM.Builds.compileStatements unit.statements (List.Subset.refl _)
      ⟨compiler, declareAll unit.declarations⟩ hnames
    rw [hrun] at hbuilds
    cases hbuilds with
    | ok _ hchanges =>
      refine hchanges.headers_sorted ?_
      rw [declareAll_headers]
      exact .nil
  · cases h

namespace CallNode

variable {node : CallNode}

theorem mem_contracts_of_contract? {contract : HelperContract}
    (h : node.contract? = some contract) : contract ∈ Builtin.contracts := by
  obtain ⟨hcontract, _⟩ := Option.filter_eq_some_iff.mp h
  exact (Builtin.contract?_eq_some hcontract).1

theorem header_of_contract? {contract : HelperContract} (h : node.contract? = some contract) :
    node.header = contract.header := by
  rw [header, h]
  rfl

theorem header_of_contracts : ∀ contract ∈ Builtin.contracts,
    contract.header = stringHeader ∨ contract.header = objectHeader := by
  decide

theorem header_eq_callHeader_iff : node.header = callHeader ↔ node.contract? = none := by
  cases hcontract : node.contract? with
  | none => simp [header, hcontract]
  | some contract =>
    rw [header_of_contract? hcontract]
    rcases header_of_contracts contract (mem_contracts_of_contract? hcontract) with h | h <;>
      simp [h, callHeader, stringHeader, objectHeader]

theorem header_eq_iff {header : String} (hne : header ≠ callHeader) :
    node.header = header ↔
      ∃ contract, node.contract? = some contract ∧ contract.header = header := by
  cases hcontract : node.contract? with
  | none => simp [CallNode.header, hcontract, hne.symm]
  | some contract => simp [header_of_contract? hcontract]

end CallNode

namespace Invokes

variable {nodes : List CallNode} {before after : Context} (h : Invokes nodes before after)
include h

theorem exists_instruction {node : CallNode} (hmem : node ∈ nodes) :
    ∃ instruction ∈ after.instructions, node.InvokedBy instruction := by
  obtain ⟨emitted, hemitted, hnodes⟩ := h
  obtain ⟨instruction, hinstruction, hinvoked⟩ := exists_of_forall₂_of_mem hnodes.flip hmem
  have hinvocation : instruction ∈ after.invocations := by
    rw [hemitted]
    exact List.mem_append_right _ hinstruction
  exact ⟨instruction, List.mem_of_mem_filter hinvocation, hinvoked⟩

theorem exists_node (hstart : before.instructions = []) {instruction : Instruction}
    (hmem : instruction ∈ after.instructions) (hinvokes : instruction.invokes = true) :
    ∃ node ∈ nodes, node.InvokedBy instruction := by
  obtain ⟨emitted, hemitted, hnodes⟩ := h
  have hinvocation : instruction ∈ after.invocations := List.mem_filter.mpr ⟨hmem, hinvokes⟩
  rw [hemitted, Context.invocations, hstart] at hinvocation
  exact exists_of_forall₂_of_mem hnodes hinvocation

end Invokes

theorem headers_are_exact {host : HostFunctions} {unit : CallUnit} {compiled : CompiledFunction}
    (h : (compileUnit unit (.new host .builtin)).1 = .ok compiled) :
    compiled.headers.Pairwise (· < ·) ∧
      (callHeader ∈ compiled.headers ↔ ∃ function destination arguments,
        .callFunction function destination arguments ∈ compiled.context.instructions) ∧
      (∀ header, header = stringHeader ∨ header = objectHeader →
        (header ∈ compiled.headers ↔ ∃ node ∈ unit.callNodes, ∃ contract,
          node.contract? = some contract ∧ contract.header = header)) ∧
      (∀ header ∈ compiled.headers,
        header = callHeader ∨ header = stringHeader ∨ header = objectHeader) ∧
      ∀ instruction ∈ compiled.context.instructions, ∀ symbol,
        instruction.helper? = some symbol →
          ∃ contract ∈ Builtin.contracts, contract.symbol = symbol ∧
            contract.header ∈ compiled.headers := by
  have hfollows := (Compiler.usesContracts_new host (.inl rfl)).followsCalls
  have hruns := compileUnit_runs hfollows h
  have hinvokes := hruns.invokes
  have hstart := declareAll_instructions unit.declarations
  have hrequired : ∀ header,
      header ∈ compiled.headers ↔ ∃ node ∈ unit.callNodes, node.header = header := by
    intro header
    have hrequires := hruns.requires header
    rw [declareAll_headers] at hrequires
    simpa [CompiledFunction.headers, CallUnit.callNodes] using hrequires
  have hheader : ∀ {node contract}, node ∈ unit.callNodes → node.contract? = some contract →
      contract.header ∈ compiled.headers := fun hnode hcontract =>
    (hrequired _).mpr ⟨_, hnode, CallNode.header_of_contract? hcontract⟩
  refine ⟨compileUnit_headers_sorted h, ?_, ?_, ?_, ?_⟩
  · rw [hrequired]
    constructor
    · rintro ⟨node, hnode, hcall⟩
      have hcontract := CallNode.header_eq_callHeader_iff.mp hcall
      have hkept : node ∈ unit.callNodes.filter (!·.isIdle) :=
        List.mem_filter.mpr ⟨hnode, by simp [CallNode.isIdle, hcontract]⟩
      obtain ⟨instruction, hmem, hinvoked⟩ := hinvokes.exists_instruction hkept
      cases hinvoked with
      | name _ _ _ => exact ⟨_, _, _, hmem⟩
      | helper hother _ _ => rw [hcontract] at hother; cases hother
      | condition hother _ _ => rw [hcontract] at hother; cases hother
    · rintro ⟨function, destination, arguments, hmem⟩
      obtain ⟨node, hnode, hinvoked⟩ := hinvokes.exists_node hstart hmem rfl
      cases hinvoked with
      | name hcontract _ _ =>
        exact ⟨node, List.mem_of_mem_filter hnode, CallNode.header_eq_callHeader_iff.mpr hcontract⟩
  · intro header hhelper
    have hne : header ≠ callHeader := by rcases hhelper with rfl | rfl <;> decide
    rw [hrequired]
    simp only [CallNode.header_eq_iff hne]
  · intro header hmem
    obtain ⟨node, _, rfl⟩ := (hrequired header).mp hmem
    cases hcontract : node.contract? with
    | none => exact .inl (CallNode.header_eq_callHeader_iff.mpr hcontract)
    | some contract =>
      rw [CallNode.header_of_contract? hcontract]
      exact .inr (CallNode.header_of_contracts _ (CallNode.mem_contracts_of_contract? hcontract))
  · intro instruction hmem symbol hhelper
    have hcarriesOut : instruction.invokes = true :=
      hruns.mentionsInvoked (.of_empty hstart) instruction hmem (by rw [hhelper]; rfl)
    obtain ⟨node, hnode, hinvoked⟩ := hinvokes.exists_node hstart hmem hcarriesOut
    obtain ⟨contract, hcontract, hsymbol⟩ := hinvoked.contract_of_helper? hhelper
    exact ⟨contract, CallNode.mem_contracts_of_contract? hcontract, hsymbol,
      hheader (List.mem_of_mem_filter hnode) hcontract⟩

def CallUnit.discardedValues : CallUnit where
  functionName := "f"
  declarations := [⟨"text", .boxed⟩]
  statements := [
    .call ⟨"starts_with", [.var "text" {}, .var "text" {}], {}⟩,
    .call ⟨"Get_Ns_Class", [.var "text" {}], {}⟩]

theorem discardedValues_headers :
    ∃ compiled, (compileUnit .discardedValues (.new .standard .builtin)).1 = .ok compiled ∧
      compiled.headers.Pairwise (· < ·) ∧ callHeader ∈ compiled.headers ∧
      stringHeader ∈ compiled.headers ∧ objectHeader ∉ compiled.headers := by
  have hcode : acceptedCode .discardedValues (.new .standard .builtin) =
      some [.callFunction "get_ns_class" none [.var "text"]] := by
    decide +kernel
  obtain ⟨compiled, hcompiled, hinstructions⟩ := acceptedCode_eq_some_iff.mp hcode
  obtain ⟨hsorted, hcall, hhelper, _⟩ := headers_are_exact hcompiled
  refine ⟨compiled, hcompiled, hsorted, ?_, ?_, ?_⟩
  · exact hcall.mpr ⟨"get_ns_class", none, [.var "text"], by rw [hinstructions]; decide⟩
  · rw [hhelper stringHeader (.inl rfl)]
    exact ⟨⟨⟨"starts_with", [.var "text" {}, .var "text" {}], {}⟩, false⟩,
      List.mem_cons_self .., ⟨"starts_with", "zephir_start_with", stringHeader, 2, ["NULL"],
        .boolean⟩, by decide +kernel, rfl⟩
  · rw [hhelper objectHeader (.inr rfl)]
    have habsent : ∀ node ∈ CallUnit.discardedValues.callNodes,
        ∀ contract ∈ node.contract?, contract.header ≠ objectHeader := by
      decide +kernel
    rintro ⟨node, hnode, contract, hcontract, hheader⟩
    exact habsent node hnode contract hcontract hheader

end BoxedCalls
