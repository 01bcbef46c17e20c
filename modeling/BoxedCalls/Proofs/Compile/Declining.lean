import BoxedCalls.Proofs.Compile.Pairs

namespace BoxedCalls

open CompileM

inductive Optimizer.IsHelper : Optimizer → Prop where
  | boolean (contract : HelperContract) : IsHelper (.booleanHelper contract)
  | boxed (contract : HelperContract) : IsHelper (.boxedHelper contract)

theorem Optimizer.IsHelper.eq_pure_none {helper : Optimizer} (hhelper : helper.IsHelper)
    {call : Call} {demand : Demand} {box : ArgumentMode → CompileM (List Operand)}
    {w w' : Workspace} (h : helper.compile call demand box w = .ok none w') :
    helper.compile call demand box = pure none := by
  cases hhelper with
  | boolean contract =>
    by_cases hcount : call.arguments.length = contract.parameterCount
    · simp only [Optimizer.compile, compileBooleanHelper, hcount, ne_eq, not_true_eq_false,
        if_false, bind_eq_ok] at h
      obtain ⟨_, _, _, _, _, _, hvalue⟩ := h
      cases hvalue
    · simp only [Optimizer.compile, compileBooleanHelper, hcount, ne_eq, not_false_eq_true,
        if_true]
  | boxed contract =>
    by_cases htaken : call.arguments.length = contract.parameterCount ∧ demand ≠ .nothing
    · obtain ⟨hcount, hdemand⟩ := htaken
      simp only [Optimizer.compile, compileBoxedHelper, hcount, ne_eq, not_true_eq_false,
        decide_false, hdemand, Bool.or_self, Bool.false_eq_true, if_false, bind_eq_ok] at h
      obtain ⟨_, _, _, _, _, _, destination, _, hchoice, hrest⟩ := h
      -- Once the arguments are boxed there is no way back: a wanted value has a destination.
      cases destination with
      | none => exact absurd hchoice (Knowledge.chooseDestination_ne_none hdemand)
      | some destination =>
        simp only [bind_eq_ok] at hrest
        obtain ⟨_, _, _, _, _, _, _, _, _, hvalue⟩ := hrest
        cases hvalue
    · exact Knowledge.boxedHelper_declined htaken

def compileByName (call : Call) (demand : Demand) : CompileM Compiled := do
  let function := Text.lowercase call.function
  let known ← knows function
  if !known then
    warn (.unknownFunction function call.span)
  Knowledge.askAndCall call demand (boxArguments call.arguments) known

theorem compileByName_run (call : Call) (demand : Demand) (w : Workspace) :
    compileByName call demand w =
      Knowledge.askAndCall call demand (boxArguments call.arguments)
        (w.compiler.knowledge.known (Text.lowercase call.function))
        ⟨w.compiler, w.compiler.knowledge.announce (Text.lowercase call.function) call.span
          w.context⟩ := by
  unfold compileByName
  rw [bind_run, knows_run]
  simp only
  unfold Knowledge.announce
  cases w.compiler.knowledge.known (Text.lowercase call.function) <;> rfl

namespace Pairing

def same (k : Knowledge) : Pairing where
  knowledge := k
  Related := Eq

theorem same_lookup (k : Knowledge) (name : String) (span : Span) :
    (same k).Runs (fun _ => True) (lookup name span) := by
  intro w w' h
  have hcontexts : w.context = w'.context := h.contexts
  unfold CompileM.lookup
  rw [hcontexts]
  cases w'.context.lookup name span with
  | ok v => exact .ok trivial h
  | error error => exact .error h

theorem same_allocate (k : Knowledge) (storage : Storage) :
    (same k).Runs (fun _ => True) (allocate storage) := by
  intro w w' h
  have hcontexts : w.context = w'.context := h.contexts
  unfold CompileM.allocate
  rw [hcontexts]
  exact .ok trivial ⟨h.knows, h.knows_other, rfl⟩

theorem same_compositional (k : Knowledge) :
    Compositional (fun name known => known = k.known name)
      (fun x => (same k).Runs (fun _ => True) x) where
  pure _ := .pure trivial
  fail cause span _ := .fail cause span
  bind hx hf := hx.bind fun a _ => hf a
  emit _ := .modifyContext (congrArg (Context.emit · _))
  require _ := .modifyContext (congrArg (Context.require · _))
  warn _ := .modifyContext (congrArg (Context.warn · _))
  allocate _ := same_allocate k _
  lookup := same_lookup k
  knows _ _ hf := .knows_bind (hf _ rfl)
  resolveOptimizer := .resolveOptimizer
  decline := .decline
  isReadOnly count span _ hknown := .isReadOnly hknown.symm count span

end Pairing

section Calls

variable {compiler : Compiler} {call : Call} {demand : Demand}

theorem outcome_eq_compileByName (ctx : Context)
    (h : ∀ rest ctx, (optimize (Text.lowercase call.function) call demand
          (boxArguments call.arguments) >>= Knowledge.valueOr rest) ⟨compiler, ctx⟩ =
        rest ⟨compiler.afterLookup (Text.lowercase call.function), ctx⟩) :
    (compileCall call demand).outcome compiler ctx =
      (compileByName call demand).outcome compiler ctx := by
  have hcompositional := Pairing.same_compositional compiler.knowledge
  have hruns := hcompositional.askAndCall call demand
    (hcompositional.boxArguments call.arguments) rfl
  have hpaired : (Pairing.same compiler.knowledge).Workspaces
      ⟨compiler.afterLookup (Text.lowercase call.function),
        compiler.knowledge.announce (Text.lowercase call.function) call.span ctx⟩
      ⟨compiler, compiler.knowledge.announce (Text.lowercase call.function) call.span ctx⟩ :=
    ⟨compiler.knowledge_afterLookup _, rfl, rfl⟩
  obtain ⟨hvalue, hcontext⟩ := hruns.outcome hpaired
  unfold compileCall CompileM.outcome at *
  rw [Knowledge.compileCallWith_announced, h, compileByName_run]
  exact Prod.ext hvalue hcontext

theorem outcome_of_no_optimizer
    (hnone : compiler.knowledge.optimizer (Text.lowercase call.function) = none) (ctx : Context) :
    (compileCall call demand).outcome compiler ctx =
      (compileByName call demand).outcome compiler ctx := by
  refine outcome_eq_compileByName ctx fun rest ctx => ?_
  rw [Knowledge.optimize_run, hnone]

theorem outcome_of_declined {helper : Optimizer}
    (hsome : compiler.knowledge.optimizer (Text.lowercase call.function) = some helper)
    (hdeclined : helper.compile call demand (boxArguments call.arguments) = pure none)
    (ctx : Context) :
    (compileCall call demand).outcome compiler ctx =
      (compileByName call demand).outcome compiler ctx := by
  refine outcome_eq_compileByName ctx fun rest ctx => ?_
  rw [Knowledge.optimize_run, hsome]
  simp only [hdeclined, pure_bind, Knowledge.valueOr]

end Calls

theorem declined_helpers_leave_no_trace :
    (∀ helper : Optimizer, helper.IsHelper → ∀ call demand box w w',
        helper.compile call demand box w = .ok none w' → w' = w) ∧
      (∀ (compiler : Compiler) (call : Call) (demand : Demand) (helper : Optimizer),
        helper.IsHelper →
        (compiler.optimizers.resolve (Text.lowercase call.function)).1 = some helper →
        (∃ w w', helper.compile call demand (boxArguments call.arguments) w = .ok none w') →
        ∀ ctx, (compileCall call demand).outcome compiler ctx =
          (compileByName call demand).outcome compiler ctx) ∧
      ∀ (compiler : Compiler) (call : Call) (demand : Demand),
        (compiler.optimizers.resolve (Text.lowercase call.function)).1 = none →
        ∀ ctx, (compileCall call demand).outcome compiler ctx =
          (compileByName call demand).outcome compiler ctx := by
  refine ⟨?_, ?_, ?_⟩
  · intro helper hhelper call demand box w w' h
    rw [hhelper.eq_pure_none h] at h
    cases h
    rfl
  · rintro compiler call demand helper hhelper hsome ⟨w, w', h⟩
    exact outcome_of_declined hsome (hhelper.eq_pure_none h)
  · intro compiler call demand hnone
    exact outcome_of_no_optimizer hnone

def Call.overfull : Call :=
  ⟨"Camelize", [.call "camelize" [.var "text" {}] {}, .literal (.int 1) {}], {}⟩

def Call.sized : Call :=
  ⟨"strlen", [.call "camelize" [.var "text" {}] {}], {}⟩

def Call.overfullCode : List Instruction := [
  .init (.var "_0"),
  .kernelCall "zephir_camelize" [.var "_0", .var "text"],
  .init (.var "_1"),
  .storeLong (.var "_1") (.integer 1),
  .init (.var "_2"),
  .callFunction "camelize" (some (.var "_2")) [.var "_0", .var "_1"]]

theorem overfull_declined :
    let ctx := declareAll [⟨"text", .boxed⟩]
    (∃ helper : Optimizer, helper.IsHelper ∧
      (Compiler.standard.optimizers.resolve "camelize").1 = some helper ∧
      (∀ w w', helper.compile .overfull .anywhere (boxArguments Call.overfull.arguments) w =
        .ok none w' → w' = w) ∧
      helper.compile .overfull .anywhere (boxArguments Call.overfull.arguments)
        ⟨.standard, ctx⟩ = .ok none ⟨.standard, ctx⟩) ∧
      (compileCall .overfull .anywhere).outcome .standard ctx =
        (compileByName .overfull .anywhere).outcome .standard ctx ∧
      ((compileCall .overfull .anywhere).outcome .standard ctx).2.instructions =
        Call.overfullCode ∧
      (compileCall .sized .nothing).outcome .standard ctx =
        (compileByName .sized .nothing).outcome .standard ctx := by
  intro ctx
  have hhelper := Optimizer.IsHelper.boxed
    ⟨"camelize", "zephir_camelize", stringHeader, 1, [], .boxedValue⟩
  have hresolved : (Compiler.standard.optimizers.resolve (Text.lowercase "Camelize")).1 =
      some (.boxedHelper ⟨"camelize", "zephir_camelize", stringHeader, 1, [], .boxedValue⟩) := by
    decide +kernel
  have hname : Text.lowercase "Camelize" = "camelize" := by decide +kernel
  obtain ⟨htrace, houtcome, hnone⟩ := declined_helpers_leave_no_trace
  refine ⟨⟨_, hhelper, hname ▸ hresolved, htrace _ hhelper _ _ _, rfl⟩, ?_, by decide +kernel, ?_⟩
  · exact houtcome _ .overfull _ _ hhelper hresolved ⟨⟨.standard, ctx⟩, _, rfl⟩ ctx
  · exact hnone _ .sized _ (by decide +kernel) ctx

end BoxedCalls
