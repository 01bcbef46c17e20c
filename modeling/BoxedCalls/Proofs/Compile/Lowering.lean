import BoxedCalls.Proofs.Compile.Knowledge

namespace BoxedCalls

open CompileM

namespace Knowledge

variable (k : Knowledge)

def lowerByName (mode : ArgumentMode) (call : Call) (demand : Demand)
    (box : ArgumentMode → CompileM (List Operand)) : CompileM Compiled :=
  let function := Text.lowercase call.function
  if k.refuses function call.arguments.length then
    fail (.insufficientArguments function) call.span
  else do
    let arguments ← box mode
    let destination ← chooseDestination call demand
    emitCall function arguments destination call.span

def lowerCall (call : Call) (demand : Demand)
    (box : ArgumentMode → CompileM (List Operand)) : CompileM Compiled :=
  match k.shape (Text.lowercase call.function) call.arguments.length (demand ≠ .nothing) with
  | .condition contract => do
      require contract.header
      let arguments ← box .lent
      return ⟨.bool, .predicate contract.symbol (arguments ++ contract.trailingOperands), call.span⟩
  | .routine (.helper contract) => do
      require contract.header
      let arguments ← box .lent
      match ← chooseDestination call demand with
      | none => return ⟨.null, .null, call.span⟩
      | some destination => do
          checkBoxed destination call.span
          let target ← openDestination destination
          emit (.kernelCall contract.symbol (target :: arguments ++ contract.trailingOperands))
          return ⟨.var, .var destination.target.name, call.span⟩
  | .routine (.function mode) => k.lowerByName mode call demand box

end Knowledge

namespace CompileM

variable {α β : Type}

theorem bind_run (x : CompileM α) (f : α → CompileM β) (w : Workspace) :
    (x >>= f) w = match x w with
      | .ok a w => f a w
      | .error error w => .error error w := by
  change EStateM.bind x f w = _
  unfold EStateM.bind
  cases x w <;> rfl

theorem bind_eq_ok {x : CompileM α} {f : α → CompileM β} {w w' : Workspace} {b : β} :
    (x >>= f) w = .ok b w' ↔ ∃ a middle, x w = .ok a middle ∧ f a middle = .ok b w' := by
  rw [bind_run]
  constructor
  · intro h
    cases hx : x w with
    | ok a middle => rw [hx] at h; exact ⟨a, middle, rfl, h⟩
    | error error middle => rw [hx] at h; cases h
  · rintro ⟨a, middle, hx, hf⟩
    rw [hx]
    exact hf

theorem require_bind_run (header : String) (f : Unit → CompileM β) (w : Workspace) :
    (require header >>= f) w = f () { w with context := w.context.require header } := rfl

theorem resolveOptimizer_run (name : String) (w : Workspace) :
    resolveOptimizer name w =
      .ok (w.compiler.knowledge.optimizer name)
        { w with compiler := w.compiler.afterLookup name } := rfl

theorem knows_run (name : String) (w : Workspace) :
    knows name w = .ok (w.compiler.knowledge.known name) w := rfl

end CompileM

namespace Knowledge

theorem isReadOnly_run {name : String} (w : Workspace) (count : Nat) (span : Span)
    (hknown : w.compiler.knowledge.known name = true) :
    isReadOnly name count span w =
      if w.compiler.knowledge.refuses name count then
        .error ⟨.insufficientArguments name, span⟩
          { w with compiler := w.compiler.afterQuestion name count span }
      else
        .ok (w.compiler.knowledge.lends name count)
          { w with compiler := w.compiler.afterQuestion name count span } := by
  cases hbuiltin : Builtin.contains name with
  | true =>
    simp [isReadOnly, refuses, lends, hbuiltin, SignatureCache.isReadOnly_of_builtin,
      Compiler.afterQuestion]
  | false =>
    have hsignature : (w.compiler.signatures.signatureOf w.compiler.host name).1 =
        w.compiler.knowledge.signature name := rfl
    simp only [isReadOnly, Compiler.afterQuestion,
      SignatureCache.isReadOnly_of_not_builtin hbuiltin, hsignature, refuses, lends, hknown,
      hbuiltin]
    cases w.compiler.knowledge.signature name with
    | none => simp
    | some signature =>
      by_cases hcount : count < signature.required <;> simp [hcount]

theorem chooseDestination_ne_none {call : Call} {demand : Demand} (h : demand ≠ .nothing)
    {w w' : Workspace} : chooseDestination call demand w ≠ .ok none w' := by
  intro hrun
  cases demand with
  | nothing => exact h rfl
  | anywhere =>
    obtain ⟨v, middle, _, hpure⟩ := bind_eq_ok.mp hrun
    cases hpure
  | inVariable name =>
    obtain ⟨v, middle, _, hrest⟩ := bind_eq_ok.mp hrun
    split at hrest
    · obtain ⟨v, middle, _, hpure⟩ := bind_eq_ok.mp hrest
      cases hpure
    · cases hrest

variable (call : Call) (demand : Demand) (box : ArgumentMode → CompileM (List Operand))

def askAndCall (known : Bool) : CompileM Compiled := do
  let function := Text.lowercase call.function
  let readOnly ←
    if known then isReadOnly function call.arguments.length call.span else pure false
  let arguments ← box (if readOnly then .lent else .owned)
  let destination ← chooseDestination call demand
  emitCall function arguments destination call.span

theorem askAndCall_run (w : Workspace) :
    ∃ compiler, compiler.knowledge = w.compiler.knowledge ∧
      askAndCall call demand box (w.compiler.knowledge.known (Text.lowercase call.function)) w =
        w.compiler.knowledge.lowerByName
          (w.compiler.knowledge.mode (Text.lowercase call.function) call.arguments.length)
          call demand box ⟨compiler, w.context⟩ := by
  cases hknown : w.compiler.knowledge.known (Text.lowercase call.function) with
  | false =>
    refine ⟨w.compiler, rfl, ?_⟩
    simp [askAndCall, lowerByName, refuses, mode, lends, hknown]
  | true =>
    refine ⟨w.compiler.afterQuestion (Text.lowercase call.function) call.arguments.length call.span,
      by simp, ?_⟩
    simp only [askAndCall, if_true]
    rw [bind_run, isReadOnly_run w call.arguments.length call.span hknown]
    cases hrefuses : w.compiler.knowledge.refuses (Text.lowercase call.function)
      call.arguments.length with
    | true => simp only [lowerByName, hrefuses, if_true]; rfl
    | false => simp [lowerByName, mode, hrefuses]

def valueOr (rest : CompileM Compiled) : Option Compiled → CompileM Compiled
  | some result => return result
  | none => rest

theorem compileCallWith_announced (w : Workspace) :
    compileCallWith call demand box w =
      (optimize (Text.lowercase call.function) call demand box >>=
        valueOr (askAndCall call demand box
          (w.compiler.knowledge.known (Text.lowercase call.function))))
        ⟨w.compiler, w.compiler.knowledge.announce (Text.lowercase call.function) call.span
          w.context⟩ := by
  unfold compileCallWith
  rw [bind_run, knows_run]
  simp only
  unfold announce
  cases w.compiler.knowledge.known (Text.lowercase call.function) <;> rfl

theorem optimize_run (name : String) (rest : CompileM Compiled) (w : Workspace) :
    (optimize name call demand box >>= valueOr rest) w =
      (match w.compiler.knowledge.optimizer name with
        | none => rest
        | some optimizer => optimizer.compile call demand box >>= valueOr rest)
        { w with compiler := w.compiler.afterLookup name } := by
  unfold optimize
  rw [bind_assoc, bind_run, resolveOptimizer_run]
  simp only
  cases w.compiler.knowledge.optimizer name <;> rfl

variable {call demand box}

theorem booleanHelper_run {contract : HelperContract}
    (hcount : call.arguments.length = contract.parameterCount) (rest : CompileM Compiled) :
    (Optimizer.booleanHelper contract).compile call demand box >>= valueOr rest =
      (do
        require contract.header
        let arguments ← box .lent
        return ⟨.bool, .predicate contract.symbol (arguments ++ contract.trailingOperands),
          call.span⟩ : CompileM Compiled) := by
  simp only [Optimizer.compile, compileBooleanHelper, hcount, ne_eq, not_true_eq_false, if_false,
    bind_assoc, pure_bind, valueOr]

theorem boxedHelper_run {contract : HelperContract}
    (hcount : call.arguments.length = contract.parameterCount) (hdemand : demand ≠ .nothing)
    (rest : CompileM Compiled) :
    (Optimizer.boxedHelper contract).compile call demand box >>= valueOr rest =
      (do
        require contract.header
        let arguments ← box .lent
        match ← chooseDestination call demand with
        | none => return ⟨.null, .null, call.span⟩
        | some destination => do
            checkBoxed destination call.span
            let target ← openDestination destination
            emit (.kernelCall contract.symbol (target :: arguments ++ contract.trailingOperands))
            return ⟨.var, .var destination.target.name, call.span⟩ : CompileM Compiled) := by
  simp only [Optimizer.compile, compileBoxedHelper, hcount, ne_eq, not_true_eq_false, decide_false,
    hdemand, Bool.or_self, Bool.false_eq_true, if_false, bind_assoc]
  refine bind_congr fun _ => bind_congr fun arguments => ?_
  funext w
  rw [bind_run, bind_run]
  cases hchoice : chooseDestination call demand w with
  | error error w => rfl
  | ok destination w =>
    cases destination with
    | none => exact absurd hchoice (chooseDestination_ne_none hdemand)
    | some destination => simp only [bind_assoc, pure_bind, valueOr]

theorem boxedHelper_declined {contract : HelperContract}
    (h : ¬ (call.arguments.length = contract.parameterCount ∧ demand ≠ .nothing)) :
    (Optimizer.boxedHelper contract).compile call demand box = pure none := by
  simp only [Optimizer.compile, compileBoxedHelper]
  rw [if_pos]
  by_cases hcount : call.arguments.length = contract.parameterCount
  · have hdemand : demand = .nothing := Decidable.byContradiction fun hne => h ⟨hcount, hne⟩
    simp [hdemand]
  · simp [hcount]

variable (call demand box)

theorem compileCallWith_run (w : Workspace)
    (hfollows : w.compiler.knowledge.FollowsCalls) :
    ∃ compiler, compiler.knowledge = w.compiler.knowledge ∧
      compileCallWith call demand box w =
        w.compiler.knowledge.lowerCall call demand box
          ⟨compiler, w.compiler.knowledge.announce (Text.lowercase call.function) call.span
            w.context⟩ := by
  rw [compileCallWith_announced, optimize_run]
  generalize w.compiler.knowledge.announce (Text.lowercase call.function) call.span w.context = ctx
  have hlookup : (w.compiler.afterLookup (Text.lowercase call.function)).knowledge =
      w.compiler.knowledge := by simp
  have hcall : ∀ compiler : Compiler, compiler.knowledge = w.compiler.knowledge →
      ∃ asked, asked.knowledge = w.compiler.knowledge ∧
        askAndCall call demand box (w.compiler.knowledge.known (Text.lowercase call.function))
            ⟨compiler, ctx⟩ =
          w.compiler.knowledge.lowerByName
            (w.compiler.knowledge.mode (Text.lowercase call.function) call.arguments.length)
            call demand box ⟨asked, ctx⟩ := by
    intro compiler hcompiler
    have hrun := askAndCall_run call demand box ⟨compiler, ctx⟩
    rwa [hcompiler] at hrun
  cases hoptimizer : w.compiler.knowledge.optimizer (Text.lowercase call.function) with
  | none =>
    obtain ⟨asked, hasked, hrun⟩ := hcall _ hlookup
    refine ⟨asked, hasked, ?_⟩
    simp only [lowerCall, shape, hoptimizer]
    exact hrun
  | some optimizer =>
    cases optimizer with
    | fixed result => exact absurd hoptimizer (hfollows _ result)
    | declining =>
      obtain ⟨asked, hasked, hrun⟩ := hcall
        (w.compiler.afterLookup (Text.lowercase call.function)).afterDeclining hlookup
      refine ⟨asked, hasked, ?_⟩
      simp only [lowerCall, shape, hoptimizer]
      exact hrun
    -- A helper that declines leaves the call to its name, with the same questions as without it.
    | booleanHelper contract =>
      by_cases hcount : call.arguments.length = contract.parameterCount
      · refine ⟨_, hlookup, ?_⟩
        simp only [lowerCall, shape, hoptimizer, hcount, if_true]
        rw [booleanHelper_run hcount]
      · obtain ⟨asked, hasked, hrun⟩ := hcall _ hlookup
        refine ⟨asked, hasked, ?_⟩
        simp only [lowerCall, shape, hoptimizer, hcount, if_false, Optimizer.compile,
          compileBooleanHelper, ne_eq, not_false_eq_true, if_true, pure_bind, valueOr]
        exact hrun
    | boxedHelper contract =>
      by_cases htaken : call.arguments.length = contract.parameterCount ∧ demand ≠ .nothing
      · refine ⟨_, hlookup, ?_⟩
        simp only [lowerCall, shape, hoptimizer, decide_eq_true_eq, htaken, ne_eq,
          not_false_eq_true, and_self, if_true]
        rw [boxedHelper_run htaken.1 htaken.2]
      · obtain ⟨asked, hasked, hrun⟩ := hcall _ hlookup
        refine ⟨asked, hasked, ?_⟩
        simp only [lowerCall, shape, hoptimizer, boxedHelper_declined htaken, decide_eq_true_eq,
          htaken, if_false, pure_bind, valueOr]
        exact hrun

end Knowledge

end BoxedCalls
