import BoxedCalls.Proofs.Caches.Histories
import BoxedCalls.Proofs.Compile.Declining

namespace BoxedCalls

open CompileM

namespace Compiler

def signature? (compiler : Compiler) (name : String) : Option Signature :=
  (compiler.signatures.signatures.find? name).getD (compiler.host.signatureOf? name)

def LacksArguments (compiler : Compiler) (call : Call) : Prop :=
  compiler.host.contains (Text.lowercase call.function) = true ∧
    Builtin.contains (Text.lowercase call.function) = false ∧
    ∃ signature, compiler.signature? (Text.lowercase call.function) = some signature ∧
      call.arguments.length < signature.required

def LeavesToName (compiler : Compiler) (call : Call) (demand : Demand) (ctx : Context) : Prop :=
  ∀ optimizer, (compiler.optimizers.resolve (Text.lowercase call.function)).1 = some optimizer →
    ∃ w, optimizer.compile call demand (boxArguments call.arguments)
      ⟨compiler.afterLookup (Text.lowercase call.function), ctx⟩ = .ok none w

theorem lacksArguments_iff {compiler : Compiler} {call : Call} :
    compiler.LacksArguments call ↔
      compiler.knowledge.refuses (Text.lowercase call.function) call.arguments.length = true := by
  have hsignature : compiler.knowledge.signature (Text.lowercase call.function) =
      compiler.signature? (Text.lowercase call.function) :=
    HostedCache.signatureOf_eq compiler.host compiler.signatures _
  rw [LacksArguments, Knowledge.refuses, hsignature]
  cases hbuiltin : Builtin.contains (Text.lowercase call.function) with
  | true => simp
  | false => simp [knowledge, knows, hbuiltin, Option.any_eq_true]

end Compiler

theorem Optimizer.declined {optimizer : Optimizer} {call : Call} {demand : Demand}
    {box : ArgumentMode → CompileM (List Operand)} {w w' : Workspace}
    (h : optimizer.compile call demand box w = .ok none w') :
    w'.context = w.context ∧ w'.compiler.knowledge = w.compiler.knowledge := by
  have hhelper : optimizer.IsHelper → w' = w := by
    intro hhelper
    rw [hhelper.eq_pure_none h] at h
    cases h
    rfl
  cases optimizer with
  | fixed result => cases h
  | declining =>
    cases h
    exact ⟨rfl, rfl⟩
  | booleanHelper contract =>
    rw [hhelper (.boolean contract)]
    exact ⟨rfl, rfl⟩
  | boxedHelper contract =>
    rw [hhelper (.boxed contract)]
    exact ⟨rfl, rfl⟩

def CompileM.BlamesArguments (box : ArgumentMode → CompileM (List Operand)) {α : Type}
    (x : CompileM α) : Prop :=
  ∀ name span w w', x w = .error ⟨.insufficientArguments name, span⟩ w' →
    ∃ mode w₁, box mode w₁ = .error ⟨.insufficientArguments name, span⟩ w'

namespace CompileM.BlamesArguments

variable {box : ArgumentMode → CompileM (List Operand)} {α β : Type}

theorem pure (a : α) : BlamesArguments box (Pure.pure a) :=
  nofun

theorem fail (cause : ErrorCause) (span : Span) (h : cause.countsArguments = false) :
    BlamesArguments box (CompileM.fail cause span : CompileM α) := by
  intro name span' w w' hrun
  cases hrun
  cases h

theorem bind {x : CompileM α} {f : α → CompileM β} (hx : BlamesArguments box x)
    (hf : ∀ a, BlamesArguments box (f a)) : BlamesArguments box (x >>= f) := by
  intro name span w w' hrun
  rw [bind_run] at hrun
  cases hfirst : x w with
  | ok a middle =>
    rw [hfirst] at hrun
    exact hf a name span middle w' hrun
  | error error middle =>
    rw [hfirst] at hrun
    cases hrun
    exact hx name span w w' hfirst

theorem lookup (name : String) (span : Span) :
    BlamesArguments box (CompileM.lookup name span) := by
  intro function span' w w' hrun
  unfold CompileM.lookup Context.lookup at hrun
  cases hfind : w.context.symbols.find? name with
  | none => rw [hfind] at hrun; cases hrun
  | some v => rw [hfind] at hrun; cases hrun

theorem boxed (mode : ArgumentMode) : BlamesArguments box (box mode) :=
  fun _ _ w _ hrun => ⟨mode, w, hrun⟩

variable (box) in
theorem contextual : Contextual (@BlamesArguments box) where
  pure := pure
  fail := fail
  bind := bind
  emit _ := nofun
  require _ := nofun
  allocate _ := nofun
  lookup := lookup

variable (call : Call) (demand : Demand)

theorem optimizer (optimizer : Optimizer) :
    BlamesArguments box (optimizer.compile call demand box) :=
  (contextual box).compileOptimized call demand boxed nofun optimizer

theorem lowerByName {k : Knowledge}
    (h : k.refuses (Text.lowercase call.function) call.arguments.length = false)
    (mode : ArgumentMode) : BlamesArguments box (k.lowerByName mode call demand box) := by
  simp only [Knowledge.lowerByName, h, Bool.false_eq_true, if_false]
  exact bind (boxed mode) fun _ => bind ((contextual box).chooseDestination call demand) fun _ =>
    (contextual box).emitCall _ _ _ _

end CompileM.BlamesArguments

section Calls

variable {compiler : Compiler} {call : Call} {demand : Demand} {ctx : Context}
  {box : ArgumentMode → CompileM (List Operand)}

theorem announce_of_lacksArguments (h : compiler.LacksArguments call) :
    compiler.knowledge.announce (Text.lowercase call.function) call.span ctx = ctx := by
  have hknown : compiler.knowledge.known (Text.lowercase call.function) = true := by
    exact Bool.or_eq_true_iff.mpr (.inl h.1)
  rw [Knowledge.announce, hknown, if_pos rfl]

theorem leftToName_run (h : compiler.LeavesToName call demand ctx) (rest : CompileM Compiled) :
    ∃ asker, asker.knowledge = compiler.knowledge ∧
      (optimize (Text.lowercase call.function) call demand (boxArguments call.arguments) >>=
        Knowledge.valueOr rest) ⟨compiler, ctx⟩ = rest ⟨asker, ctx⟩ := by
  have hlookup : (compiler.afterLookup (Text.lowercase call.function)).knowledge =
      compiler.knowledge := compiler.knowledge_afterLookup _
  rw [Knowledge.optimize_run]
  cases hoptimizer : compiler.knowledge.optimizer (Text.lowercase call.function) with
  | none => exact ⟨_, hlookup, rfl⟩
  | some optimizer =>
    obtain ⟨w, hdeclined⟩ := h optimizer hoptimizer
    obtain ⟨hcontext, hknowledge⟩ := Optimizer.declined hdeclined
    refine ⟨w.compiler, hknowledge.trans hlookup, ?_⟩
    simp only
    rw [bind_run, hdeclined]
    change rest w = rest ⟨w.compiler, ctx⟩
    rw [← show w.context = ctx from hcontext]

theorem compileCall_refused (hlacks : compiler.LacksArguments call)
    (hleaves : compiler.LeavesToName call demand ctx) :
    ∃ answered, compileCall call demand ⟨compiler, ctx⟩ =
      .error ⟨.insufficientArguments (Text.lowercase call.function), call.span⟩
        ⟨answered, ctx⟩ := by
  obtain ⟨asker, hasker, hleft⟩ := leftToName_run hleaves
    (Knowledge.askAndCall call demand (boxArguments call.arguments)
      (compiler.knowledge.known (Text.lowercase call.function)))
  obtain ⟨answered, -, hasked⟩ :=
    Knowledge.askAndCall_run call demand (boxArguments call.arguments) ⟨asker, ctx⟩
  have hrefused := Compiler.lacksArguments_iff.mp hlacks
  refine ⟨answered, ?_⟩
  rw [compileCall, Knowledge.compileCallWith_announced, announce_of_lacksArguments hlacks, hleft,
    ← hasker, hasked]
  simp only [hasker, Knowledge.lowerByName, hrefused, if_true]
  rfl

theorem askAndCall_blames (h : ¬ compiler.LacksArguments call) {asker : Compiler}
    (hasker : asker.knowledge = compiler.knowledge) {name : String} {span : Span} {w' : Workspace}
    (hrun : Knowledge.askAndCall call demand box
      (compiler.knowledge.known (Text.lowercase call.function)) ⟨asker, ctx⟩ =
        .error ⟨.insufficientArguments name, span⟩ w') :
    ∃ mode w, box mode w = .error ⟨.insufficientArguments name, span⟩ w' := by
  obtain ⟨answered, -, hasked⟩ := Knowledge.askAndCall_run call demand box ⟨asker, ctx⟩
  rw [hasker, hrun] at hasked
  have haccepted : compiler.knowledge.refuses (Text.lowercase call.function)
      call.arguments.length = false := by
    rwa [Compiler.lacksArguments_iff, Bool.not_eq_true] at h
  exact CompileM.BlamesArguments.lowerByName call demand haccepted _ name span _ w' hasked.symm

theorem compileCallWith_blames (h : ¬ compiler.LacksArguments call) {name : String} {span : Span}
    {w' : Workspace}
    (hrun : compileCallWith call demand box ⟨compiler, ctx⟩ =
      .error ⟨.insufficientArguments name, span⟩ w') :
    ∃ mode w, box mode w = .error ⟨.insufficientArguments name, span⟩ w' := by
  have hlookup : (compiler.afterLookup (Text.lowercase call.function)).knowledge =
      compiler.knowledge := compiler.knowledge_afterLookup _
  rw [Knowledge.compileCallWith_announced, Knowledge.optimize_run] at hrun
  generalize compiler.knowledge.announce (Text.lowercase call.function) call.span ctx = announced
    at hrun
  cases hoptimizer : compiler.knowledge.optimizer (Text.lowercase call.function) with
  | none =>
    simp only [hoptimizer] at hrun
    exact askAndCall_blames h hlookup hrun
  | some optimizer =>
    simp only [hoptimizer, bind_run] at hrun
    cases hfirst : optimizer.compile call demand box
      ⟨compiler.afterLookup (Text.lowercase call.function), announced⟩ with
    | error error middle =>
      rw [hfirst] at hrun
      cases hrun
      exact CompileM.BlamesArguments.optimizer call demand optimizer _ _ _ _ hfirst
    | ok outcome middle =>
      rw [hfirst] at hrun
      cases outcome with
      | some result => cases hrun
      | none => exact askAndCall_blames h ((Optimizer.declined hfirst).2.trans hlookup) hrun

end Calls

theorem missing_arguments_fail_first (compiler : Compiler) (call : Call) (demand : Demand)
    (ctx : Context) :
    (compiler.LacksArguments call → compiler.LeavesToName call demand ctx →
      (compileCall call demand).outcome compiler ctx =
        (.error ⟨.insufficientArguments (Text.lowercase call.function), call.span⟩, ctx)) ∧
      (¬ compiler.LacksArguments call → ∀ box name span w,
        compileCallWith call demand box ⟨compiler, ctx⟩ =
          .error ⟨.insufficientArguments name, span⟩ w →
        ∃ mode w', box mode w' = .error ⟨.insufficientArguments name, span⟩ w) := by
  constructor
  · intro hlacks hleaves
    obtain ⟨answered, hrun⟩ := compileCall_refused hlacks hleaves
    rw [CompileM.outcome, hrun]
  · intro henough box name span w hrun
    exact compileCallWith_blames henough hrun

def Compiler.outOfDate : Compiler :=
  { Compiler.standard.registerOptimizer "StrLen" .declining with
    signatures := ⟨.ofList [("strlen", some (.byValue 2 2))]⟩ }

def Call.unboxable : Call :=
  ⟨"StrLen", [.literal .null {}], ⟨10, 22, 1, 10⟩⟩

def Call.wrapping : Call :=
  ⟨"trim", [.call "explode" [.var "missing" {}] {}], {}⟩

theorem remembered_signature_refuses :
    (compileCall .unboxable (.inVariable "missing")).outcome .outOfDate {} =
        (.error ⟨.insufficientArguments "strlen", ⟨10, 22, 1, 10⟩⟩, {}) ∧
      ∃ mode w w', boxArguments Call.wrapping.arguments mode w =
        .error ⟨.insufficientArguments "explode", {}⟩ w' := by
  have hname : Text.lowercase "StrLen" = "strlen" := by decide +kernel
  constructor
  · have hlacks : Compiler.outOfDate.LacksArguments .unboxable :=
      Compiler.lacksArguments_iff.mpr (by decide +kernel)
    have hresolved : (Compiler.outOfDate.optimizers.resolve (Text.lowercase "StrLen")).1 =
        some .declining := by decide +kernel
    have hleaves : Compiler.outOfDate.LeavesToName .unboxable (.inVariable "missing") {} := by
      intro optimizer hoptimizer
      rw [Call.unboxable, hresolved] at hoptimizer
      cases hoptimizer
      exact ⟨_, rfl⟩
    rw [(missing_arguments_fail_first _ _ _ _).1 hlacks hleaves, Call.unboxable, hname]
  · have henough : ¬ Compiler.standard.LacksArguments .wrapping := by
      rw [Compiler.lacksArguments_iff]
      decide +kernel
    obtain ⟨w, hrun⟩ : ∃ w, compileCallWith .wrapping .nothing
        (boxArguments Call.wrapping.arguments) ⟨.standard, {}⟩ =
          .error ⟨.insufficientArguments "explode", {}⟩ w := ⟨_, rfl⟩
    obtain ⟨mode, w', hbox⟩ := (missing_arguments_fail_first _ _ _ _).2 henough _ _ _ _ hrun
    exact ⟨mode, w', w, hbox⟩

end BoxedCalls
