import BoxedCalls.Proofs.Caches.Transparency
import BoxedCalls.Proofs.Compile.Actions

namespace BoxedCalls

open CompileM

structure Pairing where
  knowledge : Knowledge
  Related : Context → Context → Prop

namespace Pairing

variable {p : Pairing} {α β : Type}

structure Workspaces (p : Pairing) (w w' : Workspace) : Prop where
  knows : w.compiler.knowledge = p.knowledge
  knows_other : w'.compiler.knowledge = p.knowledge
  contexts : p.Related w.context w'.context

inductive Outcomes (p : Pairing) (Q : α → Prop) :
    EStateM.Result CompileError Workspace α → EStateM.Result CompileError Workspace α → Prop where
  | ok {a w w'} (hvalue : Q a) (h : p.Workspaces w w') : Outcomes p Q (.ok a w) (.ok a w')
  | error {error w w'} (h : p.Workspaces w w') : Outcomes p Q (.error error w) (.error error w')

def Runs (p : Pairing) (Q : α → Prop) (x : CompileM α) : Prop :=
  ∀ ⦃w w' : Workspace⦄, p.Workspaces w w' → p.Outcomes Q (x w) (x w')

theorem Runs.outcome {Q : α → Prop} {x : CompileM α} (hx : p.Runs Q x) {compiler other : Compiler}
    {ctx ctx' : Context} (h : p.Workspaces ⟨compiler, ctx⟩ ⟨other, ctx'⟩) :
    (x.outcome compiler ctx).1 = (x.outcome other ctx').1 ∧
      p.Related (x.outcome compiler ctx).2 (x.outcome other ctx').2 := by
  have hends := hx h
  unfold CompileM.outcome
  generalize x ⟨compiler, ctx⟩ = one at hends ⊢
  generalize x ⟨other, ctx'⟩ = another at hends ⊢
  cases hends with
  | ok _ h => exact ⟨rfl, h.contexts⟩
  | error h => exact ⟨rfl, h.contexts⟩

namespace Runs

variable {Q : α → Prop} {R : β → Prop}

theorem pure {a : α} (hvalue : Q a) : p.Runs Q (Pure.pure a) :=
  fun _ _ h => .ok hvalue h

theorem fail (cause : ErrorCause) (span : Span) : p.Runs Q (CompileM.fail cause span) :=
  fun _ _ h => .error h

theorem bind {x : CompileM α} {f : α → CompileM β} (hx : p.Runs Q x)
    (hf : ∀ a, Q a → p.Runs R (f a)) : p.Runs R (x >>= f) := by
  intro w w' h
  rw [bind_run, bind_run]
  have hends := hx h
  generalize x w = one at hends ⊢
  generalize x w' = another at hends ⊢
  cases hends with
  | ok hvalue h => exact hf _ hvalue h
  | error h => exact .error h

theorem modifyContext {change : Context → Context}
    (hchange : ∀ {ctx ctx'}, p.Related ctx ctx' → p.Related (change ctx) (change ctx')) :
    p.Runs (fun _ => True) (CompileM.modifyContext change) :=
  fun _ _ h => .ok trivial ⟨h.knows, h.knows_other, hchange h.contexts⟩

theorem knows_bind {name : String} {f : Bool → CompileM β}
    (hf : p.Runs R (f (p.knowledge.known name))) : p.Runs R (CompileM.knows name >>= f) := by
  intro w w' h
  rw [bind_run, bind_run, knows_run, knows_run, h.knows, h.knows_other]
  exact hf h

theorem resolveOptimizer (name : String) :
    p.Runs (fun _ => True) (CompileM.resolveOptimizer name) := by
  intro w w' h
  rw [resolveOptimizer_run, resolveOptimizer_run, h.knows, h.knows_other]
  exact .ok trivial ⟨by simp [h.knows], by simp [h.knows_other], h.contexts⟩

theorem decline : p.Runs (fun _ => True) (modifyCompiler Compiler.afterDeclining) :=
  fun _ _ h => .ok trivial ⟨h.knows, h.knows_other, h.contexts⟩

theorem isReadOnly {name : String} (hknown : p.knowledge.known name = true) (count : Nat)
    (span : Span) : p.Runs (fun _ => True) (CompileM.isReadOnly name count span) := by
  intro w w' h
  have hasked : p.Workspaces { w with compiler := w.compiler.afterQuestion name count span }
      { w' with compiler := w'.compiler.afterQuestion name count span } :=
    ⟨by simp [h.knows], by simp [h.knows_other], h.contexts⟩
  rw [Knowledge.isReadOnly_run w count span (by rw [h.knows, hknown]),
    Knowledge.isReadOnly_run w' count span (by rw [h.knows_other, hknown]), h.knows,
    h.knows_other]
  split
  · exact .error hasked
  · exact .ok trivial hasked

end Runs

end Pairing

end BoxedCalls
