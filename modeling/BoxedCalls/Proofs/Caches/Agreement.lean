import BoxedCalls.Proofs.Compile.Actions

namespace BoxedCalls

open CompileM

/-- The compiler works for this host and with these optimizers, and remembers nothing else about
them. Only of a function that the host has lost may an old signature be left. -/
structure Compiler.Follows (host : HostFunctions) (table : OptimizerTable) (compiler : Compiler) :
    Prop where
  host_eq : compiler.host = host
  table_eq : compiler.optimizers.table = table
  resolved : ∀ {name outcome}, compiler.optimizers.resolved.find? name = some outcome →
    outcome = table.find? name
  cached : ∀ {name signature}, compiler.signatures.signatures.find? name = some signature →
    Text.lowercase name = name ∧
      (host.contains name = true → signature = host.signatureOf? name)

namespace Compiler.Follows

variable {host : HostFunctions} {table : OptimizerTable} {compiler : Compiler}

theorem new (host : HostFunctions) (table : OptimizerTable) :
    (Compiler.new host table).Follows host table where
  host_eq := rfl
  table_eq := rfl
  resolved := nofun
  cached := nofun

variable (h : compiler.Follows host table)
include h

theorem known (name : String) :
    compiler.knowledge.known name = (host.contains name || Builtin.contains name) := by
  rw [← h.host_eq]
  rfl

theorem optimizer (name : String) : compiler.knowledge.optimizer name = table.find? name := by
  change (compiler.optimizers.resolve name).1 = _
  unfold OptimizerLookup.resolve
  cases hfind : compiler.optimizers.resolved.find? name with
  | some outcome => exact h.resolved hfind
  | none => exact congrArg (·.find? name) h.table_eq

theorem signature {name : String} (hcontains : host.contains name = true) :
    compiler.knowledge.signature name = host.signatureOf? name := by
  change (compiler.signatures.signatureOf compiler.host name).1 = _
  unfold SignatureCache.signatureOf
  cases hfind : compiler.signatures.signatures.find? name with
  | some signature => exact (h.cached hfind).2 hcontains
  | none => exact congrArg (·.signatureOf? name) h.host_eq

theorem refuses (function : String) (arity : Nat) :
    compiler.knowledge.refuses function arity =
      (host.contains function && !Builtin.contains function &&
        (host.signatureOf? function).any fun signature => arity < signature.required) := by
  rw [Knowledge.refuses, h.known]
  cases hcontains : host.contains function with
  | true => simp [h.signature hcontains]
  | false => cases Builtin.contains function <;> rfl

theorem lends (function : String) (arity : Nat) :
    compiler.knowledge.lends function arity =
      (host.contains function && !Builtin.contains function &&
        (host.signatureOf? function).any fun signature => !signature.anyByReference arity) := by
  rw [Knowledge.lends, h.known]
  cases hcontains : host.contains function with
  | true => simp [h.signature hcontains]
  | false => cases Builtin.contains function <;> rfl

theorem afterLookup (name : String) : (compiler.afterLookup name).Follows host table := by
  unfold Compiler.afterLookup OptimizerLookup.resolve
  cases hfind : compiler.optimizers.resolved.find? name with
  | some outcome => exact h
  | none =>
    refine ⟨h.host_eq, h.table_eq, ?_, h.cached⟩
    intro other outcome hother
    rw [NameMap.find?_insert] at hother
    split at hother
    · next hsame =>
      cases hother
      rw [hsame, h.table_eq]
    · exact h.resolved hother

theorem afterDeclining : compiler.afterDeclining.Follows host table :=
  ⟨h.host_eq, h.table_eq, h.resolved, h.cached⟩

theorem afterQuestion {name : String} (hlower : Text.lowercase name = name) (count : Nat)
    (span : Span) : (compiler.afterQuestion name count span).Follows host table := by
  unfold Compiler.afterQuestion
  cases hbuiltin : Builtin.contains name with
  | true =>
    rw [SignatureCache.isReadOnly_of_builtin hbuiltin]
    exact h
  | false =>
    rw [SignatureCache.isReadOnly_of_not_builtin hbuiltin]
    unfold SignatureCache.signatureOf
    cases hfind : compiler.signatures.signatures.find? name with
    | some signature => exact h
    | none =>
      refine ⟨h.host_eq, h.table_eq, h.resolved, ?_⟩
      intro other signature hother
      simp only [NameMap.find?_insert] at hother
      split at hother
      · next hsame =>
        cases hother
        rw [hsame, h.host_eq]
        exact ⟨hlower, fun _ => rfl⟩
      · exact h.cached hother

end Compiler.Follows

structure Workspace.Alike (host : HostFunctions) (table : OptimizerTable)
    (first second : Workspace) : Prop where
  context : first.context = second.context
  first : first.compiler.Follows host table
  second : second.compiler.Follows host table

inductive SameOutcome (host : HostFunctions) (table : OptimizerTable) {α : Type} :
    EStateM.Result CompileError Workspace α → EStateM.Result CompileError Workspace α → Prop where
  | ok {a first second} (halike : first.Alike host table second) :
      SameOutcome host table (.ok a first) (.ok a second)
  | error {error first second} (halike : first.Alike host table second) :
      SameOutcome host table (.error error first) (.error error second)

def CompileM.IgnoresCaches (host : HostFunctions) (table : OptimizerTable) {α : Type}
    (x : CompileM α) : Prop :=
  ∀ ⦃first second : Workspace⦄, first.Alike host table second →
    SameOutcome host table (x first) (x second)

namespace CompileM.IgnoresCaches

variable {host : HostFunctions} {table : OptimizerTable} {α β : Type}

theorem pure (a : α) : IgnoresCaches host table (Pure.pure a : CompileM α) :=
  fun _ _ halike => .ok halike

theorem fail (cause : ErrorCause) (span : Span) :
    IgnoresCaches host table (CompileM.fail cause span : CompileM α) :=
  fun _ _ halike => .error halike

theorem bind {x : CompileM α} {f : α → CompileM β} (hx : IgnoresCaches host table x)
    (hf : ∀ a, IgnoresCaches host table (f a)) : IgnoresCaches host table (x >>= f) := by
  intro first second halike
  rw [bind_run, bind_run]
  have hsame := hx halike
  generalize x first = one at hsame ⊢
  generalize x second = other at hsame ⊢
  cases hsame with
  | ok halike => exact hf _ halike
  | error halike => exact .error halike

theorem modifyContext (change : Context → Context) :
    IgnoresCaches host table (CompileM.modifyContext change) :=
  fun _ _ halike => .ok ⟨congrArg change halike.context, halike.first, halike.second⟩

theorem allocate (storage : Storage) : IgnoresCaches host table (CompileM.allocate storage) := by
  intro first second halike
  unfold CompileM.allocate
  rw [halike.context]
  exact .ok ⟨rfl, halike.first, halike.second⟩

theorem lookup (name : String) (span : Span) :
    IgnoresCaches host table (CompileM.lookup name span) := by
  intro first second halike
  unfold CompileM.lookup
  rw [halike.context]
  cases second.context.lookup name span with
  | ok v => exact .ok halike
  | error error => exact .error halike

theorem resolveOptimizer (name : String) :
    IgnoresCaches host table (CompileM.resolveOptimizer name) := by
  intro first second halike
  rw [resolveOptimizer_run, resolveOptimizer_run, halike.first.optimizer, halike.second.optimizer]
  exact .ok ⟨halike.context, halike.first.afterLookup name, halike.second.afterLookup name⟩

theorem isReadOnly {name : String} (hlower : Text.lowercase name = name)
    (hknown : (host.contains name || Builtin.contains name) = true) (count : Nat) (span : Span) :
    IgnoresCaches host table (CompileM.isReadOnly name count span) := by
  intro first second halike
  have hafter : ∀ {w w' : Workspace}, w.Alike host table w' →
      Workspace.Alike host table { w with compiler := w.compiler.afterQuestion name count span }
        { w' with compiler := w'.compiler.afterQuestion name count span } :=
    fun h => ⟨h.context, h.first.afterQuestion hlower count span,
      h.second.afterQuestion hlower count span⟩
  rw [Knowledge.isReadOnly_run first count span (by rw [halike.first.known, hknown]),
    Knowledge.isReadOnly_run second count span (by rw [halike.second.known, hknown]),
    halike.first.refuses, halike.second.refuses, halike.first.lends, halike.second.lends]
  split
  · exact .error (hafter halike)
  · exact .ok (hafter halike)

theorem compositional : Compositional
    (fun name known => known = (host.contains name || Builtin.contains name))
    (@IgnoresCaches host table) where
  pure := .pure
  fail cause span _ := .fail cause span
  bind := .bind
  emit _ := modifyContext _
  warn _ := modifyContext _
  require _ := modifyContext _
  allocate _ := allocate _
  lookup := .lookup
  knows name _ hf := by
    intro first second halike
    rw [bind_run, bind_run, knows_run, knows_run, halike.first.known, halike.second.known]
    exact hf _ rfl halike
  resolveOptimizer := .resolveOptimizer
  decline _ _ halike :=
    .ok ⟨halike.context, halike.first.afterDeclining, halike.second.afterDeclining⟩
  isReadOnly count span hlower hknown := isReadOnly hlower hknown.symm count span

theorem compileExpression (expression : Expression) :
    IgnoresCaches host table (BoxedCalls.compileExpression expression) :=
  compositional.compileExpression expression

theorem boxArguments (arguments : List Expression) (mode : ArgumentMode) :
    IgnoresCaches host table (BoxedCalls.boxArguments arguments mode) :=
  compositional.boxArguments arguments mode

theorem compileCall (call : Call) (demand : Demand) :
    IgnoresCaches host table (BoxedCalls.compileCall call demand) :=
  compositional.compileCall call demand

theorem compileStatements (statements : List Statement) :
    IgnoresCaches host table (BoxedCalls.compileStatements statements) :=
  compositional.compileStatements statements

end CompileM.IgnoresCaches

end BoxedCalls
