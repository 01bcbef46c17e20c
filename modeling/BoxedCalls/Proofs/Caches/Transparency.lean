import BoxedCalls.Proofs.Caches.Agreement
import BoxedCalls.Proofs.Compile.Builtins

namespace BoxedCalls

open CompileM

namespace CompileM

variable {α : Type}

def outcome (x : CompileM α) (compiler : Compiler) (ctx : Context) :
    Except CompileError α × Context :=
  match x ⟨compiler, ctx⟩ with
  | .ok a w => (.ok a, w.context)
  | .error error w => (.error error, w.context)

theorem outcome_eq_ok_iff {x : CompileM α} {w : Workspace} {a : α} :
    (x.outcome w.compiler w.context).1 = .ok a ↔ ∃ w', x w = .ok a w' := by
  unfold outcome
  cases x w with
  | ok value w' => simp
  | error error w' => simp

def compilerAfter (x : CompileM α) (compiler : Compiler) (ctx : Context) : Compiler :=
  match x ⟨compiler, ctx⟩ with
  | .ok _ w => w.compiler
  | .error _ w => w.compiler

end CompileM

def Compiler.unregister (compiler : Compiler) (name : String) : Compiler :=
  { compiler with host := compiler.host.unregister name }

inductive Operation where
  | compileCall (call : Call) (demand : Demand) (ctx : Context)
  | compileExpression (expression : Expression) (ctx : Context)
  | boxArguments (arguments : List Expression) (mode : ArgumentMode) (ctx : Context)
  | compileUnit (unit : CallUnit)
  | redefine (name : String) (signature : Option Signature)
  | registerOptimizer (name : String) (optimizer : Optimizer)
  | invalidate (name : String)
  | unregister (name : String)

def Operation.apply (compiler : Compiler) : Operation → Compiler
  | compileCall call demand ctx => (BoxedCalls.compileCall call demand).compilerAfter compiler ctx
  | compileExpression expression ctx =>
      (BoxedCalls.compileExpression expression).compilerAfter compiler ctx
  | boxArguments arguments mode ctx =>
      (BoxedCalls.boxArguments arguments mode).compilerAfter compiler ctx
  | compileUnit unit => (BoxedCalls.compileUnit unit compiler).2
  | redefine name signature => compiler.redefine name signature
  | registerOptimizer name optimizer => compiler.registerOptimizer name optimizer
  | invalidate name => compiler.invalidate name
  | unregister name => compiler.unregister name

section Compilations

variable {host : HostFunctions} {table : OptimizerTable} {first second : Compiler} {α : Type}
  {x : CompileM α}

theorem CompileM.IgnoresCaches.outcome_eq (hx : IgnoresCaches host table x)
    (hfirst : first.Follows host table) (hsecond : second.Follows host table) (ctx : Context) :
    x.outcome first ctx = x.outcome second ctx := by
  have halike : Workspace.Alike host table ⟨first, ctx⟩ ⟨second, ctx⟩ := ⟨rfl, hfirst, hsecond⟩
  have hsame := hx halike
  unfold outcome
  generalize x ⟨first, ctx⟩ = one at hsame ⊢
  generalize x ⟨second, ctx⟩ = other at hsame ⊢
  cases hsame with
  | ok halike => exact congrArg (Prod.mk _) halike.context
  | error halike => exact congrArg (Prod.mk _) halike.context

theorem CompileM.IgnoresCaches.follows (hx : IgnoresCaches host table x)
    (h : first.Follows host table) (ctx : Context) :
    (x.compilerAfter first ctx).Follows host table := by
  have halike : Workspace.Alike host table ⟨first, ctx⟩ ⟨first, ctx⟩ := ⟨rfl, h, h⟩
  have hsame := hx halike
  unfold compilerAfter
  generalize x ⟨first, ctx⟩ = result at hsame ⊢
  cases hsame with
  | ok halike => exact halike.first
  | error halike => exact halike.first

theorem compileUnit_result (unit : CallUnit) (compiler : Compiler) :
    (compileUnit unit compiler).1 =
      let (result, ctx) :=
        (compileStatements unit.statements).outcome compiler (declareAll unit.declarations)
      result.map fun _ => ⟨unit.functionName, ctx⟩ := by
  unfold compileUnit outcome EStateM.run
  cases compileStatements unit.statements ⟨compiler, declareAll unit.declarations⟩ <;> rfl

theorem compileUnit_compiler (unit : CallUnit) (compiler : Compiler) :
    (compileUnit unit compiler).2 =
      (compileStatements unit.statements).compilerAfter compiler
        (declareAll unit.declarations) := by
  unfold compileUnit compilerAfter EStateM.run
  cases compileStatements unit.statements ⟨compiler, declareAll unit.declarations⟩ <;> rfl

end Compilations

namespace HostFunctions

variable (host : HostFunctions) {name other : String}

theorem contains_register_of_ne (signature : Option Signature)
    (h : Text.lowercase other ≠ Text.lowercase name) :
    (host.register name signature).contains other = host.contains other := by
  simp [contains, register, NameMap.contains_insert, h]

theorem signatureOf?_register_of_ne (signature : Option Signature)
    (h : Text.lowercase other ≠ Text.lowercase name) :
    (host.register name signature).signatureOf? other = host.signatureOf? other := by
  simp [signatureOf?, register, NameMap.find?_insert, h]

theorem contains_unregister (name other : String) :
    (host.unregister name).contains other =
      (Text.lowercase other ≠ Text.lowercase name && host.contains other) := by
  by_cases h : Text.lowercase other = Text.lowercase name <;>
    simp [contains, unregister, NameMap.contains, NameMap.find?_erase, h]

theorem signatureOf?_unregister_of_ne (h : Text.lowercase other ≠ Text.lowercase name) :
    (host.unregister name).signatureOf? other = host.signatureOf? other := by
  simp [signatureOf?, unregister, NameMap.find?_erase, h]

end HostFunctions

namespace Compiler.Follows

variable {host : HostFunctions} {table : OptimizerTable} {compiler : Compiler}
  (h : compiler.Follows host table)
include h

theorem self : compiler.Follows compiler.host compiler.optimizers.table := by
  rw [h.host_eq, h.table_eq]
  exact h

theorem resolved_after_erase {name other : String} {outcome : Option Optimizer}
    (hfind : (compiler.optimizers.resolved.erase name).find? other = some outcome) :
    other ≠ name ∧ outcome = table.find? other := by
  rw [NameMap.find?_erase] at hfind
  split at hfind
  · cases hfind
  · next hne => exact ⟨hne, h.resolved hfind⟩

theorem cached_after_erase {name other : String} {signature : Option Signature}
    (hfind : (compiler.signatures.signatures.erase name).find? other = some signature) :
    other ≠ name ∧ Text.lowercase other = other ∧
      (host.contains other = true → signature = host.signatureOf? other) := by
  rw [NameMap.find?_erase] at hfind
  split at hfind
  · cases hfind
  · next hne => exact ⟨hne, h.cached hfind⟩

theorem invalidate (name : String) : (compiler.invalidate name).Follows host table where
  host_eq := h.host_eq
  table_eq := h.table_eq
  resolved hfind := (h.resolved_after_erase hfind).2
  cached hfind := (h.cached_after_erase hfind).2

theorem redefine (name : String) (signature : Option Signature) :
    (compiler.redefine name signature).Follows (host.register name signature) table where
  host_eq := congrArg (·.register name signature) h.host_eq
  table_eq := h.table_eq
  resolved hfind := (h.resolved_after_erase hfind).2
  cached := by
    intro other old hfind
    -- What is still remembered has another name, also in lower case.
    obtain ⟨hne, hlower, hold⟩ := h.cached_after_erase hfind
    rw [← hlower] at hne
    rw [host.contains_register_of_ne signature hne, host.signatureOf?_register_of_ne signature hne]
    exact ⟨hlower, hold⟩

theorem unregister (name : String) :
    (compiler.unregister name).Follows (host.unregister name) table where
  host_eq := congrArg (·.unregister name) h.host_eq
  table_eq := h.table_eq
  resolved := h.resolved
  cached := by
    intro other signature hfind
    obtain ⟨hlower, hsignature⟩ := h.cached hfind
    refine ⟨hlower, fun hcontains => ?_⟩
    rw [host.contains_unregister, Bool.and_eq_true, decide_eq_true_eq] at hcontains
    rw [host.signatureOf?_unregister_of_ne hcontains.1]
    exact hsignature hcontains.2

theorem registerOptimizer (name : String) (optimizer : Optimizer) :
    (compiler.registerOptimizer name optimizer).Follows host (table.register name optimizer) where
  host_eq := h.host_eq
  table_eq := congrArg (·.register name optimizer) h.table_eq
  resolved := by
    intro other outcome hfind
    obtain ⟨hne, houtcome⟩ := h.resolved_after_erase hfind
    rw [OptimizerTable.find?_register, if_neg hne]
    exact houtcome
  cached := h.cached

end Compiler.Follows

theorem Operation.follows (operation : Operation) {compiler : Compiler}
    (h : compiler.Follows compiler.host compiler.optimizers.table) :
    (operation.apply compiler).Follows (operation.apply compiler).host
      (operation.apply compiler).optimizers.table := by
  cases operation with
  | compileCall call demand ctx =>
    exact ((IgnoresCaches.compileCall call demand).follows h ctx).self
  | compileExpression expression ctx =>
    exact ((IgnoresCaches.compileExpression expression).follows h ctx).self
  | boxArguments arguments mode ctx =>
    exact ((IgnoresCaches.boxArguments arguments mode).follows h ctx).self
  | compileUnit unit =>
    rw [apply, compileUnit_compiler]
    exact ((IgnoresCaches.compileStatements unit.statements).follows h _).self
  | redefine name signature => exact (h.redefine name signature).self
  | registerOptimizer name optimizer => exact (h.registerOptimizer name optimizer).self
  | invalidate name => exact (h.invalidate name).self
  | unregister name => exact (h.unregister name).self

def Compiler.afterAll (compiler : Compiler) (operations : List Operation) : Compiler :=
  operations.foldl Operation.apply compiler

theorem Compiler.Follows.afterAll {compiler : Compiler} (operations : List Operation)
    (h : compiler.Follows compiler.host compiler.optimizers.table) :
    (compiler.afterAll operations).Follows (compiler.afterAll operations).host
      (compiler.afterAll operations).optimizers.table := by
  induction operations generalizing compiler with
  | nil => exact h
  | cons operation rest ih => exact ih (operation.follows h)

theorem caches_are_transparent (host : HostFunctions) (table : OptimizerTable)
    (operations : List Operation) :
    let compiler := (Compiler.new host table).afterAll operations
    let fresh := Compiler.new compiler.host compiler.optimizers.table
    (∀ call demand ctx,
        (compileCall call demand).outcome compiler ctx =
          (compileCall call demand).outcome fresh ctx) ∧
      (∀ expression ctx,
        (compileExpression expression).outcome compiler ctx =
          (compileExpression expression).outcome fresh ctx) ∧
      (∀ arguments mode ctx,
        (boxArguments arguments mode).outcome compiler ctx =
          (boxArguments arguments mode).outcome fresh ctx) ∧
      ∀ unit, (compileUnit unit compiler).1 = (compileUnit unit fresh).1 := by
  intro compiler fresh
  have hcompiler : compiler.Follows compiler.host compiler.optimizers.table :=
    (Compiler.Follows.new host table).afterAll operations
  have hfresh : fresh.Follows compiler.host compiler.optimizers.table := .new _ _
  refine ⟨?_, ?_, ?_, ?_⟩
  · intro call demand ctx
    exact (IgnoresCaches.compileCall call demand).outcome_eq hcompiler hfresh ctx
  · intro expression ctx
    exact (IgnoresCaches.compileExpression expression).outcome_eq hcompiler hfresh ctx
  · intro arguments mode ctx
    exact (IgnoresCaches.boxArguments arguments mode).outcome_eq hcompiler hfresh ctx
  · intro unit
    rw [compileUnit_result, compileUnit_result,
      (IgnoresCaches.compileStatements unit.statements).outcome_eq hcompiler hfresh]

end BoxedCalls
