import BoxedCalls.Proofs.Caches.Retention
import BoxedCalls.Proofs.Caches.Transparency
import BoxedCalls.Proofs.Compile.Actions
import BoxedCalls.Proofs.Scope.Context
import BoxedCalls.Proofs.Scope.Numbering

namespace BoxedCalls

open CompileM

inductive SymbolTable.Built : SymbolTable → Prop where
  | empty : Built {}
  | declare {table} (hbuilt : Built table) (name : String) (type : VariableType) :
      Built (table.declare name type)
  | allocate {table} {storage : Storage} (hbuilt : Built table) (hstorage : storage ≠ .named) :
      Built (table.allocate storage).2

theorem SymbolTable.Built.consistent {table : SymbolTable} (h : table.Built) :
    table.Consistent := by
  induction h with
  | empty => exact consistent_empty
  | declare _ name type ih => exact ih.declare name type
  | allocate _ _ ih => exact ih.allocate _

theorem declareAll_built (declarations : List Declaration) :
    (declareAll declarations).symbols.Built := by
  induction declarations using List.reverseRecOn with
  | nil => exact .empty
  | append_singleton declarations last ih =>
    rw [declareAll_append]
    exact ih.declare last.name last.type

structure SymbolTable.AppendsTo (before after : SymbolTable) : Prop where
  built : after.Built
  entries : ∃ added, after.entries = before.entries ++ added ∧
    ∀ v ∈ added, v.isTemporary = true ∧ v.type = .boxed ∧ before.contains v.name = false
  index : before.index.KeptIn after.index
  counter : before.nextTemporary ≤ after.nextTemporary

namespace SymbolTable.AppendsTo

variable {first second third : SymbolTable}

theorem refl (h : first.Built) : first.AppendsTo first where
  built := h
  entries := ⟨[], (List.append_nil _).symm, nofun⟩
  index := .refl _
  counter := Nat.le_refl _

theorem absent (h : first.AppendsTo second) {name : String} (hfree : second.contains name = false) :
    first.contains name = false := by
  rw [contains, NameMap.contains, Option.isSome_eq_false_iff, Option.isNone_iff_eq_none] at hfree ⊢
  cases hfind : first.index.find? name with
  | none => rfl
  | some position =>
    rw [h.index hfind] at hfree
    cases hfree

theorem trans (h₁ : first.AppendsTo second) (h₂ : second.AppendsTo third) :
    first.AppendsTo third where
  built := h₂.built
  entries := by
    obtain ⟨early, hearly, hfirst⟩ := h₁.entries
    obtain ⟨late, hlate, hsecond⟩ := h₂.entries
    refine ⟨early ++ late, by rw [hlate, hearly, List.append_assoc], ?_⟩
    intro v hmem
    rcases List.mem_append.mp hmem with hmem | hmem
    · exact hfirst v hmem
    · obtain ⟨htemporary, hboxed, hfree⟩ := hsecond v hmem
      exact ⟨htemporary, hboxed, h₁.absent hfree⟩
  index := h₁.index.trans h₂.index
  counter := Nat.le_trans h₁.counter h₂.counter

theorem allocate (h : first.Built) {storage : Storage} (hstorage : storage ≠ .named) :
    first.AppendsTo (first.allocate storage).2 := by
  -- insertion under a name that is taken would overwrite its record
  have hfree := h.consistent.contains_allocated_name storage
  have habsent := h.consistent.index_allocated_name storage
  refine ⟨h.allocate hstorage, ?_, ?_, ?_⟩
  · refine ⟨[(first.allocate storage).1], h.consistent.allocate_entries storage, ?_⟩
    rintro v hmem
    rw [List.mem_singleton.mp hmem]
    exact ⟨by simp [Variable.isTemporary, hstorage], rfl, hfree⟩
  · change first.index.KeptIn (first.insert (first.allocate storage).1).index
    rw [insert_of_absent habsent]
    exact NameMap.keptIn_insert habsent _
  · have hle := le_firstFree first.contains first.entries.length first.nextTemporary
    exact Nat.le_succ_of_le hle

end SymbolTable.AppendsTo

structure Workspace.AppendsTo (before after : Workspace) : Prop where
  instructions : before.context.instructions <+: after.context.instructions
  warnings : before.context.warnings <+: after.context.warnings
  headers : before.context.headers.names ⊆ after.context.headers.names
  symbols : before.context.symbols.AppendsTo after.context.symbols
  compiler : before.compiler.RetainedIn after.compiler

namespace Workspace.AppendsTo

variable {w : Workspace}

theorem refl (h : w.context.symbols.Built) : w.AppendsTo w :=
  ⟨List.prefix_rfl, List.prefix_rfl, List.Subset.refl _, .refl h, .refl _⟩

theorem trans {first second third : Workspace} (h₁ : first.AppendsTo second)
    (h₂ : second.AppendsTo third) : first.AppendsTo third where
  instructions := h₁.instructions.trans h₂.instructions
  warnings := h₁.warnings.trans h₂.warnings
  headers := List.Subset.trans h₁.headers h₂.headers
  symbols := h₁.symbols.trans h₂.symbols
  compiler := h₁.compiler.trans h₂.compiler

theorem of_compiler (h : w.context.symbols.Built) {compiler : Compiler}
    (hretained : w.compiler.RetainedIn compiler) : w.AppendsTo { w with compiler } :=
  { refl h with compiler := hretained }

end Workspace.AppendsTo

def CompileM.workspaceAfter {α : Type} (x : CompileM α) (w : Workspace) : Workspace :=
  match x w with
  | .ok _ after => after
  | .error _ after => after

theorem CompileM.workspaceAfter_bind {α β : Type} (x : CompileM α) (f : α → CompileM β)
    (w : Workspace) :
    (x >>= f).workspaceAfter w =
      match x w with
      | .ok a after => (f a).workspaceAfter after
      | .error _ after => after := by
  unfold workspaceAfter
  rw [bind_run]
  cases x w <;> rfl

def CompileM.OnlyAppends {α : Type} (x : CompileM α) : Prop :=
  ∀ w : Workspace, w.context.symbols.Built → w.AppendsTo (x.workspaceAfter w)

theorem CompileM.OnlyAppends.bind {α β : Type} {x : CompileM α} {f : α → CompileM β}
    (hx : OnlyAppends x) (hf : ∀ a, OnlyAppends (f a)) : OnlyAppends (x >>= f) := by
  intro w hbuilt
  have hfirst := hx w hbuilt
  rw [workspaceAfter_bind]
  unfold workspaceAfter at hfirst
  cases hrun : x w with
  | ok a after =>
    rw [hrun] at hfirst
    exact hfirst.trans (hf a after hfirst.symbols.built)
  | error error after =>
    rw [hrun] at hfirst
    exact hfirst

theorem CompileM.OnlyAppends.lookup (name : String) (span : Span) :
    OnlyAppends (CompileM.lookup name span) := by
  intro w hbuilt
  unfold workspaceAfter CompileM.lookup
  cases w.context.lookup name span with
  | ok v => exact .refl hbuilt
  | error error => exact .refl hbuilt

theorem CompileM.OnlyAppends.isReadOnly (name : String) (count : Nat) (span : Span) :
    OnlyAppends (CompileM.isReadOnly name count span) := by
  intro w hbuilt
  have hasked := Workspace.AppendsTo.of_compiler hbuilt (.afterQuestion w.compiler name count span)
  unfold Compiler.afterQuestion at hasked
  unfold workspaceAfter CompileM.isReadOnly
  simp only
  cases (w.compiler.signatures.isReadOnly w.compiler.host name count span).1 with
  | ok readOnly => exact hasked
  | error error => exact hasked

theorem Workspace.AppendsTo.allocate {w : Workspace} (h : w.context.symbols.Built)
    {storage : Storage} (hstorage : storage ≠ .named) :
    w.AppendsTo { w with context := (w.context.allocate storage).2 } where
  instructions := by
    rw [Context.allocate_instructions]
    exact List.prefix_append _ _
  warnings := by cases storage <;> exact List.prefix_rfl
  headers := by cases storage <;> exact List.Subset.refl _
  symbols := by
    rw [Context.allocate_symbols]
    exact .allocate h hstorage
  compiler := .refl _

theorem CompileM.onlyAppends_compositional :
    Compositional (fun _ _ => True) @OnlyAppends where
  pure _ _ hbuilt := .refl hbuilt
  fail _ _ _ _ hbuilt := .refl hbuilt
  bind := .bind
  emit _ _ hbuilt := { Workspace.AppendsTo.refl hbuilt with instructions := List.prefix_append _ _ }
  warn _ _ hbuilt := { Workspace.AppendsTo.refl hbuilt with warnings := List.prefix_append _ _ }
  require _ _ hbuilt :=
    { Workspace.AppendsTo.refl hbuilt with
      headers := fun _ hmem => HeaderSet.mem_insertInto.mpr (.inr hmem) }
  allocate hstorage _ hbuilt := .allocate hbuilt hstorage
  lookup := .lookup
  knows _ _ hf w hbuilt := hf (w.compiler.knows _) trivial w hbuilt
  resolveOptimizer name w hbuilt := .of_compiler hbuilt (.afterLookup w.compiler name)
  decline w hbuilt := .of_compiler hbuilt (.afterDeclining w.compiler)
  isReadOnly count span _ _ := .isReadOnly _ count span

theorem compilation_only_appends (w : Workspace) (hbuilt : w.context.symbols.Built) :
    (∀ call demand, w.AppendsTo ((compileCall call demand).workspaceAfter w)) ∧
      (∀ expression, w.AppendsTo ((compileExpression expression).workspaceAfter w)) ∧
      (∀ arguments mode, w.AppendsTo ((boxArguments arguments mode).workspaceAfter w)) ∧
      ∀ call demand, w.AppendsTo ((chooseDestination call demand).workspaceAfter w) := by
  have h := onlyAppends_compositional
  refine ⟨fun call demand => ?_, fun expression => ?_, fun arguments mode => ?_,
    fun call demand => ?_⟩
  · exact h.compileCall call demand w hbuilt
  · exact h.compileExpression expression w hbuilt
  · exact h.boxArguments arguments mode w hbuilt
  · exact h.chooseDestination call demand w hbuilt

def Workspace.busy : Workspace where
  compiler :=
    ((Compiler.new .standard .builtin).registerOptimizer "Answer"
      (.fixed ⟨.int, .integer 42, {}⟩)).registerOptimizer "perhaps" .declining
  context := declareAll [⟨"_0", .int⟩, ⟨"letter", .char⟩]

def Call.interrupted : Call :=
  ⟨"strlen", [.call "answer" [] {}, .call "Perhaps" [.var "_0" {}] {}, .var "letter" {}], {}⟩

theorem interrupted_only_appends :
    Workspace.busy.context.symbols.Built ∧
      ((compileCall .interrupted .nothing).outcome Workspace.busy.compiler
        Workspace.busy.context).1 = .error ⟨.unsupportedVariable "char", {}⟩ ∧
      ((compileCall .interrupted .nothing).workspaceAfter .busy).context.instructions = [
        .storeLong (.addressOf "_1") (.integer 42),
        .init (.var "_2"),
        .storeLong (.var "_2") (.var "_0"),
        .init (.var "_3"),
        .callFunction "perhaps" (some (.var "_3")) [.var "_2"]] ∧
      Workspace.busy.AppendsTo ((compileCall .interrupted .nothing).workspaceAfter .busy) := by
  have hbuilt : Workspace.busy.context.symbols.Built := declareAll_built _
  refine ⟨hbuilt, by decide +kernel, by decide +kernel, ?_⟩
  exact (compilation_only_appends .busy hbuilt).1 .interrupted .nothing

end BoxedCalls
