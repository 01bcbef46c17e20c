import BoxedCalls.Proofs.Scope.Changes

namespace BoxedCalls

namespace SymbolTable

structure Numbered (table : SymbolTable) : Prop where
  consistent : table.Consistent
  free : ∀ {number}, table.nextTemporary ≤ number → table.find? (temporaryName number) = none
  count : table.temporaryCount = table.nextTemporary

theorem firstFree_of_free {taken : String → Bool} {number : Nat}
    (h : taken (temporaryName number) = false) (count : Nat) :
    firstFree taken count number = number := by
  cases count with
  | zero => rfl
  | succ count =>
    rw [firstFree, h]
    rfl

variable {table : SymbolTable}

theorem Numbered.firstFree_eq (h : table.Numbered) :
    firstFree table.contains table.entries.length table.nextTemporary = table.nextTemporary := by
  apply firstFree_of_free
  rw [h.consistent.contains_eq, h.free (Nat.le_refl _)]
  rfl

theorem Numbered.allocate_eq (h : table.Numbered) (storage : Storage) :
    (table.allocate storage).1 = ⟨temporaryName table.nextTemporary, storage, .boxed⟩ := by
  rw [SymbolTable.allocate, h.firstFree_eq]

theorem Numbered.allocate_next (h : table.Numbered) (storage : Storage) :
    (table.allocate storage).2.nextTemporary = table.nextTemporary + 1 := by
  rw [SymbolTable.allocate, h.firstFree_eq]

theorem Consistent.allocate_entries (h : table.Consistent) (storage : Storage) :
    (table.allocate storage).2.entries = table.entries ++ [(table.allocate storage).1] :=
  congrArg SymbolTable.entries (insert_of_absent (h.index_allocated_name storage))

theorem Numbered.allocate (h : table.Numbered) {storage : Storage} (hstorage : storage ≠ .named) :
    (table.allocate storage).2.Numbered where
  consistent := h.consistent.allocate storage
  free := by
    intro number hle
    rw [h.allocate_next] at hle
    rw [h.consistent.find?_allocate, h.allocate_eq, if_neg]
    · exact h.free (by omega)
    · intro hsame
      have := temporaryName_injective hsame
      omega
  count := by
    have htemporary : (table.allocate storage).1.isTemporary = true := by
      simp [Variable.isTemporary, hstorage]
    rw [h.allocate_next, temporaryCount, h.consistent.allocate_entries, List.filter_append,
      List.length_append, List.filter_singleton, htemporary]
    exact congrArg (· + 1) h.count

end SymbolTable

theorem Context.Changes.numbered {calls : List Call} {p : String → Prop} {ctx ctx' : Context}
    (h : ctx.Changes calls p ctx') (hnumbered : ctx.symbols.Numbered) : ctx'.symbols.Numbered := by
  induction h with
  | refl => exact hnumbered
  | tail _ hchange ih =>
    cases hchange with
    | emit hcalls => exact ih
    | warn warning => exact ih
    | require header => exact ih
    | allocate hstorage =>
      rw [allocate_symbols]
      exact ih.allocate hstorage

theorem compileStatements_numbered {statements : List Statement} {w w' : Workspace} {u : Unit}
    (hrun : compileStatements statements w = .ok u w') (h : w.context.symbols.Numbered) :
    w'.context.symbols.Numbered := by
  have hnames : w.context.Names fun _ => True := ⟨fun _ => trivial, fun _ _ => trivial⟩
  have hbuilds := CompileM.Builds.compileStatements statements (List.Subset.refl _) w hnames
  rw [hrun] at hbuilds
  cases hbuilds with
  | ok _ hchanges => exact hchanges.numbered h

theorem declareAll_named (declarations : List Declaration) :
    ∀ v ∈ (declareAll declarations).symbols.entries, v.storage = .named := by
  intro v hmem
  have hfind := (declareAll_consistent declarations).find?_eq_some_iff.mpr ⟨hmem, rfl⟩
  rw [find?_declareAll] at hfind
  obtain ⟨type, _, hv⟩ := Option.map_eq_some_iff.mp hfind
  rw [← hv]

theorem declareAll_nextTemporary (declarations : List Declaration) :
    (declareAll declarations).symbols.nextTemporary = 0 := by
  induction declarations using List.reverseRecOn with
  | nil => rfl
  | append_singleton declarations last ih =>
    rw [declareAll_append]
    change ((declareAll declarations).symbols.insert _).nextTemporary = 0
    unfold SymbolTable.insert
    split <;> exact ih

def PlainlyDeclared (declarations : List Declaration) : Prop :=
  ∀ number, temporaryName number ∉ declarations.map Declaration.name

theorem declareAll_numbered {declarations : List Declaration} (h : PlainlyDeclared declarations) :
    (declareAll declarations).symbols.Numbered where
  consistent := declareAll_consistent declarations
  free := by
    intro number _
    rw [find?_declareAll, Option.map_eq_none_iff]
    simpa [declaredType] using h number
  count := by
    rw [declareAll_nextTemporary, SymbolTable.temporaryCount, List.length_eq_zero_iff,
      List.filter_eq_nil_iff]
    intro v hmem
    simp [Variable.isTemporary, declareAll_named declarations v hmem]

end BoxedCalls
