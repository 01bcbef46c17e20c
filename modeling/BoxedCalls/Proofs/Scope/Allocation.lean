import Mathlib.Order.Bounds.Basic
import BoxedCalls.Proofs.Scope.History

namespace BoxedCalls

/-- The search for a free name from `number` on, which nothing bounds: how many attempts it takes,
and the number that is found. -/
inductive Search (taken : String → Bool) : Nat → Nat → Nat → Prop where
  | found {number} (hfree : taken (temporaryName number) = false) : Search taken number 1 number
  | next {number attempts result} (htaken : taken (temporaryName number) = true)
      (hlater : Search taken (number + 1) attempts result) :
      Search taken number (attempts + 1) result

section Searches

variable {taken : String → Bool} {count number attempts result : Nat}

theorem Search.isLeast (h : Search taken number attempts result) :
    IsLeast {k | number ≤ k ∧ taken (temporaryName k) = false} result := by
  induction h with
  | found hfree => exact ⟨⟨Nat.le_refl _, hfree⟩, fun k hk => hk.1⟩
  | @next number attempts result htaken hlater ih =>
    obtain ⟨⟨hle, hfree⟩, hleast⟩ := ih
    refine ⟨⟨Nat.le_of_succ_le hle, hfree⟩, fun k hk => hleast ⟨?_, hk.2⟩⟩
    obtain ⟨hle', hfree'⟩ := hk
    refine Nat.lt_of_le_of_ne hle' ?_
    rintro rfl
    rw [htaken] at hfree'
    cases hfree'

theorem search_firstFree
    (hfree : taken (temporaryName (firstFree taken count number)) = false) :
    ∃ attempts ≤ count + 1, Search taken number attempts (firstFree taken count number) := by
  induction count generalizing number with
  | zero => exact ⟨1, Nat.le_refl 1, .found hfree⟩
  | succ count ih =>
    unfold firstFree at hfree ⊢
    split
    · next htaken =>
      rw [if_pos htaken] at hfree
      obtain ⟨attempts, hle, hsearch⟩ := ih hfree
      exact ⟨attempts + 1, Nat.succ_le_succ hle, .next htaken hsearch⟩
    · next hnot => exact ⟨1, by omega, .found (by simpa using hnot)⟩

end Searches

namespace SymbolTable

variable {table : SymbolTable}

theorem Consistent.contains_eq_false_iff (h : table.Consistent) {name : String} :
    table.contains name = false ↔ name ∉ table.names := by
  rw [h.mem_names_iff, contains, NameMap.contains, Option.isSome_eq_false_iff,
    Option.isNone_iff_eq_none, Option.eq_none_iff_forall_ne_some]
  exact not_exists.symm

def extend (table : SymbolTable) (v : Variable) (nextTemporary : Nat) : SymbolTable where
  entries := table.entries ++ [v]
  index := table.index.insert v.name table.entries.length
  nextTemporary := nextTemporary

theorem Consistent.search_allocate (h : table.Consistent) (storage : Storage) :
    ∃ number attempts, Search table.contains table.nextTemporary attempts number ∧
      attempts ≤ table.entries.length + 1 ∧
      table.allocate storage =
        (⟨temporaryName number, storage, .boxed⟩,
          table.extend ⟨temporaryName number, storage, .boxed⟩ (number + 1)) := by
  have habsent := h.index_allocated_name storage
  obtain ⟨attempts, hle, hsearch⟩ := search_firstFree (h.contains_allocated_name storage)
  refine ⟨_, attempts, hsearch, hle, ?_⟩
  simp only [SymbolTable.allocate] at habsent ⊢
  rw [insert_of_absent habsent]
  rfl

theorem declare_nextTemporary (table : SymbolTable) (name : String) (type : VariableType) :
    (table.declare name type).nextTemporary = table.nextTemporary := by
  unfold declare insert
  split <;> rfl

def handedOut (history : List Event) : List Variable :=
  (records history).filter Variable.isTemporary

theorem handedOut_concat_declare (history : List Event) (name : String) (type : VariableType) :
    handedOut (history ++ [.declare name type]) = handedOut history := by
  rw [handedOut, records_concat, List.filter_append]
  exact List.append_nil _

theorem handedOut_concat_allocate (history : List Event) {storage : Storage}
    (hstorage : storage ≠ .named) :
    handedOut (history ++ [.allocate storage hstorage]) =
      handedOut history ++ [((after history).allocate storage).1] := by
  have htemporary : ((after history).allocate storage).1.isTemporary = true := by
    simp [Variable.isTemporary, hstorage]
  rw [handedOut, records_concat, List.filter_append, Event.record, List.filter_singleton,
    htemporary]
  rfl

theorem exists_numbers (history : List Event) :
    ∃ numbers : List Nat, (handedOut history).map Variable.name = numbers.map temporaryName ∧
      numbers.Pairwise (· < ·) ∧ ∀ number ∈ numbers, number < (after history).nextTemporary := by
  induction history using List.reverseRecOn with
  | nil => exact ⟨[], rfl, .nil, nofun⟩
  | append_singleton history event ih =>
    obtain ⟨numbers, hnames, hascending, hbelow⟩ := ih
    rw [after_concat]
    cases event with
    | declare name type =>
      rw [handedOut_concat_declare, Event.apply, declare_nextTemporary]
      exact ⟨numbers, hnames, hascending, hbelow⟩
    | allocate storage hstorage =>
      obtain ⟨number, attempts, hsearch, _, hallocate⟩ :=
        (consistent_after history).search_allocate storage
      have hle : (after history).nextTemporary ≤ number := hsearch.isLeast.1.1
      rw [handedOut_concat_allocate, Event.apply, hallocate]
      refine ⟨numbers ++ [number], ?_, ?_, ?_⟩
      · rw [List.map_append, List.map_append, hnames]
        rfl
      · refine List.pairwise_append.mpr ⟨hascending, List.pairwise_singleton _ _, ?_⟩
        intro earlier hmem later hlater
        rw [List.mem_singleton.mp hlater]
        exact Nat.lt_of_lt_of_le (hbelow earlier hmem) hle
      · intro other hmem
        rcases List.mem_append.mp hmem with hold | hnew
        · exact Nat.lt_succ_of_lt (Nat.lt_of_lt_of_le (hbelow other hold) hle)
        · rw [List.mem_singleton.mp hnew]
          exact Nat.lt_succ_self number

theorem allocation_is_fresh_and_least :
    (∀ history storage, storage ≠ .named →
      let table := after history
      ∃ number attempts, Search table.contains table.nextTemporary attempts number ∧
        attempts ≤ table.entries.length + 1 ∧
        IsLeast {k | table.nextTemporary ≤ k ∧ temporaryName k ∉ table.names} number ∧
        table.allocate storage =
          (⟨temporaryName number, storage, .boxed⟩,
            table.extend ⟨temporaryName number, storage, .boxed⟩ (number + 1)) ∧
        (storage.ownership = .owned ↔ storage = .heapTemporary)) ∧
      ∀ history,
        (∃ numbers : List Nat,
          (handedOut history).map Variable.name = numbers.map temporaryName ∧
            numbers.Pairwise (· < ·)) ∧
        ((handedOut history).map Variable.name).Nodup := by
  refine ⟨?_, ?_⟩
  · intro history storage hstorage table
    have hconsistent : table.Consistent := consistent_after history
    obtain ⟨number, attempts, hsearch, hle, hallocate⟩ := hconsistent.search_allocate storage
    have hleast := hsearch.isLeast
    simp only [hconsistent.contains_eq_false_iff] at hleast
    refine ⟨number, attempts, hsearch, hle, hleast, hallocate, ?_⟩
    cases storage with
    | heapTemporary => decide
    | stackTemporary => decide
    | named => exact absurd rfl hstorage
  · intro history
    obtain ⟨numbers, hnames, hascending, _⟩ := exists_numbers history
    refine ⟨⟨numbers, hnames, hascending⟩, ?_⟩
    rw [hnames]
    have hdistinct : numbers.Nodup := hascending.imp Nat.ne_of_lt
    exact hdistinct.map temporaryName_injective

def declaredAhead : List Event := [
  .declare "_1" .boxed,
  .allocate .heapTemporary (ArgumentMode.storage_ne_named .owned),
  .declare "_2" .int]

theorem declaredAhead_skipped :
    Storage.stackTemporary ≠ .named ∧
      (∃ attempts, Search (after declaredAhead).contains 1 attempts 3 ∧ attempts ≤ 4) ∧
      ((after declaredAhead).allocate .stackTemporary).1 = ⟨"_3", .stackTemporary, .boxed⟩ ∧
      ((handedOut declaredAhead).map Variable.name).Nodup := by
  obtain ⟨hallocation, hnames⟩ := allocation_is_fresh_and_least
  have hstorage : Storage.stackTemporary ≠ .named := by decide
  obtain ⟨number, attempts, hsearch, hle, _, hallocate, _⟩ :=
    hallocation declaredAhead .stackTemporary hstorage
  have hvariable : ((after declaredAhead).allocate .stackTemporary).1 =
      ⟨"_3", .stackTemporary, .boxed⟩ := by
    decide +kernel
  rw [hallocate] at hvariable
  have hnumber : number = 3 := by
    refine temporaryName_injective ((congrArg Variable.name hvariable).trans ?_)
    decide +kernel
  subst hnumber
  refine ⟨hstorage, ⟨attempts, hsearch, hle⟩, ?_, (hnames declaredAhead).2⟩
  rw [hallocate]
  exact hvariable

end SymbolTable

end BoxedCalls
