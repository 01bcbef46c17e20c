import Mathlib.Data.List.Nodup
import BoxedCalls.Scope.SymbolTable

namespace BoxedCalls

theorem toList_temporaryName (number : Nat) :
    (temporaryName number).toList = '_' :: Nat.toDigits 10 number := by
  simp [temporaryName, Nat.toString_eq_repr, Nat.toList_repr]

theorem temporaryName_injective : Function.Injective temporaryName := by
  intro m n h
  have hlists := congrArg String.toList h
  rw [toList_temporaryName, toList_temporaryName] at hlists
  have hdigits : Nat.toDigits 10 m = Nat.toDigits 10 n := List.tail_eq_of_cons_eq hlists
  have hvalues := congrArg (fun digits => Nat.ofDigitChars 10 digits 0) hdigits
  simpa using hvalues

theorem ne_temporaryName {name : String} (h : name.toList.head? ≠ some '_') (number : Nat) :
    name ≠ temporaryName number := by
  rintro rfl
  exact h (by rw [toList_temporaryName]; rfl)

theorem not_taken_of_firstFree_lt {taken : String → Bool} {count number : Nat}
    (h : firstFree taken count number < number + count) :
    taken (temporaryName (firstFree taken count number)) = false := by
  induction count generalizing number with
  | zero => simp [firstFree] at h
  | succ count ih =>
    unfold firstFree at h ⊢
    split
    · next hit =>
      rw [if_pos hit] at h
      exact ih (by omega)
    · next miss => simpa using miss

theorem not_taken_firstFree {taken : String → Bool} {names : List String} {count : Nat}
    (number : Nat) (htaken : ∀ name, taken name = true → name ∈ names)
    (hcount : names.length ≤ count) :
    taken (temporaryName (firstFree taken count number)) = false := by
  by_contra hfound
  have hlast : firstFree taken count number = number + count := by
    have hle := firstFree_le taken count number
    have hge : ¬ firstFree taken count number < number + count :=
      fun hlt => hfound (not_taken_of_firstFree_lt hlt)
    omega
  let attempts := (List.range (count + 1)).map fun i => temporaryName (number + i)
  have hnodup : attempts.Nodup := by
    refine (List.nodup_range).map ?_
    intro i j hij
    have := temporaryName_injective hij
    omega
  have hsubset : attempts ⊆ names := by
    intro name hname
    obtain ⟨i, hi, rfl⟩ := List.mem_map.mp hname
    apply htaken
    rw [List.mem_range] at hi
    rcases Nat.lt_or_ge i count with hlt | hge
    · exact taken_of_lt_firstFree (by omega) (by omega : number + i < firstFree taken count number)
    · rw [show number + i = firstFree taken count number by omega]
      simpa using hfound
  have hlength := hnodup.length_le_of_subset hsubset
  simp only [attempts, List.length_map, List.length_range] at hlength
  omega

namespace SymbolTable

structure Consistent (table : SymbolTable) : Prop where
  stored : ∀ {name : String} {position : Nat}, table.index.find? name = some position →
    ∃ v, table.entries[position]? = some v ∧ v.name = name
  indexed : ∀ {position : Nat} {v : Variable}, table.entries[position]? = some v →
    table.index.find? v.name = some position

theorem consistent_empty : Consistent {} where
  stored := by intro name position h; cases h
  indexed := by intro position v h; simp at h

variable {table : SymbolTable}

theorem Consistent.name_of_find? (h : table.Consistent) {name : String} {v : Variable}
    (hfind : table.find? name = some v) : v.name = name := by
  obtain ⟨position, hposition, hentry⟩ := Option.bind_eq_some_iff.mp hfind
  obtain ⟨w, hw, rfl⟩ := h.stored hposition
  rw [hentry] at hw
  cases hw
  rfl

theorem Consistent.find?_eq_some_iff (h : table.Consistent) {name : String} {v : Variable} :
    table.find? name = some v ↔ v ∈ table.entries ∧ v.name = name := by
  constructor
  · intro hfind
    obtain ⟨position, _, hentry⟩ := Option.bind_eq_some_iff.mp hfind
    exact ⟨List.mem_of_getElem? hentry, h.name_of_find? hfind⟩
  · rintro ⟨hmem, rfl⟩
    obtain ⟨position, hentry⟩ := List.mem_iff_getElem?.mp hmem
    exact Option.bind_eq_some_iff.mpr ⟨position, h.indexed hentry, hentry⟩

theorem Consistent.nodup_names (h : table.Consistent) :
    (table.entries.map Variable.name).Nodup := by
  rw [List.nodup_iff_getElem?_ne_getElem?]
  intro i j hlt hj hsame
  rw [List.length_map] at hj
  have hsecond := List.getElem?_eq_getElem hj
  rw [List.getElem?_map, List.getElem?_map, hsecond] at hsame
  obtain ⟨v, hfirst, hname⟩ := Option.map_eq_some_iff.mp hsame
  have hposition := h.indexed hfirst
  rw [hname, h.indexed hsecond, Option.some.injEq] at hposition
  omega

theorem Consistent.contains_eq (h : table.Consistent) (name : String) :
    table.contains name = (table.find? name).isSome := by
  unfold contains NameMap.contains find?
  cases hindex : table.index.find? name with
  | none => rfl
  | some position =>
    obtain ⟨v, hentry, _⟩ := h.stored hindex
    simp [hentry]

theorem insert_of_stored {v : Variable} {position : Nat}
    (h : table.index.find? v.name = some position) :
    table.insert v = { table with entries := table.entries.set position v } := by
  simp [insert, h]

theorem insert_of_absent {v : Variable} (h : table.index.find? v.name = none) :
    table.insert v =
      { table with
        entries := table.entries ++ [v]
        index := table.index.insert v.name table.entries.length } := by
  simp [insert, h]

theorem Consistent.insert (h : table.Consistent) (v : Variable) : (table.insert v).Consistent := by
  cases hindex : table.index.find? v.name with
  | some position =>
    obtain ⟨old, hold, hname⟩ := h.stored hindex
    have hlt : position < table.entries.length := (List.getElem?_eq_some_iff.mp hold).1
    rw [insert_of_stored hindex]
    constructor
    · intro name place hplace
      obtain ⟨w, hw, rfl⟩ := h.stored hplace
      by_cases hsame : position = place
      · subst hsame
        rw [hold] at hw
        cases hw
        exact ⟨v, by simp [hlt], hname.symm⟩
      · exact ⟨w, by simpa [List.getElem?_set_ne hsame] using hw, rfl⟩
    · intro place w hw
      by_cases hsame : position = place
      · subst hsame
        simp only [List.getElem?_set_self hlt, Option.some.injEq] at hw
        subst hw
        exact hindex
      · exact h.indexed (by simpa [List.getElem?_set_ne hsame] using hw)
  | none =>
    rw [insert_of_absent hindex]
    constructor
    · intro name place hplace
      rw [NameMap.find?_insert] at hplace
      split at hplace
      · next same =>
        cases hplace
        exact ⟨v, by simp, same.symm⟩
      · obtain ⟨w, hw, hname⟩ := h.stored hplace
        have hlt : place < table.entries.length := (List.getElem?_eq_some_iff.mp hw).1
        exact ⟨w, by rwa [List.getElem?_append_left hlt], hname⟩
    · intro place w hw
      rw [NameMap.find?_insert]
      rcases Nat.lt_or_ge place table.entries.length with hlt | hge
      · rw [List.getElem?_append_left hlt] at hw
        have hne : w.name ≠ v.name := by
          intro hname
          have := h.indexed hw
          rw [hname, hindex] at this
          cases this
        rw [if_neg hne]
        exact h.indexed hw
      · rw [List.getElem?_append_right hge, List.getElem?_singleton] at hw
        split at hw
        · cases hw
          rw [if_pos rfl]
          congr 1
          omega
        · cases hw

theorem Consistent.find?_insert (h : table.Consistent) (v : Variable) (name : String) :
    (table.insert v).find? name = if name = v.name then some v else table.find? name := by
  cases hindex : table.index.find? v.name with
  | some position =>
    obtain ⟨old, hold, hname⟩ := h.stored hindex
    have hlt : position < table.entries.length := (List.getElem?_eq_some_iff.mp hold).1
    rw [insert_of_stored hindex]
    split
    · next same => simp [find?, same, hindex, hlt]
    · next distinct =>
      cases hother : table.index.find? name with
      | none => simp [find?, hother]
      | some place =>
        have hne : position ≠ place := by
          rintro rfl
          obtain ⟨w, hw, rfl⟩ := h.stored hother
          rw [hold] at hw
          cases hw
          exact distinct hname
        simp [find?, hother, List.getElem?_set_ne hne]
  | none =>
    rw [insert_of_absent hindex]
    split
    · next same => simp [find?, NameMap.find?_insert, same]
    · next distinct =>
      cases hother : table.index.find? name with
      | none => simp [find?, NameMap.find?_insert, distinct, hother]
      | some place =>
        obtain ⟨w, hw, _⟩ := h.stored hother
        have hlt : place < table.entries.length := (List.getElem?_eq_some_iff.mp hw).1
        simp [find?, NameMap.find?_insert, distinct, hother, List.getElem?_append_left hlt]

theorem Consistent.mem_names (h : table.Consistent) {name : String}
    (hcontains : table.contains name = true) : name ∈ table.entries.map Variable.name := by
  rw [h.contains_eq] at hcontains
  obtain ⟨v, hfind⟩ := Option.isSome_iff_exists.mp hcontains
  obtain ⟨hmem, rfl⟩ := h.find?_eq_some_iff.mp hfind
  exact List.mem_map_of_mem hmem

theorem Consistent.contains_allocated_name (h : table.Consistent) (storage : Storage) :
    table.contains (table.allocate storage).1.name = false :=
  not_taken_firstFree table.nextTemporary (fun _ => h.mem_names) (by simp)

theorem Consistent.find?_allocated_name (h : table.Consistent) (storage : Storage) :
    table.find? (table.allocate storage).1.name = none := by
  have hfree := h.contains_allocated_name storage
  rw [h.contains_eq] at hfree
  simpa using hfree

theorem Consistent.index_allocated_name (h : table.Consistent) (storage : Storage) :
    table.index.find? (table.allocate storage).1.name = none := by
  have hfree := h.contains_allocated_name storage
  rwa [contains, NameMap.contains, Option.isSome_eq_false_iff, Option.isNone_iff_eq_none] at hfree

@[simp] theorem allocate_storage (table : SymbolTable) (storage : Storage) :
    (table.allocate storage).1.storage = storage := rfl

@[simp] theorem allocate_type (table : SymbolTable) (storage : Storage) :
    (table.allocate storage).1.type = .boxed := rfl

theorem allocate_name (table : SymbolTable) (storage : Storage) :
    ∃ number, (table.allocate storage).1.name = temporaryName number := ⟨_, rfl⟩

theorem Consistent.allocate (h : table.Consistent) (storage : Storage) :
    (table.allocate storage).2.Consistent :=
  let inserted := h.insert (table.allocate storage).1
  ⟨inserted.stored, inserted.indexed⟩

theorem Consistent.find?_allocate (h : table.Consistent) (storage : Storage) (name : String) :
    (table.allocate storage).2.find? name =
      if name = (table.allocate storage).1.name then some (table.allocate storage).1
      else table.find? name :=
  h.find?_insert (table.allocate storage).1 name

theorem Consistent.declare (h : table.Consistent) (name : String) (type : VariableType) :
    (table.declare name type).Consistent :=
  h.insert ⟨name, .named, type⟩

theorem Consistent.find?_declare (h : table.Consistent) (name other : String)
    (type : VariableType) :
    (table.declare name type).find? other =
      if other = name then some ⟨name, .named, type⟩ else table.find? other :=
  h.find?_insert ⟨name, .named, type⟩ other

structure Extends (before after : SymbolTable) : Prop where
  kept : ∀ {name : String} {v : Variable}, before.find? name = some v → after.find? name = some v
  added : ∀ {name : String} {v : Variable}, after.find? name = some v →
    before.find? name = some v ∨
      before.find? name = none ∧ v.isTemporary = true ∧ v.type = .boxed ∧
        ∃ number, name = temporaryName number

theorem Extends.refl (table : SymbolTable) : table.Extends table :=
  ⟨id, .inl⟩

theorem Extends.trans {first second third : SymbolTable} (h₁ : first.Extends second)
    (h₂ : second.Extends third) : first.Extends third where
  kept hfind := h₂.kept (h₁.kept hfind)
  added := by
    intro name v hfind
    rcases h₂.added hfind with hsecond | ⟨habsent, hnew⟩
    · exact h₁.added hsecond
    · refine .inr ⟨?_, hnew⟩
      cases hfirst : first.find? name with
      | none => rfl
      | some w => rw [h₁.kept hfirst] at habsent; cases habsent

theorem Consistent.extends_allocate (h : table.Consistent) {storage : Storage}
    (hstorage : storage ≠ .named) : table.Extends (table.allocate storage).2 where
  kept := by
    intro name v hfind
    rw [h.find?_allocate]
    split
    · next same =>
      rw [same, h.find?_allocated_name] at hfind
      cases hfind
    · exact hfind
  added := by
    intro name v hfind
    rw [h.find?_allocate] at hfind
    split at hfind
    · next same =>
      cases hfind
      subst same
      exact .inr ⟨h.find?_allocated_name storage, by simp [Variable.isTemporary, hstorage], rfl,
        allocate_name table storage⟩
    · exact .inl hfind

def HasTemporary (table : SymbolTable) (storage : Storage) (number : Nat) : Prop :=
  table.find? (temporaryName number) = some ⟨temporaryName number, storage, .boxed⟩

theorem Consistent.hasTemporary_allocate (h : table.Consistent) {storage : Storage}
    {after : SymbolTable} (hextends : (table.allocate storage).2.Extends after) :
    ∃ number, (table.allocate storage).1 = ⟨temporaryName number, storage, .boxed⟩ ∧
      after.HasTemporary storage number := by
  refine ⟨_, rfl, hextends.kept ?_⟩
  rw [h.find?_allocate]
  exact if_pos rfl

end SymbolTable

end BoxedCalls
