import Mathlib.Data.Finset.Card
import Mathlib.Data.Finset.Filter
import BoxedCalls.Proofs.Scope.Appending

namespace BoxedCalls

theorem eraseDups_concat (names : List String) (name : String) :
    (names ++ [name]).eraseDups =
      if name ∈ names then names.eraseDups else names.eraseDups ++ [name] := by
  rw [List.eraseDups_append]
  by_cases hmem : name ∈ names
  · have hnew : [name].removeAll names = [] := by simp [List.removeAll, hmem]
    rw [if_pos hmem, hnew, List.eraseDups_nil, List.append_nil]
  · have hnew : [name].removeAll names = [name] := by simp [List.removeAll, hmem]
    rw [if_neg hmem, hnew]
    rfl

namespace SymbolTable

inductive Event where
  | declare (name : String) (type : VariableType)
  | allocate (storage : Storage) (isTemporary : storage ≠ .named)

namespace Event

def record (table : SymbolTable) : Event → Variable
  | declare name type => ⟨name, .named, type⟩
  | allocate storage _ => (table.allocate storage).1

def apply (table : SymbolTable) : Event → SymbolTable
  | declare name type => table.declare name type
  | allocate storage _ => (table.allocate storage).2

end Event

def after (history : List Event) : SymbolTable :=
  history.foldl Event.apply {}

def recordsFrom (table : SymbolTable) : List Event → List Variable
  | [] => []
  | event :: later => event.record table :: recordsFrom (event.apply table) later

def records (history : List Event) : List Variable :=
  recordsFrom {} history

def latest (stored : List Variable) (name : String) : Option Variable :=
  stored.findRev? (·.name = name)

def names (table : SymbolTable) : List String :=
  table.entries.map Variable.name

section Histories

variable (history : List Event) (event : Event)

theorem after_concat : after (history ++ [event]) = event.apply (after history) := by
  simp [after]

theorem recordsFrom_append (table : SymbolTable) (first second : List Event) :
    recordsFrom table (first ++ second) =
      recordsFrom table first ++ recordsFrom (first.foldl Event.apply table) second := by
  induction first generalizing table with
  | nil => rfl
  | cons event first ih => exact congrArg (event.record table :: ·) (ih (event.apply table))

theorem records_concat :
    records (history ++ [event]) = records history ++ [event.record (after history)] :=
  recordsFrom_append {} history [event]

theorem latest_concat (stored : List Variable) (v : Variable) (name : String) :
    latest (stored ++ [v]) name = if name = v.name then some v else latest stored name := by
  by_cases h : name = v.name
  · simp [latest, h]
  · simp [latest, h, Ne.symm h]

theorem latest_eq_none_iff {stored : List Variable} {name : String} :
    latest stored name = none ↔ name ∉ stored.map Variable.name := by
  simp [latest]

theorem built_iff {table : SymbolTable} : table.Built ↔ ∃ history, after history = table := by
  constructor
  · intro h
    induction h with
    | empty => exact ⟨[], rfl⟩
    | declare _ name type ih =>
      obtain ⟨history, rfl⟩ := ih
      exact ⟨history ++ [.declare name type], after_concat _ _⟩
    | allocate _ hstorage ih =>
      obtain ⟨history, rfl⟩ := ih
      exact ⟨history ++ [.allocate _ hstorage], after_concat _ _⟩
  · rintro ⟨history, rfl⟩
    induction history using List.reverseRecOn with
    | nil => exact .empty
    | append_singleton history event ih =>
      rw [after_concat]
      cases event with
      | declare name type => exact ih.declare name type
      | allocate storage hstorage => exact ih.allocate hstorage

theorem consistent_after : (after history).Consistent :=
  (built_iff.mpr ⟨history, rfl⟩).consistent

end Histories

section Tables

variable {table : SymbolTable} (h : table.Consistent)
include h

theorem Consistent.index_eq_some_iff {name : String} {position : Nat} :
    table.index.find? name = some position ↔ table.names[position]? = some name := by
  rw [names, List.getElem?_map, Option.map_eq_some_iff]
  constructor
  · exact h.stored
  · rintro ⟨v, hentry, rfl⟩
    exact h.indexed hentry

theorem Consistent.mem_names_iff {name : String} :
    name ∈ table.names ↔ ∃ position, table.index.find? name = some position := by
  rw [List.mem_iff_getElem?]
  exact exists_congr fun _ => h.index_eq_some_iff.symm

theorem Consistent.names_insert (v : Variable) :
    (table.insert v).names =
      if v.name ∈ table.names then table.names else table.names ++ [v.name] := by
  cases hindex : table.index.find? v.name with
  | some position =>
    obtain ⟨hlt, hname⟩ := List.getElem?_eq_some_iff.mp (h.index_eq_some_iff.mp hindex)
    rw [if_pos (h.mem_names_iff.mpr ⟨position, hindex⟩), insert_of_stored hindex, names,
      List.map_set, ← hname]
    exact List.set_getElem_self hlt
  | none =>
    have habsent : v.name ∉ table.names := by
      rw [h.mem_names_iff, hindex]
      simp
    rw [if_neg habsent, insert_of_absent hindex, names, List.map_append]
    rfl

theorem Consistent.find?_apply (event : Event) (name : String) :
    (event.apply table).find? name =
      if name = (event.record table).name then some (event.record table)
      else table.find? name := by
  cases event with
  | declare other type => exact h.find?_declare other name type
  | allocate storage _ => exact h.find?_allocate storage name

theorem Consistent.names_apply (event : Event) :
    (event.apply table).names =
      if (event.record table).name ∈ table.names then table.names
      else table.names ++ [(event.record table).name] := by
  cases event with
  | declare name type => exact h.names_insert ⟨name, .named, type⟩
  | allocate storage _ => exact h.names_insert (table.allocate storage).1

theorem Consistent.any_find?_iff {p : Variable → Bool} {name : String} :
    (table.find? name).any p = true ↔ name ∈ (table.entries.filter p).map Variable.name := by
  simp only [Option.any_eq_true, h.find?_eq_some_iff, List.mem_map, List.mem_filter,
    and_right_comm]

theorem Consistent.temporaryCount_eq :
    table.temporaryCount =
      (table.names.toFinset.filter fun name =>
        (table.find? name).any Variable.isTemporary).card := by
  have hsublist : ((table.entries.filter Variable.isTemporary).map Variable.name).Sublist
      table.names :=
    List.filter_sublist.map Variable.name
  have hnodup := h.nodup_names.sublist hsublist
  rw [temporaryCount, ← List.length_map Variable.name, ← List.toFinset_card_of_nodup hnodup]
  congr 1
  ext name
  rw [List.mem_toFinset, Finset.mem_filter, List.mem_toFinset, h.any_find?_iff]
  exact (and_iff_right_of_imp fun hmem => hsublist.subset hmem).symm

end Tables

structure Shows (stored : List Variable) (table : SymbolTable) : Prop where
  consistent : table.Consistent
  find?_eq : ∀ name, table.find? name = latest stored name
  names_eq : table.names = (stored.map Variable.name).eraseDups

theorem shows_empty : Shows [] {} where
  consistent := consistent_empty
  find?_eq _ := rfl
  names_eq := rfl

theorem Shows.apply {stored : List Variable} {table : SymbolTable} (h : Shows stored table)
    (event : Event) : Shows (stored ++ [event.record table]) (event.apply table) where
  consistent := by
    cases event with
    | declare name type => exact h.consistent.declare name type
    | allocate storage _ => exact h.consistent.allocate storage
  find?_eq name := by
    rw [h.consistent.find?_apply, latest_concat, h.find?_eq]
  names_eq := by
    have hstored : (event.record table).name ∈ table.names ↔
        (event.record table).name ∈ stored.map Variable.name := by
      rw [h.names_eq, List.mem_eraseDups]
    rw [h.consistent.names_apply, List.map_append, List.map_singleton, eraseDups_concat,
      if_congr hstored rfl rfl, h.names_eq]

theorem shows_after (history : List Event) : Shows (records history) (after history) := by
  induction history using List.reverseRecOn with
  | nil => exact shows_empty
  | append_singleton history event ih =>
    rw [records_concat, after_concat]
    exact ih.apply event

theorem index_follows_list (history : List Event) :
    let table := after history
    let stored := records history
    (∀ name position,
        table.index.find? name = some position ↔ table.names[position]? = some name) ∧
      (∀ name position, table.index.find? name = some position →
        position < table.entries.length) ∧
      (∀ name, table.find? name = latest stored name) ∧
      (∀ name, table.find? name = none ↔ name ∉ stored.map Variable.name) ∧
      table.names.Nodup ∧
      table.names = (stored.map Variable.name).eraseDups ∧
      (∀ name type position, table.index.find? name = some position →
        table.declare name type =
          { table with entries := table.entries.set position ⟨name, .named, type⟩ }) ∧
      table.temporaryCount =
        ((stored.map Variable.name).toFinset.filter fun name =>
          (latest stored name).any Variable.isTemporary).card := by
  intro table stored
  have hshows : Shows stored table := shows_after history
  refine ⟨?_, ?_, hshows.find?_eq, ?_, hshows.consistent.nodup_names, hshows.names_eq, ?_, ?_⟩
  · intro name position
    exact hshows.consistent.index_eq_some_iff
  · intro name position hindex
    obtain ⟨v, hentry, _⟩ := hshows.consistent.stored hindex
    exact (List.getElem?_eq_some_iff.mp hentry).1
  · intro name
    rw [hshows.find?_eq, latest_eq_none_iff]
  · intro name type position hindex
    exact insert_of_stored hindex
  · have hsame : table.names.toFinset = (stored.map Variable.name).toFinset := by
      ext name
      rw [List.mem_toFinset, List.mem_toFinset, hshows.names_eq, List.mem_eraseDups]
    rw [hshows.consistent.temporaryCount_eq, hsame]
    simp only [hshows.find?_eq]

def redeclarations : List Event := [
  .declare "_0" .boxed,
  .declare "text" .string,
  .allocate .heapTemporary (ArgumentMode.storage_ne_named .owned),
  .allocate .stackTemporary (ArgumentMode.storage_ne_named .lent),
  .declare "_1" .int,
  .declare "text" .boxed]

theorem redeclarations_keep_places :
    (after redeclarations).index.find? "_2" = some 3 ∧
      (after redeclarations).entries = [⟨"_0", .named, .boxed⟩, ⟨"text", .named, .boxed⟩,
        ⟨"_1", .named, .int⟩, ⟨"_2", .stackTemporary, .boxed⟩] ∧
      ((after redeclarations).declare "_2" .char).entries = [⟨"_0", .named, .boxed⟩,
        ⟨"text", .named, .boxed⟩, ⟨"_1", .named, .int⟩, ⟨"_2", .named, .char⟩] ∧
      latest (records redeclarations) "text" = some ⟨"text", .named, .boxed⟩ := by
  obtain ⟨_, _, hfind, _, _, _, hredeclared, _⟩ := index_follows_list redeclarations
  have hplace : (after redeclarations).index.find? "_2" = some 3 := by decide +kernel
  have hentries : (after redeclarations).entries = [⟨"_0", .named, .boxed⟩,
      ⟨"text", .named, .boxed⟩, ⟨"_1", .named, .int⟩, ⟨"_2", .stackTemporary, .boxed⟩] := by
    decide +kernel
  refine ⟨hplace, hentries, ?_, ?_⟩
  · rw [hredeclared "_2" .char 3 hplace, hentries]
    rfl
  · rw [← hfind "text"]
    decide +kernel

end SymbolTable

end BoxedCalls
