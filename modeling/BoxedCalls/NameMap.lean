namespace BoxedCalls

variable {α : Type}

structure NameMap (α : Type) where
  entries : List (String × α) := []
  deriving Repr, DecidableEq

namespace NameMap

def empty : NameMap α := ⟨[]⟩

def find? (m : NameMap α) (name : String) : Option α :=
  m.entries.lookup name

def contains (m : NameMap α) (name : String) : Bool :=
  (m.find? name).isSome

def erase (m : NameMap α) (name : String) : NameMap α :=
  ⟨m.entries.filter (fun entry => entry.1 ≠ name)⟩

def insert (m : NameMap α) (name : String) (value : α) : NameMap α :=
  ⟨(name, value) :: (m.erase name).entries⟩

def ofList (entries : List (String × α)) : NameMap α :=
  entries.foldl (fun m entry => m.insert entry.1 entry.2) empty

theorem lookup_filter_ne (entries : List (String × α)) (name key : String) :
    (entries.filter (fun entry => entry.1 ≠ name)).lookup key =
      if key = name then none else entries.lookup key := by
  induction entries with
  | nil => simp
  | cons entry rest ih =>
    obtain ⟨first, value⟩ := entry
    by_cases hn : first = name
    · subst hn
      by_cases hk : key = first
      · simpa [hk] using ih
      · simpa [hk, List.lookup_cons, beq_eq_false_iff_ne.mpr hk] using ih
    · by_cases hk : key = first
      · simp [hk, hn]
      · simpa [hn, List.lookup_cons, beq_eq_false_iff_ne.mpr hk] using ih

theorem find?_erase (m : NameMap α) (name key : String) :
    (m.erase name).find? key = if key = name then none else m.find? key :=
  lookup_filter_ne m.entries name key

theorem find?_insert (m : NameMap α) (name key : String) (value : α) :
    (m.insert name value).find? key = if key = name then some value else m.find? key := by
  by_cases h : key = name
  · simp [find?, insert, h]
  · have := find?_erase m name key
    simpa [find?, insert, List.lookup_cons, beq_eq_false_iff_ne.mpr h, h] using this

theorem contains_insert (m : NameMap α) (name key : String) (value : α) :
    (m.insert name value).contains key = (key = name || m.contains key) := by
  by_cases h : key = name <;> simp [contains, find?_insert, h]

end NameMap

end BoxedCalls
