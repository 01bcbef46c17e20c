import BoxedCalls.Proofs.Compile.Builtins
import BoxedCalls.Proofs.References.Roles

namespace BoxedCalls

/-- The part of a temporary: made if it is on the heap, written once, then read at most once. -/
inductive Life : Storage → List Role → Prop where
  | heap {written read} (hwritten : written = .stored ∨ written = .returned)
      (hread : read = [] ∨ read = [.passed] ∨ read = [.copied]) :
      Life .heapTemporary (.initialized :: written :: read)
  | stack {read} (hread : read = [] ∨ read = [.passed]) : Life .stackTemporary (.stored :: read)

structure Reference.Fits (reference : Reference) (v : Variable) : Prop where
  operand : reference.operand = v.handle
  type : v.type ∈ reference.role.types
  storage : v.storage ∈ reference.role.storages

def Reference.IsConstant (reference : Reference) : Prop :=
  reference.role = .passed ∧
    ∃ contract ∈ Builtin.contracts, reference.operand ∈ contract.trailingOperands

def Reference.Agrees (table : SymbolTable) (reference : Reference) : Prop :=
  (∃ v, table.find? v.name = some v ∧ reference.Fits v) ∨ reference.IsConstant

theorem Reference.IsConstant.container? {reference : Reference} (h : reference.IsConstant) :
    reference.operand.container? = none := by
  obtain ⟨_, contract, _, hmem⟩ := h
  obtain ⟨text, _, htext⟩ := List.mem_map.mp hmem
  rw [← htext]
  rfl

theorem Reference.Agrees.extend {before after : SymbolTable} {reference : Reference}
    (h : reference.Agrees before) (hextends : before.Extends after) : reference.Agrees after := by
  rcases h with ⟨v, hfind, hfits⟩ | hconstant
  · exact .inl ⟨v, hextends.kept hfind, hfits⟩
  · exact .inr hconstant

theorem Reference.Agrees.find? {table : SymbolTable} {reference : Reference}
    (h : reference.Agrees table) {name : String}
    (hname : reference.operand.container? = some name) :
    ∃ v, table.find? name = some v ∧ reference.Fits v := by
  rcases h with ⟨v, hfind, hfits⟩ | hconstant
  · rw [hfits.operand, v.container?_handle] at hname
    cases hname
    exact ⟨v, hfind, hfits⟩
  · rw [hconstant.container?] at hname
    cases hname

/-- The references are all there is to the temporaries that `after` has and `before` has not, and
they go to variables that are there. -/
structure Accounts (before after : SymbolTable) (references : List Reference) : Prop where
  created : ∀ {name v}, before.find? name = none → after.find? name = some v →
    Life v.storage (rolesOf name references)
  kept : ∀ {name v}, before.find? name = some v → v.isTemporary = true →
    rolesOf name references = []
  agrees : ∀ reference ∈ references, reference.Agrees after

namespace Accounts

variable {first second third : SymbolTable} {references emitted others pending later :
  List Reference}

theorem absent (h : Accounts first second references) {name : String}
    (hname : second.find? name = none) : rolesOf name references = [] := by
  apply rolesOf_eq_nil
  intro reference hmem hcontainer
  obtain ⟨v, hfind, _⟩ := (h.agrees reference hmem).find? hcontainer
  rw [hname] at hfind
  cases hfind

theorem join (h₁ : Accounts first second (emitted ++ pending))
    (h₂ : Accounts second third (others ++ later)) (hextends₁ : first.Extends second)
    (hextends₂ : second.Extends third) :
    Accounts first third (emitted ++ others ++ (pending ++ later)) where
  created := by
    intro name v hbefore hafter
    -- A temporary is referred to only by the part that makes it.
    cases hmiddle : second.find? name with
    | none =>
      have hold := h₁.absent hmiddle
      have hnew := h₂.created hmiddle hafter
      rw [rolesOf_append, List.append_eq_nil_iff] at hold
      simpa [hold] using hnew
    | some w =>
      have hsame := hextends₂.kept hmiddle
      rw [hafter] at hsame
      cases hsame
      have htemporary : v.isTemporary = true := by
        rcases hextends₁.added hmiddle with hfound | ⟨_, htemporary, _⟩
        · rw [hbefore] at hfound
          cases hfound
        · exact htemporary
      have hold := h₁.created hbefore hmiddle
      have hnew := h₂.kept hmiddle htemporary
      rw [rolesOf_append, List.append_eq_nil_iff] at hnew
      simpa [hnew] using hold
  kept := by
    intro name v hbefore htemporary
    have hold := h₁.kept hbefore htemporary
    have hnew := h₂.kept (hextends₁.kept hbefore) htemporary
    rw [rolesOf_append, List.append_eq_nil_iff] at hold hnew
    simp [hold, hnew]
  agrees := by
    intro reference hmem
    simp only [List.mem_append] at hmem
    rcases hmem with (hemitted | hothers) | hpending | hlater
    · exact (h₁.agrees reference (List.mem_append_left _ hemitted)).extend hextends₂
    · exact h₂.agrees reference (List.mem_append_left _ hothers)
    · exact (h₁.agrees reference (List.mem_append_right _ hpending)).extend hextends₂
    · exact h₂.agrees reference (List.mem_append_right _ hlater)

theorem constants (h : ∀ reference ∈ references, reference.IsConstant) :
    Accounts first first references := by
  have hroles : ∀ name, rolesOf name references = [] := by
    intro name
    apply rolesOf_eq_nil
    intro reference hmem
    rw [(h reference hmem).container?]
    exact nofun
  refine ⟨?_, fun _ _ => hroles _, fun reference hmem => .inr (h reference hmem)⟩
  intro name v hbefore hafter
  rw [hbefore] at hafter
  cases hafter

theorem named {name : String} {type : VariableType} {role : Role}
    (hfind : first.find? name = some ⟨name, .named, type⟩) (htype : type ∈ role.types)
    (hstorage : .named ∈ role.storages) : Accounts first first [⟨role, .var name⟩] where
  created := by
    intro other v hbefore hafter
    rw [hbefore] at hafter
    cases hafter
  kept := by
    intro other v hbefore htemporary
    apply rolesOf_eq_nil
    intro reference hmem hcontainer
    cases List.mem_singleton.mp hmem
    cases hcontainer
    rw [hfind] at hbefore
    cases hbefore
    cases htemporary
  agrees := by
    intro reference hmem
    cases List.mem_singleton.mp hmem
    exact .inl ⟨⟨name, .named, type⟩, hfind, rfl, htype, hstorage⟩

end Accounts

theorem Life.roles {storage : Storage} {roles : List Role} (h : Life storage roles) :
    ∀ role ∈ roles, .boxed ∈ role.types ∧ storage ∈ role.storages := by
  cases h with
  | heap hwritten hread =>
    rcases hwritten with rfl | rfl <;> rcases hread with rfl | rfl | rfl <;> decide
  | stack hread => rcases hread with rfl | rfl <;> decide

theorem Life.dropLast {storage : Storage} {roles : List Role} (h : Life storage roles)
    (hlast : roles.getLast? = some .passed) : Life storage roles.dropLast := by
  cases h with
  | heap hwritten hread =>
    rcases hread with rfl | rfl | rfl
    · rcases hwritten with rfl | rfl <;> cases hlast
    · exact .heap hwritten (.inl rfl)
    · cases hlast
  | stack hread =>
    rcases hread with rfl | rfl
    · cases hlast
    · exact .stack (.inl rfl)

theorem Life.of_passed {storage : Storage} {roles later : List Role}
    (hlater : ∀ role ∈ later, role = .passed) (h : Life storage (roles ++ later)) :
    Life storage roles := by
  induction later using List.reverseRecOn with
  | nil => simpa using h
  | append_singleton later last ih =>
    have hpassed : last = .passed := hlater last (by simp)
    rw [← List.append_assoc] at h
    have hshorter := h.dropLast (by simp [hpassed])
    rw [List.dropLast_concat] at hshorter
    exact ih (fun role hrole => hlater role (List.mem_append_left _ hrole)) hshorter

theorem Accounts.forget {first second : SymbolTable} {emitted : List Reference}
    {operands : List Operand} (h : Accounts first second (emitted ++ passes operands)) :
    Accounts first second emitted where
  created := by
    intro name v hbefore hafter
    have hlife := h.created hbefore hafter
    rw [rolesOf_append] at hlife
    refine hlife.of_passed ?_
    intro role hrole
    obtain ⟨reference, hmem, _, rfl⟩ := mem_rolesOf.mp hrole
    obtain ⟨operand, _, rfl⟩ := List.mem_map.mp hmem
    rfl
  kept := by
    intro name v hbefore htemporary
    have hnone := h.kept hbefore htemporary
    rw [rolesOf_append, List.append_eq_nil_iff] at hnone
    exact hnone.1
  agrees reference hmem := h.agrees reference (List.mem_append_left _ hmem)

theorem Accounts.allocate {table : SymbolTable} (h : table.Consistent) {storage : Storage}
    {roles : List Role} (hlife : Life storage roles) :
    Accounts table (table.allocate storage).2
      (roles.map (⟨·, (table.allocate storage).1.handle⟩)) where
  created := by
    intro name v hbefore hafter
    rw [h.find?_allocate] at hafter
    split at hafter
    · next same =>
      cases hafter
      rw [same, rolesOf_same (Variable.container?_handle _)]
      exact hlife
    · rw [hbefore] at hafter
      cases hafter
  kept := by
    intro name v hbefore _
    apply rolesOf_other
    rw [Variable.container?_handle]
    rintro ⟨rfl⟩
    rw [h.find?_allocated_name] at hbefore
    cases hbefore
  agrees := by
    intro reference hmem
    obtain ⟨role, hrole, rfl⟩ := List.mem_map.mp hmem
    refine .inl ⟨(table.allocate storage).1, ?_, rfl, (hlife.roles role hrole).1,
      (hlife.roles role hrole).2⟩
    rw [h.find?_allocate]
    exact if_pos rfl

end BoxedCalls
