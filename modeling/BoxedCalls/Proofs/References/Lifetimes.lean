import BoxedCalls.Proofs.References.Emission

namespace BoxedCalls

section Declared

variable {unit : CallUnit} {table : SymbolTable}

theorem CallUnit.find?_declareAll_of_not_declares {name : String} (h : ¬unit.declares name) :
    (declareAll unit.declarations).symbols.find? name = none := by
  rw [declares_iff, not_not] at h
  rw [find?_declareAll, h, Option.map_none]

theorem SymbolTable.Extends.declares_iff_named
    (h : (declareAll unit.declarations).symbols.Extends table) (hconsistent : table.Consistent)
    {v : Variable} (hmem : v ∈ table.entries) : unit.declares v.name ↔ v.storage = .named := by
  have hfind := hconsistent.find?_eq_some_iff.mpr ⟨hmem, rfl⟩
  constructor
  · intro hdeclared
    obtain ⟨type, htype⟩ := Option.ne_none_iff_exists'.mp (CallUnit.declares_iff.mp hdeclared)
    have hvariable : v = ⟨v.name, .named, type⟩ :=
      Option.some.inj (hfind.symm.trans (h.find?_declared htype))
    rw [hvariable]
  · intro hnamed
    by_contra hundeclared
    rcases h.added hfind with hdeclared | ⟨_, htemporary, _⟩
    · rw [CallUnit.find?_declareAll_of_not_declares hundeclared] at hdeclared
      cases hdeclared
    · simp [Variable.isTemporary, hnamed] at htemporary

end Declared

section Units

variable {host : HostFunctions} {unit : CallUnit} {compiled : CompiledFunction}

theorem Accounts.fits_of_mem {before : SymbolTable}
    (h : Accounts before compiled.context.symbols compiled.context.references)
    (hconsistent : compiled.context.symbols.Consistent) {instruction : Instruction}
    (hmem : instruction ∈ compiled.context.instructions) {reference : Reference}
    (hreference : reference ∈ instruction.references) :
    (∃ v ∈ compiled.context.symbols.entries, reference.Fits v) ∨ reference.IsConstant := by
  rcases h.agrees reference (List.mem_flatMap.mpr ⟨_, hmem, hreference⟩) with
    ⟨v, hfind, hfits⟩ | hconstant
  · exact .inl ⟨v, (hconsistent.find?_eq_some_iff.mp hfind).1, hfits⟩
  · exact .inr hconstant

theorem Accounts.handle_of_mem {before : SymbolTable}
    (h : Accounts before compiled.context.symbols compiled.context.references)
    (hconsistent : compiled.context.symbols.Consistent) {instruction : Instruction}
    (hmem : instruction ∈ compiled.context.instructions) {role : Role} {target : Operand}
    (hreference : ⟨role, target⟩ ∈ instruction.references) (hrole : role ≠ .passed) :
    ∃ v ∈ compiled.context.symbols.entries, target = v.handle ∧ v.storage ∈ role.storages := by
  rcases h.fits_of_mem hconsistent hmem hreference with ⟨v, hv, hfits⟩ | hconstant
  · exact ⟨v, hv, hfits.operand, hfits.storage⟩
  · exact absurd hconstant.1 hrole

theorem temporaries_live_once
    (hdeclared : ∀ name, unit.mentions name = true → unit.declares name)
    (h : (compileUnit unit (.new host .builtin)).1 = .ok compiled) :
    (∀ v ∈ compiled.context.symbols.entries, v.isTemporary = true →
        Life v.storage (history v.name compiled.context.instructions)) ∧
      (∀ target, .init target ∈ compiled.context.instructions →
        ∃ v ∈ compiled.context.symbols.entries,
          target = .var v.name ∧ v.storage = .heapTemporary ∧ ¬unit.declares v.name) ∧
      ∀ target, .reinit target ∈ compiled.context.instructions →
        ∃ v ∈ compiled.context.symbols.entries,
          target = .var v.name ∧ v.isTemporary = false ∧ unit.declares v.name := by
  have hcontracts := Compiler.usesContracts_new host (.inl rfl)
  have haccounts := compileUnit_accounts hcontracts hdeclared h
  have hgrows := (compileUnit_runs hcontracts.followsCalls h).grows
  have hnamed : ∀ v ∈ compiled.context.symbols.entries,
      unit.declares v.name ↔ v.storage = .named :=
    fun v hmem => hgrows.symbols.declares_iff_named hgrows.consistent hmem
  refine ⟨?_, ?_, ?_⟩
  · intro v hmem htemporary
    have hundeclared : ¬unit.declares v.name := by
      simpa [hnamed v hmem, Variable.isTemporary] using htemporary
    exact haccounts.created (CallUnit.find?_declareAll_of_not_declares hundeclared)
      (hgrows.consistent.find?_eq_some_iff.mpr ⟨hmem, rfl⟩)
  · intro target hinit
    obtain ⟨v, hmem, rfl, hstorage⟩ := haccounts.handle_of_mem hgrows.consistent hinit
      (List.mem_singleton_self _) (by decide)
    have hheap : v.storage = .heapTemporary := List.mem_singleton.mp hstorage
    exact ⟨v, hmem, by simp [Variable.handle, hheap], hheap, by simp [hnamed v hmem, hheap]⟩
  · intro target hreinit
    obtain ⟨v, hmem, rfl, hstorage⟩ := haccounts.handle_of_mem hgrows.consistent hreinit
      (List.mem_singleton_self _) (by decide)
    have hkept : v.storage = .named := List.mem_singleton.mp hstorage
    exact ⟨v, hmem, by simp [Variable.handle, hkept], by simp [Variable.isTemporary, hkept],
      (hnamed v hmem).mpr hkept⟩

end Units

def CallUnit.trimmedText : CallUnit where
  functionName := "f"
  declarations := [⟨"text", .boxed⟩]
  statements := [
    .assign "text"
      ⟨"trim", [.var "text" {}, .call "camelize" [.literal (.string "a") {}] {}], {}⟩]

def trimmedTextCode : List Instruction := [
  .storeString (.addressOf "_0") (.quoted "a") false,
  .init (.var "_1"),
  .kernelCall "zephir_camelize" [.var "_1", .addressOf "_0"],
  .init (.var "_2"),
  .callFunction "trim" (some (.var "_2")) [.var "text", .var "_1"],
  .copyOnWrite (.var "text") (.var "_2")]

theorem trimmedText_temporaries_live_once :
    ∃ compiled, (compileUnit .trimmedText (.new .standard .builtin)).1 = .ok compiled ∧
      compiled.context.instructions = trimmedTextCode ∧
      ∀ v ∈ compiled.context.symbols.entries, v.isTemporary = true →
        Life v.storage (history v.name trimmedTextCode) := by
  have hdeclared : ∀ name, CallUnit.trimmedText.mentions name = true →
      CallUnit.trimmedText.declares name := by
    intro name hmentions
    have hname : "text" = name := by
      simpa [CallUnit.mentions, CallUnit.trimmedText, Statement.mentions, Call.argumentsRead,
        Expression.anyReads, Expression.reads] using hmentions
    subst hname
    decide
  have hcode : acceptedCode .trimmedText (.new .standard .builtin) = some trimmedTextCode := by
    decide +kernel
  obtain ⟨compiled, hcompiled, hinstructions⟩ := acceptedCode_eq_some_iff.mp hcode
  refine ⟨compiled, hcompiled, hinstructions, ?_⟩
  rw [← hinstructions]
  exact (temporaries_live_once hdeclared hcompiled).1

end BoxedCalls
