import BoxedCalls.Proofs.Compile.Knowledge

namespace BoxedCalls

namespace NameMap

variable {α : Type}

def KeptIn (before after : NameMap α) : Prop :=
  ∀ ⦃name value⦄, before.find? name = some value → after.find? name = some value

theorem KeptIn.refl (m : NameMap α) : m.KeptIn m :=
  fun _ _ hfind => hfind

theorem KeptIn.trans {first second third : NameMap α} (h₁ : first.KeptIn second)
    (h₂ : second.KeptIn third) : first.KeptIn third :=
  fun _ _ hfind => h₂ (h₁ hfind)

theorem keptIn_insert {m : NameMap α} {name : String} (habsent : m.find? name = none) (value : α) :
    m.KeptIn (m.insert name value) := by
  intro other old hfind
  have hne : other ≠ name := by
    rintro rfl
    rw [habsent] at hfind
    cases hfind
  rw [find?_insert, if_neg hne]
  exact hfind

end NameMap

structure Compiler.RetainedIn (before after : Compiler) : Prop where
  host_eq : after.host = before.host
  table_eq : after.optimizers.table = before.optimizers.table
  resolved : before.optimizers.resolved.KeptIn after.optimizers.resolved
  cached : before.signatures.signatures.KeptIn after.signatures.signatures

namespace Compiler.RetainedIn

theorem refl (compiler : Compiler) : compiler.RetainedIn compiler :=
  ⟨rfl, rfl, .refl _, .refl _⟩

theorem trans {first second third : Compiler} (h₁ : first.RetainedIn second)
    (h₂ : second.RetainedIn third) : first.RetainedIn third where
  host_eq := h₂.host_eq.trans h₁.host_eq
  table_eq := h₂.table_eq.trans h₁.table_eq
  resolved := h₁.resolved.trans h₂.resolved
  cached := h₁.cached.trans h₂.cached

variable (compiler : Compiler)

theorem afterLookup (name : String) : compiler.RetainedIn (compiler.afterLookup name) := by
  unfold Compiler.afterLookup OptimizerLookup.resolve
  cases hfind : compiler.optimizers.resolved.find? name with
  | some outcome => exact .refl compiler
  | none => exact ⟨rfl, rfl, NameMap.keptIn_insert hfind _, .refl _⟩

theorem afterDeclining : compiler.RetainedIn compiler.afterDeclining :=
  ⟨rfl, rfl, .refl _, .refl _⟩

theorem afterQuestion (name : String) (count : Nat) (span : Span) :
    compiler.RetainedIn (compiler.afterQuestion name count span) := by
  refine ⟨rfl, rfl, .refl _, ?_⟩
  unfold Compiler.afterQuestion
  cases hbuiltin : Builtin.contains name with
  | true =>
    rw [SignatureCache.isReadOnly_of_builtin hbuiltin]
    exact .refl _
  | false =>
    rw [SignatureCache.isReadOnly_of_not_builtin hbuiltin]
    unfold SignatureCache.signatureOf
    cases hfind : compiler.signatures.signatures.find? name with
    | some signature => exact .refl _
    | none => exact NameMap.keptIn_insert hfind _

end Compiler.RetainedIn

end BoxedCalls
