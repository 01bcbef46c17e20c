import BoxedCalls.Text.Lowercase
import Mathlib.Data.List.Basic

namespace BoxedCalls.Text

def IsLower (c : Char) : Prop :=
  c ≠ 'Σ' ∧ c ≠ 'İ' ∧ lowerChar c = c

instance (c : Char) : Decidable (IsLower c) :=
  inferInstanceAs (Decidable (_ ∧ _ ∧ _))

def otherRuns : List CaseRun := [⟨0x41, 0x5a, 1, 32⟩, ⟨0x130, 0x130, 1, 0⟩, ⟨0x3a3, 0x3a3, 1, 0⟩]

def CaseRun.misses (run : CaseRun) (first last stride : Nat) : Bool :=
  last.blt run.first || run.last.blt first ||
    (run.stride == 2 && (stride == 2 || first == last) && (first - run.first) % 2 == 1)

theorem CaseRun.not_covers_of_misses {run : CaseRun} {first last stride code : Nat}
    (h : run.misses first last stride = true) (hfirst : first ≤ code) (hlast : code ≤ last)
    (hstride : (code - first) % stride = 0) : run.covers code = false := by
  rw [Bool.eq_false_iff]
  intro hcovers
  simp only [covers, Bool.and_eq_true, decide_eq_true_eq, beq_iff_eq] at hcovers
  obtain ⟨⟨hlow, hhigh⟩, hstep⟩ := hcovers
  simp only [misses, Bool.or_eq_true, Bool.and_eq_true, Nat.blt_eq, beq_iff_eq] at h
  rcases h with (hbefore | hafter) | ⟨⟨htwo, hgap⟩, hodd⟩
  · omega
  · omega
  · rw [htwo] at hstep
    rcases hgap with rfl | rfl <;> omega

theorem caseRuns_miss_caseRuns :
    (caseRuns.all fun run => (otherRuns ++ caseRuns).all fun other =>
      other.misses (run.lower run.first) (run.lower run.last) run.stride) = true := by
  decide +kernel

theorem caseRuns_move_within_codes : ∀ run ∈ caseRuns, 0 ≤ run.first + run.shift := by
  decide +kernel

theorem CaseRun.not_covers_lower {run other : CaseRun} (hrun : run ∈ caseRuns)
    (hother : other ∈ otherRuns ++ caseRuns) {code : Nat} (h : run.covers code = true) :
    other.covers (run.lower code) = false := by
  have hmisses := List.all_eq_true.mp (List.all_eq_true.mp caseRuns_miss_caseRuns run hrun) other
    hother
  have hwithin := caseRuns_move_within_codes run hrun
  simp only [covers, Bool.and_eq_true, decide_eq_true_eq, beq_iff_eq] at h
  obtain ⟨⟨hlow, hhigh⟩, hstep⟩ := h
  refine not_covers_of_misses hmisses ?_ ?_ ?_
  · simp only [lower]
    omega
  · simp only [lower]
    omega
  · have hdistance : run.lower code - run.lower run.first = code - run.first := by
      simp only [lower]
      omega
    rw [hdistance]
    exact hstep

theorem forall_ascii {P : Char → Prop} (h : ∀ code < 128, P (Char.ofNat code)) {c : Char}
    (hc : c.val < 128) : P c := by
  have hcode : P (Char.ofNat c.toNat) := h c.toNat hc
  rwa [Char.ofNat_toNat] at hcode

theorem isLower_of_not_covered {c : Char}
    (h : ∀ run ∈ otherRuns ++ caseRuns, run.covers c.toNat = false) : IsLower c := by
  refine ⟨?_, ?_, ?_⟩
  · rintro rfl
    exact absurd (h ⟨0x3a3, 0x3a3, 1, 0⟩ (by decide)) (by decide)
  · rintro rfl
    exact absurd (h ⟨0x130, 0x130, 1, 0⟩ (by decide)) (by decide)
  · unfold lowerChar
    split
    · next hascii =>
      have hletter := h ⟨0x41, 0x5a, 1, 32⟩ (by decide)
      revert hletter
      exact forall_ascii (P := fun c => CaseRun.covers ⟨0x41, 0x5a, 1, 32⟩ c.toNat = false →
        c.toLower = c) (by decide) hascii
    · have hnone : caseRuns.find? (·.covers c.toNat) = none := by
        rw [List.find?_eq_none]
        intro run hmem
        rw [h run (List.mem_append_right _ hmem)]
        exact Bool.false_ne_true
      rw [hnone]

theorem isLower_lowerChar {c : Char} (hsigma : c ≠ 'Σ') (hdotted : c ≠ 'İ') :
    IsLower (lowerChar c) := by
  by_cases hascii : c.val < 128
  · rw [lowerChar, if_pos hascii]
    exact forall_ascii (P := fun c => IsLower c.toLower) (by decide) hascii
  · rw [lowerChar, if_neg hascii]
    split
    · next run hfind =>
      have hcovers : run.covers c.toNat = true := by simpa using List.find?_some hfind
      -- A code that is no character stands for the null character.
      by_cases hvalid : (run.lower c.toNat).isValidChar
      · have hcode : (Char.ofNat (run.lower c.toNat)).toNat = run.lower c.toNat := by
          rw [Char.ofNat, dif_pos hvalid]
          rfl
        refine isLower_of_not_covered ?_
        intro other hother
        rw [hcode]
        exact CaseRun.not_covers_lower (List.mem_of_find?_eq_some hfind) hother hcovers
      · have hnull : Char.ofNat (run.lower c.toNat) = '\x00' := by
          rw [Char.ofNat, dif_neg hvalid]
          rfl
        rw [hnull]
        decide
    · next hfind => exact ⟨hsigma, hdotted, by rw [lowerChar, if_neg hascii, hfind]⟩

theorem isLower_of_mem_lowercaseAfter {before text : List Char} :
    ∀ c ∈ lowercaseAfter before text, IsLower c := by
  induction text generalizing before with
  | nil => exact nofun
  | cons first rest ih =>
    intro c hmem
    rcases List.mem_append.mp hmem with hfirst | hrest
    · split at hfirst
      · rw [List.mem_singleton.mp hfirst, smallSigma]
        split <;> decide
      · next hsigma =>
        split at hfirst
        · rcases List.mem_pair.mp hfirst with rfl | rfl <;> decide
        · next hdotted =>
          rw [List.mem_singleton.mp hfirst]
          exact isLower_lowerChar hsigma hdotted
    · exact ih c hrest

theorem lowercaseAfter_of_isLower {before text : List Char} (h : ∀ c ∈ text, IsLower c) :
    lowercaseAfter before text = text := by
  induction text generalizing before with
  | nil => rfl
  | cons first rest ih =>
    obtain ⟨⟨hsigma, hdotted, hlower⟩, hrest⟩ := List.forall_mem_cons.mp h
    rw [lowercaseAfter, if_neg hsigma, if_neg hdotted, hlower, ih hrest]
    rfl

theorem lowercase_lowercase (text : String) : lowercase (lowercase text) = lowercase text := by
  have hlower : ∀ c ∈ lowercaseAfter [] text.toList, IsLower c := isLower_of_mem_lowercaseAfter
  rw [lowercase, lowercase, String.toList_ofList, lowercaseAfter_of_isLower hlower]

end BoxedCalls.Text
