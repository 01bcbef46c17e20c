import BoxedCalls.Proofs.Scope.Changes
import BoxedCalls.Proofs.Semantics.Execution

namespace BoxedCalls

def wordChar (char : Char) : Bool :=
  char.isAlphanum || char = '_'

theorem wordChar_of_isIdentifier {name : String} (h : isIdentifier name = true) :
    ∀ char ∈ name.toList, wordChar char = true := by
  unfold isIdentifier at h
  split at h
  · cases h
  · next first rest hchars =>
    rw [Bool.and_eq_true, List.all_eq_true] at h
    rw [hchars]
    intro char hmem
    rcases List.mem_cons.mp hmem with rfl | hrest
    · have hfirst := h.1
      simp only [Bool.or_eq_true] at hfirst
      rcases hfirst with halpha | hunderscore
      · simp [wordChar, Char.isAlphanum, halpha]
      · simp [wordChar, hunderscore]
    · exact h.2 char hrest

def Avoids (forbidden : List Char) (text : String) : Prop :=
  ∀ c ∈ forbidden, c ∉ text.toList

-- Spelled out, for characters are finitely many and an instance may try them all.
instance (forbidden : List Char) (text : String) : Decidable (Avoids forbidden text) :=
  List.decidableBAll (fun c => c ∉ text.toList) forbidden

abbrev Quoteless : String → Prop :=
  Avoids ['"']

abbrev Unbroken : String → Prop :=
  Avoids ['\n', '\r']

namespace Avoids

variable {forbidden : List Char}

theorem quote {text : String} (h : Quoteless text) : '"' ∉ text.toList :=
  h '"' List.mem_cons_self

theorem append {first second : String} (hfirst : Avoids forbidden first)
    (hsecond : Avoids forbidden second) : Avoids forbidden (first ++ second) := by
  intro c hc
  rw [String.toList_append, List.mem_append, not_or]
  exact ⟨hfirst c hc, hsecond c hc⟩

section Words

variable (hforbidden : forbidden.any wordChar = false)

include hforbidden

theorem of_words {text : String} (hwords : ∀ c ∈ text.toList, wordChar c = true) :
    Avoids forbidden text := by
  intro c hc hmem
  have hexcluded := List.any_eq_false.mp hforbidden c hc
  exact hexcluded (hwords c hmem)

theorem of_isIdentifier {name : String} (h : isIdentifier name = true) : Avoids forbidden name :=
  of_words hforbidden (wordChar_of_isIdentifier h)

theorem temporaryName (number : Nat) : Avoids forbidden (temporaryName number) :=
  of_isIdentifier hforbidden (isIdentifier_temporaryName number)

theorem toString_nat (number : Nat) : Avoids forbidden (toString number) := by
  refine of_words hforbidden fun c hmem => ?_
  rw [Nat.toString_eq_repr, Nat.toList_repr] at hmem
  have hdigit := Nat.isDigit_of_mem_toDigits (by decide) (by decide) hmem
  simp [wordChar, Char.isAlphanum, hdigit]

theorem callRoutine (arity : Nat) (hasResult : Bool) :
    Avoids forbidden (callRoutine arity hasResult) := by
  have hbase : Avoids forbidden "zephir_call_func" := of_isIdentifier hforbidden (by decide)
  have hcounted : Avoids forbidden "zephir_call_func_p" := of_isIdentifier hforbidden (by decide)
  have hsuffix : Avoids forbidden "_noret" := of_isIdentifier hforbidden (by decide)
  unfold BoxedCalls.callRoutine
  split <;> split
  · exact hbase
  · exact hbase.append hsuffix
  · exact hcounted.append (toString_nat hforbidden arity)
  · exact (hcounted.append (toString_nat hforbidden arity)).append hsuffix

end Words

theorem operand (haddress : Avoids forbidden "&") {operand : Operand}
    (h : operand.Names (Avoids forbidden)) : Avoids forbidden operand.render := by
  cases operand with
  | var name => exact h
  | addressOf name => exact haddress.append h
  | verbatim text => cases h

section Lists

variable (hseparator : Avoids forbidden ", ")

include hseparator

theorem intercalate {texts : List String} (h : ∀ text ∈ texts, Avoids forbidden text) :
    Avoids forbidden (", ".intercalate texts) := by
  induction texts with
  | nil => exact fun _ _ => List.not_mem_nil
  | cons text rest ih =>
    obtain ⟨htext, hrest⟩ := List.forall_mem_cons.mp h
    cases rest with
    | nil =>
      rw [String.intercalate_singleton]
      exact htext
    | cons next rest =>
      rw [String.intercalate_cons_cons]
      exact (htext.append hseparator).append (ih hrest)

theorem intercalate_around {first last : List String} (middle : String)
    (hfirst : ∀ text ∈ first, Avoids forbidden text)
    (hlast : ∀ text ∈ last, Avoids forbidden text) :
    ∃ before after, Avoids forbidden before ∧ Avoids forbidden after ∧
      ", ".intercalate (first ++ middle :: last) = before ++ middle ++ after := by
  have hempty : Avoids forbidden "" := fun _ _ => List.not_mem_nil
  induction first with
  | nil =>
    cases last with
    | nil => exact ⟨"", "", hempty, hempty, by simp⟩
    | cons next last =>
      refine ⟨"", ", " ++ ", ".intercalate (next :: last), hempty,
        hseparator.append (intercalate hseparator hlast), ?_⟩
      rw [List.nil_append, String.intercalate_cons_cons]
      simp [String.append_assoc]
  | cons text first ih =>
    obtain ⟨htext, hrest⟩ := List.forall_mem_cons.mp hfirst
    obtain ⟨before, after, hbefore, hafter, heq⟩ := ih hrest
    refine ⟨text ++ ", " ++ before, after, (htext.append hseparator).append hbefore, hafter, ?_⟩
    rw [List.cons_append, String.intercalate_cons_of_ne_nil (by simp), heq]
    simp [String.append_assoc]

end Lists

end Avoids

/-- The lines of a text. What follows its last line break is one too, if only an empty one. -/
def textLines (text : String) : List String :=
  (text.toList.splitOn '\n').map .ofList

theorem textLines_append_break (first last : String) :
    textLines (first ++ "\n" ++ last) = textLines first ++ textLines last := by
  have hchars : (first ++ "\n" ++ last).toList = first.toList ++ '\n' :: last.toList := by
    simp [String.toList_append]
  rw [textLines, hchars, List.splitOn, List.splitOnP_append_cons (p := (· == '\n')) _ _ rfl,
    List.map_append]
  rfl

theorem textLines_eq_singleton {text : String} (h : '\n' ∉ text.toList) :
    textLines text = [text] := by
  have hsplit : text.toList.splitOn '\n' = [text.toList] := by
    refine List.splitOnP_eq_singleton fun c hmem => ?_
    rw [beq_eq_false_iff_ne]
    rintro rfl
    exact h hmem
  rw [textLines, hsplit, List.map_singleton, String.ofList_toList]

namespace CompiledFunction

theorem indented_cons (line : String) (rest : List String) :
    indented (line :: rest) = "\t" ++ line ++ "\n" ++ indented rest := by
  simp [indented]

theorem indented_append (first last : List String) :
    indented (first ++ last) = indented first ++ indented last := by
  simp [indented]

theorem textLines_indented (lines : List String) (after : String) :
    textLines (indented lines ++ after) =
      lines.flatMap (fun line => textLines ("\t" ++ line)) ++ textLines after := by
  induction lines with
  | nil => simp [indented]
  | cons line rest ih =>
    rw [indented_cons, String.append_assoc, textLines_append_break, ih, List.flatMap_cons,
      List.append_assoc]

theorem textLines_gap (isEmpty : Bool) (after : String) :
    textLines ((if isEmpty then "" else "\n") ++ after) =
      (if isEmpty then [] else [""]) ++ textLines after := by
  cases isEmpty with
  | true => exact congrArg textLines String.empty_append
  | false => exact textLines_append_break "" after

theorem code_eq (compiled : CompiledFunction) :
    compiled.code = "void " ++ compiled.functionName ++ "(void) \x7b" ++ "\n" ++
      (indented compiled.declarationLines ++
        ((if compiled.declarationLines.isEmpty || compiled.context.lines.isEmpty then ""
            else "\n") ++
          (indented compiled.context.lines ++ "\x7d\n"))) := by
  have hopening : "(void) \x7b\n" = "(void) \x7b" ++ "\n" := by decide
  rw [code, hopening]
  simp only [String.append_assoc]

theorem textLines_code (compiled : CompiledFunction) :
    textLines compiled.code =
      textLines ("void " ++ compiled.functionName ++ "(void) \x7b") ++
        compiled.declarationLines.flatMap (fun line => textLines ("\t" ++ line)) ++
        (if compiled.declarationLines.isEmpty || compiled.context.lines.isEmpty
          then [] else [""]) ++
        compiled.context.lines.flatMap (fun line => textLines ("\t" ++ line)) ++ ["\x7d", ""] := by
  have hclosing : textLines "\x7d\n" = ["\x7d", ""] := by decide
  rw [code_eq, textLines_append_break, textLines_indented, textLines_gap, textLines_indented,
    hclosing]
  simp only [List.append_assoc]

end CompiledFunction

end BoxedCalls
