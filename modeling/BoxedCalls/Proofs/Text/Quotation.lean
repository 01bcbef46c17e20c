import Mathlib.Algebra.Ring.Parity
import Mathlib.Data.List.DropRight
import Mathlib.Data.List.Induction
import BoxedCalls.Proofs.Text.Literal
import BoxedCalls.Text.Escape

namespace BoxedCalls

namespace Text

def trailingBackslashes (text : List Char) : Nat :=
  (text.rtakeWhile (· = '\\')).length

def escapesNext (isEscaped : Bool) (c : Char) : Bool :=
  c = '\\' && !isEscaped

def scanFrom (isEscaped : Bool) : List Char → Option (List Char × List Char)
  | [] => none
  | c :: rest =>
      if c = '\n' then none
      else if c = '"' ∧ isEscaped = false then some ([], rest)
      else (scanFrom (escapesNext isEscaped c) rest).map (Prod.map (c :: ·) id)

def scanLiteral (text : List Char) : Option (List Char × List Char) :=
  scanFrom false text

structure IsLiteralText (text : List Char) : Prop where
  unbroken : ∀ c ∈ ['\n', '\r', '\t'], c ∉ text
  escaped : ∀ before after, text = before ++ '"' :: after → Odd (trailingBackslashes before)
  ended : Even (trailingBackslashes text)

def denoted? : Char → Option Char
  | '\\' => some '\\'
  | '"' => some '"'
  | 'n' => some '\n'
  | 'r' => some '\r'
  | 't' => some '\t'
  | _ => none

def unescapeFrom (isEscaped : Bool) : List Char → Option (List Char)
  | [] => if isEscaped then none else some []
  | c :: rest =>
      if isEscaped then
        (denoted? c).bind fun first => (unescapeFrom false rest).map (first :: ·)
      else if c = '\\' then unescapeFrom true rest
      else (unescapeFrom false rest).map (c :: ·)

variable {isEscaped : Bool} {text after : List Char} {c mark : Char}

theorem foldl_escapesNext (text : List Char) :
    text.foldl escapesNext false = decide (Odd (trailingBackslashes text)) := by
  induction text using List.reverseRecOn with
  | nil => rfl
  | append_singleton text c ih =>
    rw [List.foldl_append, ih]
    by_cases hc : c = '\\'
    · have hmore : trailingBackslashes (text ++ [c]) = trailingBackslashes text + 1 := by
        simp [trailingBackslashes, hc]
      simp only [hmore, Nat.odd_add_one, decide_not]
      simp [escapesNext, hc]
    · simp [escapesNext, trailingBackslashes, hc]

theorem scanFrom_cons (hbreak : c ≠ '\n') (hend : ¬ (c = '"' ∧ isEscaped = false))
    (rest : List Char) :
    scanFrom isEscaped (c :: rest) =
      (scanFrom (escapesNext isEscaped c) rest).map (Prod.map (c :: ·) id) := by
  rw [scanFrom, if_neg hbreak, if_neg hend]

theorem quotes_escaped_cons_iff :
    (∀ before rest, c :: text = before ++ '"' :: rest →
        before.foldl escapesNext isEscaped = true) ↔
      (c = '"' → isEscaped = true) ∧
        ∀ before rest, text = before ++ '"' :: rest →
          before.foldl escapesNext (escapesNext isEscaped c) = true := by
  constructor
  · intro h
    constructor
    · rintro rfl
      exact h [] text rfl
    · rintro before rest rfl
      exact h (c :: before) rest rfl
  · rintro ⟨hfirst, hothers⟩ before rest heq
    cases before with
    | nil =>
      cases heq
      exact hfirst rfl
    | cons head before =>
      cases heq
      exact hothers before rest rfl

theorem scanFrom_eq_some_iff :
    scanFrom isEscaped (text ++ '"' :: after) = some (text, after) ↔
      '\n' ∉ text ∧
        (∀ before rest, text = before ++ '"' :: rest →
          before.foldl escapesNext isEscaped = true) ∧
        text.foldl escapesNext isEscaped = false := by
  -- after each character the scanner stands as if it had started there, perhaps in an escape
  induction text generalizing isEscaped with
  | nil => cases isEscaped <;> simp [scanFrom]
  | cons c text ih =>
    rw [quotes_escaped_cons_iff, List.foldl_cons, List.cons_append]
    by_cases hbreak : c = '\n'
    · simp [scanFrom, hbreak]
    · by_cases hend : c = '"' ∧ isEscaped = false
      · simp [scanFrom, hend]
      · have hfirst : c = '"' → isEscaped = true := by simpa using hend
        rw [scanFrom_cons hbreak hend, Option.map_eq_some_iff]
        constructor
        · rintro ⟨⟨body, rest⟩, hscan, heq⟩
          cases heq
          obtain ⟨hunbroken, hescaped, hended⟩ := ih.mp hscan
          exact ⟨List.not_mem_cons_of_ne_of_not_mem (Ne.symm hbreak) hunbroken,
            ⟨hfirst, hescaped⟩, hended⟩
        · rintro ⟨hunbroken, ⟨_, hescaped⟩, hended⟩
          rw [List.mem_cons, not_or] at hunbroken
          exact ⟨(text, after), ih.mpr ⟨hunbroken.2, hescaped, hended⟩, rfl⟩

theorem escapeChar_cases (c : Char) :
    (∃ mark, denoted? mark = some c ∧ escapeChar c = ['\\', mark]) ∨
      c ∉ ['\\', '"', '\n', '\r', '\t'] ∧ escapeChar c = [c] := by
  unfold escapeChar
  split
  · exact .inl ⟨_, rfl, rfl⟩
  · exact .inl ⟨_, rfl, rfl⟩
  · exact .inl ⟨_, rfl, rfl⟩
  · exact .inl ⟨_, rfl, rfl⟩
  · exact .inl ⟨_, rfl, rfl⟩
  · next hbackslash hquote hfeed hreturn htab =>
    refine .inr ⟨?_, rfl⟩
    simp only [List.mem_cons, List.not_mem_nil, or_false, not_or]
    exact ⟨hbackslash, hquote, hfeed, hreturn, htab⟩

theorem mem_marks (h : denoted? mark = some c) : mark ∈ ['\\', '"', 'n', 'r', 't'] := by
  unfold denoted? at h
  split at h
  case h_6 => cases h
  all_goals decide

theorem not_mem_escapeChar (hc : c ∈ ['\n', '\r', '\t']) (d : Char) : c ∉ escapeChar d := by
  intro hmem
  obtain ⟨mark, hmark, heq⟩ | ⟨hplain, heq⟩ := escapeChar_cases d
  · have hdistinct : ∀ c ∈ ['\n', '\r', '\t'], c ∉ ['\\', '"', 'n', 'r', 't'] := by simp
    rw [heq] at hmem
    rcases List.mem_pair.mp hmem with rfl | rfl
    · exact hdistinct _ hc (by decide)
    · exact hdistinct _ hc (mem_marks hmark)
  · rw [heq, List.mem_singleton] at hmem
    subst hmem
    exact hplain (List.mem_cons_of_mem _ (List.mem_cons_of_mem _ hc))

theorem scanFrom_escapeChar (c : Char) (text : List Char) :
    scanFrom false (escapeChar c ++ text) =
      (scanFrom false text).map (Prod.map (escapeChar c ++ ·) id) := by
  obtain ⟨mark, hmark, heq⟩ | ⟨hplain, heq⟩ := escapeChar_cases c
  · have hbreak : mark ≠ '\n' := by
      rintro rfl
      cases hmark
    rw [heq, List.cons_append, List.cons_append, List.nil_append,
      scanFrom_cons (by decide) (by decide), scanFrom_cons hbreak (by simp [escapesNext]),
      Option.map_map]
    simp only [escapesNext, decide_true, Bool.not_false, Bool.and_self, Bool.not_true,
      Bool.and_false]
    rfl
  · simp only [List.mem_cons, List.not_mem_nil, or_false, not_or] at hplain
    rw [heq, List.singleton_append, scanFrom_cons hplain.2.2.1 (by simp [hplain])]
    simp only [escapesNext, hplain, decide_false, Bool.false_and]
    rfl

theorem scanLiteral_escapeChars (value after : List Char) :
    scanLiteral (escapeChars value ++ '"' :: after) = some (escapeChars value, after) := by
  unfold scanLiteral
  induction value with
  | nil => rfl
  | cons c value ih =>
    rw [escapeChars, List.flatMap_cons, ← escapeChars, List.append_assoc, scanFrom_escapeChar, ih]
    rfl

theorem isLiteralText_escapeChars (value : List Char) : IsLiteralText (escapeChars value) := by
  -- the scanner runs to the end of the text, so no quote in it could have stopped it
  obtain ⟨-, hescaped, hended⟩ := scanFrom_eq_some_iff.mp (scanLiteral_escapeChars value [])
  refine ⟨?_, ?_, ?_⟩
  · intro c hc hmem
    obtain ⟨d, -, hd⟩ := List.mem_flatMap.mp hmem
    exact not_mem_escapeChar hc d hd
  · intro before rest heq
    have hquote := hescaped before rest heq
    rwa [foldl_escapesNext, decide_eq_true_eq] at hquote
  · rwa [foldl_escapesNext, decide_eq_false_iff_not, Nat.not_odd_iff_even] at hended

theorem unescapeFrom_escapeChar (c : Char) (text : List Char) :
    unescapeFrom false (escapeChar c ++ text) = (unescapeFrom false text).map (c :: ·) := by
  obtain ⟨mark, hmark, heq⟩ | ⟨hplain, heq⟩ := escapeChar_cases c
  · rw [heq]
    simp [unescapeFrom, hmark]
  · rw [heq]
    simp only [List.mem_cons, List.not_mem_nil, or_false, not_or] at hplain
    simp [unescapeFrom, hplain]

theorem unescapeFrom_escapeChars (value : List Char) :
    unescapeFrom false (escapeChars value) = some value := by
  induction value with
  | nil => rfl
  | cons c value ih =>
    rw [escapeChars, List.flatMap_cons, ← escapeChars, unescapeFrom_escapeChar, ih]
    rfl

end Text

namespace LiteralReader

variable {reader : LiteralReader} {mark c : Char}

theorem readEscape_mark (h : Text.denoted? mark = some c) :
    reader.readEscape mark = some (reader.put (String.utf8EncodeChar c)) := by
  unfold Text.denoted? at h
  split at h <;> cases h <;> rfl

theorem read_escapeChar (hmode : reader.mode = .text) (c : Char) :
    reader.read (Text.escapeChar c) = some (reader.put (String.utf8EncodeChar c)) := by
  obtain ⟨mark, hmark, heq⟩ | ⟨hplain, heq⟩ := Text.escapeChar_cases c
  · have hopen : reader.step '\\' = some { reader with mode := .escape } := by
      simp [step, hmode, readText]
    rw [heq, read_cons, hopen, Option.bind_some, read_cons, step, readEscape_mark hmark]
    rfl
  · have hverbatim : isVerbatim c = true := by
      simp only [List.mem_cons, List.not_mem_nil, or_false, not_or] at hplain
      simp [isVerbatim, hplain]
    rw [heq, read_cons, step_verbatim hmode hverbatim]
    rfl

theorem read_escapeChars (hmode : reader.mode = .text) (value : List Char) :
    reader.read (Text.escapeChars value) =
      some { reader with current := reader.current ++ utf8 value } := by
  induction value generalizing reader with
  | nil => simp [Text.escapeChars, utf8]
  | cons c value ih =>
    rw [Text.escapeChars, List.flatMap_cons, ← Text.escapeChars, read_append,
      read_escapeChar hmode, Option.bind_some, ih rfl]
    simp [put, utf8_cons, hmode]

end LiteralReader

end BoxedCalls
