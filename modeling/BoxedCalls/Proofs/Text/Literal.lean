import Mathlib.Data.List.Basic

namespace BoxedCalls

def digit? (base : Nat) (c : Char) : Option Nat :=
  let value :=
    if c.isDigit then c.toNat - 48
    else if 'a' ≤ c ∧ c ≤ 'f' then c.toNat - 87
    else if 'A' ≤ c ∧ c ≤ 'F' then c.toNat - 55
    else base
  if value < base then some value else none

def simpleEscape? : Char → Option UInt8
  | 'a' => some 7
  | 'b' => some 8
  | 't' => some 9
  | 'n' => some 10
  | 'v' => some 11
  | 'f' => some 12
  | 'r' => some 13
  | '"' => some 34
  | '\x27' => some 39
  | '?' => some 63
  | '\\' => some 92
  | _ => none

/-- Where a reader stands. The number of a `universal` character has `left` digits to come after
the next one. -/
inductive LiteralMode where
  | code
  | text
  | escape
  | octal (digits value : Nat)
  | hex (digits value : Nat)
  | universal (left value : Nat)
  deriving DecidableEq, Repr

structure LiteralReader where
  literals : List (List UInt8) := []
  current : List UInt8 := []
  mode : LiteralMode := .code
  deriving DecidableEq, Repr

namespace LiteralReader

def put (reader : LiteralReader) (bytes : List UInt8) : LiteralReader :=
  { reader with current := reader.current ++ bytes, mode := .text }

def readText (reader : LiteralReader) (c : Char) : Option LiteralReader :=
  if c = '"' then
    some { literals := reader.literals ++ [reader.current], current := [], mode := .code }
  else if c = '\\' then some { reader with mode := .escape }
  else if c = '\n' ∨ c = '\r' then none
  else some (reader.put (String.utf8EncodeChar c))

def readAfter (reader : LiteralReader) (value : Nat) (c : Char) : Option LiteralReader :=
  if value < 256 then (reader.put [UInt8.ofNat value]).readText c else none

def readEscape (reader : LiteralReader) (c : Char) : Option LiteralReader :=
  match digit? 8 c with
  | some digit => some { reader with mode := .octal 1 digit }
  | none =>
      if c = 'x' then some { reader with mode := .hex 0 0 }
      else if c = 'u' then some { reader with mode := .universal 3 0 }
      else if c = 'U' then some { reader with mode := .universal 7 0 }
      else (simpleEscape? c).map fun byte => reader.put [byte]

def readUniversal (reader : LiteralReader) (value : Nat) : Nat → Option LiteralReader
  | 0 =>
      if value.isValidChar then some (reader.put (String.utf8EncodeChar (.ofNat value))) else none
  | left + 1 => some { reader with mode := .universal left value }

def step (reader : LiteralReader) (c : Char) : Option LiteralReader :=
  match reader.mode with
  | .code => if c = '"' then some { reader with mode := .text } else some reader
  | .text => reader.readText c
  | .escape => reader.readEscape c
  | .octal digits value =>
      match (digit? 8 c).filter fun _ => digits < 3 with
      | some digit => some { reader with mode := .octal (digits + 1) (value * 8 + digit) }
      | none => reader.readAfter value c
  | .hex digits value =>
      match digit? 16 c with
      | some digit => some { reader with mode := .hex (digits + 1) (value * 16 + digit) }
      | none => if digits = 0 then none else reader.readAfter value c
  | .universal left value =>
      (digit? 16 c).bind fun digit => reader.readUniversal (value * 16 + digit) left

def read (reader : LiteralReader) (text : List Char) : Option LiteralReader :=
  text.foldlM step reader

end LiteralReader

def literals? (line : String) : Option (List (List UInt8)) :=
  (LiteralReader.read {} line.toList).bind fun reader =>
    if reader.mode = .code then some reader.literals else none

def utf8 (text : List Char) : List UInt8 :=
  text.flatMap String.utf8EncodeChar

def isVerbatim (c : Char) : Bool :=
  c ≠ '"' && c ≠ '\\' && c ≠ '\n' && c ≠ '\r'

theorem utf8_cons (c : Char) (text : List Char) :
    utf8 (c :: text) = String.utf8EncodeChar c ++ utf8 text :=
  rfl

namespace LiteralMode

def reserve : LiteralMode → Nat
  | code => 0
  | text => 0
  | escape => 0
  | octal _ _ => 1
  | hex _ _ => 1
  | universal left _ => 4 - left

end LiteralMode

namespace LiteralReader

variable {reader reader' : LiteralReader} {c : Char} {text : List Char}

@[simp] theorem read_nil : reader.read [] = some reader := rfl

theorem read_cons : reader.read (c :: text) = (reader.step c).bind (·.read text) := rfl

theorem read_append (first second : List Char) :
    reader.read (first ++ second) = (reader.read first).bind (·.read second) :=
  List.foldlM_append

theorem read_code (hmode : reader.mode = .code) (hquote : '"' ∉ text) :
    reader.read text = some reader := by
  induction text with
  | nil => rfl
  | cons c rest ih =>
    rw [List.mem_cons, not_or] at hquote
    have hstep : reader.step c = some reader := by
      simp [step, hmode, Ne.symm hquote.1]
    rw [read_cons, hstep]
    exact ih hquote.2

theorem step_verbatim (hmode : reader.mode = .text) (hc : isVerbatim c = true) :
    reader.step c = some (reader.put (String.utf8EncodeChar c)) := by
  simp only [isVerbatim, Bool.and_eq_true, decide_eq_true_eq, ne_eq] at hc
  simp [step, hmode, readText, hc]

theorem read_verbatim (hmode : reader.mode = .text) (htext : text.all isVerbatim = true) :
    reader.read text = some { reader with current := reader.current ++ utf8 text } := by
  induction text generalizing reader with
  | nil => simp [utf8]
  | cons c rest ih =>
    rw [List.all_cons, Bool.and_eq_true] at htext
    rw [read_cons, step_verbatim hmode htext.1, Option.bind_some, ih rfl htext.2]
    simp [put, utf8_cons, hmode]

def weight (reader : LiteralReader) : Nat :=
  reader.literals.flatten.length + reader.current.length + reader.mode.reserve

theorem weight_put (bytes : List UInt8) :
    (reader.put bytes).weight =
      reader.literals.flatten.length + reader.current.length + bytes.length := by
  simp [put, weight, LiteralMode.reserve, Nat.add_assoc]

theorem weight_readText (hmode : reader.mode = .text) (h : reader.readText c = some reader') :
    reader'.weight = reader.weight + if isVerbatim c then c.utf8Size else 0 := by
  unfold readText at h
  split at h
  · next hquote =>
    cases h
    simp [weight, hmode, LiteralMode.reserve, isVerbatim, hquote]
  · next hquote =>
    split at h
    · next hbackslash =>
      cases h
      simp [weight, hmode, LiteralMode.reserve, isVerbatim, hbackslash]
    · next hbackslash =>
      split at h
      · cases h
      · next hbreak =>
        cases h
        rw [not_or] at hbreak
        rw [weight_put, String.length_utf8EncodeChar]
        simp [weight, hmode, LiteralMode.reserve, isVerbatim, hquote, hbackslash, hbreak]

theorem weight_readAfter {value : Nat} (hreserve : reader.mode.reserve = 1)
    (h : reader.readAfter value c = some reader') :
    reader'.weight = reader.weight + if isVerbatim c then c.utf8Size else 0 := by
  have hput : (reader.put [UInt8.ofNat value]).weight = reader.weight := by
    rw [weight_put, weight, hreserve, List.length_singleton]
  unfold readAfter at h
  split at h
  · rw [weight_readText rfl h, hput]
  · cases h

theorem readEscape_cases (h : reader.readEscape c = some reader') :
    (∃ mode, mode ≠ .code ∧ mode.reserve ≤ 1 ∧ reader' = { reader with mode }) ∨
      ∃ byte, reader' = reader.put [byte] := by
  unfold readEscape at h
  split at h
  · next digit _ => exact .inl ⟨.octal 1 digit, nofun, Nat.le_refl 1, (Option.some.inj h).symm⟩
  · split at h
    · exact .inl ⟨.hex 0 0, nofun, Nat.le_refl 1, (Option.some.inj h).symm⟩
    · split at h
      · exact .inl ⟨.universal 3 0, nofun, Nat.le_refl 1, (Option.some.inj h).symm⟩
      · split at h
        · exact .inl ⟨.universal 7 0, nofun, Nat.zero_le 1, (Option.some.inj h).symm⟩
        · obtain ⟨byte, _, hput⟩ := Option.map_eq_some_iff.mp h
          exact .inr ⟨byte, hput.symm⟩

theorem weight_readEscape_le (hmode : reader.mode = .escape)
    (h : reader.readEscape c = some reader') : reader'.weight ≤ reader.weight + c.utf8Size := by
  have hsize := c.utf8Size_pos
  have hweight : reader.weight = reader.literals.flatten.length + reader.current.length := by
    rw [weight, hmode, LiteralMode.reserve, Nat.add_zero]
  obtain ⟨mode, _, hreserve, rfl⟩ | ⟨byte, rfl⟩ := readEscape_cases h
  · rw [hweight]
    simp only [weight]
    omega
  · rw [hweight, weight_put, List.length_singleton]
    omega

theorem weight_readUniversal_le {left value value' : Nat}
    (hmode : reader.mode = .universal left value)
    (h : reader.readUniversal value' left = some reader') :
    reader'.weight ≤ reader.weight + c.utf8Size := by
  have hsize := c.utf8Size_pos
  cases left with
  | zero =>
    rw [readUniversal] at h
    split at h
    · cases h
      have hlength := (Char.ofNat value').utf8Size_le_four
      rw [weight_put, String.length_utf8EncodeChar, weight, hmode, LiteralMode.reserve]
      omega
    · cases h
  | succ left =>
    cases h
    simp only [weight, hmode, LiteralMode.reserve]
    omega

theorem weight_step_le (h : reader.step c = some reader') :
    reader'.weight ≤ reader.weight + c.utf8Size := by
  have hsize := c.utf8Size_pos
  have hat_most : (if isVerbatim c then c.utf8Size else 0) ≤ c.utf8Size := by
    split <;> omega
  unfold step at h
  split at h
  · next hmode =>
    split at h <;> cases h <;> simp [weight, hmode, LiteralMode.reserve]
  · next hmode =>
    rw [weight_readText hmode h]
    omega
  · next hmode => exact weight_readEscape_le hmode h
  · next hmode =>
    split at h
    · cases h
      simp only [weight, hmode, LiteralMode.reserve]
      omega
    · rw [weight_readAfter (by rw [hmode]; rfl) h]
      omega
  · next hmode =>
    split at h
    · cases h
      simp only [weight, hmode, LiteralMode.reserve]
      omega
    · split at h
      · cases h
      · rw [weight_readAfter (by rw [hmode]; rfl) h]
        omega
  · next hmode =>
    obtain ⟨digit, _, hread⟩ := Option.bind_eq_some_iff.mp h
    exact weight_readUniversal_le hmode hread

theorem length_utf8_cons (c : Char) (text : List Char) :
    (utf8 (c :: text)).length = c.utf8Size + (utf8 text).length := by
  rw [utf8_cons, List.length_append, String.length_utf8EncodeChar]

theorem weight_read_le (h : reader.read text = some reader') :
    reader'.weight ≤ reader.weight + (utf8 text).length := by
  induction text generalizing reader with
  | nil =>
    cases h
    exact Nat.le_add_right _ _
  | cons c rest ih =>
    obtain ⟨middle, hstep, hread⟩ := Option.bind_eq_some_iff.mp h
    have hfirst := weight_step_le hstep
    have hrest := ih hread
    rw [length_utf8_cons]
    omega

theorem weight_read_lt (hmode : reader.mode = .text) (htext : text.all isVerbatim = false)
    (h : reader.read text = some reader') :
    reader'.weight < reader.weight + (utf8 text).length := by
  induction text generalizing reader with
  | nil => cases htext
  | cons c rest ih =>
    obtain ⟨middle, hstep, hread⟩ := Option.bind_eq_some_iff.mp h
    rw [length_utf8_cons]
    cases hc : isVerbatim c with
    | true =>
      have hrest : rest.all isVerbatim = false := by simpa [hc] using htext
      rw [step_verbatim hmode hc] at hstep
      cases hstep
      have hlt := ih rfl hrest hread
      have hle := weight_step_le (step_verbatim hmode hc)
      omega
    | false =>
      rw [step, hmode] at hstep
      have heq := weight_readText hmode hstep
      have hle := weight_read_le hread
      have hsize := c.utf8Size_pos
      simp only [hc, Bool.false_eq_true, if_false, Nat.add_zero] at heq
      omega

theorem open_of_readText (hc : c ≠ '"') (h : reader.readText c = some reader') :
    reader'.mode ≠ .code := by
  unfold readText at h
  rw [if_neg hc] at h
  split at h
  · cases h
    exact nofun
  · split at h
    · cases h
    · cases h
      exact nofun

theorem open_of_readAfter {value : Nat} (hc : c ≠ '"')
    (h : reader.readAfter value c = some reader') : reader'.mode ≠ .code := by
  unfold readAfter at h
  split at h
  · exact open_of_readText hc h
  · cases h

theorem open_of_readEscape (h : reader.readEscape c = some reader') : reader'.mode ≠ .code := by
  obtain ⟨mode, hopen, _, rfl⟩ | ⟨byte, rfl⟩ := readEscape_cases h
  · exact hopen
  · exact nofun

theorem open_of_readUniversal {value left : Nat}
    (h : reader.readUniversal value left = some reader') : reader'.mode ≠ .code := by
  cases left with
  | zero =>
    rw [readUniversal] at h
    split at h
    · cases h
      exact nofun
    · cases h
  | succ left =>
    cases h
    exact nofun

theorem open_of_step (hmode : reader.mode ≠ .code) (hc : c ≠ '"')
    (h : reader.step c = some reader') : reader'.mode ≠ .code := by
  unfold step at h
  split at h
  · next hcode => exact absurd hcode hmode
  · exact open_of_readText hc h
  · exact open_of_readEscape h
  · split at h
    · cases h
      exact nofun
    · exact open_of_readAfter hc h
  · split at h
    · cases h
      exact nofun
    · split at h
      · cases h
      · exact open_of_readAfter hc h
  · obtain ⟨digit, _, hread⟩ := Option.bind_eq_some_iff.mp h
    exact open_of_readUniversal hread

theorem open_of_read (hmode : reader.mode ≠ .code) (hquote : '"' ∉ text)
    (h : reader.read text = some reader') : reader'.mode ≠ .code := by
  induction text generalizing reader with
  | nil =>
    cases h
    exact hmode
  | cons c rest ih =>
    rw [List.mem_cons, not_or] at hquote
    obtain ⟨middle, hstep, hread⟩ := Option.bind_eq_some_iff.mp h
    exact ih (open_of_step hmode (Ne.symm hquote.1) hstep) hquote.2 hread

theorem weight_close (h : reader.step '"' = some reader') (hmode' : reader'.mode = .code) :
    reader'.weight = reader.weight := by
  unfold step at h
  split at h
  · cases h
    cases hmode'
  · next hmode => exact weight_readText hmode h
  · exact absurd hmode' (open_of_readEscape h)
  · next hmode => exact weight_readAfter (by rw [hmode]; rfl) h
  · next hmode =>
    have hnone : digit? 16 '"' = none := by decide
    rw [hnone] at h
    split at h
    · cases h
      cases hmode'
    · split at h
      · cases h
      · exact weight_readAfter (by rw [hmode]; rfl) h
  · obtain ⟨digit, _, hread⟩ := Option.bind_eq_some_iff.mp h
    exact absurd hmode' (open_of_readUniversal hread)

theorem weight_read_close {after : List Char} (hafter : '"' ∉ after)
    (h : reader.read ('"' :: after) = some reader') (hmode' : reader'.mode = .code) :
    reader'.weight = reader.weight := by
  obtain ⟨middle, hstep, hread⟩ := Option.bind_eq_some_iff.mp h
  have hmode : middle.mode = .code := by
    by_contra hopen
    exact open_of_read hopen hafter hread hmode'
  cases (read_code hmode hafter).symm.trans hread
  exact weight_close hstep hmode

end LiteralReader

section Lines

variable {before name after : List Char}

theorem read_line (hbefore : '"' ∉ before) :
    LiteralReader.read {} (before ++ '"' :: name ++ '"' :: after) =
      (LiteralReader.read { mode := .text } name).bind (·.read ('"' :: after)) := by
  rw [List.append_assoc, LiteralReader.read_append, LiteralReader.read_code rfl hbefore,
    Option.bind_some, List.cons_append, LiteralReader.read_cons]
  exact LiteralReader.read_append name ('"' :: after)

theorem literals?_of_read (hbefore : '"' ∉ before) (hafter : '"' ∉ after) {bytes : List UInt8}
    (hread : LiteralReader.read { mode := .text } name = some { mode := .text, current := bytes }) :
    literals? (.ofList (before ++ '"' :: name ++ '"' :: after)) = some [bytes] := by
  have hclose : LiteralReader.step { mode := .text, current := bytes } '"' =
      some { literals := [bytes] } := rfl
  rw [literals?, String.toList_ofList, read_line hbefore, hread, Option.bind_some,
    LiteralReader.read_cons, hclose, Option.bind_some, LiteralReader.read_code rfl hafter]
  rfl

theorem literals?_eq_singleton_iff (hbefore : '"' ∉ before) (hafter : '"' ∉ after) :
    literals? (.ofList (before ++ '"' :: name ++ '"' :: after)) = some [utf8 name] ↔
      name.all isVerbatim = true := by
  constructor
  · rw [literals?, String.toList_ofList, read_line hbefore]
    intro h
    by_contra hname
    rw [Bool.not_eq_true] at hname
    obtain ⟨last, hlast, hresult⟩ := Option.bind_eq_some_iff.mp h
    obtain ⟨middle, hmiddle, hclose⟩ := Option.bind_eq_some_iff.mp hlast
    split at hresult
    · next hmode =>
      have hlt := LiteralReader.weight_read_lt rfl hname hmiddle
      have heq := LiteralReader.weight_read_close hafter hclose hmode
      have hliterals : last.literals = [utf8 name] := Option.some.inj hresult
      have hlength : (utf8 name).length ≤ last.weight := by
        simp [LiteralReader.weight, hliterals, Nat.add_assoc]
      have hzero : ({ mode := .text } : LiteralReader).weight = 0 := rfl
      omega
    · cases hresult
  · intro hname
    exact literals?_of_read hbefore hafter (LiteralReader.read_verbatim rfl hname)

end Lines

end BoxedCalls
