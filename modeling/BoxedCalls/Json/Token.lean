import BoxedCalls.Json.Numeral

namespace BoxedCalls.Json

/-- A text is missing where an escape in it stands for one half of a character only. -/
inductive Token where
  | arrayStart
  | arrayEnd
  | objectStart
  | objectEnd
  | comma
  | colon
  | null
  | bool (value : Bool)
  | number (numeral : Numeral)
  | text (value : Option String)
  deriving Repr

def isLead (unit : Nat) : Bool :=
  0xd800 ≤ unit && unit < 0xdc00

def isTrail (unit : Nat) : Bool :=
  0xdc00 ≤ unit && unit < 0xe000

def joinHalves : List Nat → Option (List Char)
  | [] => some []
  | unit :: rest =>
      if isTrail unit then none
      else if isLead unit then
        match rest with
        | [] => none
        | trail :: rest =>
            if isTrail trail then
              (joinHalves rest).map
                (Char.ofNat (0x10000 + (unit - 0xd800) * 0x400 + (trail - 0xdc00)) :: ·)
            else none
      else (joinHalves rest).map (Char.ofNat unit :: ·)

def hexDigit? (c : Char) : Option Nat :=
  if c.isDigit then some (c.toNat - '0'.toNat)
  else if 'a' ≤ c && c ≤ 'f' then some (c.toNat - 'a'.toNat + 10)
  else if 'A' ≤ c && c ≤ 'F' then some (c.toNat - 'A'.toNat + 10)
  else none

def hexUnit? (a b c d : Char) : Option Nat := do
  return (((← hexDigit? a) * 16 + (← hexDigit? b)) * 16 + (← hexDigit? c)) * 16 + (← hexDigit? d)

def shortEscape? : Char → Option Nat
  | '"' => some '"'.toNat
  | '\\' => some '\\'.toNat
  | '/' => some '/'.toNat
  | 'b' => some 0x08
  | 'f' => some 0x0c
  | 'n' => some 0x0a
  | 'r' => some 0x0d
  | 't' => some 0x09
  | _ => none

def splitUnits (before : List Nat) : List Char → Option (List Nat × List Char)
  | [] => none
  | '"' :: rest => some (before.reverse, rest)
  | '\\' :: 'u' :: a :: b :: c :: d :: rest =>
      match hexUnit? a b c d with
      | some unit => splitUnits (unit :: before) rest
      | none => none
  | '\\' :: c :: rest =>
      match shortEscape? c with
      | some unit => splitUnits (unit :: before) rest
      | none => none
  | c :: rest => if c.toNat < 0x20 then none else splitUnits (c.toNat :: before) rest

def splitText (text : List Char) : Option (Token × List Char) :=
  (splitUnits [] text).map fun (units, rest) =>
    (.text ((joinHalves units).map String.ofList), rest)

def splitNumber (text : List Char) : Option (Token × List Char) :=
  (splitNumeral text).map fun (numeral, rest) => (.number numeral, rest)

def splitToken : List Char → Option (Token × List Char)
  | '[' :: rest => some (.arrayStart, rest)
  | ']' :: rest => some (.arrayEnd, rest)
  | '\x7b' :: rest => some (.objectStart, rest)
  | '\x7d' :: rest => some (.objectEnd, rest)
  | ',' :: rest => some (.comma, rest)
  | ':' :: rest => some (.colon, rest)
  | '"' :: rest => splitText rest
  | 'n' :: 'u' :: 'l' :: 'l' :: rest => some (.null, rest)
  | 't' :: 'r' :: 'u' :: 'e' :: rest => some (.bool true, rest)
  | 'f' :: 'a' :: 'l' :: 's' :: 'e' :: rest => some (.bool false, rest)
  | text => splitNumber text

def isBlank (c : Char) : Bool :=
  c = ' ' || c = '\t' || c = '\n' || c = '\r'

end BoxedCalls.Json
