import BoxedCalls.Json.Value

namespace BoxedCalls.Json

structure Numeral where
  negative : Bool
  whole : List Nat
  fraction : Option (List Nat)
  exponent : Option Int
  deriving Repr, DecidableEq

/-- Appends digits to a significand of 64 bits up to the first that does not fit, and says which
are left over. -/
def absorb (significand : Nat) : List Nat → Nat × List Nat
  | [] => (significand, [])
  | digit :: rest =>
      if significand * 10 + digit < twoTo 64 then absorb (significand * 10 + digit) rest
      else (significand, digit :: rest)

def divideByPower (value : Double) (k : Nat) : Double :=
  if k ≤ 308 then value.divMagnitude (Double.powerOfTen k)
  else if value.mantissa = 0 then value
  else divideByPower (value.divMagnitude (Double.powerOfTen 308)) (k - 308)
termination_by k

def scale? (significand : Nat) (exponent : Int) : Option Double :=
  let value := Double.ofNat significand
  if exponent < 0 then some (divideByPower value (-exponent).toNat)
  else if significand = 0 then some value
  else if 308 < exponent then none
  else
    let product := value.mulMagnitude (Double.powerOfTen exponent.toNat)
    if product.isInfinite then none else some product

namespace Numeral

def withSign (n : Numeral) (magnitude : Double) : Json :=
  .double (if n.negative then magnitude.neg else magnitude)

/-- Without point and exponent an integer that fits 64 bits, with sign or without; a double
otherwise, as is the negative zero. Nothing for a double out of range. -/
def value? (n : Numeral) : Option Json :=
  let (significand, unread) := absorb 0 n.whole
  match n.fraction, n.exponent with
  | none, none =>
      if unread.isEmpty && !n.negative then some (.int significand)
      else if unread.isEmpty && 0 < significand && significand ≤ twoTo 63 then
        some (.int (-significand))
      else (scale? significand unread.length).map n.withSign
  | fraction, exponent =>
      let places := fraction.getD []
      let (significand, beyond) := absorb significand places
      let shift : Int := unread.length - (places.length - beyond.length)
      (scale? significand (shift + exponent.getD 0)).map n.withSign

end Numeral

def splitDigits (text : List Char) : List Nat × List Char :=
  ((text.takeWhile Char.isDigit).map (fun c => c.toNat - '0'.toNat), text.dropWhile Char.isDigit)

def digitsToNat (digits : List Nat) : Nat :=
  digits.foldl (fun n digit => n * 10 + digit) 0

def splitSign : List Char → Bool × List Char
  | '-' :: rest => (true, rest)
  | text => (false, text)

def splitWhole : List Char → Option (List Nat × List Char)
  | '0' :: rest => some ([0], rest)
  | text =>
      match splitDigits text with
      | ([], _) => none
      | split => some split

def splitFraction : List Char → Option (Option (List Nat) × List Char)
  | '.' :: rest =>
      match splitDigits rest with
      | ([], _) => none
      | (digits, rest) => some (some digits, rest)
  | text => some (none, text)

def splitPower (text : List Char) : Option (Option Int × List Char) :=
  let (negative, unsigned) :=
    match text with
    | '+' :: rest => (false, rest)
    | other => splitSign other
  match splitDigits unsigned with
  | ([], _) => none
  | (digits, rest) =>
      let magnitude : Int := digitsToNat digits
      some (some (if negative then -magnitude else magnitude), rest)

def splitExponent : List Char → Option (Option Int × List Char)
  | 'e' :: rest => splitPower rest
  | 'E' :: rest => splitPower rest
  | text => some (none, text)

def splitNumeral (text : List Char) : Option (Numeral × List Char) := do
  let (negative, text) := splitSign text
  let (whole, text) ← splitWhole text
  let (fraction, text) ← splitFraction text
  let (exponent, text) ← splitExponent text
  return (⟨negative, whole, fraction, exponent⟩, text)

end BoxedCalls.Json
