namespace BoxedCalls

def twoTo (k : Nat) : Nat := Nat.pow 2 k

def tenTo (k : Nat) : Nat := Nat.pow 10 k

structure Double where
  bits : UInt64
  deriving DecidableEq, Repr

namespace Double

def negative (d : Double) : Bool :=
  twoTo 63 ≤ d.bits.toNat

def exponentField (d : Double) : Nat :=
  d.bits.toNat / twoTo 52 % twoTo 11

def fraction (d : Double) : Nat :=
  d.bits.toNat % twoTo 52

def mantissa (d : Double) : Nat :=
  if d.exponentField = 0 then d.fraction else d.fraction + twoTo 52

def exponent (d : Double) : Int :=
  if d.exponentField = 0 then -1074 else d.exponentField - 1075

def isInfinite (d : Double) : Bool :=
  d.exponentField = 2047 && d.fraction = 0

def isNaN (d : Double) : Bool :=
  d.exponentField = 2047 && d.fraction ≠ 0

def isFinite (d : Double) : Bool :=
  d.exponentField ≠ 2047

def neg (d : Double) : Double :=
  ⟨d.bits ^^^ 0x8000000000000000⟩

def roundQuotient (num den : Nat) : Nat :=
  let quotient := num / den
  let rest := 2 * (num % den)
  if rest < den then quotient
  else if den < rest then quotient + 1
  else quotient + quotient % 2

/-- The exponent that gives `num / den` a mantissa below `2 ^ 53`, and at least `2 ^ 52` where the
format reaches that far down. -/
def gridExponent (num den : Nat) : Int :=
  let low := max (num.log2 - den.log2 - 53 : Int) (-1074)
  if num * twoTo (-low).toNat < den * twoTo (53 + low.toNat) then low else low + 1

def nearest (num den : Nat) : Double :=
  if num = 0 then ⟨0⟩
  else
    let e := gridExponent num den
    let mantissa := roundQuotient (num * twoTo (-e).toNat) (den * twoTo e.toNat)
    ⟨(min ((e + 1074).toNat * twoTo 52 + mantissa) (2047 * twoTo 52)).toUInt64⟩

def nearestScaled (num den : Nat) (e : Int) : Double :=
  nearest (num * twoTo e.toNat) (den * twoTo (-e).toNat)

def mulMagnitude (a b : Double) : Double :=
  nearestScaled (a.mantissa * b.mantissa) 1 (a.exponent + b.exponent)

def divMagnitude (a b : Double) : Double :=
  nearestScaled a.mantissa b.mantissa (a.exponent - b.exponent)

def ofNat (n : Nat) : Double :=
  nearest n 1

def ofInt (i : Int) : Double :=
  if i < 0 then (ofNat i.natAbs).neg else ofNat i.natAbs

def powerOfTen (k : Nat) : Double :=
  ofNat (tenTo k)

end Double

end BoxedCalls
