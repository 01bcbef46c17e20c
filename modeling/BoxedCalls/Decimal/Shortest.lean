import BoxedCalls.Decimal.Double

namespace BoxedCalls

structure Decimal where
  digits : Nat
  exponent : Int
  deriving DecidableEq, Repr

namespace Decimal

def dropZeros : Nat → Decimal → Decimal
  | 0, d => d
  | count + 1, d =>
      if d.digits % 10 = 0 then dropZeros count ⟨d.digits / 10, d.exponent + 1⟩ else d

end Decimal

namespace Double

/-- The reals that round to a finite positive number, on a grid four times as fine as its own: from
`low` to `high` in units of two to the power `exponent - 2`, around `centre`. -/
structure Interval where
  low : Nat
  centre : Nat
  high : Nat
  exponent : Int
  closed : Bool
  deriving Repr

/-- Below a power of two the neighbours are twice as close. The ends belong to the interval when the
mantissa is even. -/
def interval (d : Double) : Interval :=
  let m := d.mantissa
  let belowGap := if d.fraction = 0 && 1 < d.exponentField then 1 else 2
  { low := 4 * m - belowGap
    centre := 4 * m
    high := 4 * m + 2
    exponent := d.exponent - 2
    closed := m % 2 = 0 }

def Interval.ratio (i : Interval) (n : Nat) (e : Int) : Nat × Nat :=
  (n * twoTo i.exponent.toNat * tenTo (-e).toNat, twoTo (-i.exponent).toNat * tenTo e.toNat)

def Interval.holds (i : Interval) (n : Nat) (e : Int) : Bool :=
  let (low, den) := i.ratio i.low e
  let (high, _) := i.ratio i.high e
  if i.closed then low ≤ n * den && n * den ≤ high else low < n * den && n * den < high

def Interval.onGrid? (i : Interval) (e : Int) : Option Nat :=
  let (num, den) := i.ratio i.centre e
  let below := num / den
  let rest := num % den
  match i.holds below e, i.holds (below + 1) e with
  | true, true => some (if 2 * rest < den then below else below + 1)
  | true, false => some below
  | false, true => some (below + 1)
  | false, false => none

def Interval.decimalPoint (i : Interval) : Nat → Int → Int
  | 0, start => start
  | count + 1, start =>
      let (num, den) := i.ratio i.centre start
      if num < den then start else decimalPoint i count (start + 1)

def Interval.firstOnGrid (i : Interval) : Nat → Int → Decimal
  | 0, e => ⟨0, e⟩
  | count + 1, e =>
      match i.onGrid? e with
      | some digits => ⟨digits, e⟩
      | none => firstOnGrid i count (e - 1)

/-- A start for `decimalPoint`, at most two below its result: a power of two has about three tenths
as many decimal digits as binary ones. -/
def Interval.decimalPointGuess (i : Interval) : Int :=
  (i.centre.log2 + i.exponent) * 30103 / 100000 - 1

/-- The decimal of fewest digits that reads back as the finite number `d`, its sign left out, and of
those the nearest. Seventeen digits always suffice. -/
def shortest (d : Double) : Decimal :=
  if d.mantissa = 0 then ⟨0, 0⟩
  else
    let i := d.interval
    let point := i.decimalPoint 4 i.decimalPointGuess
    (i.firstOnGrid 17 (point - 1)).dropZeros 17

end Double

end BoxedCalls
