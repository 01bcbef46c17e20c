import BoxedCalls.Decimal.Shortest

namespace BoxedCalls

structure DecimalLayout where
  plainFrom : Int
  plainTo : Int
  nan : String
  infinity : String
  deriving Repr

namespace DecimalLayout

def plain (digits : List Char) (point : Int) : List Char :=
  if point ≤ 0 then
    ['0', '.'] ++ List.replicate (-point).toNat '0' ++ digits
  else
    let whole := digits.take point.toNat
    let padding := List.replicate (point.toNat - digits.length) '0'
    let fraction := digits.drop point.toNat
    whole ++ padding ++ ['.'] ++ (if fraction.isEmpty then ['0'] else fraction)

def scientific (digits : List Char) (point : Int) : List Char :=
  let fraction := digits.drop 1
  digits.take 1 ++ (if fraction.isEmpty then [] else '.' :: fraction) ++
    'e' :: (toString (point - 1)).toList

def decimal (layout : DecimalLayout) (d : Decimal) : List Char :=
  let digits := (toString d.digits).toList
  let point := d.exponent + digits.length
  if layout.plainFrom ≤ point && point ≤ layout.plainTo then plain digits point
  else scientific digits point

def magnitude (layout : DecimalLayout) (d : Double) : String :=
  if d.isInfinite then layout.infinity
  else String.ofList (layout.decimal d.shortest)

def double (layout : DecimalLayout) (d : Double) : String :=
  if d.isNaN then layout.nan
  else if d.negative then "-" ++ layout.magnitude d
  else layout.magnitude d

def standard : DecimalLayout :=
  { plainFrom := -3, plainTo := 16, nan := "NaN", infinity := "inf" }

end DecimalLayout

end BoxedCalls
