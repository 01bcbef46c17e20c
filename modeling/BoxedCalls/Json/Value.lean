import BoxedCalls.Decimal.Double

namespace BoxedCalls

inductive Json where
  | null
  | bool (value : Bool)
  | int (value : Int)
  | double (value : Double)
  | string (value : String)
  | array (items : List Json)
  | object (members : List (String × Json))
  deriving Repr, Inhabited

namespace Json

def string? : Json → Option String
  | .string value => some value
  | _ => none

def bool? : Json → Option Bool
  | .bool value => some value
  | _ => none

def array? : Json → Option (List Json)
  | .array items => some items
  | _ => none

def uint64? : Json → Option UInt64
  | .int value =>
      let word := UInt64.ofNat value.toNat
      if word.toNat = value then some word else none
  | _ => none

def int64? : Json → Option Int64
  | .int value =>
      let word := Int64.ofInt value
      if word.toInt = value then some word else none
  | _ => none

def double? : Json → Option Double
  | .int value => some (Double.ofInt value)
  | .double value => some value
  | _ => none

theorem uint64?_toNat (word : UInt64) : uint64? (.int word.toNat) = some word := by
  simp [uint64?]

theorem int64?_toInt (word : Int64) : int64? (.int word.toInt) = some word := by
  simp [int64?]

end Json

end BoxedCalls
