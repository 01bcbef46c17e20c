import BoxedCalls.Decimal.Layout
import BoxedCalls.Text.Escape

namespace BoxedCalls

inductive Operand where
  | var (name : String)
  | addressOf (name : String)
  | verbatim (text : String)
  deriving DecidableEq, Repr

namespace Operand

def render : Operand → String
  | var name => name
  | addressOf name => "&" ++ name
  | verbatim text => text

def renderList (operands : List Operand) : String :=
  ", ".intercalate (operands.map render)

end Operand

/-- A value in generated code. `quoted` is the body of a string literal, `predicate` the call of a
kernel helper in place. -/
inductive Code where
  | integer (value : Int)
  | double (value : Double)
  | truth (value : Bool)
  | null
  | quoted (value : String)
  | var (name : String)
  | predicate (symbol : String) (arguments : List Operand)
  | verbatim (text : String)
  deriving DecidableEq, Repr

namespace Code

def render : Code → String
  | integer value => toString value
  | double value => DecimalLayout.standard.double value
  | truth true => "true"
  | truth false => "false"
  | null => "null"
  | quoted value => Text.escape value
  | var name => name
  | predicate symbol arguments => symbol ++ "(" ++ Operand.renderList arguments ++ ")"
  | verbatim text => text

def flag : Code → Code
  | truth true => integer 1
  | truth false => integer 0
  | predicate symbol arguments => predicate symbol arguments
  | code =>
      if code.render = "true" then integer 1
      else if code.render = "false" then integer 0
      else code

def operand : Code → Operand
  | var name => .var name
  | code => .verbatim code.render

end Code

inductive ValueKind where
  | int
  | uint
  | long
  | ulong
  | double
  | bool
  | string
  | var
  | null
  deriving DecidableEq, Repr

namespace ValueKind

def all : List ValueKind :=
  [int, uint, long, ulong, double, bool, string, var, null]

def name : ValueKind → String
  | int => "int"
  | uint => "uint"
  | long => "long"
  | ulong => "ulong"
  | double => "double"
  | bool => "bool"
  | string => "string"
  | var => "variable"
  | null => "null"

def ofName? (name : String) : Option ValueKind :=
  all.find? (·.name = name)

theorem ofName?_name (kind : ValueKind) : ofName? kind.name = some kind := by
  cases kind <;> decide

end ValueKind

end BoxedCalls
