namespace BoxedCalls

inductive VariableType where
  | int
  | uint
  | long
  | ulong
  | double
  | bool
  | char
  | string
  | array
  | boxed
  deriving DecidableEq, Repr, Inhabited

namespace VariableType

def all : List VariableType :=
  [int, uint, long, ulong, double, bool, char, string, array, boxed]

def name : VariableType → String
  | int => "int"
  | uint => "uint"
  | long => "long"
  | ulong => "ulong"
  | double => "double"
  | bool => "bool"
  | char => "char"
  | string => "string"
  | array => "array"
  | boxed => "variable"

def ofName? (name : String) : Option VariableType :=
  all.find? (·.name = name)

def cType : VariableType → String
  | int => "int"
  | uint => "unsigned int"
  | long => "long"
  | ulong => "unsigned long"
  | double => "double"
  | bool => "zend_bool"
  | char => "char"
  | string => "zephir_str"
  | array => "zval"
  | boxed => "zval"

theorem ofName?_name (type : VariableType) : ofName? type.name = some type := by
  cases type <;> decide

end VariableType

end BoxedCalls
