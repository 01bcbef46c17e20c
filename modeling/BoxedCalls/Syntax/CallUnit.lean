import BoxedCalls.Syntax.Expression
import BoxedCalls.Syntax.VariableType

namespace BoxedCalls

structure Declaration where
  name : String
  type : VariableType
  deriving DecidableEq, Repr

inductive Statement where
  | call (call : Call)
  | assign (target : String) (call : Call)
  deriving Repr

structure CallUnit where
  functionName : String
  declarations : List Declaration := []
  statements : List Statement := []
  deriving Repr

end BoxedCalls
