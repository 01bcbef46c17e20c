import BoxedCalls.Target.Code

namespace BoxedCalls

inductive Instruction where
  | init (target : Operand)
  | reinit (target : Operand)
  | storeNull (target : Operand)
  | storeLong (target : Operand) (value : Code)
  | storeDouble (target : Operand) (value : Code)
  | storeBool (target : Operand) (value : Code)
  | storeString (target : Operand) (literal : Code) (duplicate : Bool)
  | storeStringWithLength (target source : Operand) (duplicate : Bool)
  | copyOnWrite (destination source : Operand)
  | callFunction (function : String) (destination : Option Operand) (arguments : List Operand)
  | kernelCall (symbol : String) (operands : List Operand)
  deriving DecidableEq, Repr

def callRoutine (arity : Nat) (hasResult : Bool) : String :=
  let base :=
    if arity = 0 then "zephir_call_func" else "zephir_call_func_p" ++ toString arity
  if hasResult then base else base ++ "_noret"

namespace Instruction

def copyFlag (duplicate : Bool) : String :=
  if duplicate then "1" else "0"

def line (routine : String) (arguments : List String) : String :=
  routine ++ "(" ++ ", ".intercalate arguments ++ ");"

def render : Instruction → String
  | init target => line "ZEPHIR_INIT_VAR" [target.render]
  | reinit target => line "ZEPHIR_INIT_NVAR" [target.render]
  | storeNull target => line "ZVAL_NULL" [target.render]
  | storeLong target value => line "ZVAL_LONG" [target.render, value.render]
  | storeDouble target value => line "ZVAL_DOUBLE" [target.render, value.render]
  | storeBool target value => line "ZVAL_BOOL" [target.render, value.render]
  | storeString target literal duplicate =>
      line "ZVAL_STRING" [target.render, "\"" ++ literal.render ++ "\"", copyFlag duplicate]
  | storeStringWithLength target source duplicate =>
      line "ZVAL_STRINGL"
        [target.render, source.render ++ "->str", source.render ++ "->len", copyFlag duplicate]
  | copyOnWrite destination source => line "ZEPHIR_CPY_WRT" [destination.render, source.render]
  | callFunction function destination arguments =>
      line (callRoutine arguments.length destination.isSome)
        (destination.toList.map Operand.render ++ ("\"" ++ function ++ "\"") ::
          arguments.map Operand.render)
  | kernelCall symbol operands => line symbol (operands.map Operand.render)

end Instruction

end BoxedCalls
