import BoxedCalls.Decimal.Double
import BoxedCalls.Syntax.Span

namespace BoxedCalls

inductive Literal where
  | int (value : Int64)
  | uint (value : UInt64)
  | long (value : Int64)
  | ulong (value : UInt64)
  | double (value : Double)
  | bool (value : Bool)
  | string (value : String)
  | null
  deriving DecidableEq, Repr

def Literal.isFinite : Literal → Bool
  | double value => value.isFinite
  | _ => true

inductive Expression where
  | literal (value : Literal) (span : Span)
  | var (name : String) (span : Span)
  | call (function : String) (arguments : List Expression) (span : Span)
  deriving Repr

structure Call where
  function : String
  arguments : List Expression := []
  span : Span := {}
  deriving Repr

namespace Expression

def span : Expression → Span
  | literal _ span => span
  | var _ span => span
  | call _ _ span => span

def ofCall (c : Call) : Expression :=
  call c.function c.arguments c.span

mutual

def reads (name : String) : Expression → Bool
  | literal _ _ => false
  | var other _ => other = name
  | call _ arguments _ => anyReads name arguments

def anyReads (name : String) : List Expression → Bool
  | [] => false
  | argument :: rest => argument.reads name || anyReads name rest

end

mutual

def isFinite : Expression → Bool
  | literal value _ => value.isFinite
  | var _ _ => true
  | call _ arguments _ => allFinite arguments

def allFinite : List Expression → Bool
  | [] => true
  | argument :: rest => argument.isFinite && allFinite rest

end

end Expression

def Call.argumentsRead (c : Call) (name : String) : Bool :=
  Expression.anyReads name c.arguments

inductive Demand where
  | nothing
  | anywhere
  | inVariable (name : String)
  deriving DecidableEq, Repr

end BoxedCalls
