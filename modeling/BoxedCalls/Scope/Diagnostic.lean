import BoxedCalls.Syntax.Span

namespace BoxedCalls

structure Warning where
  message : String
  tag : String
  span : Span
  deriving DecidableEq, Repr

namespace Warning

def unknownFunctionTag : String := "nonexistant-function"

def unknownFunction (function : String) (span : Span) : Warning :=
  { message := "Function \"" ++ function ++ "\" does not exist at compile time"
    tag := unknownFunctionTag
    span }

end Warning

inductive ErrorCause where
  | insufficientArguments (function : String)
  | unsupportedValue (typeName : String)
  | unsupportedVariable (typeName : String)
  | unboxedDestination
  | undeclaredVariable (name : String)
  deriving DecidableEq, Repr

def ErrorCause.message : ErrorCause → String
  | insufficientArguments function =>
      "The number of parameters passed is less than the number of required parameters by '" ++
        function ++ "'"
  | unsupportedValue typeName => "Cannot use value type: " ++ typeName ++ " as parameter"
  | unsupportedVariable typeName => "Cannot use variable type: " ++ typeName ++ " as parameter"
  | unboxedDestination =>
      "Returned values by functions can only be assigned to variant variables"
  | undeclaredVariable name => "Cannot read variable '" ++ name ++ "' because it wasn't declared"

structure CompileError where
  cause : ErrorCause
  span : Span
  deriving DecidableEq, Repr

namespace CompileError

def message (error : CompileError) : String :=
  error.cause.message

def render (error : CompileError) : String :=
  error.message ++ " at " ++ error.span.render

end CompileError

end BoxedCalls
