namespace BoxedCalls

structure Span where
  start : UInt64 := 0
  stop : UInt64 := 0
  line : UInt64 := 0
  column : UInt64 := 0
  deriving DecidableEq, Repr, Inhabited

namespace Span

def point (line column : UInt64) : Span :=
  { line, column }

def isSynthesized (span : Span) : Bool :=
  span.line = 0 && span.column = 0

def render (span : Span) : String :=
  toString span.line ++ ":" ++ toString span.column

end Span

end BoxedCalls
