import BoxedCalls.Compile.Compiler
import BoxedCalls.Syntax.Expression

namespace BoxedCalls

structure Destination where
  target : Variable
  reused : Bool
  deriving DecidableEq, Repr

open CompileM

/-- The variable that is wanted, unless the arguments of the call read it: then the value goes into
a new one, as it would overwrite what is still being read. -/
def chooseDestination (call : Call) : Demand → CompileM (Option Destination)
  | .nothing => return none
  | .anywhere => return some ⟨← allocate .heapTemporary, false⟩
  | .inVariable name => do
      let v ← lookup name call.span
      if call.argumentsRead v.name then
        return some ⟨← allocate .heapTemporary, false⟩
      else
        return some ⟨v, true⟩

def openDestination (destination : Destination) : CompileM Operand := do
  let operand := Operand.var destination.target.name
  if destination.reused then
    emit (.reinit operand)
  return operand

def checkBoxed (destination : Destination) (span : Span) : CompileM Unit :=
  if destination.target.type = .boxed then pure () else fail .unboxedDestination span

end BoxedCalls
