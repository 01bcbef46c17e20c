import BoxedCalls.Compile.Compiler

namespace BoxedCalls

/-- How the arguments of one call are handed over: in containers of their own, or lent in
containers on the stack that refer to the data. -/
inductive ArgumentMode where
  | owned
  | lent
  deriving DecidableEq, Repr

namespace ArgumentMode

def storage : ArgumentMode → Storage
  | owned => .heapTemporary
  | lent => .stackTemporary

def duplicates : ArgumentMode → Bool
  | owned => true
  | lent => false

end ArgumentMode

open CompileM

def storeArgument (mode : ArgumentMode) (store : Operand → Instruction) : CompileM Operand := do
  let v ← allocate mode.storage
  emit (store v.handle)
  return v.handle

def boxVariable (v : Variable) (span : Span) (mode : ArgumentMode) : CompileM Operand :=
  match v.type with
  | .boxed => return v.handle
  | .int | .uint | .long | .ulong =>
      storeArgument mode fun target => .storeLong target (.var v.name)
  | .double => storeArgument mode fun target => .storeDouble target (.var v.name)
  | .bool => storeArgument mode fun target => .storeBool target (.var v.name)
  | .string =>
      storeArgument mode fun target =>
        .storeStringWithLength target (.var v.name) mode.duplicates
  | .char | .array => fail (.unsupportedVariable v.type.name) span

def boxArgument (argument : Compiled) (span : Span) (mode : ArgumentMode) : CompileM Operand :=
  match argument.kind with
  | .int | .uint | .long | .ulong =>
      storeArgument mode fun target => .storeLong target argument.code
  | .double => storeArgument mode fun target => .storeDouble target argument.code
  | .bool => storeArgument mode fun target => .storeBool target argument.code.flag
  | .string =>
      storeArgument mode fun target => .storeString target argument.code mode.duplicates
  | .var => do
      let v ← lookup argument.code.render span
      boxVariable v span mode
  | .null => fail (.unsupportedValue argument.kind.name) span

end BoxedCalls
