import BoxedCalls.Compile.Argument
import BoxedCalls.Compile.Destination

namespace BoxedCalls

open CompileM

def emitCall (function : String) (arguments : List Operand) (destination : Option Destination)
    (span : Span) : CompileM Compiled :=
  match destination with
  | none => do
      require callHeader
      emit (.callFunction function none arguments)
      return ⟨.null, .null, span⟩
  | some destination => do
      checkBoxed destination span
      require callHeader
      let target ← openDestination destination
      emit (.callFunction function (some target) arguments)
      return ⟨.var, .var destination.target.name, span⟩

def HelperContract.trailingOperands (contract : HelperContract) : List Operand :=
  contract.trailing.map .verbatim

def compileBooleanHelper (contract : HelperContract) (call : Call)
    (box : ArgumentMode → CompileM (List Operand)) : CompileM (Option Compiled) :=
  if call.arguments.length ≠ contract.parameterCount then return none
  else do
    require contract.header
    let arguments ← box .lent
    return some
      ⟨.bool, .predicate contract.symbol (arguments ++ contract.trailingOperands), call.span⟩

def compileBoxedHelper (contract : HelperContract) (call : Call) (demand : Demand)
    (box : ArgumentMode → CompileM (List Operand)) : CompileM (Option Compiled) :=
  if call.arguments.length ≠ contract.parameterCount || demand = .nothing then return none
  else do
    require contract.header
    let arguments ← box .lent
    match ← chooseDestination call demand with
    | none => return none
    | some destination =>
        checkBoxed destination call.span
        let target ← openDestination destination
        emit (.kernelCall contract.symbol (target :: arguments ++ contract.trailingOperands))
        return some ⟨.var, .var destination.target.name, call.span⟩

def Optimizer.compile (optimizer : Optimizer) (call : Call) (demand : Demand)
    (box : ArgumentMode → CompileM (List Operand)) : CompileM (Option Compiled) :=
  match optimizer with
  | .fixed result => return some result
  | .declining => do
      modifyCompiler fun compiler => { compiler with declined := compiler.declined + 1 }
      return none
  | .booleanHelper contract => compileBooleanHelper contract call box
  | .boxedHelper contract => compileBoxedHelper contract call demand box

def optimize (function : String) (call : Call) (demand : Demand)
    (box : ArgumentMode → CompileM (List Operand)) : CompileM (Option Compiled) := do
  match ← resolveOptimizer function with
  | none => return none
  | some optimizer => optimizer.compile call demand box

def compileCallWith (call : Call) (demand : Demand)
    (box : ArgumentMode → CompileM (List Operand)) : CompileM Compiled := do
  let function := Text.lowercase call.function
  let known ← knows function
  if !known then
    warn (.unknownFunction function call.span)
  match ← optimize function call demand box with
  | some result => return result
  | none =>
      let readOnly ←
        if known then isReadOnly function call.arguments.length call.span else pure false
      let arguments ← box (if readOnly then .lent else .owned)
      let destination ← chooseDestination call demand
      emitCall function arguments destination call.span

def Literal.compiled (span : Span) : Literal → Compiled
  | int value => ⟨.int, .integer value.toInt, span⟩
  | uint value => ⟨.uint, .integer value.toNat, span⟩
  | long value => ⟨.long, .integer value.toInt, span⟩
  | ulong value => ⟨.ulong, .integer value.toNat, span⟩
  | double value => ⟨.double, .double value, span⟩
  | bool value => ⟨.bool, .truth value, span⟩
  | string value => ⟨.string, .quoted value, span⟩
  | null => ⟨.null, .null, span⟩

mutual

def compileExpression : Expression → CompileM Compiled
  | .literal value span => return value.compiled span
  | .var name span => return ⟨.var, .var name, span⟩
  | .call function arguments span =>
      compileCallWith ⟨function, arguments, span⟩ .anywhere (boxArguments arguments)

def boxArguments (arguments : List Expression) (mode : ArgumentMode) : CompileM (List Operand) :=
  match arguments with
  | [] => return []
  | argument :: rest => do
      let compiled ← compileExpression argument
      let operand ← boxArgument compiled argument.span mode
      let operands ← boxArguments rest mode
      return operand :: operands

end

def compileCall (call : Call) (demand : Demand) : CompileM Compiled :=
  compileCallWith call demand (boxArguments call.arguments)

end BoxedCalls
