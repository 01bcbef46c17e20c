import BoxedCalls.Compile.Call
import BoxedCalls.Syntax.CallUnit

namespace BoxedCalls

open CompileM

def storeScalar (target : Operand) (value : Compiled) : Instruction :=
  match value.kind with
  | .int | .uint | .long | .ulong => .storeLong target value.code
  | .double => .storeDouble target value.code
  | .bool => .storeBool target value.code.flag
  | .string => .storeString target value.code true
  | .null | .var => .storeNull target

/-- The value is computed apart and copied over when the arguments of the call read the
destination. -/
def assignScalar (target : Operand) (isRead : Bool) (value : Compiled) : CompileM Unit :=
  if isRead then do
    let temporary ← allocate .heapTemporary
    emit (storeScalar temporary.handle value)
    emit (.copyOnWrite target (.var temporary.name))
  else do
    emit (.reinit target)
    emit (storeScalar target value)

def copyResult (target : Operand) (source : Code) : CompileM Unit :=
  if source.render = target.render then return ()
  else emit (.copyOnWrite target source.operand)

def compileAssignment (name : String) (call : Call) : CompileM Unit := do
  let value ← compileCall call (.inVariable name)
  let v ← lookup name call.span
  checkBoxed ⟨v, false⟩ call.span
  if value.kind = .var then copyResult v.handle value.code
  else assignScalar v.handle (call.argumentsRead name) value

def compileStatement : Statement → CompileM Unit
  | .call call => do
      let _ ← compileCall call .nothing
  | .assign name call => compileAssignment name call

def compileStatements : List Statement → CompileM Unit
  | [] => return ()
  | statement :: rest => do
      compileStatement statement
      compileStatements rest

def declareAll (declarations : List Declaration) : Context :=
  declarations.foldl (fun context declaration => context.declare declaration.name declaration.type)
    {}

structure CompiledFunction where
  functionName : String
  context : Context
  deriving Repr

def compileUnit (unit : CallUnit) (compiler : Compiler) :
    Except CompileError CompiledFunction × Compiler :=
  match (compileStatements unit.statements).run ⟨compiler, declareAll unit.declarations⟩ with
  | .ok _ workspace => (.ok ⟨unit.functionName, workspace.context⟩, workspace.compiler)
  | .error error workspace => (.error error, workspace.compiler)

def Variable.declaration (v : Variable) : String :=
  match v.storage, v.type with
  | .stackTemporary, _ => "zval " ++ v.name ++ ";"
  | _, .boxed => "zval *" ++ v.name ++ ";"
  | _, .array => "zval *" ++ v.name ++ ";"
  | _, type => type.cType ++ " " ++ v.name ++ ";"

namespace CompiledFunction

def declarationLines (unit : CompiledFunction) : List String :=
  unit.context.symbols.entries.map Variable.declaration

def indented (lines : List String) : String :=
  String.join (lines.map fun line => "\t" ++ line ++ "\n")

def code (unit : CompiledFunction) : String :=
  let declarations := unit.declarationLines
  let instructions := unit.context.lines
  let gap := if declarations.isEmpty || instructions.isEmpty then "" else "\n"
  "void " ++ unit.functionName ++ "(void) \x7b\n" ++ indented declarations ++ gap ++
    indented instructions ++ "\x7d\n"

def headers (unit : CompiledFunction) : List String :=
  unit.context.headers.names

def warnings (unit : CompiledFunction) : List Warning :=
  unit.context.warnings

end CompiledFunction

end BoxedCalls
