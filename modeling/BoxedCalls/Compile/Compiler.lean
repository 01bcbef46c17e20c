import BoxedCalls.Compile.Optimizer
import BoxedCalls.Compile.SignatureCache
import BoxedCalls.Functions.Standard
import BoxedCalls.Scope.Context

namespace BoxedCalls

structure Compiler where
  host : HostFunctions := {}
  optimizers : OptimizerLookup := {}
  signatures : SignatureCache := {}
  declined : Nat := 0
  deriving Repr

namespace Compiler

def new (host : HostFunctions) (table : OptimizerTable) : Compiler :=
  { host, optimizers := { table } }

def standard : Compiler :=
  new .standard .builtin

def knows (compiler : Compiler) (name : String) : Bool :=
  compiler.host.contains name || Builtin.contains name

def invalidate (compiler : Compiler) (name : String) : Compiler :=
  { compiler with
    optimizers := (compiler.optimizers.invalidate (Text.lowercase name)).2
    signatures := (compiler.signatures.invalidate (Text.lowercase name)).2 }

def redefine (compiler : Compiler) (name : String) (signature : Option Signature) : Compiler :=
  { compiler with host := compiler.host.register name signature }.invalidate name

def registerOptimizer (compiler : Compiler) (name : String) (optimizer : Optimizer) : Compiler :=
  { compiler with optimizers := compiler.optimizers.register name optimizer }

end Compiler

structure Workspace where
  compiler : Compiler
  context : Context
  deriving Repr

abbrev CompileM := EStateM CompileError Workspace

namespace CompileM

def modifyContext (change : Context → Context) : CompileM Unit :=
  fun workspace => .ok () { workspace with context := change workspace.context }

def modifyCompiler (change : Compiler → Compiler) : CompileM Unit :=
  fun workspace => .ok () { workspace with compiler := change workspace.compiler }

def emit (instruction : Instruction) : CompileM Unit :=
  modifyContext (·.emit instruction)

def warn (warning : Warning) : CompileM Unit :=
  modifyContext (·.warn warning)

def require (header : String) : CompileM Unit :=
  modifyContext (·.require header)

def fail {α : Type} (cause : ErrorCause) (span : Span) : CompileM α :=
  throw ⟨cause, span⟩

def allocate (storage : Storage) : CompileM Variable :=
  fun workspace =>
    let (v, context) := workspace.context.allocate storage
    .ok v { workspace with context }

def lookup (name : String) (span : Span) : CompileM Variable :=
  fun workspace =>
    match workspace.context.lookup name span with
    | .ok v => .ok v workspace
    | .error error => .error error workspace

def knows (name : String) : CompileM Bool :=
  fun workspace => .ok (workspace.compiler.knows name) workspace

def resolveOptimizer (name : String) : CompileM (Option Optimizer) :=
  fun workspace =>
    let (outcome, optimizers) := workspace.compiler.optimizers.resolve name
    .ok outcome { workspace with compiler := { workspace.compiler with optimizers } }

def isReadOnly (name : String) (count : Nat) (span : Span) : CompileM Bool :=
  fun workspace =>
    let compiler := workspace.compiler
    let (answer, signatures) := compiler.signatures.isReadOnly compiler.host name count span
    let workspace := { workspace with compiler := { compiler with signatures } }
    match answer with
    | .ok readOnly => .ok readOnly workspace
    | .error error => .error error workspace

end CompileM

end BoxedCalls
