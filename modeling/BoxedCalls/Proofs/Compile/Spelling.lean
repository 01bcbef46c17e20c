import BoxedCalls.Proofs.Caches.Transparency
import BoxedCalls.Proofs.Text.Lowercase

namespace BoxedCalls

open CompileM

mutual

def Expression.lowered : Expression → Expression
  | .literal value span => .literal value span
  | .var name span => .var name span
  | .call function arguments span => .call (Text.lowercase function) (allLowered arguments) span

def Expression.allLowered : List Expression → List Expression
  | [] => []
  | argument :: rest => argument.lowered :: allLowered rest

end

def Call.lowered (call : Call) : Call :=
  ⟨Text.lowercase call.function, Expression.allLowered call.arguments, call.span⟩

def Statement.lowered : Statement → Statement
  | .call c => .call c.lowered
  | .assign target c => .assign target c.lowered

def CallUnit.lowered (unit : CallUnit) : CallUnit :=
  { unit with statements := unit.statements.map Statement.lowered }

namespace Expression

theorem span_lowered (expression : Expression) : expression.lowered.span = expression.span := by
  cases expression <;> rfl

theorem length_allLowered (arguments : List Expression) :
    (allLowered arguments).length = arguments.length := by
  induction arguments with
  | nil => rfl
  | cons argument rest ih => simp [allLowered, ih]

mutual

theorem reads_lowered (name : String) (expression : Expression) :
    expression.lowered.reads name = expression.reads name := by
  cases expression with
  | literal value span => rfl
  | var other span => rfl
  | call function arguments span => exact anyReads_allLowered name arguments

theorem anyReads_allLowered (name : String) (arguments : List Expression) :
    anyReads name (allLowered arguments) = anyReads name arguments := by
  cases arguments with
  | nil => rfl
  | cons argument rest =>
    rw [allLowered, anyReads, anyReads, reads_lowered name argument, anyReads_allLowered name rest]

end

end Expression

structure Call.Resembles (first second : Call) : Prop where
  function : Text.lowercase first.function = Text.lowercase second.function
  length : first.arguments.length = second.arguments.length
  span : first.span = second.span
  reads : first.argumentsRead = second.argumentsRead

theorem Call.lowered_resembles (call : Call) : call.lowered.Resembles call where
  function := Text.lowercase_lowercase call.function
  length := Expression.length_allLowered call.arguments
  span := rfl
  reads := funext fun name => Expression.anyReads_allLowered name call.arguments

namespace Call.Resembles

variable {first second : Call} (h : first.Resembles second) (demand : Demand)
  (box : ArgumentMode → CompileM (List Operand))
include h

theorem chooseDestination_eq :
    chooseDestination first demand = chooseDestination second demand := by
  cases demand with
  | nothing => rfl
  | anywhere => rfl
  | inVariable name => simp only [chooseDestination, h.span, h.reads]

theorem compileOptimized_eq (optimizer : Optimizer) :
    optimizer.compile first demand box = optimizer.compile second demand box := by
  cases optimizer with
  | fixed result => rfl
  | declining => rfl
  | booleanHelper contract => simp only [Optimizer.compile, compileBooleanHelper, h.length, h.span]
  | boxedHelper contract =>
    simp only [Optimizer.compile, compileBoxedHelper, h.length, h.span,
      h.chooseDestination_eq demand]

theorem optimize_eq (function : String) :
    optimize function first demand box = optimize function second demand box := by
  refine bind_congr fun outcome => ?_
  cases outcome with
  | none => rfl
  | some optimizer => exact h.compileOptimized_eq demand box optimizer

theorem compileCallWith_eq :
    compileCallWith first demand box = compileCallWith second demand box := by
  simp only [compileCallWith, h.function, h.length, h.span, h.chooseDestination_eq demand,
    h.optimize_eq demand box]

end Call.Resembles

mutual

theorem compileExpression_lowered (expression : Expression) :
    compileExpression expression.lowered = compileExpression expression := by
  cases expression with
  | literal value span => rfl
  | var name span => rfl
  | call function arguments span =>
    have hbox : boxArguments (Expression.allLowered arguments) = boxArguments arguments :=
      funext (boxArguments_allLowered arguments)
    have hresembles := (Call.mk function arguments span).lowered_resembles
    change compileCallWith (Call.mk function arguments span).lowered .anywhere
      (boxArguments (Expression.allLowered arguments)) = _
    rw [hbox, hresembles.compileCallWith_eq]
    rfl

theorem boxArguments_allLowered (arguments : List Expression) (mode : ArgumentMode) :
    boxArguments (Expression.allLowered arguments) mode = boxArguments arguments mode := by
  cases arguments with
  | nil => rfl
  | cons argument rest =>
    rw [Expression.allLowered, boxArguments, boxArguments, compileExpression_lowered argument,
      argument.span_lowered, boxArguments_allLowered rest mode]

end

theorem compileCall_lowered (call : Call) (demand : Demand) :
    compileCall call.lowered demand = compileCall call demand := by
  have hbox : boxArguments (Expression.allLowered call.arguments) = boxArguments call.arguments :=
    funext (boxArguments_allLowered call.arguments)
  unfold compileCall
  rw [call.lowered_resembles.compileCallWith_eq]
  exact congrArg (compileCallWith call demand) hbox

theorem compileStatement_lowered (statement : Statement) :
    compileStatement statement.lowered = compileStatement statement := by
  cases statement with
  | call call => simp only [Statement.lowered, compileStatement, compileCall_lowered]
  | assign name call =>
    simp only [Statement.lowered, compileStatement, compileAssignment, compileCall_lowered,
      call.lowered_resembles.span, call.lowered_resembles.reads]

theorem compileStatements_lowered (statements : List Statement) :
    compileStatements (statements.map Statement.lowered) = compileStatements statements := by
  induction statements with
  | nil => rfl
  | cons statement rest ih =>
    rw [List.map_cons, compileStatements, compileStatements, compileStatement_lowered, ih]

theorem compileUnit_lowered (unit : CallUnit) (compiler : Compiler) :
    compileUnit unit.lowered compiler = compileUnit unit compiler := by
  simp only [compileUnit, CallUnit.lowered, compileStatements_lowered]

def Operation.lowered : Operation → Operation
  | compileCall call demand ctx => compileCall call.lowered demand ctx
  | compileExpression expression ctx => compileExpression expression.lowered ctx
  | boxArguments arguments mode ctx => boxArguments (Expression.allLowered arguments) mode ctx
  | compileUnit unit => compileUnit unit.lowered
  | redefine name signature => redefine (Text.lowercase name) signature
  | registerOptimizer name optimizer => registerOptimizer (Text.lowercase name) optimizer
  | invalidate name => invalidate (Text.lowercase name)
  | unregister name => unregister (Text.lowercase name)

theorem Operation.apply_lowered (operation : Operation) (compiler : Compiler) :
    operation.lowered.apply compiler = operation.apply compiler := by
  cases operation with
  | compileCall call demand ctx => simp only [lowered, apply, compileCall_lowered]
  | compileExpression expression ctx => simp only [lowered, apply, compileExpression_lowered]
  | boxArguments arguments mode ctx => simp only [lowered, apply, boxArguments_allLowered]
  | compileUnit unit => simp only [lowered, apply, compileUnit_lowered]
  | redefine name signature =>
    simp only [lowered, apply, Compiler.redefine, Compiler.invalidate, HostFunctions.register,
      Text.lowercase_lowercase]
  | registerOptimizer name optimizer =>
    simp only [lowered, apply, Compiler.registerOptimizer, OptimizerLookup.register,
      OptimizerLookup.registerOnly, OptimizerTable.register, Text.lowercase_lowercase]
  | invalidate name => simp only [lowered, apply, Compiler.invalidate, Text.lowercase_lowercase]
  | unregister name =>
    simp only [lowered, apply, Compiler.unregister, HostFunctions.unregister,
      Text.lowercase_lowercase]

theorem Compiler.afterAll_lowered (operations : List Operation) (compiler : Compiler) :
    compiler.afterAll (operations.map Operation.lowered) = compiler.afterAll operations := by
  induction operations generalizing compiler with
  | nil => rfl
  | cons operation rest ih =>
    rw [List.map_cons, afterAll, List.foldl_cons, operation.apply_lowered]
    exact ih (operation.apply compiler)

theorem function_names_ignore_case :
    (∀ first second : Call, first.lowered = second.lowered →
      ∀ demand w, compileCall first demand w = compileCall second demand w) ∧
      (∀ first second : CallUnit, first.lowered = second.lowered →
        ∀ compiler, compileUnit first compiler = compileUnit second compiler) ∧
      ∀ first second : List Operation,
        first.map Operation.lowered = second.map Operation.lowered →
          ∀ compiler : Compiler, compiler.afterAll first = compiler.afterAll second := by
  refine ⟨?_, ?_, ?_⟩
  · intro first second hsame demand w
    rw [← compileCall_lowered first, hsame, compileCall_lowered]
  · intro first second hsame compiler
    rw [← compileUnit_lowered first, hsame, compileUnit_lowered]
  · intro first second hsame compiler
    rw [← compiler.afterAll_lowered first, hsame, compiler.afterAll_lowered]

section Search

variable (outer inner : String)

def Call.search : Call :=
  ⟨outer, [.var "text" {}, .call inner [.var "text" {}] {}], {}⟩

def CallUnit.search : CallUnit where
  functionName := "f"
  declarations := [⟨"text", .boxed⟩]
  statements := [.call (.search outer inner)]

def Operation.searches : List Operation :=
  [.registerOptimizer outer .declining, .compileUnit (.search outer inner)]

end Search

theorem search_ignores_case :
    ((Call.search "MemStr" "\u212Asort").lowered = (Call.search "memstr" "KSORT").lowered ∧
        ∀ demand w, compileCall (.search "MemStr" "\u212Asort") demand w =
          compileCall (.search "memstr" "KSORT") demand w) ∧
      ((CallUnit.search "MemStr" "\u212Asort").lowered =
          (CallUnit.search "memstr" "KSORT").lowered ∧
        ∀ compiler, compileUnit (.search "MemStr" "\u212Asort") compiler =
          compileUnit (.search "memstr" "KSORT") compiler) ∧
      (Operation.searches "MemStr" "\u212Asort").map Operation.lowered =
          (Operation.searches "memstr" "KSORT").map Operation.lowered ∧
        ∀ compiler : Compiler, compiler.afterAll (Operation.searches "MemStr" "\u212Asort") =
          compiler.afterAll (Operation.searches "memstr" "KSORT") := by
  have houter : Text.lowercase "MemStr" = Text.lowercase "memstr" := by decide +kernel
  have hinner : Text.lowercase "\u212Asort" = Text.lowercase "KSORT" := by decide +kernel
  have hcall : (Call.search "MemStr" "\u212Asort").lowered =
      (Call.search "memstr" "KSORT").lowered := by
    simp only [Call.search, Call.lowered, Expression.allLowered, Expression.lowered, houter, hinner]
  have hunit : (CallUnit.search "MemStr" "\u212Asort").lowered =
      (CallUnit.search "memstr" "KSORT").lowered := by
    simp only [CallUnit.search, CallUnit.lowered, List.map_cons, List.map_nil, Statement.lowered,
      hcall]
  have hhistory : (Operation.searches "MemStr" "\u212Asort").map Operation.lowered =
      (Operation.searches "memstr" "KSORT").map Operation.lowered := by
    simp only [Operation.searches, List.map_cons, List.map_nil, Operation.lowered, houter, hunit]
  obtain ⟨hcalls, hunits, hhistories⟩ := function_names_ignore_case
  exact ⟨⟨hcall, hcalls _ _ hcall⟩, ⟨hunit, hunits _ _ hunit⟩, hhistory, hhistories _ _ hhistory⟩

end BoxedCalls
