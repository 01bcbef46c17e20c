import BoxedCalls.CommandLine.FileTree
import BoxedCalls.Main
import BoxedCalls.Proofs.Scope.Context
import BoxedCalls.Proofs.Compile.Knowledge
import BoxedCalls.Proofs.Compile.Lowering
import BoxedCalls.Proofs.Compile.Derivation
import BoxedCalls.Proofs.Compile.Success
import BoxedCalls.Proofs.Compile.Statements
import BoxedCalls.Proofs.Compile.Builtins
import BoxedCalls.Proofs.Diagnostics.Reports
import BoxedCalls.Proofs.Diagnostics.FirstViolation
import BoxedCalls.Proofs.Diagnostics.Declared
import BoxedCalls.Proofs.Diagnostics.Warnings
import BoxedCalls.Proofs.Ownership.Advances
import BoxedCalls.Proofs.Ownership.Discipline
import BoxedCalls.Proofs.References.Declarations
import BoxedCalls.Proofs.Invocations.CallOrder
import BoxedCalls.Proofs.Invocations.CallNames
import BoxedCalls.Proofs.Caches.Transparency
import BoxedCalls.Proofs.Caches.Histories
import BoxedCalls.Proofs.Renumbering.Independence
import BoxedCalls.Proofs.Semantics.Execution
import BoxedCalls.Proofs.Semantics.Containers
import BoxedCalls.Proofs.Semantics.Simulation
import BoxedCalls.Proofs.Semantics.Preservation
import BoxedCalls.Proofs.Semantics.ScalarRuntime
import BoxedCalls.Proofs.Compile.Actions
import BoxedCalls.Proofs.Compile.Spelling
import BoxedCalls.Proofs.Caches.Retention
import BoxedCalls.Proofs.Scope.Appending
import BoxedCalls.Proofs.Invocations.Headers
import BoxedCalls.Proofs.Encoding.RoundTrip
import BoxedCalls.Proofs.Destinations.Unclobbered
import BoxedCalls.Proofs.Compile.Declining
import BoxedCalls.Proofs.Reads.Indifference
import BoxedCalls.Proofs.Encoding.Presentation
import BoxedCalls.Proofs.Scope.History
import BoxedCalls.Proofs.Scope.Allocation
import BoxedCalls.Proofs.Diagnostics.Arity
import BoxedCalls.Proofs.Text.Lines
import BoxedCalls.Proofs.Text.Quotation
import BoxedCalls.Proofs.Text.StringLiterals
