import BoxedCalls.Functions.Builtin
import BoxedCalls.NameMap
import BoxedCalls.Syntax.Span
import BoxedCalls.Target.Code
import BoxedCalls.Text.Lowercase

namespace BoxedCalls

structure Compiled where
  kind : ValueKind
  code : Code
  span : Span
  deriving DecidableEq, Repr

/-- `fixed` always gives the same value and `declining` never gives one. -/
inductive Optimizer where
  | fixed (result : Compiled)
  | declining
  | booleanHelper (contract : HelperContract)
  | boxedHelper (contract : HelperContract)
  deriving DecidableEq, Repr

def Optimizer.ofContract (contract : HelperContract) : Optimizer :=
  match contract.result with
  | .boolean => .booleanHelper contract
  | .boxedValue => .boxedHelper contract

structure OptimizerTable where
  optimizers : NameMap Optimizer := .empty
  deriving Repr

namespace OptimizerTable

def register (table : OptimizerTable) (name : String) (optimizer : Optimizer) :
    OptimizerTable :=
  ⟨table.optimizers.insert (Text.lowercase name) optimizer⟩

def find? (table : OptimizerTable) (name : String) : Option Optimizer :=
  table.optimizers.find? name

def contains (table : OptimizerTable) (name : String) : Bool :=
  table.optimizers.contains name

def builtin : OptimizerTable :=
  Builtin.contracts.foldl
    (fun table contract => table.register contract.name (.ofContract contract)) {}

end OptimizerTable

structure OptimizerLookup where
  table : OptimizerTable := {}
  resolved : NameMap (Option Optimizer) := .empty
  deriving Repr

namespace OptimizerLookup

def resolve (lookup : OptimizerLookup) (name : String) : Option Optimizer × OptimizerLookup :=
  match lookup.resolved.find? name with
  | some outcome => (outcome, lookup)
  | none =>
      let outcome := lookup.table.find? name
      (outcome, { lookup with resolved := lookup.resolved.insert name outcome })

def isResolved (lookup : OptimizerLookup) (name : String) : Bool :=
  lookup.resolved.contains name

def invalidate (lookup : OptimizerLookup) (name : String) : Bool × OptimizerLookup :=
  (lookup.isResolved name, { lookup with resolved := lookup.resolved.erase name })

def registerOnly (lookup : OptimizerLookup) (name : String) (optimizer : Optimizer) :
    OptimizerLookup :=
  { lookup with table := lookup.table.register name optimizer }

def register (lookup : OptimizerLookup) (name : String) (optimizer : Optimizer) :
    OptimizerLookup :=
  ((lookup.registerOnly name optimizer).invalidate (Text.lowercase name)).2

end OptimizerLookup

end BoxedCalls
