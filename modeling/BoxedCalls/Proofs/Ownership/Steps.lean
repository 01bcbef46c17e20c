import BoxedCalls.Compile.Argument
import BoxedCalls.Functions.Builtin
import BoxedCalls.Proofs.Diagnostics.Violations
import BoxedCalls.Target.Instruction

namespace BoxedCalls

inductive Carrier where
  | name
  | helper (contract : HelperContract)
  | condition (contract : HelperContract)
  deriving DecidableEq, Repr

def Builtin.carrier (function : String) (arity : Nat) (wanted : Bool) : Carrier :=
  match contract? function with
  | none => .name
  | some contract =>
      if arity ≠ contract.parameterCount then .name
      else
        match contract.result with
        | .boolean => .condition contract
        | .boxedValue => if wanted then .helper contract else .name

def HostFunctions.lends (host : HostFunctions) (function : String) (arity : Nat) : Bool :=
  !Builtin.contains function &&
    (host.signatureOf? function).any fun signature => !signature.anyByReference arity

structure CallSite where
  function : String
  arguments : List Expression
  carrier : Carrier
  deriving Repr

def Call.site (call : Call) (wanted : Bool) : CallSite where
  function := Text.lowercase call.function
  arguments := call.arguments
  carrier := Builtin.carrier (Text.lowercase call.function) call.arguments.length wanted

namespace CallSite

def isCondition (site : CallSite) : Bool :=
  match site.carrier with
  | .condition _ => true
  | _ => false

def mode (host : HostFunctions) (site : CallSite) : ArgumentMode :=
  match site.carrier with
  | .name => if host.lends site.function site.arguments.length then .lent else .owned
  | .helper _ => .lent
  | .condition _ => .lent

end CallSite

/-- One step of handing values over: an argument is put into a container of its own, a call is
carried out, or the truth value of an assigned condition is kept. -/
inductive PassingStep where
  | box (argument : Expression) (mode : ArgumentMode)
  | call (site : CallSite)
  | keep
  deriving Repr

section Syntax

variable (host : HostFunctions) (types : String → Option VariableType)

def Expression.needsContainer : Expression → Bool
  | .literal _ _ => true
  | .var name _ => types name ≠ some .boxed
  | .call function arguments span => (Call.site ⟨function, arguments, span⟩ true).isCondition

mutual

def Expression.steps (mode : ArgumentMode) : Expression → List PassingStep
  | .literal value span => [.box (.literal value span) mode]
  | .var name span => if types name ≠ some .boxed then [.box (.var name span) mode] else []
  | .call function arguments span =>
      allSteps ((Call.site ⟨function, arguments, span⟩ true).mode host) arguments ++
        .call (Call.site ⟨function, arguments, span⟩ true) ::
        if (Call.site ⟨function, arguments, span⟩ true).isCondition then
          [.box (.call function arguments span) mode]
        else []

def Expression.allSteps (mode : ArgumentMode) : List Expression → List PassingStep
  | [] => []
  | argument :: rest => argument.steps mode ++ allSteps mode rest

end

def Statement.steps : Statement → List PassingStep
  | .call c =>
      Expression.allSteps host types ((c.site false).mode host) c.arguments ++
        if (c.site false).isCondition then [] else [.call (c.site false)]
  | .assign _ c =>
      Expression.allSteps host types ((c.site true).mode host) c.arguments ++
        .call (c.site true) :: if (c.site true).isCondition then [.keep] else []

end Syntax

def CallUnit.steps (unit : CallUnit) (host : HostFunctions) : List PassingStep :=
  unit.statements.flatMap (·.steps host (declaredType unit.declarations))

inductive Emission where
  | stored (target : Operand) (duplicate : Option Bool)
  | called (function : String) (arguments : List Operand)
  | helped (symbol : String) (operands : List Operand)
  | tested (symbol : String) (operands : List Operand)
  deriving DecidableEq, Repr

def Code.emissions : Code → List Emission
  | predicate symbol operands => [.tested symbol operands]
  | _ => []

def Instruction.emissions : Instruction → List Emission
  | storeNull target => [.stored target none]
  | storeLong target _ => [.stored target none]
  | storeDouble target _ => [.stored target none]
  | storeBool target value => value.emissions ++ [.stored target none]
  | storeString target _ duplicate => [.stored target (some duplicate)]
  | storeStringWithLength target _ duplicate => [.stored target (some duplicate)]
  | callFunction function _ arguments => [.called function arguments]
  | kernelCall symbol operands => [.helped symbol operands]
  | init _ => []
  | reinit _ => []
  | copyOnWrite _ _ => []

def Instruction.storesString (target : Operand) (duplicate : Bool) : Instruction → Prop
  | storeString target' _ duplicate' => target' = target ∧ duplicate' = duplicate
  | storeStringWithLength target' _ duplicate' => target' = target ∧ duplicate' = duplicate
  | _ => False

def Operand.container? : Operand → Option String
  | var name => some name
  | addressOf name => some name
  | verbatim _ => none

section Passing

variable (host : HostFunctions) (types : String → Option VariableType) (table : SymbolTable)

inductive HandsOver : ArgumentMode → Expression → Operand → Prop where
  | owned {argument number} (hneeds : argument.needsContainer types = true)
      (hcontainer : table.HasTemporary .heapTemporary number) :
      HandsOver .owned argument (.var (temporaryName number))
  | lent {argument number} (hneeds : argument.needsContainer types = true)
      (hcontainer : table.HasTemporary .stackTemporary number) :
      HandsOver .lent argument (.addressOf (temporaryName number))
  | var {mode name span} (hboxed : types name = some .boxed) :
      HandsOver mode (.var name span) (.var name)
  | result {mode function arguments span number}
      (hboxed : (Call.site ⟨function, arguments, span⟩ true).isCondition = false)
      (hcontainer : table.HasTemporary .heapTemporary number) :
      HandsOver mode (.call function arguments span) (.var (temporaryName number))

inductive PassingStep.Emits : PassingStep → Emission → Prop where
  | owned {argument number duplicate} (hcontainer : table.HasTemporary .heapTemporary number)
      (hduplicate : duplicate ≠ some false) :
      Emits (.box argument .owned) (.stored (.var (temporaryName number)) duplicate)
  | lent {argument number duplicate} (hcontainer : table.HasTemporary .stackTemporary number)
      (hduplicate : duplicate ≠ some true) :
      Emits (.box argument .lent) (.stored (.addressOf (temporaryName number)) duplicate)
  | name {site operands} (hcarrier : site.carrier = .name)
      (harguments : List.Forall₂ (HandsOver types table (site.mode host)) site.arguments operands) :
      Emits (.call site) (.called site.function operands)
  | helper {site contract target operands} (hcarrier : site.carrier = .helper contract)
      (harguments : List.Forall₂ (HandsOver types table .lent) site.arguments operands) :
      Emits (.call site)
        (.helped contract.symbol (.var target :: operands ++ contract.trailingOperands))
  | condition {site contract operands} (hcarrier : site.carrier = .condition contract)
      (harguments : List.Forall₂ (HandsOver types table .lent) site.arguments operands) :
      Emits (.call site) (.tested contract.symbol (operands ++ contract.trailingOperands))
  | keep {name} : Emits .keep (.stored (.var name) none)

end Passing

end BoxedCalls
