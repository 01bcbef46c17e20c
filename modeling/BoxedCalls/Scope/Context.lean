import BoxedCalls.Scope.Diagnostic
import BoxedCalls.Scope.SymbolTable
import BoxedCalls.Target.Instruction

namespace BoxedCalls

structure HeaderSet where
  names : List String := []
  deriving DecidableEq, Repr

namespace HeaderSet

def insertInto (name : String) : List String → List String
  | [] => [name]
  | first :: rest =>
      if name = first then first :: rest
      else if name < first then name :: first :: rest
      else first :: insertInto name rest

def insert (headers : HeaderSet) (name : String) : HeaderSet :=
  ⟨insertInto name headers.names⟩

def contains (headers : HeaderSet) (name : String) : Bool :=
  headers.names.contains name

theorem mem_insertInto {name other : String} {names : List String} :
    other ∈ insertInto name names ↔ other = name ∨ other ∈ names := by
  induction names with
  | nil => simp [insertInto]
  | cons first rest ih =>
    unfold insertInto
    split
    · next same => simp [same]
    · split
      · simp
      · simp [ih, or_left_comm]

theorem insertInto_sorted {name : String} {names : List String}
    (h : names.Pairwise (· < ·)) : (insertInto name names).Pairwise (· < ·) := by
  induction names with
  | nil => simp [insertInto]
  | cons first rest ih =>
    obtain ⟨above, sorted⟩ := List.pairwise_cons.mp h
    unfold insertInto
    split
    · exact h
    · next distinct =>
      split
      · next less =>
        refine List.pairwise_cons.mpr ⟨fun other member => ?_, h⟩
        rcases List.mem_cons.mp member with rfl | member
        · exact less
        · exact String.lt_trans less (above other member)
      · next notLess =>
        refine List.pairwise_cons.mpr ⟨fun other member => ?_, ih sorted⟩
        rcases mem_insertInto.mp member with rfl | member
        · rcases Decidable.em (first < other) with greater | notGreater
          · exact greater
          · exact absurd
              (String.le_antisymm (String.not_lt.mp notGreater) (String.not_lt.mp notLess)) distinct
        · exact above other member

end HeaderSet

structure Context where
  symbols : SymbolTable := {}
  instructions : List Instruction := []
  headers : HeaderSet := {}
  warnings : List Warning := []
  deriving Repr

namespace Context

def emit (context : Context) (instruction : Instruction) : Context :=
  { context with instructions := context.instructions ++ [instruction] }

def warn (context : Context) (warning : Warning) : Context :=
  { context with warnings := context.warnings ++ [warning] }

def require (context : Context) (header : String) : Context :=
  { context with headers := context.headers.insert header }

def declare (context : Context) (name : String) (type : VariableType) : Context :=
  { context with symbols := context.symbols.declare name type }

def allocate (context : Context) (storage : Storage) : Variable × Context :=
  let (v, symbols) := context.symbols.allocate storage
  let context := { context with symbols }
  match storage with
  | .heapTemporary => (v, context.emit (.init (.var v.name)))
  | _ => (v, context)

def lookup (context : Context) (name : String) (span : Span) : Except CompileError Variable :=
  match context.symbols.find? name with
  | some v => .ok v
  | none => .error ⟨.undeclaredVariable name, span⟩

def lines (context : Context) : List String :=
  context.instructions.map Instruction.render

end Context

end BoxedCalls
