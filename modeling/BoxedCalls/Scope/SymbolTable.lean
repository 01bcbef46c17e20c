import BoxedCalls.NameMap
import BoxedCalls.Syntax.VariableType
import BoxedCalls.Target.Code

namespace BoxedCalls

inductive Storage where
  | heapTemporary
  | stackTemporary
  | named
  deriving DecidableEq, Repr

inductive Ownership where
  | owned
  | borrowed
  deriving DecidableEq, Repr

def Storage.ownership : Storage → Ownership
  | heapTemporary => .owned
  | stackTemporary => .borrowed
  | named => .owned

structure Variable where
  name : String
  storage : Storage
  type : VariableType
  deriving DecidableEq, Repr

namespace Variable

def handle (v : Variable) : Operand :=
  match v.storage with
  | .stackTemporary => .addressOf v.name
  | .heapTemporary => .var v.name
  | .named => .var v.name

def isTemporary (v : Variable) : Bool :=
  v.storage ≠ .named

end Variable

def temporaryName (number : Nat) : String :=
  "_" ++ toString number

def firstFree (taken : String → Bool) : Nat → Nat → Nat
  | 0, number => number
  | count + 1, number =>
      if taken (temporaryName number) then firstFree taken count (number + 1) else number

theorem le_firstFree (taken : String → Bool) (count number : Nat) :
    number ≤ firstFree taken count number := by
  induction count generalizing number with
  | zero => exact Nat.le_refl number
  | succ count ih =>
    unfold firstFree
    split
    · exact Nat.le_of_succ_le (ih (number + 1))
    · exact Nat.le_refl number

theorem firstFree_le (taken : String → Bool) (count number : Nat) :
    firstFree taken count number ≤ number + count := by
  induction count generalizing number with
  | zero => exact Nat.le_refl number
  | succ count ih =>
    unfold firstFree
    split
    · have := ih (number + 1)
      omega
    · omega

theorem taken_of_lt_firstFree {taken : String → Bool} {count number other : Nat}
    (h : number ≤ other) (below : other < firstFree taken count number) :
    taken (temporaryName other) = true := by
  induction count generalizing number with
  | zero => unfold firstFree at below; omega
  | succ count ih =>
    unfold firstFree at below
    split at below
    · next isTaken =>
      rcases Nat.eq_or_lt_of_le h with rfl | h
      · exact isTaken
      · exact ih h below
    · omega

/-- Variables in the order of their names' first appearance, and where each name stands. -/
structure SymbolTable where
  entries : List Variable := []
  index : NameMap Nat := .empty
  nextTemporary : Nat := 0
  deriving Repr

namespace SymbolTable

def contains (table : SymbolTable) (name : String) : Bool :=
  table.index.contains name

def find? (table : SymbolTable) (name : String) : Option Variable :=
  (table.index.find? name).bind (table.entries[·]?)

def temporaryCount (table : SymbolTable) : Nat :=
  (table.entries.filter Variable.isTemporary).length

def insert (table : SymbolTable) (v : Variable) : SymbolTable :=
  match table.index.find? v.name with
  | some position => { table with entries := table.entries.set position v }
  | none =>
      { table with
        entries := table.entries ++ [v]
        index := table.index.insert v.name table.entries.length }

def declare (table : SymbolTable) (name : String) (type : VariableType) : SymbolTable :=
  table.insert ⟨name, .named, type⟩

/-- A new temporary. Numbers only go up, and as many attempts as there are variables get past all
names that are taken. -/
def allocate (table : SymbolTable) (storage : Storage) : Variable × SymbolTable :=
  let number := firstFree table.contains table.entries.length table.nextTemporary
  let v : Variable := ⟨temporaryName number, storage, .boxed⟩
  (v, { table.insert v with nextTemporary := number + 1 })

end SymbolTable

end BoxedCalls
