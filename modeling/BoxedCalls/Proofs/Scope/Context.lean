import Mathlib.Data.List.Induction
import BoxedCalls.Compile.Unit
import BoxedCalls.Proofs.Scope.SymbolTable

namespace BoxedCalls

def Variable.initialization (v : Variable) : List Instruction :=
  match v.storage with
  | .heapTemporary => [.init (.var v.name)]
  | _ => []

namespace Context

variable (ctx : Context)

@[simp] theorem emit_symbols (instruction : Instruction) :
    (ctx.emit instruction).symbols = ctx.symbols := rfl

@[simp] theorem emit_instructions (instruction : Instruction) :
    (ctx.emit instruction).instructions = ctx.instructions ++ [instruction] := rfl

@[simp] theorem require_symbols (header : String) :
    (ctx.require header).symbols = ctx.symbols := rfl

@[simp] theorem require_instructions (header : String) :
    (ctx.require header).instructions = ctx.instructions := rfl

@[simp] theorem allocate_variable (storage : Storage) :
    (ctx.allocate storage).1 = (ctx.symbols.allocate storage).1 := by
  cases storage <;> rfl

@[simp] theorem allocate_symbols (storage : Storage) :
    (ctx.allocate storage).2.symbols = (ctx.symbols.allocate storage).2 := by
  cases storage <;> rfl

@[simp] theorem allocate_instructions (storage : Storage) :
    (ctx.allocate storage).2.instructions =
      ctx.instructions ++ (ctx.symbols.allocate storage).1.initialization := by
  cases storage with
  | heapTemporary => rfl
  | stackTemporary => exact (List.append_nil _).symm
  | named => exact (List.append_nil _).symm

theorem lookup_eq_ok_iff {name : String} {span : Span} {v : Variable} :
    ctx.lookup name span = .ok v ↔ ctx.symbols.find? name = some v := by
  unfold lookup
  cases ctx.symbols.find? name <;> simp

end Context

def declaredType (declarations : List Declaration) (name : String) : Option VariableType :=
  ((declarations.filter (·.name = name)).getLast?).map (·.type)

theorem declareAll_append (declarations : List Declaration) (last : Declaration) :
    declareAll (declarations ++ [last]) =
      (declareAll declarations).declare last.name last.type := by
  simp [declareAll]

theorem declareAll_consistent (declarations : List Declaration) :
    (declareAll declarations).symbols.Consistent := by
  induction declarations using List.reverseRecOn with
  | nil => exact SymbolTable.consistent_empty
  | append_singleton declarations last ih =>
    rw [declareAll_append]
    exact ih.declare last.name last.type

theorem find?_declareAll (declarations : List Declaration) (name : String) :
    (declareAll declarations).symbols.find? name =
      (declaredType declarations name).map fun type => ⟨name, .named, type⟩ := by
  induction declarations using List.reverseRecOn with
  | nil => rfl
  | append_singleton declarations last ih =>
    rw [declareAll_append]
    change ((declareAll declarations).symbols.declare last.name last.type).find? name = _
    rw [(declareAll_consistent declarations).find?_declare]
    split
    · next same => simp [declaredType, same]
    · next distinct => simp [declaredType, Ne.symm distinct, ih]

def Settled (declarations : List Declaration) (name : String) : Prop :=
  ∀ number, name = temporaryName number → declaredType declarations name ≠ none

theorem Settled.of_declared {declarations : List Declaration} {name : String}
    (h : declaredType declarations name ≠ none) : Settled declarations name :=
  fun _ _ => h

theorem SymbolTable.Extends.find?_settled {declarations : List Declaration} {table : SymbolTable}
    (h : (declareAll declarations).symbols.Extends table) {name : String}
    (hname : Settled declarations name) :
    table.find? name = (declaredType declarations name).map fun type => ⟨name, .named, type⟩ := by
  cases htype : declaredType declarations name with
  | some type =>
    apply h.kept
    simp [find?_declareAll, htype]
  | none =>
    cases hfind : table.find? name with
    | none => rfl
    | some v =>
      rcases h.added hfind with hdeclared | ⟨_, _, _, number, hnumber⟩
      · simp [find?_declareAll, htype] at hdeclared
      · exact absurd htype (hname number hnumber)

theorem SymbolTable.Extends.find?_declared {declarations : List Declaration} {table : SymbolTable}
    (h : (declareAll declarations).symbols.Extends table) {name : String} {type : VariableType}
    (hname : declaredType declarations name = some type) :
    table.find? name = some ⟨name, .named, type⟩ := by
  rw [h.find?_settled (.of_declared (Option.ne_none_iff_exists'.mpr ⟨_, hname⟩)), hname]
  rfl

theorem declareAll_instructions (declarations : List Declaration) :
    (declareAll declarations).instructions = [] := by
  induction declarations using List.reverseRecOn with
  | nil => rfl
  | append_singleton declarations last ih =>
    rw [declareAll_append]
    exact ih

theorem declareAll_warnings (declarations : List Declaration) :
    (declareAll declarations).warnings = [] := by
  induction declarations using List.reverseRecOn with
  | nil => rfl
  | append_singleton declarations last ih =>
    rw [declareAll_append]
    exact ih

end BoxedCalls
