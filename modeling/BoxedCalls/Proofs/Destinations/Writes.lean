import BoxedCalls.Proofs.References.Declarations

namespace BoxedCalls

def Instruction.target? : Instruction → Option Operand
  | init target => some target
  | reinit target => some target
  | storeNull target => some target
  | storeLong target _ => some target
  | storeDouble target _ => some target
  | storeBool target _ => some target
  | storeString target _ _ => some target
  | storeStringWithLength target _ _ => some target
  | copyOnWrite destination _ => some destination
  | callFunction _ destination _ => destination
  | kernelCall _ operands => operands.head?

def Operand.RefersTo (name : String) (operand : Operand) : Prop :=
  operand.render = name ∨ operand.render = "&" ++ name

def Instruction.Writes (name : String) (instruction : Instruction) : Prop :=
  ∃ target, instruction.target? = some target ∧ target.RefersTo name

theorem address_ne_identifier {name : String} (h : isIdentifier name = true) (other : String) :
    "&" ++ other ≠ name := by
  rintro rfl
  have hsign := wordChar_of_isIdentifier h '&' (by simp [String.toList_append])
  exact absurd hsign (by decide)

theorem Operand.refersTo_iff {operand : Operand} {name other : String}
    (hcontainer : operand.container? = some other) (hother : isIdentifier other = true)
    (hname : isIdentifier name = true) : operand.RefersTo name ↔ other = name := by
  cases operand with
  | var _ =>
    cases hcontainer
    constructor
    · rintro (hsame | haddress)
      · exact hsame
      · exact absurd haddress.symm (address_ne_identifier hother name)
    · exact .inl
  | addressOf _ =>
    cases hcontainer
    constructor
    · rintro (hbare | haddress)
      · exact absurd hbare (address_ne_identifier hname other)
      · exact (String.append_right_inj "&").mp haddress
    · rintro rfl
      exact .inr rfl
  | verbatim _ => cases hcontainer

theorem Boxing.target?_store (boxing : Boxing) (mode : ArgumentMode) (target : Operand) :
    (boxing.store mode target).target? = some target := by
  cases boxing <;> rfl

theorem Routine.target?_instruction (routine : Routine) (function : String)
    (arguments : List Operand) (destination : Operand) :
    (routine.instruction function arguments (some destination)).target? = some destination := by
  cases routine <;> rfl

def Operand.NewTo (table : SymbolTable) (target : Operand) : Prop :=
  ∃ number, target.container? = some (temporaryName number) ∧
    table.find? (temporaryName number) = none

def Context.WritesNew (before after : Context) : Prop :=
  ∃ emitted, after.instructions = before.instructions ++ emitted ∧
    ∀ instruction ∈ emitted, ∀ target, instruction.target? = some target →
      target.NewTo before.symbols

theorem SymbolTable.Extends.find?_eq_none {before after : SymbolTable} (h : before.Extends after)
    {name : String} (hfree : after.find? name = none) : before.find? name = none := by
  cases hfind : before.find? name with
  | none => rfl
  | some v =>
    rw [h.kept hfind] at hfree
    cases hfree

theorem Operand.NewTo.of_extends {before after : SymbolTable} {target : Operand}
    (h : target.NewTo after) (hextends : before.Extends after) : target.NewTo before := by
  obtain ⟨number, hcontainer, hfree⟩ := h
  exact ⟨number, hcontainer, hextends.find?_eq_none hfree⟩

theorem SymbolTable.Consistent.newTo_allocate {table : SymbolTable} (h : table.Consistent)
    (storage : Storage) {target : Operand}
    (hcontainer : target.container? = some (table.allocate storage).1.name) :
    target.NewTo table :=
  ⟨_, hcontainer, h.find?_allocated_name storage⟩

namespace Context.WritesNew

variable {first second third : Context}

theorem refl (ctx : Context) : ctx.WritesNew ctx :=
  ⟨[], (List.append_nil _).symm, nofun⟩

theorem of_start (hsymbols : second.symbols = first.symbols)
    (hinstructions : second.instructions = first.instructions) (h : second.WritesNew third) :
    first.WritesNew third := by
  obtain ⟨emitted, hemitted, hnew⟩ := h
  exact ⟨emitted, hinstructions ▸ hemitted, hsymbols ▸ hnew⟩

theorem of_announced {k : Knowledge} {function header : String} {span : Span}
    (h : ((k.announce function span first).require header).WritesNew second) :
    first.WritesNew second :=
  h.of_start (by simp) (by simp)

theorem of_prepared {k : Knowledge} {function : String} {span : Span} {routine : Routine}
    (h : (routine.prepare (k.announce function span first)).WritesNew second) :
    first.WritesNew second :=
  h.of_start (by simp) (by simp)

theorem trans (h₁ : first.WritesNew second) (hgrows : first.Grows second)
    (h₂ : second.WritesNew third) : first.WritesNew third := by
  obtain ⟨early, hearly, hfirst⟩ := h₁
  obtain ⟨late, hlate, hsecond⟩ := h₂
  refine ⟨early ++ late, by rw [hlate, hearly, List.append_assoc], ?_⟩
  intro instruction hmem target htarget
  rcases List.mem_append.mp hmem with hmem | hmem
  · exact hfirst instruction hmem target htarget
  · exact (hsecond instruction hmem target htarget).of_extends hgrows.symbols

theorem allocate (h : first.symbols.Consistent) (storage : Storage) :
    first.WritesNew (first.allocate storage).2 := by
  refine ⟨_, first.allocate_instructions storage, ?_⟩
  intro instruction hmem target htarget
  unfold Variable.initialization at hmem
  split at hmem
  · cases List.mem_singleton.mp hmem
    cases htarget
    exact h.newTo_allocate storage rfl
  · cases hmem

theorem box (h : first.symbols.Consistent) (mode : ArgumentMode) (boxing : Boxing) :
    first.WritesNew (first.box mode boxing).2 := by
  obtain ⟨emitted, hemitted, hnew⟩ := allocate h mode.storage
  rw [allocate_instructions, List.append_cancel_left_eq] at hemitted
  refine ⟨emitted ++ [boxing.store mode (first.symbols.allocate mode.storage).1.handle], ?_, ?_⟩
  · rw [box_instructions, hemitted, List.append_assoc]
  · intro instruction hmem target htarget
    rcases List.mem_append.mp hmem with hmem | hmem
    · exact hnew instruction hmem target htarget
    · cases List.mem_singleton.mp hmem
      rw [Boxing.target?_store] at htarget
      cases htarget
      exact h.newTo_allocate mode.storage (Variable.container?_handle _)

theorem deliverFresh (h : first.symbols.Consistent) (routine : Routine) (function : String)
    (arguments : List Operand) :
    first.WritesNew
      ((first.allocate .heapTemporary).2.deliver routine function arguments first.fresh) := by
  obtain ⟨emitted, hemitted, hnew⟩ := allocate h .heapTemporary
  refine ⟨emitted ++
    [routine.instruction function arguments (some (.var first.fresh.target.name))], ?_, ?_⟩
  · rw [deliver_instructions, fresh_opening, List.append_nil, hemitted, List.append_assoc]
  · intro instruction hmem target htarget
    rcases List.mem_append.mp hmem with hmem | hmem
    · exact hnew instruction hmem target htarget
    · cases List.mem_singleton.mp hmem
      rw [Routine.target?_instruction] at htarget
      cases htarget
      exact h.newTo_allocate .heapTemporary (by rw [fresh_target]; rfl)

end Context.WritesNew

section Arguments

variable {k : Knowledge} {arguments : List Expression} {mode : ArgumentMode} {ctx ctx' : Context}
  {operands : List Operand}

theorem Boxes.writesNew (h : Boxes k arguments mode ctx operands ctx') : ctx.WritesNew ctx' := by
  induction h with
  | nil _ => exact .refl _
  | store hconsistent _ _ ih =>
    exact (Context.WritesNew.box hconsistent _ _).trans (.box hconsistent _ _) ih
  | pass _ _ _ _ ih => exact ih
  | condition _ _ harguments _ iharguments ihrest =>
    have hgrows := harguments.grows.of_announced
    have hboxed := (Context.WritesNew.box hgrows.consistent _ _).trans
      (.box hgrows.consistent _ _) ihrest
    exact iharguments.of_announced.trans hgrows hboxed
  | routine _ _ harguments _ iharguments ihrest =>
    have hgrows := harguments.grows.of_prepared
    have hdelivered := (Context.WritesNew.deliverFresh hgrows.consistent _ _ _).trans
      (.deliverFresh hgrows.consistent _ _ _) ihrest
    exact iharguments.of_prepared.trans hgrows hdelivered

structure Operand.Hands (arguments : List Expression) (before after : SymbolTable) (name : String)
    (operand : Operand) : Prop where
  container : operand.container? = some name
  found : (after.find? name).isSome = true
  source : Expression.anyReads name arguments = true ∨ before.find? name = none

theorem Operand.Hands.later {argument : Expression} {rest : List Expression}
    {before middle after : SymbolTable} {name : String} {operand : Operand}
    (h : operand.Hands rest middle after name) (hextends : before.Extends middle) :
    operand.Hands (argument :: rest) before after name where
  container := h.container
  found := h.found
  source := h.source.imp (fun hread => by simp [Expression.anyReads, hread]) hextends.find?_eq_none

theorem Operand.Hands.forall_cons {argument : Expression} {rest : List Expression}
    {before middle after : SymbolTable} {name : String} {operand : Operand}
    (hfirst : operand.Hands (argument :: rest) before after name) (hextends : before.Extends middle)
    (hrest : ∀ operand ∈ operands, ∃ other, operand.Hands rest middle after other) :
    ∀ handle ∈ operand :: operands, ∃ other,
      handle.Hands (argument :: rest) before after other := by
  refine List.forall_mem_cons.mpr ⟨⟨name, hfirst⟩, ?_⟩
  intro handle hmem
  obtain ⟨other, hhands⟩ := hrest handle hmem
  exact ⟨other, hhands.later hextends⟩

theorem Operand.Hands.fresh {before table after : SymbolTable} (h : table.Consistent)
    (storage : Storage) (hbefore : before.Extends table)
    (hafter : (table.allocate storage).2.Extends after) {operand : Operand}
    (hcontainer : operand.container? = some (table.allocate storage).1.name)
    (arguments : List Expression) :
    operand.Hands arguments before after (table.allocate storage).1.name where
  container := hcontainer
  found := by
    have hfind := h.find?_allocate storage (table.allocate storage).1.name
    rw [if_pos rfl] at hfind
    rw [hafter.kept hfind]
    rfl
  source := .inr (hbefore.find?_eq_none (h.find?_allocated_name storage))

theorem Boxes.hands (h : Boxes k arguments mode ctx operands ctx') :
    ∀ operand ∈ operands, ∃ name, operand.Hands arguments ctx.symbols ctx'.symbols name := by
  induction h with
  | nil _ => exact nofun
  | @store argument boxing rest mode ctx operands ctx' hconsistent _ hrest ih =>
    have hextends := hrest.grows.symbols
    rw [Context.box_symbols] at hextends
    have hfirst := Operand.Hands.fresh hconsistent mode.storage (.refl _) hextends
      (Variable.container?_handle _) (argument :: rest)
    rw [Context.box_operand]
    exact hfirst.forall_cons (Context.Grows.box hconsistent mode boxing).symbols ih
  | @pass name span v rest mode ctx operands ctx' hconsistent hfind _ hrest ih =>
    have hname := hconsistent.name_of_find? hfind
    have hfirst : v.handle.Hands (.var name span :: rest) ctx.symbols ctx'.symbols v.name := by
      refine ⟨Variable.container?_handle v, ?_, .inl ?_⟩
      · rw [hname, hrest.grows.symbols.kept hfind]
        rfl
      · simp [Expression.anyReads, Expression.reads, hname]
    exact hfirst.forall_cons (.refl _) ih
  | @condition function arguments span contract inner ctx₁ rest mode ctx operands ctx' _ _
      harguments hrest _ ihrest =>
    have hgrows : ctx.Grows ctx₁ := harguments.grows.of_announced
    have hextends := hrest.grows.symbols
    rw [Context.box_symbols] at hextends
    have hfirst := Operand.Hands.fresh hgrows.consistent mode.storage hgrows.symbols hextends
      (Variable.container?_handle _) (.call function arguments span :: rest)
    rw [Context.box_operand]
    exact hfirst.forall_cons (hgrows.trans (.box hgrows.consistent mode _)).symbols ihrest
  | @routine function arguments span routine inner ctx₁ rest mode ctx operands ctx' _ _
      harguments hrest _ ihrest =>
    have hgrows : ctx.Grows ctx₁ := harguments.grows.of_prepared
    have hextends := hrest.grows.symbols
    rw [Context.deliver_symbols, Context.allocate_symbols] at hextends
    have hcontainer : (Operand.var ctx₁.fresh.target.name).container? =
        some (ctx₁.symbols.allocate .heapTemporary).1.name := by
      rw [Context.fresh_target]
      rfl
    have hfirst := Operand.Hands.fresh hgrows.consistent .heapTemporary hgrows.symbols hextends
      hcontainer (.call function arguments span :: rest)
    exact hfirst.forall_cons (hgrows.trans (.deliverFresh hgrows.consistent _ _ _)).symbols ihrest

end Arguments

end BoxedCalls
