import BoxedCalls.Proofs.Compile.Builtins
import BoxedCalls.Proofs.Compile.Statements
import BoxedCalls.Proofs.Diagnostics.Violations
import BoxedCalls.Proofs.Semantics.Containers

namespace BoxedCalls

variable {V : Type}

def Statement.isFinite : Statement → Bool
  | call c => Expression.allFinite c.arguments
  | assign _ c => Expression.allFinite c.arguments

def CallUnit.isFinite (unit : CallUnit) : Bool :=
  unit.statements.all Statement.isFinite

def Store.Types (declarations : List Declaration) (σ : Store V) : Prop :=
  ∀ name type, declaredType declarations name = some type →
    ∃ cell, σ name = some cell ∧ type ∈ cell.types

section Values

variable {R : Runtime V} {σ : Store V}

theorem Literal.value?_boxing {value : Literal} {boxing : Boxing}
    (hboxing : value.boxing? = some boxing) (hfinite : value.isFinite = true) :
    boxing.value? R σ = some (value.value R) := by
  cases value with
  | null => cases hboxing
  | double value =>
    cases hboxing
    have hvalue : (Code.double value).double? σ = some value := if_pos hfinite
    rw [Boxing.value?, hvalue]
    rfl
  | bool value => cases hboxing; cases value <;> rfl
  | int value => cases hboxing; rfl
  | uint value => cases hboxing; rfl
  | long value => cases hboxing; rfl
  | ulong value => cases hboxing; rfl
  | string value => cases hboxing; rfl

theorem VariableType.value?_boxing {type : VariableType} {name : String} {boxing : Boxing}
    (hboxing : type.boxing? name = some boxing) {cell : Cell V} (htype : type ∈ cell.types) :
    ∃ value, cell.value? R = some value ∧
      ∀ τ : Store V, τ.read name = some cell → boxing.value? R τ = some value := by
  cases cell with
  | integer value =>
    refine ⟨R.integer value, rfl, fun τ hread => ?_⟩
    have hlong : boxing = .long (.var name) := by
      cases type <;> cases hboxing <;> first | rfl | simp [Cell.types] at htype
    simp [hlong, Boxing.value?, Code.integer?, hread]
  | double value =>
    refine ⟨R.double value, rfl, fun τ hread => ?_⟩
    cases List.mem_singleton.mp htype
    cases hboxing
    simp [Boxing.value?, Code.double?, hread]
  | truth value =>
    refine ⟨R.truth value, rfl, fun τ hread => ?_⟩
    cases List.mem_singleton.mp htype
    cases hboxing
    simp [Boxing.value?, Code.truth?, hread]
  | text value =>
    refine ⟨R.text value, rfl, fun τ hread => ?_⟩
    cases List.mem_singleton.mp htype
    cases hboxing
    simp [Boxing.value?, Operand.text?, hread]
  | char _ => cases List.mem_singleton.mp htype; cases hboxing
  | array _ => cases List.mem_singleton.mp htype; cases hboxing
  | boxed _ => cases List.mem_singleton.mp htype; cases hboxing

end Values

section Declared

variable {declarations : List Declaration} {table : SymbolTable} {σ τ : Store V}

theorem Store.Keeps.declared (h : σ.Keeps table τ)
    (hextends : (declareAll declarations).symbols.Extends table) {name : String}
    (hname : declaredType declarations name ≠ none) : τ name = σ name := by
  obtain ⟨type, htype⟩ := Option.ne_none_iff_exists'.mp hname
  exact h name _ (hextends.find?_declared htype)

theorem Store.Types.keep (h : σ.Types declarations) (hkeeps : σ.Keeps table τ)
    (hextends : (declareAll declarations).symbols.Extends table) : τ.Types declarations := by
  intro name type htype
  rw [hkeeps.declared hextends (Option.ne_none_iff_exists'.mpr ⟨_, htype⟩)]
  exact h name type htype

theorem Store.Types.boxed (h : σ.Types declarations) {name : String}
    (hname : declaredType declarations name = some .boxed) :
    ∃ value, σ name = some (.boxed value) := by
  obtain ⟨cell, hcell, hmem⟩ := h name .boxed hname
  cases cell with
  | boxed value => exact ⟨value, hcell⟩
  | integer value => simp [Cell.types] at hmem
  | double value => simp [Cell.types] at hmem
  | truth value => simp [Cell.types] at hmem
  | text value => simp [Cell.types] at hmem
  | char value => simp [Cell.types] at hmem
  | array value => simp [Cell.types] at hmem

theorem Store.Types.boxed? (h : σ.Types declarations)
    (hident : ∀ name, declaredType declarations name ≠ none → isIdentifier name = true)
    {name : String} (hname : declaredType declarations name = some .boxed) :
    ∃ value, σ.boxed? name = some value := by
  obtain ⟨value, hvalue⟩ := h.boxed hname
  refine ⟨value, ?_⟩
  rw [Store.boxed?, read, if_pos (hident name (Option.ne_none_iff_exists'.mpr ⟨_, hname⟩)), hvalue]

def Store.Agrees (declarations : List Declaration) (σ τ : Store V) : Prop :=
  ∀ name, declaredType declarations name ≠ none → σ name = τ name

theorem Store.Types.set (h : σ.Types declarations) {name : String}
    (hname : declaredType declarations name = some .boxed) (value : V) :
    (σ.set name value).Types declarations := by
  intro other type htype
  by_cases hother : other = name
  · subst hother
    rw [hname] at htype
    cases htype
    exact ⟨.boxed value, set_same σ other value, List.mem_singleton_self _⟩
  · rw [set_other value hother]
    exact h other type htype

theorem Store.Agrees.set {source : Store V} (h : σ.Agrees declarations source) (name : String)
    (value : V) : (σ.set name value).Agrees declarations (source.set name value) := by
  intro other hdeclared
  by_cases hother : other = name
  · rw [hother, set_same, set_same]
  · rw [set_other value hother, set_other value hother, h other hdeclared]

theorem Store.Agrees.keep {source : Store V}
    (h : σ.Agrees declarations source) (hkeeps : σ.Keeps table τ)
    (hextends : (declareAll declarations).symbols.Extends table) :
    τ.Agrees declarations source := by
  intro name hdeclared
  rw [hkeeps.declared hextends hdeclared, h name hdeclared]

end Declared

section Calls

variable {R : Runtime V} {k : Knowledge} {table : SymbolTable} {σ : Store V}
  {operands : List Operand} {values : List V}

def Routine.result (R : Runtime V) (function : String) (values : List V) : Routine → V
  | helper contract => R.helper contract.symbol (contract.actuals values)
  | .function _ => R.call function values

theorem Routine.step_instruction (routine : Routine) (function : String)
    (hholds : List.Forall₂ (Operand.Holds table σ) operands values) {name : String} {old : V}
    (hold : σ.boxed? name = some old) :
    (routine.instruction function operands (some (.var name))).step R σ =
      some (σ.set name (routine.result R function values)) := by
  cases routine with
  | helper contract =>
    have hactuals := Operand.actuals?_of_holds hholds contract.trailing
    change ((operands ++ contract.trailing.map Operand.verbatim).mapM (Operand.actual? σ)).bind
      (fun actuals => (Operand.var name).write σ (R.helper contract.symbol actuals)) = _
    rw [hactuals]
    exact Operand.write_var hold _
  | function mode =>
    change (operands.mapM (Operand.value? σ)).bind
      (fun values => (Operand.var name).write σ (R.call function values)) = _
    rw [Operand.values?_of_holds hholds]
    exact Operand.write_var hold _

theorem Routine.result_eq (hR : R.Lawful) (hk : k.UsesContracts) {routine : Routine}
    {function : String} {wanted : Bool}
    (hshape : k.shape function values.length wanted = .routine routine) :
    routine.result R function values = R.call function values := by
  cases routine with
  | helper contract =>
    obtain ⟨hcontract, hresult, hcount⟩ := hk.of_shape_helper hshape
    obtain ⟨hmem, rfl⟩ := Builtin.contract?_eq_some hcontract
    exact hR.helper contract hmem hresult values hcount
  | function mode => rfl

theorem value?_conditionBoxing (hR : R.Lawful) (hk : k.UsesContracts) {contract : HelperContract}
    {function : String} {wanted : Bool}
    (hshape : k.shape function values.length wanted = .condition contract)
    (hholds : List.Forall₂ (Operand.Holds table σ) operands values) :
    (contract.conditionBoxing operands).value? R σ = some (R.call function values) := by
  obtain ⟨hcontract, hresult, hcount⟩ := hk.of_shape_condition hshape
  obtain ⟨hmem, rfl⟩ := Builtin.contract?_eq_some hcontract
  have hactuals := Operand.actuals?_of_holds hholds contract.trailing
  change (((operands ++ contract.trailing.map Operand.verbatim).mapM (Operand.actual? σ)).map
    (R.condition contract.symbol)).map R.truth = _
  rw [hactuals]
  exact congrArg some (hR.condition contract hmem hresult values hcount)

end Calls

structure Evaluable (declarations : List Declaration) (σ : Store V) (arguments : List Expression) :
    Prop where
  names : ∀ name, Expression.anyReads name arguments = true → declaredType declarations name ≠ none
  finite : Expression.allFinite arguments = true
  types : σ.Types declarations

namespace Evaluable

variable {R : Runtime V} {declarations : List Declaration} {ctx : Context} {table : SymbolTable}
  {σ τ : Store V} {argument : Expression} {rest : List Expression}

theorem agree (h : Evaluable declarations σ rest)
    (hextends : (declareAll declarations).symbols.Extends table) (hkeeps : σ.Keeps table τ)
    (name : String) (hread : Expression.anyReads name rest = true) : σ name = τ name :=
  (hkeeps.declared hextends (h.names name hread)).symm

theorem tail (h : Evaluable declarations σ (argument :: rest))
    (hextends : (declareAll declarations).symbols.Extends table) (hkeeps : σ.Keeps table τ) :
    Evaluable declarations τ rest where
  names := (Expression.forall_anyReads_cons.mp h.names).2
  finite := (Bool.and_eq_true_iff.mp h.finite).2
  types := h.types.keep hkeeps hextends

theorem arguments {function : String} {arguments : List Expression} {span : Span}
    (h : Evaluable declarations σ (.call function arguments span :: rest)) :
    Evaluable declarations σ arguments where
  names := (Expression.forall_anyReads_cons.mp h.names).1
  finite := (Bool.and_eq_true_iff.mp h.finite).1
  types := h.types

theorem declared {name : String} {span : Span}
    (h : Evaluable declarations σ (.var name span :: rest)) :
    ∃ type, declaredType declarations name = some type :=
  Option.ne_none_iff_exists'.mp
    ((Expression.forall_anyReads_cons.mp h.names).1 name (by simp [Expression.reads]))

theorem boxing?_value (h : Evaluable declarations σ (argument :: rest))
    (hextends : (declareAll declarations).symbols.Extends ctx.symbols)
    (hident : ∀ name, declaredType declarations name ≠ none → isIdentifier name = true)
    {boxing : Boxing} (hboxing : ctx.boxing? argument = some boxing) :
    ∃ value, argument.value? R σ = some value ∧
      ∀ τ, σ.Keeps ctx.symbols τ → boxing.value? R τ = some value := by
  cases argument with
  | literal value span =>
    have hfinite : value.isFinite = true := (Bool.and_eq_true_iff.mp h.finite).1
    exact ⟨value.value R, rfl, fun τ _ => value.value?_boxing hboxing hfinite⟩
  | var name span =>
    obtain ⟨type, htype⟩ := h.declared
    have hdeclared : declaredType declarations name ≠ none :=
      Option.ne_none_iff_exists'.mpr ⟨type, htype⟩
    obtain ⟨cell, hcell, hmem⟩ := h.types name type htype
    rw [Context.boxing?, hextends.find?_declared htype] at hboxing
    change type.boxing? name = some boxing at hboxing
    obtain ⟨value, hvalue, hboxes⟩ := VariableType.value?_boxing (R := R) hboxing hmem
    refine ⟨value, by rw [Expression.value?, hcell]; exact hvalue, fun τ hkeeps => hboxes τ ?_⟩
    rw [Store.read, if_pos (hident name hdeclared), hkeeps.declared hextends hdeclared, hcell]
  | call function arguments span => cases hboxing

theorem pass_holds {name : String} {span : Span} {v : Variable}
    (h : Evaluable declarations σ (.var name span :: rest))
    (hextends : (declareAll declarations).symbols.Extends table)
    (hident : ∀ name, declaredType declarations name ≠ none → isIdentifier name = true)
    (hfind : table.find? name = some v) (hboxed : v.type = .boxed) :
    ∃ value, (Expression.var name span).value? R σ = some value ∧ v.handle.Holds table σ value := by
  obtain ⟨type, htype⟩ := h.declared
  have hfound := hextends.find?_declared htype
  rw [hfound] at hfind
  cases hfind
  change type = .boxed at hboxed
  subst hboxed
  obtain ⟨value, hcell⟩ := h.types.boxed htype
  refine ⟨value, by rw [Expression.value?, hcell]; rfl, ?_, _, hfound, rfl⟩
  rw [Variable.value?_handle, Store.boxed?, Store.read,
    if_pos (hident name (Option.ne_none_iff_exists'.mpr ⟨_, htype⟩)), hcell]

end Evaluable

/-- Running the code that hands `arguments` over puts their values into the containers that the
operands name, and leaves alone what was there before. -/
structure Simulates (R : Runtime V) (ctx : Context) (σ : Store V) (arguments : List Expression)
    (operands : List Operand) (ctx' : Context) (τ : Store V) (values : List V) : Prop where
  runs : RunsTo R ctx σ ctx' τ
  keeps : σ.Keeps ctx.symbols τ
  evaluates : Expression.values? R σ arguments = some values
  holds : List.Forall₂ (Operand.Holds ctx'.symbols τ) operands values

section Arguments

variable {R : Runtime V} {k : Knowledge} {declarations : List Declaration}
  {ctx ctx₁ ctx' : Context} {σ σ₁ τ : Store V}

theorem Simulates.cons {argument : Expression} {rest : List Expression} {operand : Operand}
    {operands : List Operand} {value : V} {values : List V}
    (hrest : Simulates R ctx₁ σ₁ rest operands ctx' τ values)
    (hextends : (declareAll declarations).symbols.Extends ctx.symbols)
    (hready : Evaluable declarations σ (argument :: rest))
    (hruns : RunsTo R ctx σ ctx₁ σ₁) (hkeeps : σ.Keeps ctx.symbols σ₁)
    (hvalue : argument.value? R σ = some value) (hholds : operand.Holds ctx₁.symbols σ₁ value)
    (hgrows : ctx.Grows ctx₁) (hgrowsRest : ctx₁.Grows ctx') :
    Simulates R ctx σ (argument :: rest) (operand :: operands) ctx' τ (value :: values) where
  runs := hruns.trans hrest.runs
  keeps := hkeeps.trans hgrows.symbols hrest.keeps
  evaluates := by
    have hreads := (hready.tail hextends (.refl _ _)).agree hextends hkeeps
    rw [Expression.values?, hvalue, Expression.values?_congr R rest hreads, hrest.evaluates]
    rfl
  holds := .cons (hholds.keep hgrowsRest.symbols hrest.keeps) hrest.holds

theorem box_holds (h : ctx.symbols.Consistent) (mode : ArgumentMode) (boxing : Boxing)
    (σ : Store V) (value : V) :
    (ctx.box mode boxing).1.Holds (ctx.box mode boxing).2.symbols
      (σ.set (ctx.symbols.allocate mode.storage).1.name value) value := by
  refine ⟨?_, (ctx.symbols.allocate mode.storage).1, ?_, ctx.box_operand mode boxing⟩
  · rw [Context.box_operand, Variable.value?_handle]
    exact Store.boxed?_set (ctx.symbols.isIdentifier_allocate mode.storage) value
  · rw [Context.box_symbols, h.find?_allocate, if_pos rfl]

theorem Operand.Holds.keep_all {table after : SymbolTable} {operands : List Operand}
    {values : List V} (h : List.Forall₂ (Operand.Holds table σ) operands values)
    (hextends : table.Extends after) (hkeeps : σ.Keeps table τ) :
    List.Forall₂ (Operand.Holds after τ) operands values :=
  h.imp fun _ _ hholds => hholds.keep hextends hkeeps

theorem fresh_holds (h : ctx.symbols.Consistent) (σ : Store V) (value : V) :
    (Operand.var ctx.fresh.target.name).Holds (ctx.symbols.allocate .heapTemporary).2
      (σ.set ctx.fresh.target.name value) value := by
  rw [Context.fresh_target]
  refine ⟨?_, (ctx.symbols.allocate .heapTemporary).1, ?_, rfl⟩
  · exact Store.boxed?_set (ctx.symbols.isIdentifier_allocate .heapTemporary) value
  · rw [h.find?_allocate, if_pos rfl]

theorem keeps_fresh (h : ctx.symbols.Consistent) (σ : Store V) (value : V) :
    σ.Keeps ctx.symbols (σ.set ctx.fresh.target.name value) := by
  rw [Context.fresh_target]
  exact (Store.Keeps.refl _ _).set_new (h.find?_allocated_name .heapTemporary) value

theorem deliver_fresh_runs (h : ctx.symbols.Consistent) (routine : Routine) (function : String)
    {operands : List Operand} {values : List V}
    (hholds : List.Forall₂ (Operand.Holds ctx.symbols σ) operands values) :
    RunsTo R ctx σ
      ((ctx.allocate .heapTemporary).2.deliver routine function operands ctx.fresh)
      (σ.set ctx.fresh.target.name (routine.result R function values)) := by
  have hnull : (σ.set ctx.fresh.target.name R.null).boxed? ctx.fresh.target.name = some R.null :=
    (fresh_holds h σ R.null).value
  have hstep := routine.step_instruction (R := R) function
    (Operand.Holds.keep_all hholds (.refl _) (keeps_fresh h σ R.null)) hnull
  rw [Store.set_set] at hstep
  refine (allocate_runs ctx σ).trans (.single ?_ hstep)
  rw [Context.deliver_instructions, Context.fresh_opening, List.append_nil]

theorem Expression.length_of_values? {arguments : List Expression} {values : List V}
    (h : Expression.values? R σ arguments = some values) : arguments.length = values.length := by
  induction arguments generalizing values with
  | nil => cases h; rfl
  | cons argument rest ih =>
    obtain ⟨value, _, hrest⟩ := Option.bind_eq_some_iff.mp h
    obtain ⟨others, hothers, hvalues⟩ := Option.bind_eq_some_iff.mp hrest
    cases hvalues
    rw [List.length_cons, List.length_cons, ih hothers]

section Starts

variable {arguments : List Expression} {operands : List Operand} {values : List V}

theorem Simulates.of_start {start : Context}
    (h : Simulates R ctx σ arguments operands ctx' τ values)
    (hsymbols : ctx.symbols = start.symbols)
    (hinstructions : ctx.instructions = start.instructions) :
    Simulates R start σ arguments operands ctx' τ values where
  runs := (RunsTo.of_instructions_eq hinstructions).trans h.runs
  keeps := hsymbols ▸ h.keeps
  evaluates := h.evaluates
  holds := h.holds

theorem Simulates.of_announced {function header : String} {span : Span}
    (h : Simulates R ((k.announce function span ctx).require header) σ arguments operands ctx' τ
      values) :
    Simulates R ctx σ arguments operands ctx' τ values :=
  h.of_start (by simp) (by simp)

theorem Simulates.of_prepared {function : String} {span : Span} {routine : Routine}
    (h : Simulates R (routine.prepare (k.announce function span ctx)) σ arguments operands ctx' τ
      values) :
    Simulates R ctx σ arguments operands ctx' τ values :=
  h.of_start (by simp) (by simp)

theorem Simulates.value?_call {function : String} {span : Span}
    (h : Simulates R ctx σ arguments operands ctx' τ values) :
    (Expression.call function arguments span).value? R σ =
      some (R.call (Text.lowercase function) values) := by
  rw [Expression.value?, h.evaluates]
  rfl

end Starts

theorem Boxes.simulates (hR : R.Lawful) (hk : k.UsesContracts)
    (hident : ∀ name, declaredType declarations name ≠ none → isIdentifier name = true)
    {arguments : List Expression} {mode : ArgumentMode} {operands : List Operand}
    (h : Boxes k arguments mode ctx operands ctx')
    (hextends : (declareAll declarations).symbols.Extends ctx.symbols)
    (hready : Evaluable declarations σ arguments) :
    ∃ τ values, Simulates R ctx σ arguments operands ctx' τ values := by
  induction h generalizing σ with
  | nil _ => exact ⟨σ, [], .of_instructions_eq rfl, .refl _ _, rfl, .nil⟩
  | @store argument boxing rest mode ctx operands ctx' hconsistent hboxing hrest ih =>
    obtain ⟨value, hvalue, hboxes⟩ := hready.boxing?_value (R := R) hextends hident hboxing
    have hkeeps := (Store.Keeps.refl ctx.symbols σ).set_new
      (hconsistent.find?_allocated_name mode.storage) value
    have hgrows := Context.Grows.box hconsistent mode boxing
    obtain ⟨τ, values, hsimulates⟩ :=
      ih (hextends.trans hgrows.symbols) (hready.tail hextends hkeeps)
    exact ⟨τ, value :: values, hsimulates.cons hextends hready (box_runs hconsistent mode hboxes)
      hkeeps hvalue (box_holds hconsistent mode boxing σ value) hgrows hrest.grows⟩
  | @pass name span v rest mode ctx operands ctx' hconsistent hfind hboxed hrest ih =>
    obtain ⟨value, hvalue, hholds⟩ := hready.pass_holds (R := R) hextends hident hfind hboxed
    have hkeeps := Store.Keeps.refl ctx.symbols σ
    obtain ⟨τ, values, hsimulates⟩ := ih hextends (hready.tail hextends hkeeps)
    exact ⟨τ, value :: values, hsimulates.cons hextends hready (.of_instructions_eq rfl) hkeeps
      hvalue hholds (.refl hconsistent) hrest.grows⟩
  | @condition function arguments span contract inner ctx₁ rest mode ctx operands ctx' hconsistent
      hshape harguments hrest iharguments ih =>
    obtain ⟨σ₁, given, hgiven⟩ := iharguments (by simpa using hextends) hready.arguments
    rw [Expression.length_of_values? hgiven.evaluates] at hshape
    have hinner := hgiven.of_announced
    -- The condition is evaluated when its own container is there already.
    have hboxes : ∀ τ, σ₁.Keeps ctx₁.symbols τ → (contract.conditionBoxing inner).value? R τ =
        some (R.call (Text.lowercase function) given) :=
      fun τ hkeeps =>
        value?_conditionBoxing hR hk hshape (Operand.Holds.keep_all hinner.holds (.refl _) hkeeps)
    have hgrown := harguments.grows.of_announced
    have hconsistent₁ := hgrown.consistent
    have hgrows := hgrown.trans (.box hconsistent₁ mode (contract.conditionBoxing inner))
    have hkeeps := hinner.keeps.trans hgrown.symbols ((Store.Keeps.refl _ σ₁).set_new
      (hconsistent₁.find?_allocated_name mode.storage) (R.call (Text.lowercase function) given))
    obtain ⟨τ, values, hsimulates⟩ :=
      ih (hextends.trans hgrows.symbols) (hready.tail hextends hkeeps)
    exact ⟨τ, _ :: values, hsimulates.cons hextends hready
      (hinner.runs.trans (box_runs hconsistent₁ mode hboxes)) hkeeps hinner.value?_call
      (box_holds hconsistent₁ mode _ σ₁ _) hgrows hrest.grows⟩
  | @routine function arguments span routine inner ctx₁ rest mode ctx operands ctx' hconsistent
      hshape harguments hrest iharguments ih =>
    obtain ⟨σ₁, given, hgiven⟩ := iharguments (by simpa using hextends) hready.arguments
    rw [Expression.length_of_values? hgiven.evaluates] at hshape
    have hinner := hgiven.of_prepared
    have hgrown := harguments.grows.of_prepared
    have hconsistent₁ := hgrown.consistent
    have hgrows := hgrown.trans
      (.deliverFresh hconsistent₁ routine (Text.lowercase function) inner)
    have hruns := deliver_fresh_runs (R := R) hconsistent₁ routine (Text.lowercase function)
      hinner.holds
    rw [routine.result_eq hR hk hshape] at hruns
    have hkeeps := hinner.keeps.trans hgrown.symbols
      (keeps_fresh hconsistent₁ σ₁ (R.call (Text.lowercase function) given))
    have hholds := fresh_holds hconsistent₁ σ₁ (R.call (Text.lowercase function) given)
    rw [← Context.allocate_symbols,
      ← Context.deliver_symbols _ (Text.lowercase function) routine inner ctx₁.fresh] at hholds
    obtain ⟨τ, values, hsimulates⟩ :=
      ih (hextends.trans hgrows.symbols) (hready.tail hextends hkeeps)
    exact ⟨τ, _ :: values, hsimulates.cons hextends hready (hinner.runs.trans hruns) hkeeps
      hinner.value?_call hholds hgrows hrest.grows⟩

end Arguments

end BoxedCalls
