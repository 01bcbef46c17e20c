import BoxedCalls.Proofs.Semantics.ScalarRuntime
import BoxedCalls.Proofs.Semantics.Simulation

namespace BoxedCalls

variable {V : Type}

section Sparing

variable {k : Knowledge} {ctx ctx' : Context} {table : SymbolTable} {σ : Store V}

theorem Store.boxed?_set_other {name other : String} (h : other ≠ name) (value : V) :
    (σ.set name value).boxed? other = σ.boxed? other := by
  rw [boxed?, boxed?, read, read, Store.set_other value h]

theorem Operand.Holds.set_other {v : Variable} {value : V} (h : v.handle.Holds table σ value)
    {name : String} (hne : v.name ≠ name) (new : V) :
    v.handle.Holds table (σ.set name new) value := by
  refine ⟨?_, h.container⟩
  rw [Variable.value?_handle, Store.boxed?_set_other hne, ← Variable.value?_handle]
  exact h.value

theorem Boxes.holds_set {arguments : List Expression} {mode : ArgumentMode}
    {operands : List Operand} (h : Boxes k arguments mode ctx operands ctx') {name : String}
    {v : Variable} (hfind : ctx.symbols.find? name = some v)
    (hread : Expression.anyReads name arguments = false) {values : List V}
    (hholds : List.Forall₂ (Operand.Holds table σ) operands values) (new : V) :
    List.Forall₂ (Operand.Holds table (σ.set name new)) operands values := by
  induction h generalizing values with
  | nil _ =>
    cases hholds
    exact .nil
  | @store argument boxing rest mode ctx operands ctx' hconsistent hboxing hrest ih =>
    rw [Expression.anyReads, Bool.or_eq_false_iff] at hread
    rcases hholds with _ | ⟨hfirst, hothers⟩
    rw [Context.box_operand] at hfirst ⊢
    have hne := (Context.Grows.refl hconsistent).allocated_ne hfind mode.storage
    have hkept := (Context.Grows.box hconsistent mode boxing).symbols.kept hfind
    exact .cons (hfirst.set_other hne new) (ih hkept hread.2 hothers)
  | @pass other span w rest mode ctx operands ctx' hconsistent hother hboxed hrest ih =>
    rw [Expression.anyReads, Bool.or_eq_false_iff] at hread
    rcases hholds with _ | ⟨hfirst, hothers⟩
    have hne : w.name ≠ name := by
      rw [hconsistent.name_of_find? hother]
      simpa [Expression.reads] using hread.1
    exact .cons (hfirst.set_other hne new) (ih hfind hread.2 hothers)
  | @condition function arguments span contract inner ctx₁ rest mode ctx operands ctx' hconsistent
      hshape harguments hrest _ ih =>
    rw [Expression.anyReads, Bool.or_eq_false_iff] at hread
    rcases hholds with _ | ⟨hfirst, hothers⟩
    have hgrows := harguments.grows.of_announced
    have hne := hgrows.allocated_ne hfind mode.storage
    rw [Context.box_operand] at hfirst ⊢
    have hkept := (hgrows.trans
      (.box hgrows.consistent mode (contract.conditionBoxing inner))).symbols.kept hfind
    exact .cons (hfirst.set_other hne new) (ih hkept hread.2 hothers)
  | @routine function arguments span routine inner ctx₁ rest mode ctx operands ctx' hconsistent
      hshape harguments hrest _ ih =>
    rw [Expression.anyReads, Bool.or_eq_false_iff] at hread
    rcases hholds with _ | ⟨hfirst, hothers⟩
    have hgrows := harguments.grows.of_prepared
    have hne := hgrows.allocated_ne hfind .heapTemporary
    rw [Context.fresh_target] at hfirst ⊢
    have hkept := (hgrows.trans
      (.deliverFresh hgrows.consistent routine (Text.lowercase function) inner)).symbols.kept hfind
    have hset : (ctx₁.symbols.allocate .heapTemporary).1.handle.Holds table (σ.set name new) _ :=
      Operand.Holds.set_other hfirst hne new
    exact .cons hset (ih hkept hread.2 hothers)

end Sparing

section Destinations

variable {R : Runtime V} {ctx : Context} {table : SymbolTable} {σ : Store V} {name : String}
  {old : V}

theorem copy_runs (hold : σ.boxed? name = some old) {source : String} {value : V}
    (hsource : σ.boxed? source = some value) :
    RunsTo R ctx σ (ctx.emit (.copyOnWrite (.var name) (.var source))) (σ.set name value) := by
  refine .single rfl ?_
  change (σ.boxed? source).bind ((Operand.var name).write σ) = _
  rw [hsource]
  exact Operand.write_var hold value

theorem reinit_runs (hold : σ.boxed? name = some old) :
    RunsTo R ctx σ (ctx.emit (.reinit (.var name))) (σ.set name R.null) :=
  .single rfl (Operand.write_var hold R.null)

theorem reinit_boxed (hold : σ.boxed? name = some old) (value : V) :
    (σ.set name value).boxed? name = some value := by
  apply Store.boxed?_set
  by_contra hname
  rw [Store.boxed?, Store.read, if_neg hname] at hold
  cases hold

variable (ctx) in
theorem deliver_reused_runs (routine : Routine) (function : String) (v : Variable)
    {operands : List Operand} {values : List V} (hold : σ.boxed? v.name = some old)
    (hholds : List.Forall₂ (Operand.Holds table (σ.set v.name R.null)) operands values) :
    RunsTo R ctx σ (ctx.deliver routine function operands ⟨v, true⟩)
      (σ.set v.name (routine.result R function values)) := by
  have hstep := routine.step_instruction (R := R) function hholds (reinit_boxed hold R.null)
  rw [Store.set_set] at hstep
  have hannounced : RunsTo R ctx σ (routine.announceCall ctx) σ :=
    .of_instructions_eq (routine.announceCall_instructions ctx)
  exact (hannounced.trans (reinit_runs hold)).trans (.single rfl hstep)

variable (ctx) in
theorem storeInto_runs (hold : σ.boxed? name = some old) (span : Span) {contract : HelperContract}
    {operands : List Operand} {value : V}
    (hvalue : (contract.conditionBoxing operands).value? R (σ.set name R.null) = some value) :
    RunsTo R ctx σ
      (ctx.storeInto (Variable.handle ⟨name, .named, .boxed⟩)
        ⟨.bool, contract.condition operands, span⟩)
      (σ.set name value) := by
  refine (reinit_runs hold).trans (.single rfl ?_)
  change ((contract.conditionBoxing operands).store .owned (.var name)).step R _ = _
  rw [Boxing.step_store, hvalue]
  change (Operand.var name).write (σ.set name R.null) value = _
  rw [Operand.write_var (reinit_boxed hold R.null), Store.set_set]

theorem copy_fresh_runs (h : ctx.symbols.Consistent) (hold : σ.boxed? name = some old)
    {v : Variable} (hfind : ctx.symbols.find? name = some v) (after : Context) (value : V) :
    RunsTo R after (σ.set ctx.fresh.target.name value)
      (after.emit (.copyOnWrite (.var name) (.var ctx.fresh.target.name)))
      ((σ.set ctx.fresh.target.name value).set name value) := by
  have hother : (σ.set ctx.fresh.target.name value).boxed? name = some old := by
    rw [Store.boxed?_set_other (fresh_name_ne h hfind).symm, hold]
  exact copy_runs hother (fresh_holds h σ value).value

theorem storeApart_runs (h : ctx.symbols.Consistent) (hold : σ.boxed? name = some old)
    {v : Variable} (hfind : ctx.symbols.find? name = some v) (span : Span)
    {contract : HelperContract} {operands : List Operand} {value : V}
    (hvalue : ∀ τ, σ.Keeps ctx.symbols τ →
      (contract.conditionBoxing operands).value? R τ = some value) :
    RunsTo R ctx σ
      (ctx.storeApart (Variable.handle ⟨name, .named, .boxed⟩)
        ⟨.bool, contract.condition operands, span⟩)
      ((σ.set ctx.fresh.target.name value).set name value) := by
  have hbox := box_runs h .owned hvalue
  change RunsTo R ctx σ _ (σ.set (ctx.symbols.allocate .heapTemporary).1.name value) at hbox
  rw [← Context.fresh_target] at hbox
  exact hbox.trans (copy_fresh_runs h hold hfind _ value)

end Destinations

section Statements

variable {R : Runtime V} {k : Knowledge} {declarations : List Declaration} {ctx ctx' : Context}
  {σ : Store V} {call : Call} {result : Compiled}

theorem Simulates.call_value? {after : Context} {operands : List Operand} {τ : Store V}
    {values : List V} (h : Simulates R ctx σ call.arguments operands after τ values) :
    call.value? R σ = some (R.call (Text.lowercase call.function) values) := by
  rw [Call.value?, h.evaluates]
  rfl

section Assignment

variable {operands : List Operand} {σ₁ : Store V} {values : List V} {name : String} {v : Variable}
  {old : V}

theorem Simulates.assign_condition (hR : R.Lawful) (hk : k.UsesContracts)
    (h : Simulates R ctx σ call.arguments operands ctx' σ₁ values) (hgrows : ctx.Grows ctx')
    (hfind : ctx.symbols.find? name = some v) (hold : σ₁.boxed? name = some old)
    {contract : HelperContract} {wanted : Bool}
    (hshape : k.shape (Text.lowercase call.function) call.arguments.length wanted =
      .condition contract)
    (hspares : call.argumentsRead name = false →
      List.Forall₂ (Operand.Holds ctx'.symbols (σ₁.set name R.null)) operands values) :
    ∃ τ value,
      RunsTo R ctx σ
          (ctx'.assign ⟨name, .named, .boxed⟩ (call.argumentsRead name)
            ⟨.bool, contract.condition operands, call.span⟩) τ ∧
        call.value? R σ = some value ∧ (σ.set name value).Keeps ctx.symbols τ := by
  rw [Expression.length_of_values? h.evaluates] at hshape
  cases hread : call.argumentsRead name with
  | true =>
    have hruns := storeApart_runs hgrows.consistent hold (hgrows.symbols.kept hfind) call.span
      fun τ hkeeps => value?_conditionBoxing hR hk hshape
        (Operand.Holds.keep_all h.holds (.refl _) hkeeps)
    have hkeeps := h.keeps.trans hgrows.symbols
      (keeps_fresh hgrows.consistent σ₁ (R.call (Text.lowercase call.function) values))
    exact ⟨_, _, h.runs.trans hruns, h.call_value?, hkeeps.set name _⟩
  | false =>
    -- The target is null already while the condition is evaluated for it.
    have hvalue := value?_conditionBoxing hR hk hshape (hspares hread)
    exact ⟨_, _, h.runs.trans (storeInto_runs ctx' hold call.span hvalue), h.call_value?,
      h.keeps.set name _⟩

theorem Simulates.assign_delivered (hR : R.Lawful) (hk : k.UsesContracts)
    (h : Simulates R ctx σ call.arguments operands ctx' σ₁ values) (hgrows : ctx.Grows ctx')
    (hfind : ctx.symbols.find? name = some ⟨name, .named, .boxed⟩)
    (hold : σ₁.boxed? name = some old) {routine : Routine} {wanted : Bool}
    (hshape : k.shape (Text.lowercase call.function) call.arguments.length wanted =
      .routine routine)
    (hspares : call.argumentsRead name = false →
      List.Forall₂ (Operand.Holds ctx'.symbols (σ₁.set name R.null)) operands values)
    {destination : Destination} {after : Context}
    (hdestination : Binds call (.inVariable name) ctx' destination after) :
    ∃ τ value,
      RunsTo R ctx σ
          ((after.deliver routine (Text.lowercase call.function) operands destination).assign
            ⟨name, .named, .boxed⟩ (call.argumentsRead name)
            ⟨.var, .var destination.target.name, call.span⟩) τ ∧
        call.value? R σ = some value ∧ (σ.set name value).Keeps ctx.symbols τ := by
  rw [Expression.length_of_values? h.evaluates] at hshape
  have hfound := hgrows.symbols.kept hfind
  cases hdestination with
  | apart hother hread =>
    have hruns := deliver_fresh_runs (R := R) hgrows.consistent routine
      (Text.lowercase call.function) h.holds
    rw [routine.result_eq hR hk hshape] at hruns
    rw [Context.assign_fresh (fresh_name_ne hgrows.consistent hfound)]
    have hkeeps := h.keeps.trans hgrows.symbols
      (keeps_fresh hgrows.consistent σ₁ (R.call (Text.lowercase call.function) values))
    exact ⟨_, _, (h.runs.trans hruns).trans (copy_fresh_runs hgrows.consistent hold hfound _ _),
      h.call_value?, hkeeps.set name _⟩
  | reused hother hread =>
    rw [hfound] at hother
    cases hother
    have hruns := deliver_reused_runs (R := R) ctx' routine (Text.lowercase call.function)
      ⟨name, .named, .boxed⟩ hold (hspares hread)
    rw [routine.result_eq hR hk hshape] at hruns
    rw [Context.assign_same]
    exact ⟨_, _, h.runs.trans hruns, h.call_value?, h.keeps.set name _⟩

end Assignment

variable (hR : R.Lawful) (hk : k.UsesContracts)
  (hident : ∀ name, declaredType declarations name ≠ none → isIdentifier name = true)

include hR hk hident

theorem Compiles.discards (h : Compiles k call .nothing ctx result ctx')
    (hextends : (declareAll declarations).symbols.Extends ctx.symbols)
    (hready : Evaluable declarations σ call.arguments) :
    ∃ τ value, RunsTo R ctx σ ctx' τ ∧ call.value? R σ = some value ∧ σ.Keeps ctx.symbols τ := by
  cases h with
  | @condition contract arguments _ _ _ hshape harguments =>
    obtain ⟨τ, values, hgiven⟩ := harguments.simulates hR hk hident (by simpa using hextends) hready
    have hsimulates := hgiven.of_announced
    exact ⟨τ, _, hsimulates.runs, hsimulates.call_value?, hsimulates.keeps⟩
  | @discarded mode arguments _ ctx₁ hshape harguments =>
    obtain ⟨τ, values, hgiven⟩ := harguments.simulates hR hk hident (by simpa using hextends) hready
    have hsimulates : Simulates R ctx σ call.arguments arguments ctx₁ τ values :=
      hgiven.of_start (by simp) (by simp)
    have hstep : ((Routine.function mode).instruction (Text.lowercase call.function) arguments
        none).step R τ = some τ := by
      change (arguments.mapM (Operand.value? τ)).bind (fun _ => some τ) = some τ
      rw [Operand.values?_of_holds hsimulates.holds]
      rfl
    exact ⟨τ, _, hsimulates.runs.trans (.single (by simp) hstep), hsimulates.call_value?,
      hsimulates.keeps⟩
  | delivered _ _ hdestination _ => exact absurd rfl hdestination.wanted

theorem Compiles.assigns {name : String} (h : Compiles k call (.inVariable name) ctx result ctx')
    (hextends : (declareAll declarations).symbols.Extends ctx.symbols)
    (hready : Evaluable declarations σ call.arguments)
    (htarget : declaredType declarations name = some .boxed) :
    ∃ τ value,
      RunsTo R ctx σ
          (ctx'.assign ⟨name, .named, .boxed⟩ (call.argumentsRead name) result) τ ∧
        call.value? R σ = some value ∧ (σ.set name value).Keeps ctx.symbols τ := by
  have hfind := hextends.find?_declared htarget
  cases h with
  | @condition contract operands _ _ _ hshape harguments =>
    obtain ⟨σ₁, values, hgiven⟩ :=
      harguments.simulates hR hk hident (by simpa using hextends) hready
    have hsimulates := hgiven.of_announced
    obtain ⟨old, hold⟩ := (hready.types.keep hsimulates.keeps hextends).boxed? hident htarget
    refine hsimulates.assign_condition hR hk harguments.grows.of_announced hfind hold hshape ?_
    intro hread
    exact harguments.holds_set (by simpa using hfind) hread hsimulates.holds R.null
  | @delivered routine operands destination _ _ ctx₁ _ hshape harguments hdestination hboxed =>
    obtain ⟨σ₁, values, hgiven⟩ :=
      harguments.simulates hR hk hident (by simpa using hextends) hready
    have hsimulates := hgiven.of_prepared
    obtain ⟨old, hold⟩ := (hready.types.keep hsimulates.keeps hextends).boxed? hident htarget
    refine hsimulates.assign_delivered hR hk harguments.grows.of_prepared hfind hold hshape ?_
      hdestination
    intro hread
    exact harguments.holds_set (by simpa using hfind) hread hsimulates.holds R.null

theorem Performs.simulates {statement : Statement} (h : Performs k statement ctx ctx')
    (hextends : (declareAll declarations).symbols.Extends ctx.symbols)
    (hnames : ∀ name, statement.mentions name = true → declaredType declarations name ≠ none)
    (hfinite : statement.isFinite = true) {source : Store V} (htypes : σ.Types declarations)
    (hagrees : σ.Agrees declarations source) :
    ∃ τ final, RunsTo R ctx σ ctx' τ ∧ statement.run R source = some final ∧
      τ.Types declarations ∧ τ.Agrees declarations final := by
  cases h with
  | @call call result _ _ hcompiles =>
    obtain ⟨τ, value, hruns, hvalue, hkeeps⟩ :=
      hcompiles.discards hR hk hident hextends ⟨hnames, hfinite, htypes⟩
    refine ⟨τ, source, hruns, ?_, htypes.keep hkeeps hextends, hagrees.keep hkeeps hextends⟩
    have hsame := call.value?_congr R fun name hread => hagrees name (hnames name hread)
    rw [Statement.run, ← hsame, hvalue]
    rfl
  | @assign name call result v _ ctx₁ hcompiles hfind hboxed =>
    obtain ⟨hdeclared, hreads⟩ := Statement.forall_mentions_assign.mp hnames
    obtain ⟨type, htype⟩ := Option.ne_none_iff_exists'.mp hdeclared
    rw [(hextends.trans hcompiles.grows.symbols).find?_declared htype] at hfind
    cases hfind
    change type = .boxed at hboxed
    subst hboxed
    obtain ⟨τ, value, hruns, hvalue, hkeeps⟩ :=
      hcompiles.assigns hR hk hident hextends ⟨hreads, hfinite, htypes⟩ htype
    refine ⟨τ, source.set name value, hruns, ?_, (htypes.set htype value).keep hkeeps hextends,
      (hagrees.set name value).keep hkeeps hextends⟩
    have hsame := call.value?_congr R fun other hread => hagrees other (hreads other hread)
    rw [Statement.run, ← hsame, hvalue]
    rfl

theorem Runs.simulates {statements : List Statement} (h : Runs k statements ctx ctx')
    (hextends : (declareAll declarations).symbols.Extends ctx.symbols)
    (hnames : ∀ statement ∈ statements, ∀ name, statement.mentions name = true →
      declaredType declarations name ≠ none)
    (hfinite : statements.all Statement.isFinite = true) {source : Store V}
    (htypes : σ.Types declarations) (hagrees : σ.Agrees declarations source) :
    ∃ τ final, RunsTo R ctx σ ctx' τ ∧
      statements.foldlM (fun σ statement => statement.run R σ) source = some final ∧
      τ.Agrees declarations final := by
  induction h generalizing σ source with
  | nil _ => exact ⟨σ, source, .of_instructions_eq rfl, rfl, hagrees⟩
  | @cons statement rest ctx ctx₁ ctx' hperforms hrest ih =>
    rw [List.all_cons, Bool.and_eq_true] at hfinite
    obtain ⟨hfirst, hothers⟩ := List.forall_mem_cons.mp hnames
    obtain ⟨σ₁, middle, hruns₁, hrun, htypes₁, hagrees₁⟩ :=
      hperforms.simulates hR hk hident hextends hfirst hfinite.1 htypes hagrees
    obtain ⟨τ, final, hruns, hfold, hfinal⟩ :=
      ih (hextends.trans hperforms.grows.symbols) hothers hfinite.2 htypes₁ hagrees₁
    refine ⟨τ, final, hruns₁.trans hruns, ?_, hfinal⟩
    rw [List.foldlM_cons, hrun]
    exact hfold

end Statements

theorem compiled_code_preserves_values {host : HostFunctions} {table : OptimizerTable}
    (htable : table.Plain) {unit : CallUnit}
    (hident : ∀ declaration ∈ unit.declarations, isIdentifier declaration.name = true)
    (hdeclared : ∀ name, unit.mentions name = true → unit.declares name)
    (hfinite : unit.isFinite = true) {compiled : CompiledFunction}
    (h : (compileUnit unit (.new host table)).1 = .ok compiled) {R : Runtime V} (hR : R.Lawful)
    {σ : Store V} (htypes : σ.Types unit.declarations) :
    ∃ target final, execute R compiled.context.instructions σ = some target ∧
      unit.run R σ = some final ∧ ∀ name, unit.declares name → target name = final name := by
  have hk := Compiler.usesContracts_new host htable
  have hruns := compileUnit_runs hk.followsCalls h
  have hidentifiers : ∀ name, declaredType unit.declarations name ≠ none →
      isIdentifier name = true := by
    intro name hname
    obtain ⟨declaration, hmem, rfl⟩ := List.mem_map.mp (CallUnit.declares_iff.mpr hname)
    exact hident declaration hmem
  obtain ⟨target, final, ⟨emitted, hemitted, hexecute⟩, hrun, hagrees⟩ :=
    hruns.simulates hR hk hidentifiers (.refl _) (CallUnit.declaredType_of_mentions hdeclared)
      hfinite htypes (fun _ _ => rfl)
  rw [declareAll_instructions, List.nil_append] at hemitted
  rw [hemitted]
  refine ⟨target, final, hexecute, hrun, ?_⟩
  intro name hname
  exact hagrees name (CallUnit.declares_iff.mp hname)

def CallUnit.searchText : CallUnit where
  functionName := "f"
  declarations := [⟨"text", .boxed⟩, ⟨"size", .boxed⟩]
  statements := [
    .assign "size" ⟨"strlen", [.var "text" {}], {}⟩,
    .assign "text" ⟨"memstr", [.var "text" {}, .literal (.string "b") {}], {}⟩]

def searchTextCode : List Instruction := [
  .reinit (.var "size"),
  .callFunction "strlen" (some (.var "size")) [.var "text"],
  .storeString (.addressOf "_0") (.quoted "b") false,
  .init (.var "_1"),
  .storeBool (.var "_1") (.predicate "zephir_memnstr" [.var "text", .addressOf "_0"]),
  .copyOnWrite (.var "text") (.var "_1")]

def searchTextStore : Store Scalar := fun name =>
  if name = "text" then some (.boxed (.text "abc")) else some (.boxed .null)

theorem searchText_preserves_values :
    ∃ compiled target, (compileUnit .searchText (.new .standard .builtin)).1 = .ok compiled ∧
      compiled.context.instructions = searchTextCode ∧
      execute Scalar.runtime compiled.context.instructions searchTextStore = some target ∧
      target "size" = some (.boxed (.integer 3)) ∧ target "text" = some (.boxed (.truth true)) := by
  have hdeclared : ∀ name, CallUnit.searchText.mentions name = true →
      CallUnit.searchText.declares name := by
    intro name hmentions
    have hname : "size" = name ∨ "text" = name := by
      simpa [CallUnit.mentions, CallUnit.searchText, Statement.mentions, Call.argumentsRead,
        Expression.anyReads, Expression.reads] using hmentions
    rcases hname with rfl | rfl <;> decide
  have htypes : searchTextStore.Types CallUnit.searchText.declarations := by
    intro name type htype
    obtain ⟨declaration, hlast, rfl⟩ := Option.map_eq_some_iff.mp htype
    have hmem := List.mem_of_mem_filter (List.mem_of_getLast? hlast)
    have hboxed : ∀ declaration ∈ CallUnit.searchText.declarations, declaration.type = .boxed := by
      decide
    rw [hboxed declaration hmem]
    unfold searchTextStore
    split
    · exact ⟨_, rfl, List.mem_singleton_self _⟩
    · exact ⟨_, rfl, List.mem_singleton_self _⟩
  have hcode : acceptedCode .searchText (.new .standard .builtin) = some searchTextCode := by
    decide +kernel
  obtain ⟨compiled, hcompiled, hinstructions⟩ := acceptedCode_eq_some_iff.mp hcode
  have hvalues : (CallUnit.searchText.run Scalar.runtime searchTextStore).map
      (fun final => (final "size", final "text")) =
        some (some (.boxed (.integer 3)), some (.boxed (.truth true))) := by
    decide +kernel
  obtain ⟨target, final, hexecute, hrun, hsame⟩ := compiled_code_preserves_values (.inl rfl)
    (by decide +kernel) hdeclared (by decide) hcompiled Scalar.runtime_lawful htypes
  rw [hrun, Option.map_some, Option.some.injEq, Prod.mk.injEq] at hvalues
  exact ⟨compiled, target, hcompiled, hinstructions, hexecute,
    (hsame "size" (by decide)).trans hvalues.1, (hsame "text" (by decide)).trans hvalues.2⟩

end BoxedCalls
