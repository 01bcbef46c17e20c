import BoxedCalls.Proofs.Compile.Pairs
import BoxedCalls.Proofs.Diagnostics.Declared
import BoxedCalls.Proofs.Renumbering.Names
import BoxedCalls.Proofs.Scope.Appending

namespace BoxedCalls

open CompileM

theorem firstFree_le_of_free {taken : String → Bool} {count number free : Nat}
    (hle : number ≤ free) (hfree : taken (temporaryName free) = false) :
    firstFree taken count number ≤ free := by
  by_contra hlt
  rw [taken_of_lt_firstFree hle (Nat.lt_of_not_le hlt)] at hfree
  cases hfree

theorem firstFree_congr {taken other : String → Bool} {count attempts number : Nat}
    (hsame : ∀ number, taken (temporaryName number) = other (temporaryName number))
    (hfree : taken (temporaryName (firstFree taken count number)) = false)
    (hother : other (temporaryName (firstFree other attempts number)) = false) :
    firstFree taken count number = firstFree other attempts number :=
  -- Each search stops at a number that is free for the other one as well.
  Nat.le_antisymm
    (firstFree_le_of_free (le_firstFree other attempts number) (hsame _ ▸ hother))
    (firstFree_le_of_free (le_firstFree taken count number) (hsame _ ▸ hfree))

structure SymbolTable.DiffersOnlyAt (name : String) (first second : SymbolTable) : Prop where
  others : first.entries.filter (·.name ≠ name) = second.entries.filter (·.name ≠ name)
  nextTemporary : first.nextTemporary = second.nextTemporary

namespace SymbolTable.DiffersOnlyAt

variable {name : String} {first second : SymbolTable} (h : DiffersOnlyAt name first second)
  (hfirst : first.Consistent) (hsecond : second.Consistent)
include h hfirst hsecond

theorem find?_eq {other : String} (hother : other ≠ name) :
    first.find? other = second.find? other := by
  have hmem : ∀ v : Variable, v.name = other → (v ∈ first.entries ↔ v ∈ second.entries) := by
    rintro v rfl
    have hfilter := congrArg (v ∈ ·) h.others
    simpa [hother] using hfilter
  refine Option.ext fun v => ?_
  rw [hfirst.find?_eq_some_iff, hsecond.find?_eq_some_iff]
  exact and_congr_left (hmem v)

theorem allocated_eq (hplain : IsPlain name) (storage : Storage) :
    (first.allocate storage).1 = (second.allocate storage).1 := by
  have hfree : ∀ {table : SymbolTable}, table.Consistent →
      table.contains (table.allocate storage).1.name = false := by
    intro table hconsistent
    rw [hconsistent.contains_eq, hconsistent.find?_allocated_name]
    rfl
  have hsame : ∀ number, first.contains (temporaryName number) =
      second.contains (temporaryName number) := by
    intro number
    rw [hfirst.contains_eq, hsecond.contains_eq,
      h.find?_eq hfirst hsecond (hplain number).symm]
  have hnumber : firstFree first.contains first.entries.length second.nextTemporary =
      firstFree second.contains second.entries.length second.nextTemporary := by
    refine firstFree_congr hsame ?_ (hfree hsecond)
    rw [← h.nextTemporary]
    exact hfree hfirst
  rw [SymbolTable.allocate, SymbolTable.allocate, h.nextTemporary, hnumber]

end SymbolTable.DiffersOnlyAt

structure Context.DiffersOnlyAt (name : String) (first second : Context) : Prop where
  symbols : first.symbols.DiffersOnlyAt name second.symbols
  instructions : first.instructions = second.instructions
  headers : first.headers = second.headers
  warnings : first.warnings = second.warnings

def SymbolTable.GrowAlike (first second first' second' : SymbolTable) : Prop :=
  ∃ added, first'.entries = first.entries ++ added ∧ second'.entries = second.entries ++ added

structure Context.Apart (name : String) (first second first' second' : Context) : Prop where
  consistent : first'.symbols.Consistent
  consistent_other : second'.symbols.Consistent
  differs : first'.DiffersOnlyAt name second'
  grow : first.symbols.GrowAlike second.symbols first'.symbols second'.symbols

namespace Context.Apart

variable {name : String} {first second first' second' : Context}
  (h : Context.Apart name first second first' second')
include h

theorem emit (instruction : Instruction) :
    Context.Apart name first second (first'.emit instruction) (second'.emit instruction) :=
  { h with differs := { h.differs with
      instructions := congrArg (· ++ [instruction]) h.differs.instructions } }

theorem warn (warning : Warning) :
    Context.Apart name first second (first'.warn warning) (second'.warn warning) :=
  { h with differs := { h.differs with
      warnings := congrArg (· ++ [warning]) h.differs.warnings } }

theorem require (header : String) :
    Context.Apart name first second (first'.require header) (second'.require header) :=
  { h with differs := { h.differs with
      headers := congrArg (·.insert header) h.differs.headers } }

theorem announce (k : Knowledge) (function : String) (span : Span) :
    Context.Apart name first second (k.announce function span first')
      (k.announce function span second') := by
  unfold Knowledge.announce
  split
  · exact h
  · exact h.warn _

variable (hplain : IsPlain name)
include hplain

theorem allocated_eq (storage : Storage) :
    (first'.allocate storage).1 = (second'.allocate storage).1 := by
  rw [allocate_variable, allocate_variable,
    h.differs.symbols.allocated_eq h.consistent h.consistent_other hplain]

theorem allocate (storage : Storage) :
    Context.Apart name first second (first'.allocate storage).2 (second'.allocate storage).2 := by
  have hallocated := h.differs.symbols.allocated_eq h.consistent h.consistent_other hplain storage
  have hinstructions :
      (first'.allocate storage).2.instructions = (second'.allocate storage).2.instructions := by
    rw [allocate_instructions, allocate_instructions, hallocated, h.differs.instructions]
  refine ⟨?_, ?_, ⟨⟨?_, ?_⟩, hinstructions, ?_, ?_⟩, ?_⟩
  · rw [allocate_symbols]
    exact h.consistent.allocate storage
  · rw [allocate_symbols]
    exact h.consistent_other.allocate storage
  · rw [allocate_symbols, allocate_symbols, h.consistent.allocate_entries,
      h.consistent_other.allocate_entries, hallocated, List.filter_append, List.filter_append,
      h.differs.symbols.others]
  · have hnumber := congrArg Variable.name hallocated
    rw [allocate_symbols, allocate_symbols]
    exact congrArg (· + 1) (temporaryName_injective hnumber)
  · cases storage <;> exact h.differs.headers
  · cases storage <;> exact h.differs.warnings
  · obtain ⟨added, hadded, hother⟩ := h.grow
    refine ⟨added ++ [(first'.symbols.allocate storage).1], ?_, ?_⟩
    · rw [allocate_symbols, h.consistent.allocate_entries, hadded, List.append_assoc]
    · rw [allocate_symbols, h.consistent_other.allocate_entries, hother, hallocated,
        List.append_assoc]

end Context.Apart

namespace Pairing

def apart (k : Knowledge) (name : String) (first second : Context) : Pairing where
  knowledge := k
  Related := Context.Apart name first second

def Elsewhere (name : String) (value : Compiled) : Prop :=
  value.kind = .var → value.code.render ≠ name

section Boxing

variable {k : Knowledge} {name : String} {first second : Context}

theorem apart_emit (instruction : Instruction) :
    (apart k name first second).Runs (fun _ => True) (emit instruction) :=
  .modifyContext fun h => h.emit instruction

theorem apart_require (header : String) :
    (apart k name first second).Runs (fun _ => True) (require header) :=
  .modifyContext fun h => h.require header

theorem apart_lookup {other : String} (hother : other ≠ name) (span : Span) :
    (apart k name first second).Runs (fun _ => True) (lookup other span) := by
  intro w w' h
  have hcontexts : Context.Apart name first second w.context w'.context := h.contexts
  have hfind := hcontexts.differs.symbols.find?_eq hcontexts.consistent
    hcontexts.consistent_other hother
  unfold CompileM.lookup Context.lookup
  rw [hfind]
  cases w'.context.symbols.find? other with
  | some v => exact .ok trivial h
  | none => exact .error h

variable (hplain : IsPlain name)
include hplain

theorem apart_allocate (storage : Storage) :
    (apart k name first second).Runs (fun v => v.name ≠ name) (allocate storage) := by
  intro w w' h
  have hcontexts : Context.Apart name first second w.context w'.context := h.contexts
  have hname : (w.context.allocate storage).1.name ≠ name := by
    rw [Context.allocate_variable]
    exact (hplain _).symm
  change (apart k name first second).Outcomes _ (.ok _ _) (.ok (w'.context.allocate storage).1 _)
  rw [← hcontexts.allocated_eq hplain]
  exact .ok hname ⟨h.knows, h.knows_other, hcontexts.allocate hplain storage⟩

theorem apart_storeArgument (mode : ArgumentMode) (store : Operand → Instruction) :
    (apart k name first second).Runs (fun _ => True) (storeArgument mode store) :=
  (apart_allocate hplain _).bind fun _ _ => (apart_emit _).bind fun _ _ => .pure trivial

theorem apart_boxVariable (v : Variable) (span : Span) (mode : ArgumentMode) :
    (apart k name first second).Runs (fun _ => True) (boxVariable v span mode) := by
  unfold boxVariable
  split <;>
    first
      | exact .pure trivial
      | exact apart_storeArgument hplain mode _
      | exact .fail _ span

theorem apart_boxArgument {value : Compiled} (hvalue : Elsewhere name value) (span : Span)
    (mode : ArgumentMode) :
    (apart k name first second).Runs (fun _ => True) (boxArgument value span mode) := by
  unfold boxArgument
  split
  case h_8 hkind =>
    exact (apart_lookup (hvalue hkind) span).bind fun v _ => apart_boxVariable hplain v span mode
  all_goals first
    | exact apart_storeArgument hplain mode _
    | exact .fail _ span

end Boxing

section Calls

variable {k : Knowledge} {name : String} {first second : Context}

theorem apart_checkBoxed (destination : Destination) (span : Span) :
    (apart k name first second).Runs (fun _ => True) (checkBoxed destination span) := by
  unfold checkBoxed
  split
  · exact .pure trivial
  · exact .fail _ span

theorem apart_openDestination (destination : Destination) :
    (apart k name first second).Runs (fun _ => True) (openDestination destination) := by
  unfold openDestination
  split
  · exact (apart_emit _).bind fun _ _ => .pure trivial
  · exact .pure trivial

theorem apart_deliver {destination : Destination} (hdestination : destination.target.name ≠ name)
    (span : Span) (call : Operand → Instruction) :
    (apart k name first second).Runs (Elsewhere name) (do
      let target ← openDestination destination
      emit (call target)
      return ⟨.var, .var destination.target.name, span⟩) :=
  (apart_openDestination destination).bind fun _ _ => (apart_emit _).bind fun _ _ =>
    .pure fun _ => hdestination

theorem apart_emitCall (function : String) (arguments : List Operand) {destination : Destination}
    (hdestination : destination.target.name ≠ name) (span : Span) :
    (apart k name first second).Runs (Elsewhere name)
      (emitCall function arguments (some destination) span) :=
  (apart_checkBoxed destination span).bind fun _ _ => (apart_require _).bind fun _ _ =>
    apart_deliver hdestination span fun target => .callFunction function (some target) arguments

variable (hplain : IsPlain name)
include hplain

theorem apart_chooseDestination (call : Call) :
    (apart k name first second).Runs
      (fun choice => ∃ destination, choice = some destination ∧ destination.target.name ≠ name)
      (chooseDestination call .anywhere) :=
  (apart_allocate hplain _).bind fun _ hv => .pure ⟨_, rfl, hv⟩

variable {call : Call} {box : ArgumentMode → CompileM (List Operand)}
  (hbox : ∀ mode, (apart k name first second).Runs (fun _ => True) (box mode))
include hbox

theorem apart_lowerCall :
    (apart k name first second).Runs (Elsewhere name) (k.lowerCall call .anywhere box) := by
  unfold Knowledge.lowerCall
  split
  · exact (apart_require _).bind fun _ _ => (hbox .lent).bind fun _ _ => .pure nofun
  · refine (apart_require _).bind fun _ _ => (hbox .lent).bind fun arguments _ =>
      (apart_chooseDestination hplain call).bind ?_
    rintro _ ⟨destination, rfl, hdestination⟩
    exact (apart_checkBoxed destination call.span).bind fun _ _ =>
      apart_deliver hdestination call.span _
  · unfold Knowledge.lowerByName
    simp only
    split
    · exact .fail _ call.span
    · refine (hbox _).bind fun arguments _ => (apart_chooseDestination hplain call).bind ?_
      rintro _ ⟨destination, rfl, hdestination⟩
      exact apart_emitCall _ arguments hdestination call.span

theorem apart_compileCallWith (hfollows : k.FollowsCalls) :
    (apart k name first second).Runs (Elsewhere name) (compileCallWith call .anywhere box) := by
  intro w w' h
  have hknows : w.compiler.knowledge = k := h.knows
  have hother : w'.compiler.knowledge = k := h.knows_other
  obtain ⟨compiler, hcompiler, hrun⟩ :=
    Knowledge.compileCallWith_run call .anywhere box w (by rwa [hknows])
  obtain ⟨compiler', hcompiler', hrun'⟩ :=
    Knowledge.compileCallWith_run call .anywhere box w' (by rwa [hother])
  rw [hrun, hrun', hknows, hother]
  exact apart_lowerCall hplain hbox
    ⟨hcompiler.trans hknows, hcompiler'.trans hother, h.contexts.announce k _ call.span⟩

end Calls

section Expressions

variable {k : Knowledge} {name : String} {first second : Context}

mutual

theorem apart_compileExpression (hfollows : k.FollowsCalls) (hplain : IsPlain name)
    (expression : Expression) (hread : expression.reads name = false) :
    (apart k name first second).Runs (Elsewhere name) (compileExpression expression) := by
  cases expression with
  | literal value span =>
    refine .pure fun hkind => ?_
    cases value <;> cases hkind
  | var other span =>
    have hother : other ≠ name := by simpa [Expression.reads] using hread
    exact .pure fun _ => hother
  | call function arguments span =>
    exact apart_compileCallWith hplain (apart_boxArguments hfollows hplain arguments hread)
      hfollows

theorem apart_boxArguments (hfollows : k.FollowsCalls) (hplain : IsPlain name)
    (arguments : List Expression) (hread : Expression.anyReads name arguments = false)
    (mode : ArgumentMode) :
    (apart k name first second).Runs (fun _ => True) (boxArguments arguments mode) := by
  cases arguments with
  | nil => exact .pure trivial
  | cons argument rest =>
    rw [Expression.anyReads, Bool.or_eq_false_iff] at hread
    exact (apart_compileExpression hfollows hplain argument hread.1).bind fun _ hvalue =>
      (apart_boxArgument hplain hvalue argument.span mode).bind fun _ _ =>
        (apart_boxArguments hfollows hplain rest hread.2 mode).bind fun _ _ => .pure trivial

end

end Expressions

end Pairing

theorem boxArguments_of_absent {k : Knowledge} (hfollows : k.FollowsCalls) {name : String}
    (hplain : IsPlain name) {arguments : List Expression}
    (hread : Expression.anyReads name arguments = true) {compiler : Compiler} {ctx : Context}
    (hready : Workspace.Ready k ⟨compiler, ctx⟩) (habsent : ctx.symbols.find? name = none)
    (mode : ArgumentMode) :
    ∃ error, ((boxArguments arguments mode).outcome compiler ctx).1 = .error error := by
  unfold CompileM.outcome
  cases hrun : boxArguments arguments mode ⟨compiler, ctx⟩ with
  | error error w => exact ⟨error, rfl⟩
  | ok operands w =>
    obtain ⟨hboxes, _⟩ := boxArguments_derives hfollows arguments hready hrun
    obtain ⟨v, hfound⟩ := hboxes.found hread
    rcases hboxes.grows.symbols.added hfound with hold | ⟨_, _, _, number, hname⟩
    · rw [habsent] at hold
      cases hold
    · exact absurd hname (hplain number)

theorem arguments_use_what_they_read {compiler : Compiler}
    (hfollows : compiler.knowledge.FollowsCalls) {name : String} (hplain : IsPlain name)
    (arguments : List Expression) (mode : ArgumentMode) :
    (Expression.anyReads name arguments = false →
      ∀ first second : Context, first.symbols.Built → second.symbols.Built →
        first.DiffersOnlyAt name second →
        let one := (boxArguments arguments mode).outcome compiler first
        let other := (boxArguments arguments mode).outcome compiler second
        one.1 = other.1 ∧ one.2.DiffersOnlyAt name other.2 ∧
          first.symbols.GrowAlike second.symbols one.2.symbols other.2.symbols) ∧
      (Expression.anyReads name arguments = true →
        ∀ ctx : Context, ctx.symbols.Built → ctx.symbols.contains name = false →
          ∃ error, ((boxArguments arguments mode).outcome compiler ctx).1 = .error error) := by
  constructor
  · intro hread first second hfirst hsecond hdiffers
    have hstart : Context.Apart name first second first second :=
      ⟨hfirst.consistent, hsecond.consistent, hdiffers, [], by simp, by simp⟩
    have hpaired : (Pairing.apart compiler.knowledge name first second).Workspaces
        ⟨compiler, first⟩ ⟨compiler, second⟩ := ⟨rfl, rfl, hstart⟩
    obtain ⟨hvalue, hend⟩ :=
      (Pairing.apart_boxArguments hfollows hplain arguments hread mode).outcome hpaired
    exact ⟨hvalue, hend.differs, hend.grow⟩
  · intro hread ctx hbuilt habsent
    rw [hbuilt.consistent.contains_eq, Option.isSome_eq_false_iff, Option.isNone_iff_eq_none]
      at habsent
    exact boxArguments_of_absent hfollows hplain hread ⟨rfl, hbuilt.consistent⟩ habsent mode

def Expression.camelized : List Expression :=
  [.call "Camelize" [.var "text" {}] {}, .var "text" {}]

theorem camelized_without_size :
    let first := declareAll [⟨"text", .boxed⟩]
    let second := declareAll [⟨"size", .char⟩, ⟨"text", .boxed⟩]
    let one := (boxArguments Expression.camelized .owned).outcome .standard first
    let other := (boxArguments Expression.camelized .owned).outcome .standard second
    first.DiffersOnlyAt "size" second ∧
      one.1 = .ok [.var "_0", .var "text"] ∧
      other.1 = .ok [.var "_0", .var "text"] ∧
      one.2.DiffersOnlyAt "size" other.2 ∧
      ∃ error, ((boxArguments [.call "strlen" [.var "size" {}] {}] .lent).outcome .standard
        first).1 = .error error := by
  intro first second one other
  have hfollows := (Compiler.usesContracts_new .standard (.inl rfl)).followsCalls
  have hplain : IsPlain "size" := ne_temporaryName (by decide)
  have hdiffers : first.DiffersOnlyAt "size" second :=
    ⟨⟨by decide +kernel, rfl⟩, rfl, rfl, rfl⟩
  have hone : one.1 = .ok [.var "_0", .var "text"] := by decide +kernel
  obtain ⟨hvalue, hend, _⟩ :=
    (arguments_use_what_they_read hfollows hplain Expression.camelized .owned).1
      (by decide +kernel) first second (declareAll_built _) (declareAll_built _) hdiffers
  refine ⟨hdiffers, hone, hvalue ▸ hone, hend, ?_⟩
  exact (arguments_use_what_they_read hfollows hplain _ .lent).2 (by decide +kernel) first
    (declareAll_built _) (by decide +kernel)

end BoxedCalls
