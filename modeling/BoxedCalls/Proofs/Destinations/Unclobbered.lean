import BoxedCalls.Proofs.Destinations.Writes
import BoxedCalls.Proofs.Scope.Appending

namespace BoxedCalls

section Names

variable {before after : SymbolTable} {name : String}

theorem SymbolTable.Extends.isIdentifier_of_find? (h : before.Extends after)
    (hidentifiers : ∀ v ∈ before.entries, BoxedCalls.isIdentifier v.name = true)
    (hconsistent : before.Consistent) {v : Variable} (hfind : after.find? name = some v) :
    BoxedCalls.isIdentifier name = true := by
  rcases h.added hfind with hold | ⟨_, _, _, number, rfl⟩
  · obtain ⟨hmem, rfl⟩ := hconsistent.find?_eq_some_iff.mp hold
    exact hidentifiers v hmem
  · exact isIdentifier_temporaryName number

theorem Operand.NewTo.not_refersTo {target : Operand} (h : target.NewTo before)
    (hname : isIdentifier name = true) {v : Variable} (hfind : before.find? name = some v) :
    ¬target.RefersTo name := by
  obtain ⟨number, hcontainer, hfree⟩ := h
  rw [Operand.refersTo_iff hcontainer (isIdentifier_temporaryName number) hname]
  rintro rfl
  rw [hfree] at hfind
  cases hfind

end Names

theorem Boxes.length_eq {k : Knowledge} {arguments : List Expression} {mode : ArgumentMode}
    {ctx ctx' : Context} {operands : List Operand} (h : Boxes k arguments mode ctx operands ctx') :
    operands.length = arguments.length := by
  induction h with
  | nil _ => rfl
  | store _ _ _ ih => simp [ih]
  | pass _ _ _ _ ih => simp [ih]
  | condition _ _ _ _ _ ih => simp [ih]
  | routine _ _ _ _ _ ih => simp [ih]

/-- The value of the call comes into `written` by the last instruction of `emitted`. It was wanted
in `name`, where nothing is written before. -/
structure Call.ArrivesIn (call : Call) (name : String) (before after : SymbolTable)
    (emitted : List Instruction) (written : String) : Prop where
  chosen : written = name ↔ call.argumentsRead name = false
  fresh : written ≠ name → before.contains written = false ∧
    after.find? written = some ⟨written, .heapTemporary, .boxed⟩
  ending : ∃ earlier routine handles,
    emitted = earlier ++ (if written = name then [.reinit (.var name)] else []) ++
        [Routine.instruction (Text.lowercase call.function) handles (some (.var written)) routine] ∧
      handles.length = call.arguments.length ∧
      (∀ handle ∈ handles, ¬handle.RefersTo written) ∧
      ∀ instruction ∈ earlier, ¬instruction.Writes name
  apart : written ≠ name → ∀ instruction ∈ emitted, ¬instruction.Writes name

structure Call.Hands (call : Call) (before after : Context) (handles : List Operand) : Prop where
  grows : before.Grows after
  writes : before.WritesNew after
  handed : ∀ handle ∈ handles, ∃ other,
    handle.Hands call.arguments before.symbols after.symbols other
  length : handles.length = call.arguments.length

section Calls

variable {k : Knowledge} {call : Call} {name : String} {v : Variable} {ctx ctx₁ : Context}
  {mode : ArgumentMode} {handles : List Operand}

theorem Boxes.hands_routine {function : String} {span : Span} {routine : Routine}
    (h : Boxes k call.arguments mode (routine.prepare (k.announce function span ctx)) handles
      ctx₁) : call.Hands ctx ctx₁ handles :=
  ⟨h.grows.of_prepared, h.writesNew.of_prepared, by simpa using h.hands, h.length_eq⟩

theorem Context.WritesNew.spares (h : ctx.WritesNew ctx₁) (hname : isIdentifier name = true)
    (hfind : ctx.symbols.find? name = some v) :
    ∃ emitted, ctx₁.instructions = ctx.instructions ++ emitted ∧
      ∀ instruction ∈ emitted, ¬instruction.Writes name := by
  obtain ⟨emitted, hemitted, hnew⟩ := h
  refine ⟨emitted, hemitted, ?_⟩
  rintro instruction hmem ⟨target, htarget, hrefers⟩
  exact (hnew instruction hmem target htarget).not_refersTo hname hfind hrefers

variable (hhands : call.Hands ctx ctx₁ handles) (hconsistent : ctx.symbols.Consistent)
  (hidentifiers : ∀ v ∈ ctx.symbols.entries, isIdentifier v.name = true)
include hhands hconsistent hidentifiers

theorem Call.Hands.not_refersTo {written : String} (hwritten : isIdentifier written = true)
    (hother : ∀ other, (ctx₁.symbols.find? other).isSome = true →
      Expression.anyReads other call.arguments = true ∨ ctx.symbols.find? other = none →
        other ≠ written) :
    ∀ handle ∈ handles, ¬handle.RefersTo written := by
  intro handle hmem
  obtain ⟨other, hhandle⟩ := hhands.handed handle hmem
  obtain ⟨_, hfound⟩ := Option.isSome_iff_exists.mp hhandle.found
  rw [Operand.refersTo_iff hhandle.container
    (hhands.grows.symbols.isIdentifier_of_find? hidentifiers hconsistent hfound) hwritten]
  exact hother other hhandle.found hhandle.source

variable (hfind : ctx.symbols.find? name = some v) (routine : Routine)
include hfind

theorem Call.Hands.arrivesIn_reused (hread : call.argumentsRead name = false) :
    ∃ emitted,
      (ctx₁.deliver routine (Text.lowercase call.function) handles ⟨v, true⟩).instructions =
        ctx.instructions ++ emitted ∧
      call.ArrivesIn name ctx.symbols
        (ctx₁.deliver routine (Text.lowercase call.function) handles ⟨v, true⟩).symbols emitted
        name := by
  have hname := (SymbolTable.Extends.refl _).isIdentifier_of_find? hidentifiers hconsistent hfind
  obtain ⟨earlier, hearlier, hspares⟩ := hhands.writes.spares hname hfind
  have hv : v.name = name := hconsistent.name_of_find? hfind
  have hcode :
      (ctx₁.deliver routine (Text.lowercase call.function) handles ⟨v, true⟩).instructions =
        ctx.instructions ++ (earlier ++ [.reinit (.var name)] ++
          [routine.instruction (Text.lowercase call.function) handles (some (.var name))]) := by
    rw [Context.deliver_instructions, hearlier, hv]
    simp [Destination.opening, hv]
  have hapart : ∀ handle ∈ handles, ¬handle.RefersTo name := by
    refine hhands.not_refersTo hconsistent hidentifiers hname ?_
    -- A handle of `name` would come from a read of it, or from a variable that is new.
    rintro other _ hsource rfl
    rcases hsource with hsource | hsource
    · rw [Call.argumentsRead, hsource] at hread
      cases hread
    · rw [hsource] at hfind
      cases hfind
  refine ⟨_, hcode, by simp [hread], by simp, ?_, by simp⟩
  exact ⟨earlier, routine, handles, by simp, hhands.length, hapart, hspares⟩

theorem Call.Hands.arrivesIn_fresh (hread : call.argumentsRead name = true) :
    ∃ emitted,
      ((ctx₁.allocate .heapTemporary).2.deliver routine (Text.lowercase call.function) handles
          ctx₁.fresh).instructions = ctx.instructions ++ emitted ∧
      call.ArrivesIn name ctx.symbols
        ((ctx₁.allocate .heapTemporary).2.deliver routine (Text.lowercase call.function) handles
          ctx₁.fresh).symbols emitted ctx₁.fresh.target.name := by
  have hname := (SymbolTable.Extends.refl _).isIdentifier_of_find? hidentifiers hconsistent hfind
  have hgrows := hhands.grows
  have hne : ctx₁.fresh.target.name ≠ name :=
    fresh_name_ne hgrows.consistent (hgrows.symbols.kept hfind)
  have hfree : ctx₁.symbols.find? ctx₁.fresh.target.name = none := by
    rw [Context.fresh_target]
    exact hgrows.consistent.find?_allocated_name .heapTemporary
  obtain ⟨earlier, hearlier, _⟩ := hhands.writes.spares hname hfind
  obtain ⟨emitted, hemitted, hspares⟩ := (hhands.writes.trans hgrows
    (.deliverFresh hgrows.consistent routine (Text.lowercase call.function) handles)).spares
      hname hfind
  have hcode : emitted = earlier ++ (ctx₁.symbols.allocate .heapTemporary).1.initialization ++
      [routine.instruction (Text.lowercase call.function) handles
        (some (.var ctx₁.fresh.target.name))] := by
    refine List.append_cancel_left (?_ : ctx.instructions ++ _ = ctx.instructions ++ _)
    rw [← hemitted, Context.deliver_instructions, Context.allocate_instructions, hearlier,
      Context.fresh_opening]
    simp only [List.append_assoc, List.nil_append]
  have hapart : ∀ handle ∈ handles, ¬handle.RefersTo ctx₁.fresh.target.name := by
    have hfresh : isIdentifier ctx₁.fresh.target.name = true := by
      rw [Context.fresh_target]
      exact isIdentifier_temporaryName _
    refine hhands.not_refersTo hconsistent hidentifiers hfresh ?_
    rintro _ hfound _ rfl
    rw [hfree] at hfound
    cases hfound
  refine ⟨emitted, hemitted, ⟨fun hsame => absurd hsame hne, fun hunread => ?_⟩,
    fun _ => ⟨?_, ?_⟩, ?_, fun _ => hspares⟩
  · rw [hread] at hunread
    cases hunread
  · rw [hconsistent.contains_eq, hgrows.symbols.find?_eq_none hfree]
    rfl
  · rw [Context.deliver_symbols, Context.allocate_symbols, hgrows.consistent.find?_allocate,
      Context.fresh_target, if_pos rfl]
    rfl
  · refine ⟨earlier ++ (ctx₁.symbols.allocate .heapTemporary).1.initialization, routine, handles,
      ?_, hhands.length, hapart, ?_⟩
    · rw [if_neg hne, List.append_nil]
      exact hcode
    · intro instruction hmem
      exact hspares instruction (hcode ▸ List.mem_append_left _ hmem)

end Calls

theorem destination_never_clobbered {w w' : Workspace} {call : Call} {name : String}
    {value : Compiled} (hfollows : w.compiler.knowledge.FollowsCalls)
    (hbuilt : w.context.symbols.Built)
    (hidentifiers : ∀ v ∈ w.context.symbols.entries, isIdentifier v.name = true)
    (hpresent : w.context.symbols.contains name = true)
    (h : compileCall call (.inVariable name) w = .ok value w') :
    ∃ emitted, w'.context.instructions = w.context.instructions ++ emitted ∧
      ((value.kind = .var ∧ ∃ written, value.code = .var written ∧
          call.ArrivesIn name w.context.symbols w'.context.symbols emitted written) ∨
        (value.kind = .bool ∧ ∀ instruction ∈ emitted, ¬instruction.Writes name)) := by
  have hconsistent := hbuilt.consistent
  rw [hconsistent.contains_eq] at hpresent
  obtain ⟨v, hfind⟩ := Option.isSome_iff_exists.mp hpresent
  have hcompiles := (compileCall_derives hfollows ⟨rfl, hconsistent⟩ h).1
  generalize w'.context = after at hcompiles ⊢
  cases hcompiles with
  | condition _ harguments =>
    have hname := (SymbolTable.Extends.refl _).isIdentifier_of_find? hidentifiers hconsistent hfind
    obtain ⟨emitted, hemitted, hspares⟩ := harguments.writesNew.of_announced.spares hname hfind
    exact ⟨emitted, hemitted, .inr ⟨rfl, hspares⟩⟩
  | @delivered routine handles destination _ _ ctx₁ ctx' _ harguments hdestination _ =>
    have hhands := harguments.hands_routine
    have hkept := hhands.grows.symbols.kept hfind
    cases hdestination with
    | apart hsame hread =>
      cases hsame.symm.trans hkept
      rw [hconsistent.name_of_find? hfind] at hread
      obtain ⟨emitted, hemitted, harrives⟩ :=
        hhands.arrivesIn_fresh hconsistent hidentifiers hfind routine hread
      exact ⟨emitted, hemitted, .inl ⟨rfl, _, rfl, harrives⟩⟩
    | reused hsame hread =>
      cases hsame.symm.trans hkept
      have hv := hconsistent.name_of_find? hfind
      rw [hv] at hread
      obtain ⟨emitted, hemitted, harrives⟩ :=
        hhands.arrivesIn_reused hconsistent hidentifiers hfind routine hread
      exact ⟨emitted, hemitted, .inl ⟨rfl, name, by rw [hv], harrives⟩⟩

def Workspace.lettered : Workspace where
  compiler := .new .standard .builtin
  context := declareAll [⟨"text", .boxed⟩, ⟨"size", .int⟩]

def Call.recased : Call :=
  ⟨"substr", [.call "Camelize" [.var "text" {}] {}, .var "size" {}], {}⟩

theorem recased_arrives_apart :
    ∃ w', compileCall .recased (.inVariable "text") .lettered = .ok ⟨.var, .var "_2", {}⟩ w' ∧
      ∃ emitted, w'.context.instructions = Workspace.lettered.context.instructions ++ emitted ∧
        Call.recased.ArrivesIn "text" Workspace.lettered.context.symbols w'.context.symbols emitted
          "_2" := by
  have hfollows := (Compiler.usesContracts_new .standard (.inl rfl)).followsCalls
  have hbuilt : Workspace.lettered.context.symbols.Built := declareAll_built _
  have hvalue : ((compileCall .recased (.inVariable "text")).outcome Workspace.lettered.compiler
      Workspace.lettered.context).1 = .ok ⟨.var, .var "_2", {}⟩ := by decide +kernel
  obtain ⟨w', hrun⟩ := CompileM.outcome_eq_ok_iff.mp hvalue
  refine ⟨w', hrun, ?_⟩
  obtain ⟨emitted, hemitted, ⟨_, _, hcode, harrives⟩ | ⟨hkind, _⟩⟩ :=
    destination_never_clobbered hfollows hbuilt (by decide +kernel) (by decide +kernel) hrun
  · cases hcode
    exact ⟨emitted, hemitted, harrives⟩
  · cases hkind

end BoxedCalls
