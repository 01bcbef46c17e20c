import BoxedCalls.Proofs.Compile.Success
import BoxedCalls.Proofs.Renumbering.Names
import BoxedCalls.Proofs.Scope.Numbering

namespace BoxedCalls

open CompileM

def Compiled.Readable (value : Compiled) (symbols : SymbolTable) : Prop :=
  value.kind = .var → ∃ name, value.code = .var name ∧
    (IsPlain name ∨ (symbols.find? name).isSome)

structure Prior where
  knowledge : Knowledge
  context : Context

namespace Prior

def offset (prior : Prior) : Nat :=
  prior.context.symbols.temporaryCount

def rename (prior : Prior) : String → String :=
  renumber prior.offset

theorem rename_eq {prior : Prior} {name : String} (h : IsPlain name) : prior.rename name = name :=
  h.renumber prior.offset

structure Contexts (prior : Prior) (alone after : Context) : Prop where
  numbered : alone.symbols.Numbered
  numbered_after : after.symbols.Numbered
  next : after.symbols.nextTemporary = alone.symbols.nextTemporary + prior.offset
  found : ∀ name, after.symbols.find? (prior.rename name) =
    (alone.symbols.find? name).map (·.mapName prior.rename)
  entries : after.symbols.entries = prior.context.symbols.entries ++
    (alone.symbols.entries.filter Variable.isTemporary).map (·.mapName prior.rename)
  instructions : after.instructions =
    prior.context.instructions ++ alone.instructions.map (·.mapNames prior.rename)
  warnings : after.warnings = prior.context.warnings ++ alone.warnings

namespace Contexts

variable {prior : Prior} {alone after : Context}

theorem emit (h : prior.Contexts alone after) (instruction : Instruction) :
    prior.Contexts (alone.emit instruction) (after.emit (instruction.mapNames prior.rename)) :=
  { h with instructions := by simp [h.instructions] }

theorem require (h : prior.Contexts alone after) (header : String) :
    prior.Contexts (alone.require header) (after.require header) :=
  { h with }

theorem announce (h : prior.Contexts alone after) (k : Knowledge) (function : String)
    (span : Span) :
    prior.Contexts (k.announce function span alone) (k.announce function span after) := by
  unfold Knowledge.announce
  split
  · exact h
  · exact { h with warnings := by simp [Context.warn, h.warnings] }

theorem allocated (h : prior.Contexts alone after) (storage : Storage) :
    (after.symbols.allocate storage).1 =
      (alone.symbols.allocate storage).1.mapName prior.rename := by
  rw [h.numbered_after.allocate_eq, h.numbered.allocate_eq, h.next]
  simp [Variable.mapName, rename]

theorem allocate (h : prior.Contexts alone after) {storage : Storage}
    (hstorage : storage ≠ .named) :
    prior.Contexts (alone.allocate storage).2 (after.allocate storage).2 where
  numbered := by
    rw [Context.allocate_symbols]
    exact h.numbered.allocate hstorage
  numbered_after := by
    rw [Context.allocate_symbols]
    exact h.numbered_after.allocate hstorage
  next := by
    simp only [Context.allocate_symbols]
    rw [h.numbered_after.allocate_next, h.numbered.allocate_next, h.next]
    omega
  found := by
    intro name
    simp only [Context.allocate_symbols]
    rw [h.numbered_after.consistent.find?_allocate, h.numbered.consistent.find?_allocate,
      h.allocated]
    have hsame : prior.rename name =
        ((alone.symbols.allocate storage).1.mapName prior.rename).name ↔
          name = (alone.symbols.allocate storage).1.name :=
      (renumber_injective prior.offset).eq_iff
    by_cases hname : name = (alone.symbols.allocate storage).1.name
    · rw [if_pos (hsame.mpr hname), if_pos hname]
      rfl
    · rw [if_neg (mt hsame.mp hname), if_neg hname]
      exact h.found name
  entries := by
    have htemporary : (alone.symbols.allocate storage).1.isTemporary = true := by
      simp [Variable.isTemporary, hstorage]
    simp only [Context.allocate_symbols]
    rw [h.numbered_after.consistent.allocate_entries, h.numbered.consistent.allocate_entries,
      h.allocated, h.entries, List.filter_append, List.filter_singleton, htemporary]
    simp
  instructions := by
    rw [Context.allocate_instructions, Context.allocate_instructions, h.allocated,
      Variable.initialization_mapName, h.instructions]
    simp
  warnings := by cases storage <;> exact h.warnings

end Contexts

structure Workspaces (prior : Prior) (w w' : Workspace) : Prop where
  ready : w.Ready prior.knowledge
  knowledge_after : w'.compiler.knowledge = prior.knowledge
  contexts : prior.Contexts w.context w'.context

theorem Workspaces.of_contexts {prior : Prior} {w w' : Workspace} {ctx ctx' : Context}
    (h : prior.Workspaces w w') (hcontexts : prior.Contexts ctx ctx') :
    prior.Workspaces { w with context := ctx } { w' with context := ctx' } where
  ready := ⟨h.ready.knowledge, hcontexts.numbered.consistent⟩
  knowledge_after := h.knowledge_after
  contexts := hcontexts

inductive Outcomes (prior : Prior) {α : Type} (map : α → α) :
    EStateM.Result CompileError Workspace α → EStateM.Result CompileError Workspace α → Prop where
  | ok {a w w'} (h : prior.Workspaces w w') : Outcomes prior map (.ok a w) (.ok (map a) w')
  | error {error w w'} : Outcomes prior map (.error error w) (.error error w')

def Actions (prior : Prior) {α : Type} (map : α → α) (x y : CompileM α) : Prop :=
  ∀ w w', prior.Workspaces w w' → prior.Outcomes map (x w) (y w')

section Rules

variable {prior : Prior} {α β : Type} {map : α → α} {map' : β → β}

theorem Outcomes.bind {x y : CompileM α} {f g : α → CompileM β} {w w' : Workspace}
    (hx : prior.Outcomes map (x w) (y w'))
    (hf : ∀ {a w₁ w₁'}, x w = .ok a w₁ → prior.Workspaces w₁ w₁' →
      prior.Outcomes map' (f a w₁) (g (map a) w₁')) :
    prior.Outcomes map' ((x >>= f) w) ((y >>= g) w') := by
  rw [bind_run, bind_run]
  generalize hrun : x w = result at hx
  generalize y w' = result' at hx
  cases hx with
  | ok h => exact hf hrun h
  | error => exact .error

namespace Actions

theorem bind {x y : CompileM α} {f g : α → CompileM β} (hx : prior.Actions map x y)
    (hf : ∀ a, prior.Actions map' (f a) (g (map a))) :
    prior.Actions map' (x >>= f) (y >>= g) :=
  fun w w' h => (hx w w' h).bind fun _ h' => hf _ _ _ h'

theorem pure {a b : α} (h : map a = b) : prior.Actions map (Pure.pure a) (Pure.pure b) := by
  subst h
  exact fun _ _ h => .ok h

theorem fail (cause : ErrorCause) (span : Span) :
    prior.Actions map (CompileM.fail cause span) (CompileM.fail cause span) :=
  fun _ _ _ => .error

end Actions

end Rules

variable {prior : Prior}

namespace Actions

theorem emit {instruction renamed : Instruction}
    (h : instruction.mapNames prior.rename = renamed) :
    prior.Actions id (emit instruction) (CompileM.emit renamed) := by
  subst h
  exact fun _ _ h => .ok (h.of_contexts (h.contexts.emit instruction))

theorem require (header : String) : prior.Actions id (require header) (require header) :=
  fun _ _ h => .ok (h.of_contexts (h.contexts.require header))

theorem allocate {storage : Storage} (hstorage : storage ≠ .named) :
    prior.Actions (·.mapName prior.rename) (CompileM.allocate storage)
      (CompileM.allocate storage) := by
  intro w w' h
  have hallocated : (w'.context.allocate storage).1 =
      (w.context.allocate storage).1.mapName prior.rename := by
    rw [Context.allocate_variable, Context.allocate_variable, h.contexts.allocated]
  change prior.Outcomes _ (.ok _ _) (.ok (w'.context.allocate storage).1 _)
  rw [hallocated]
  exact .ok (h.of_contexts (h.contexts.allocate hstorage))

theorem allocateFresh : prior.Actions (·.mapName prior.rename)
    (CompileM.allocate .heapTemporary) (CompileM.allocate .heapTemporary) :=
  allocate nofun

end Actions

theorem Workspaces.lookup {w w' : Workspace} (h : prior.Workspaces w w') {name : String}
    (hname : IsPlain name ∨ (w.context.symbols.find? name).isSome) (span : Span) :
    prior.Outcomes (·.mapName prior.rename) (CompileM.lookup name span w)
      (CompileM.lookup (prior.rename name) span w') := by
  unfold CompileM.lookup Context.lookup
  rw [h.contexts.found]
  cases hfind : w.context.symbols.find? name with
  | some v => exact .ok h
  | none =>
    have hplain : IsPlain name := hname.resolve_right (by simp [hfind])
    rw [rename_eq hplain]
    exact .error

theorem Actions.lookup {name : String} (hname : IsPlain name) (span : Span) :
    prior.Actions (·.mapName prior.rename) (CompileM.lookup name span)
      (CompileM.lookup name span) := by
  intro w w' h
  have hlookup := h.lookup (.inl hname) span
  rwa [rename_eq hname] at hlookup

theorem plain_of_lookup {w w' w₁ : Workspace} (h : prior.Workspaces w w') {name : String}
    (hname : IsPlain name) {span : Span} {v : Variable}
    (hrun : CompileM.lookup name span w = .ok v w₁) : IsPlain v.name := by
  rwa [h.ready.consistent.name_of_find? (lookup_eq_ok hrun).1]

namespace Actions

section Destinations

variable (destination : Destination) (span : Span)

theorem checkBoxed : prior.Actions id (checkBoxed destination span)
    (BoxedCalls.checkBoxed (destination.mapName prior.rename) span) := by
  by_cases hboxed : destination.target.type = .boxed
  · intro w w' h
    rw [BoxedCalls.checkBoxed, BoxedCalls.checkBoxed, if_pos hboxed, if_pos (by exact hboxed)]
    exact .ok h
  · intro w w' h
    rw [BoxedCalls.checkBoxed, BoxedCalls.checkBoxed, if_neg hboxed, if_neg (by exact hboxed)]
    exact .error

theorem openDestination : prior.Actions (·.mapNames prior.rename) (openDestination destination)
    (BoxedCalls.openDestination (destination.mapName prior.rename)) := by
  obtain ⟨target, reused⟩ := destination
  cases reused with
  | true => exact (emit rfl).bind fun _ => pure rfl
  | false => exact pure rfl

end Destinations

theorem chooseDestination (call : Call) {demand : Demand} (hdemand : demand.IsPlain) :
    prior.Actions (·.map (·.mapName prior.rename)) (chooseDestination call demand)
      (BoxedCalls.chooseDestination call demand) := by
  cases demand with
  | nothing => exact pure rfl
  | anywhere => exact allocateFresh.bind fun _ => pure rfl
  | inVariable name =>
    have hname : IsPlain name := hdemand
    intro w w' h
    refine (lookup hname call.span w w' h).bind fun {v w₁ w₁'} hrun h₁ => ?_
    have hv : (v.mapName prior.rename).name = v.name :=
      rename_eq (plain_of_lookup h hname hrun)
    simp only [hv]
    by_cases hread : call.argumentsRead v.name = true
    · rw [if_pos hread, if_pos hread]
      refine allocateFresh.bind (fun _ => ?_) w₁ w₁' h₁
      exact pure rfl
    · rw [if_neg hread, if_neg hread]
      exact .ok h₁

theorem storeArgument (mode : ArgumentMode) {store store' : Operand → Instruction}
    (hstore : ∀ target, (store target).mapNames prior.rename =
      store' (target.mapNames prior.rename)) :
    prior.Actions (·.mapNames prior.rename) (storeArgument mode store)
      (BoxedCalls.storeArgument mode store') := by
  refine (allocate mode.storage_ne_named).bind fun v => ?_
  rw [Variable.handle_mapName]
  exact (emit (hstore v.handle)).bind fun _ => pure rfl

theorem boxVariable (v : Variable) (span : Span) (mode : ArgumentMode) :
    prior.Actions (·.mapNames prior.rename) (boxVariable v span mode)
      (BoxedCalls.boxVariable (v.mapName prior.rename) span mode) := by
  obtain ⟨name, storage, type⟩ := v
  cases type with
  | boxed =>
    exact pure (Variable.handle_mapName prior.rename _).symm
  | char => exact fail _ _
  | array => exact fail _ _
  | _ =>
    unfold BoxedCalls.boxVariable
    exact storeArgument mode fun _ => rfl

end Actions

theorem Workspaces.boxArgument {w w' : Workspace} (h : prior.Workspaces w w') {value : Compiled}
    (hvalue : value.Readable w.context.symbols) (span : Span) (mode : ArgumentMode) :
    prior.Outcomes (·.mapNames prior.rename) (BoxedCalls.boxArgument value span mode w)
      (BoxedCalls.boxArgument (value.mapNames prior.rename) span mode w') := by
  obtain ⟨kind, code, place⟩ := value
  cases kind with
  | var =>
    obtain ⟨name, hcode, hname⟩ := hvalue rfl
    cases hcode
    refine (h.lookup hname span).bind fun {v w₁ w₁'} _ h₁ => ?_
    exact Actions.boxVariable v span mode w₁ w₁' h₁
  | bool =>
    unfold BoxedCalls.boxArgument
    refine Actions.storeArgument mode (fun target => ?_) w w' h
    exact congrArg (Instruction.storeBool _) code.flag_renumber.symm
  | null => exact .error
  | _ =>
    unfold BoxedCalls.boxArgument
    exact Actions.storeArgument mode (fun _ => rfl) w w' h

end Prior

end BoxedCalls
