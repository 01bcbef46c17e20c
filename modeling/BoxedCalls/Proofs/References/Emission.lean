import BoxedCalls.Proofs.Diagnostics.Violations
import BoxedCalls.Proofs.References.Ledger

namespace BoxedCalls

/-- The code emitted from `before` to `after`, together with the references that are still to come,
accounts for all that is new. -/
structure Owes (before after : Context) (pending : List Reference) : Prop where
  grows : before.Grows after
  accounts : ∃ emitted, after.references = before.references ++ emitted ∧
    Accounts before.symbols after.symbols (emitted ++ pending)

def Storage.opening : Storage → List Role
  | heapTemporary => [.initialized]
  | stackTemporary => []
  | named => []

theorem Variable.references_initialization (v : Variable) :
    v.initialization.flatMap Instruction.references = v.storage.opening.map (⟨·, v.handle⟩) := by
  obtain ⟨name, storage, type⟩ := v
  cases storage <;> rfl

namespace Owes

variable {first second third : Context} {pending later references : List Reference}

theorem of_accounts (hconsistent : first.symbols.Consistent)
    (h : Accounts first.symbols first.symbols pending) : Owes first first pending :=
  ⟨.refl hconsistent, [], (List.append_nil _).symm, h⟩

theorem refl (hconsistent : first.symbols.Consistent) : Owes first first [] :=
  of_accounts hconsistent (.constants nofun)

theorem of_start (hsymbols : second.symbols = first.symbols)
    (hinstructions : second.instructions = first.instructions) (h : Owes second third pending) :
    Owes first third pending := by
  obtain ⟨emitted, hemitted, haccounts⟩ := h.accounts
  refine ⟨h.grows.of_start hsymbols hinstructions, emitted, ?_, hsymbols ▸ haccounts⟩
  rw [hemitted, Context.references, Context.references, hinstructions]

theorem join (h₁ : Owes first second pending) (h₂ : Owes second third later) :
    Owes first third (pending ++ later) := by
  obtain ⟨emitted, hemitted, haccounts₁⟩ := h₁.accounts
  obtain ⟨others, hothers, haccounts₂⟩ := h₂.accounts
  refine ⟨h₁.grows.trans h₂.grows, emitted ++ others, ?_,
    haccounts₁.join haccounts₂ h₁.grows.symbols h₂.grows.symbols⟩
  rw [hothers, hemitted, List.append_assoc]

theorem pay (instruction : Instruction)
    (h : Owes first second (instruction.references ++ pending))
    (hsymbols : third.symbols = second.symbols)
    (hinstructions : third.instructions = second.instructions ++ [instruction]) :
    Owes first third pending := by
  obtain ⟨earlier, hearlier, haccounts⟩ := h.accounts
  have hgrows : second.Grows third :=
    .of_symbols_eq h.grows.consistent hsymbols (by simp [hinstructions])
  refine ⟨h.grows.trans hgrows, earlier ++ instruction.references, ?_, ?_⟩
  · rw [Context.references_of_instructions hinstructions, hearlier, List.flatMap_singleton,
      List.append_assoc]
  · rw [hsymbols, List.append_assoc]
    exact haccounts

theorem emit {instruction : Instruction}
    (h : Owes first second (instruction.references ++ pending)) :
    Owes first (second.emit instruction) pending :=
  h.pay instruction rfl rfl

theorem forget {operands : List Operand} (h : Owes first second (passes operands)) :
    Owes first second [] := by
  obtain ⟨emitted, hemitted, haccounts⟩ := h.accounts
  refine ⟨h.grows, emitted, hemitted, ?_⟩
  rw [List.append_nil]
  exact haccounts.forget

theorem allocate (hconsistent : first.symbols.Consistent) {storage : Storage}
    (hstorage : storage ≠ .named) {roles : List Role}
    (hlife : Life storage (storage.opening ++ roles)) :
    Owes first (first.allocate storage).2
      (roles.map (⟨·, (first.allocate storage).1.handle⟩)) := by
  refine ⟨.of_allocate hconsistent hstorage (by simp) (by simp), _,
    Context.references_of_instructions (first.allocate_instructions storage), ?_⟩
  rw [Variable.references_initialization, first.allocate_variable, ← List.map_append,
    first.allocate_symbols]
  exact .allocate hconsistent hlife

theorem named (hconsistent : first.symbols.Consistent) {name : String} {type : VariableType}
    (hfind : first.symbols.find? name = some ⟨name, .named, type⟩) {role : Role}
    (htype : type ∈ role.types) (hstorage : .named ∈ role.storages) :
    Owes first first [⟨role, .var name⟩] :=
  of_accounts hconsistent (.named hfind htype hstorage)

theorem reinit (hconsistent : first.symbols.Consistent) {name : String}
    (hfind : first.symbols.find? name = some ⟨name, .named, .boxed⟩) {role : Role}
    (htype : .boxed ∈ role.types) (hstorage : .named ∈ role.storages) :
    Owes first (first.emit (.reinit (.var name))) [⟨role, .var name⟩] := by
  have hreinitialized : Owes first first [⟨.reinitialized, .var name⟩] :=
    named hconsistent hfind (by decide) (by decide)
  have hwritten : Owes first first ([⟨.reinitialized, .var name⟩] ++ [⟨role, .var name⟩]) :=
    hreinitialized.join (named hconsistent hfind htype hstorage)
  exact Owes.emit hwritten

theorem box {boxing : Boxing} (h : Owes first second boxing.references) (mode : ArgumentMode) :
    Owes first (second.box mode boxing).2 (passes [(second.box mode boxing).1]) := by
  have hlife : Life mode.storage (mode.storage.opening ++ [.stored, .passed]) := by
    cases mode with
    | owned => exact .heap (.inl rfl) (.inr (.inl rfl))
    | lent => exact .stack (.inr rfl)
  have hstored : Owes first (second.allocate mode.storage).2
      ((boxing.store mode (second.allocate mode.storage).1.handle).references ++
        passes [(second.allocate mode.storage).1.handle]) := by
    rw [Boxing.references_store, List.append_assoc]
    exact h.join (allocate h.grows.consistent mode.storage_ne_named hlife)
  exact hstored.emit

theorem openFresh (hconsistent : first.symbols.Consistent) {role : Role}
    (hrole : role = .passed ∨ role = .copied) :
    Owes first ((first.allocate .heapTemporary).2.openFor first.fresh)
      [⟨.returned, .var first.fresh.target.name⟩, ⟨role, .var first.fresh.target.name⟩] := by
  have hlife : Life .heapTemporary (Storage.heapTemporary.opening ++ [.returned, role]) := by
    rcases hrole with rfl | rfl
    · exact .heap (.inr rfl) (.inr (.inl rfl))
    · exact .heap (.inr rfl) (.inr (.inr rfl))
  exact allocate hconsistent (show Storage.heapTemporary ≠ .named by decide) hlife

theorem deliver {routine : Routine} {arguments : List Operand} {destination : Destination}
    (function : String)
    (harguments : Owes first second (passes arguments ++ passes routine.constants))
    (hopened : Owes second (third.openFor destination)
      (⟨.returned, .var destination.target.name⟩ :: pending)) :
    Owes first (third.deliver routine function arguments destination) pending := by
  have hcalled : Owes first (third.openFor destination)
      ((routine.instruction function arguments (some (.var destination.target.name))).references ++
        pending) := by
    rw [Routine.references_instruction, List.append_assoc]
    exact harguments.join hopened
  exact hcalled.pay _ (by simp) (by simp)

end Owes

section Boxings

variable {ctx : Context}

theorem VariableType.references_boxing? {type : VariableType} {name : String} {boxing : Boxing}
    (h : type.boxing? name = some boxing) :
    ∃ role, boxing.references = [⟨role, .var name⟩] ∧ type ∈ role.types ∧
      .named ∈ role.storages := by
  cases type <;> cases h <;> exact ⟨_, rfl, by decide, by decide⟩

theorem Literal.references_boxing? {value : Literal} {boxing : Boxing}
    (h : value.boxing? = some boxing) : boxing.references = [] := by
  cases value with
  | null => cases h
  | bool value => cases h; cases value <;> rfl
  | _ => cases h; rfl

theorem Owes.of_boxing? {argument : Expression} {boxing : Boxing}
    (hconsistent : ctx.symbols.Consistent) (hboxing : ctx.boxing? argument = some boxing)
    (hfind : ∀ name, argument.reads name = true →
      ∃ type, ctx.symbols.find? name = some ⟨name, .named, type⟩) :
    Owes ctx ctx boxing.references := by
  cases argument with
  | literal value span =>
    rw [Literal.references_boxing? hboxing]
    exact .refl hconsistent
  | var name span =>
    obtain ⟨type, hvariable⟩ := hfind name (by simp [Expression.reads])
    rw [Context.boxing?, hvariable] at hboxing
    obtain ⟨role, hreferences, htypes, hstorages⟩ := VariableType.references_boxing? hboxing
    rw [hreferences]
    exact .named hconsistent hvariable htypes hstorages
  | call function arguments span => cases hboxing

theorem Owes.of_constants (hconsistent : ctx.symbols.Consistent) {contract : HelperContract}
    (hmem : contract ∈ Builtin.contracts) : Owes ctx ctx (passes contract.trailingOperands) := by
  refine .of_accounts hconsistent (.constants ?_)
  intro reference hreference
  obtain ⟨operand, hoperand, rfl⟩ := List.mem_map.mp hreference
  exact ⟨rfl, contract, hmem, hoperand⟩

section Shapes

variable {k : Knowledge} {first second : Context} {operands : List Operand} {function : String}
  {arity : Nat} {wanted : Bool}

theorem Owes.test (h : Owes first second (passes operands)) (hcontracts : k.UsesContracts)
    {contract : HelperContract} (hshape : k.shape function arity wanted = .condition contract) :
    Owes first second (contract.conditionBoxing operands).references := by
  have hcontract := (hcontracts.of_shape_condition hshape).1
  rw [Boxing.references_condition]
  exact h.join (.of_constants h.grows.consistent (Builtin.contract?_eq_some hcontract).1)

theorem Owes.feed (h : Owes first second (passes operands)) (hcontracts : k.UsesContracts)
    {routine : Routine} (hshape : k.shape function arity wanted = .routine routine) :
    Owes first second (passes operands ++ passes routine.constants) := by
  cases routine with
  | helper contract =>
    have hcontract := (hcontracts.of_shape_helper hshape).1
    exact h.join (.of_constants h.grows.consistent (Builtin.contract?_eq_some hcontract).1)
  | function mode => exact h.join (.refl h.grows.consistent)

theorem Owes.discard (h : Owes first second (passes operands)) (mode : ArgumentMode)
    (function : String) : Owes first (second.discard (.function mode) function operands) [] := by
  have hcalled : Owes first second
      (((Routine.function mode).instruction function operands none).references ++ []) := by
    simpa [Routine.instruction, Instruction.references] using h
  exact hcalled.pay _ (second.discard_symbols _ _ _) (second.discard_instructions _ _ _)

end Shapes

end Boxings

section Derivations

variable {k : Knowledge} {declarations : List Declaration} {ctx ctx' : Context}

theorem Boxes.owes (hcontracts : k.UsesContracts) {arguments : List Expression}
    {mode : ArgumentMode} {operands : List Operand} (h : Boxes k arguments mode ctx operands ctx')
    (hextends : (declareAll declarations).symbols.Extends ctx.symbols)
    (hnames : ∀ name, Expression.anyReads name arguments = true →
      declaredType declarations name ≠ none) :
    Owes ctx ctx' (passes operands) := by
  induction h with
  | nil hconsistent => exact .refl hconsistent
  | @store argument boxing rest mode ctx operands ctx' hconsistent hboxing hrest ih =>
    obtain ⟨hfirst, hothers⟩ := Expression.forall_anyReads_cons.mp hnames
    have hboxed : Owes ctx ctx boxing.references := by
      refine .of_boxing? hconsistent hboxing ?_
      intro name hread
      obtain ⟨type, htype⟩ := Option.ne_none_iff_exists'.mp (hfirst name hread)
      exact ⟨type, hextends.find?_declared htype⟩
    have hstored := hboxed.box mode
    exact hstored.join (ih (hextends.trans hstored.grows.symbols) hothers)
  | @pass name span v rest mode ctx operands ctx' hconsistent hfind hboxed hrest ih =>
    obtain ⟨hfirst, hothers⟩ := Expression.forall_anyReads_cons.mp hnames
    obtain ⟨type, htype⟩ := Option.ne_none_iff_exists'.mp
      (hfirst name (by simp [Expression.reads]))
    cases hfind.symm.trans (hextends.find?_declared htype)
    cases hboxed
    have hpassed : Owes ctx ctx (passes [.var name]) :=
      .named hconsistent hfind (by decide) (by decide)
    exact hpassed.join (ih hextends hothers)
  | @condition function arguments span contract inner ctx₁ rest mode ctx operands ctx' hconsistent
      hshape harguments hrest iharguments ihrest =>
    obtain ⟨hfirst, hothers⟩ := Expression.forall_anyReads_cons.mp hnames
    have hinner : Owes ctx ctx₁ (passes inner) :=
      (iharguments (by simpa using hextends) hfirst).of_start (by simp) (by simp)
    have hstored := (hinner.test hcontracts hshape).box mode
    exact hstored.join (ihrest (hextends.trans hstored.grows.symbols) hothers)
  | @routine function arguments span routine inner ctx₁ rest mode ctx operands ctx' hconsistent
      hshape harguments hrest iharguments ihrest =>
    obtain ⟨hfirst, hothers⟩ := Expression.forall_anyReads_cons.mp hnames
    have hinner : Owes ctx ctx₁ (passes inner) :=
      (iharguments (by simpa using hextends) hfirst).of_start (by simp) (by simp)
    have hdelivered := (hinner.feed hcontracts hshape).deliver (Text.lowercase function)
      (.openFresh hinner.grows.consistent (.inl rfl))
    exact hdelivered.join (ihrest (hextends.trans hdelivered.grows.symbols) hothers)

theorem Owes.assignDelivered {first second third : Context} {call : Call} {name : String}
    {routine : Routine} {operands : List Operand} {destination : Destination}
    (h : Owes first second (passes operands ++ passes routine.constants))
    (hfind : second.symbols.find? name = some ⟨name, .named, .boxed⟩)
    (hbinds : Binds call (.inVariable name) second destination third) (function : String)
    (isRead : Bool) (span : Span) :
    Owes first
      ((third.deliver routine function operands destination).assign ⟨name, .named, .boxed⟩ isRead
        ⟨.var, .var destination.target.name, span⟩) [] := by
  have hconsistent := h.grows.consistent
  cases hbinds with
  -- The arguments read the variable, so the result is in a container of its own before the copy.
  | apart _ _ =>
    have hopened : Owes second ((second.allocate .heapTemporary).2.openFor second.fresh)
        [⟨.returned, .var second.fresh.target.name⟩, ⟨.copied, .var second.fresh.target.name⟩] :=
      .openFresh hconsistent (.inr rfl)
    have hkept := hopened.grows.symbols.kept hfind
    have hcopied : Owes first
        ((second.allocate .heapTemporary).2.deliver routine function operands second.fresh)
        [⟨.copied, .var second.fresh.target.name⟩, ⟨.overwritten, .var name⟩] :=
      h.deliver function
        (hopened.join (.named hopened.grows.consistent hkept (by decide) (by decide)))
    rw [Context.assign_fresh (fresh_name_ne hconsistent hfind)]
    exact Owes.emit hcopied
  | reused hsame _ =>
    cases hsame.symm.trans hfind
    have hopened : Owes second (second.openFor ⟨⟨name, .named, .boxed⟩, true⟩)
        [⟨.returned, .var name⟩] := .reinit hconsistent hfind (by decide) (by decide)
    rw [Context.assign_same]
    exact h.deliver function hopened

theorem HelperContract.references_storeBool (contract : HelperContract) (operands : List Operand)
    (target : Operand) :
    (Instruction.storeBool target (contract.condition operands)).references =
      (contract.conditionBoxing operands).references ++ [⟨.stored, target⟩] := rfl

theorem Owes.assignCondition {first second : Context} {name : String} {contract : HelperContract}
    {operands : List Operand} (h : Owes first second (contract.conditionBoxing operands).references)
    (hfind : second.symbols.find? name = some ⟨name, .named, .boxed⟩) (isRead : Bool)
    (span : Span) :
    Owes first
      (second.assign ⟨name, .named, .boxed⟩ isRead ⟨.bool, contract.condition operands, span⟩)
      [] := by
  have hconsistent := h.grows.consistent
  cases isRead with
  | true =>
    have hlife : Life .heapTemporary (Storage.heapTemporary.opening ++ [.stored, .copied]) :=
      .heap (.inl rfl) (.inr (.inr rfl))
    have hapart := Owes.allocate hconsistent (show Storage.heapTemporary ≠ .named by decide) hlife
    have hkept := hapart.grows.symbols.kept hfind
    have hassigned : Owes first (second.allocate .heapTemporary).2
        ((Instruction.storeBool second.fresh.target.handle
            (contract.condition operands)).references ++
          [⟨.copied, .var second.fresh.target.name⟩, ⟨.overwritten, .var name⟩]) := by
      rw [HelperContract.references_storeBool, List.append_assoc]
      exact h.join (hapart.join (.named hapart.grows.consistent hkept (by decide) (by decide)))
    have hstored : Owes first _
        [⟨.copied, .var second.fresh.target.name⟩, ⟨.overwritten, .var name⟩] := hassigned.emit
    exact Owes.emit hstored
  | false =>
    have hopened : Owes first (second.emit (.reinit (.var name)))
        ((Instruction.storeBool (.var name) (contract.condition operands)).references ++ []) := by
      rw [HelperContract.references_storeBool, List.append_nil]
      exact h.join (.reinit hconsistent hfind (by decide) (by decide))
    exact hopened.emit

theorem Performs.owes (hcontracts : k.UsesContracts) {statement : Statement}
    (h : Performs k statement ctx ctx')
    (hextends : (declareAll declarations).symbols.Extends ctx.symbols)
    (hnames : ∀ name, statement.mentions name = true → declaredType declarations name ≠ none) :
    Owes ctx ctx' [] := by
  cases h with
  | @call call result _ _ hcompiles =>
    cases hcompiles with
    | @condition contract arguments _ _ _ hshape harguments =>
      have hpassed := harguments.owes hcontracts (by simpa using hextends) hnames
      exact hpassed.forget.of_start (by simp) (by simp)
    | @discarded mode arguments _ ctx₁ hshape harguments =>
      have hpassed := harguments.owes hcontracts (by simpa using hextends) hnames
      exact (hpassed.discard mode (Text.lowercase call.function)).of_start (by simp) (by simp)
    | delivered _ _ hdestination _ => exact absurd rfl hdestination.wanted
  | @assign name call result v _ ctx₁ hcompiles hfind hboxed =>
    obtain ⟨hdeclared, hread⟩ := Statement.forall_mentions_assign.mp hnames
    obtain ⟨type, htype⟩ := Option.ne_none_iff_exists'.mp hdeclared
    cases hfind.symm.trans ((hextends.trans hcompiles.grows.symbols).find?_declared htype)
    cases hboxed
    cases hcompiles with
    | @condition contract arguments _ _ _ hshape harguments =>
      have hpassed := harguments.owes hcontracts (by simpa using hextends) hread
      have hassigned := (hpassed.test hcontracts hshape).assignCondition hfind
        (call.argumentsRead name) call.span
      exact hassigned.of_start (by simp) (by simp)
    | @delivered routine arguments destination _ _ ctx₂ ctx₃ hshape harguments hdestination _ =>
      have hpassed := harguments.owes hcontracts (by simpa using hextends) hread
      have harrived := (hextends.trans (harguments.grows.of_prepared).symbols).find?_declared htype
      have hassigned := (hpassed.feed hcontracts hshape).assignDelivered harrived hdestination
        (Text.lowercase call.function) (call.argumentsRead name) call.span
      exact hassigned.of_start (by simp) (by simp)

theorem Runs.owes (hcontracts : k.UsesContracts) {statements : List Statement}
    (h : Runs k statements ctx ctx')
    (hextends : (declareAll declarations).symbols.Extends ctx.symbols)
    (hnames : ∀ statement ∈ statements, ∀ name, statement.mentions name = true →
      declaredType declarations name ≠ none) :
    Owes ctx ctx' [] := by
  induction h with
  | nil hconsistent => exact .refl hconsistent
  | cons hperforms _ ih =>
    obtain ⟨hfirst, hothers⟩ := List.forall_mem_cons.mp hnames
    have hperformed := hperforms.owes hcontracts hextends hfirst
    exact hperformed.join (ih (hextends.trans hperformed.grows.symbols) hothers)

end Derivations

theorem compileUnit_accounts {compiler : Compiler} (hcontracts : compiler.knowledge.UsesContracts)
    {unit : CallUnit} {compiled : CompiledFunction}
    (hdeclared : ∀ name, unit.mentions name = true → unit.declares name)
    (h : (compileUnit unit compiler).1 = .ok compiled) :
    Accounts (declareAll unit.declarations).symbols compiled.context.symbols
      compiled.context.references := by
  have howes := (compileUnit_runs hcontracts.followsCalls h).owes hcontracts (.refl _)
    (CallUnit.declaredType_of_mentions hdeclared)
  obtain ⟨emitted, hemitted, haccounts⟩ := howes.accounts
  have hstart : (declareAll unit.declarations).references = [] := by
    rw [Context.references, declareAll_instructions]
    rfl
  rw [hstart, List.nil_append] at hemitted
  rw [hemitted, ← List.append_nil emitted]
  exact haccounts

end BoxedCalls
