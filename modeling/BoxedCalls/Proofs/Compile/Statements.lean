import BoxedCalls.Proofs.Compile.Success

namespace BoxedCalls

open CompileM

namespace Context

def copy (ctx : Context) (target : Operand) (source : Code) : Context :=
  if source.render = target.render then ctx else ctx.emit (.copyOnWrite target source.operand)

def storeApart (ctx : Context) (target : Operand) (value : Compiled) : Context :=
  ((ctx.allocate .heapTemporary).2.emit (storeScalar ctx.fresh.target.handle value)).emit
    (.copyOnWrite target (.var ctx.fresh.target.name))

def storeInto (ctx : Context) (target : Operand) (value : Compiled) : Context :=
  (ctx.emit (.reinit target)).emit (storeScalar target value)

def assign (ctx : Context) (v : Variable) (isRead : Bool) (value : Compiled) : Context :=
  if value.kind = .var then ctx.copy v.handle value.code
  else if isRead then ctx.storeApart v.handle value
  else ctx.storeInto v.handle value

end Context

inductive Performs (k : Knowledge) : Statement → Context → Context → Prop where
  | call {call result ctx ctx'} (hcompiles : Compiles k call .nothing ctx result ctx') :
      Performs k (.call call) ctx ctx'
  | assign {name call result v ctx ctx'}
      (hcompiles : Compiles k call (.inVariable name) ctx result ctx')
      (hfind : ctx'.symbols.find? name = some v) (hboxed : v.type = .boxed) :
      Performs k (.assign name call) ctx (ctx'.assign v (call.argumentsRead name) result)

inductive Runs (k : Knowledge) : List Statement → Context → Context → Prop where
  | nil {ctx} (hconsistent : ctx.symbols.Consistent) : Runs k [] ctx ctx
  | cons {statement rest ctx ctx₁ ctx'} (hperforms : Performs k statement ctx ctx₁)
      (hrest : Runs k rest ctx₁ ctx') : Runs k (statement :: rest) ctx ctx'

theorem copyResult_run (target : Operand) (source : Code) (w : Workspace) :
    copyResult target source w = .ok () { w with context := w.context.copy target source } := by
  unfold copyResult Context.copy
  split <;> rfl

theorem assignScalar_run (target : Operand) (isRead : Bool) (value : Compiled) (w : Workspace) :
    assignScalar target isRead value w =
      .ok ()
        { w with
          context :=
            if isRead then w.context.storeApart target value
            else w.context.storeInto target value } := by
  cases isRead <;> rfl

theorem Context.Grows.copy {ctx : Context} (h : ctx.symbols.Consistent) (target : Operand)
    (source : Code) : ctx.Grows (ctx.copy target source) := by
  unfold Context.copy
  split
  · exact .refl h
  · exact .of_symbols_eq h (by simp) (by simp)

theorem Context.Grows.assign {ctx : Context} (h : ctx.symbols.Consistent) (v : Variable)
    (isRead : Bool) (value : Compiled) : ctx.Grows (ctx.assign v isRead value) := by
  unfold Context.assign
  split
  · exact .copy h _ _
  · split
    · exact (Context.Grows.allocate h).trans
        (.of_symbols_eq (h.allocate .heapTemporary) (by simp [storeApart]) (by simp [storeApart]))
    · exact .of_symbols_eq h (by simp [storeInto]) (by simp [storeInto])

theorem Performs.grows {k : Knowledge} {statement : Statement} {ctx ctx' : Context}
    (h : Performs k statement ctx ctx') : ctx.Grows ctx' := by
  cases h with
  | call hcompiles => exact hcompiles.grows
  | assign hcompiles _ _ => exact hcompiles.grows.trans (.assign hcompiles.grows.consistent _ _ _)

theorem Runs.grows {k : Knowledge} {statements : List Statement} {ctx ctx' : Context}
    (h : Runs k statements ctx ctx') : ctx.Grows ctx' := by
  induction h with
  | nil hconsistent => exact .refl hconsistent
  | cons hperforms _ ih => exact hperforms.grows.trans ih

section Names

variable {ctx ctx' : Context} {name : String} {v : Variable}

theorem Context.Grows.allocated_ne (h : ctx.Grows ctx') (hfind : ctx.symbols.find? name = some v)
    (storage : Storage) : (ctx'.symbols.allocate storage).1.name ≠ name := by
  rintro rfl
  have hkept := h.symbols.kept hfind
  rw [h.consistent.find?_allocated_name] at hkept
  cases hkept

theorem fresh_name_ne (h : ctx.symbols.Consistent) (hfind : ctx.symbols.find? name = some v) :
    ctx.fresh.target.name ≠ name := by
  rw [Context.fresh_target]
  exact (Context.Grows.refl h).allocated_ne hfind .heapTemporary

theorem Context.assign_fresh {other : String} (h : other ≠ name) (isRead : Bool) (span : Span) :
    ctx.assign ⟨name, .named, .boxed⟩ isRead ⟨.var, .var other, span⟩ =
      ctx.emit (.copyOnWrite (.var name) (.var other)) :=
  if_neg h

theorem Context.assign_same (name : String) (isRead : Bool) (span : Span) :
    ctx.assign ⟨name, .named, .boxed⟩ isRead ⟨.var, .var name, span⟩ = ctx :=
  if_pos (show name = name from rfl)

end Names

section Soundness

variable {k : Knowledge} {w w' : Workspace}

theorem compileStatement_performs (hfollows : k.FollowsCalls) {statement : Statement}
    (hready : w.Ready k) {u : Unit} (h : compileStatement statement w = .ok u w') :
    Performs k statement w.context w'.context ∧ w'.compiler.knowledge = k := by
  cases statement with
  | call call =>
    obtain ⟨result, w₁, hcall, hpure⟩ := bind_eq_ok.mp h
    cases hpure
    obtain ⟨hcompiles, hknowledge⟩ := compileCall_derives hfollows hready hcall
    exact ⟨.call hcompiles, hknowledge⟩
  | assign name call =>
    obtain ⟨result, w₁, hcall, h₁⟩ := bind_eq_ok.mp h
    obtain ⟨hcompiles, hknowledge⟩ := compileCall_derives hfollows hready hcall
    obtain ⟨v, w₂, hlookup, h₂⟩ := bind_eq_ok.mp h₁
    obtain ⟨hfind, rfl⟩ := lookup_eq_ok hlookup
    obtain ⟨_, w₃, hcheck, h₃⟩ := bind_eq_ok.mp h₂
    obtain ⟨hboxed, rfl⟩ := checkBoxed_eq_ok hcheck
    have hw' : w' = { w₃ with
        context := w₃.context.assign v (call.argumentsRead name) result } := by
      unfold Context.assign
      split at h₃
      · next hkind =>
        rw [copyResult_run] at h₃
        cases h₃
        rw [if_pos hkind]
      · next hkind =>
        rw [assignScalar_run] at h₃
        cases h₃
        rw [if_neg hkind]
    rw [hw']
    exact ⟨.assign hcompiles hfind hboxed, hknowledge⟩

theorem compileStatements_runs (hfollows : k.FollowsCalls) {statements : List Statement}
    (hready : w.Ready k) {u : Unit} (h : compileStatements statements w = .ok u w') :
    Runs k statements w.context w'.context ∧ w'.compiler.knowledge = k := by
  induction statements generalizing w with
  | nil =>
    cases h
    exact ⟨.nil hready.consistent, hready.knowledge⟩
  | cons statement rest ih =>
    obtain ⟨_, w₁, hstatement, hrest⟩ := bind_eq_ok.mp h
    obtain ⟨hperforms, hknowledge⟩ := compileStatement_performs hfollows hready hstatement
    have hconsistent := hperforms.grows.consistent
    obtain ⟨hruns, hknowledge⟩ := ih ⟨hknowledge, hconsistent⟩ hrest
    exact ⟨.cons hperforms hruns, hknowledge⟩

theorem compileUnit_runs {compiler : Compiler} (hfollows : compiler.knowledge.FollowsCalls)
    {unit : CallUnit} {compiled : CompiledFunction}
    (h : (compileUnit unit compiler).1 = .ok compiled) :
    Runs compiler.knowledge unit.statements (declareAll unit.declarations) compiled.context := by
  unfold compileUnit at h
  split at h
  · next hrun =>
    cases h
    exact (compileStatements_runs hfollows
      ⟨rfl, declareAll_consistent unit.declarations⟩ hrun).1
  · cases h

end Soundness

def acceptedCode (unit : CallUnit) (compiler : Compiler) : Option (List Instruction) :=
  (compileUnit unit compiler).1.toOption.map (·.context.instructions)

theorem acceptedCode_eq_some_iff {unit : CallUnit} {compiler : Compiler}
    {code : List Instruction} :
    acceptedCode unit compiler = some code ↔
      ∃ compiled, (compileUnit unit compiler).1 = .ok compiled ∧
        compiled.context.instructions = code := by
  unfold acceptedCode
  cases (compileUnit unit compiler).1 with
  | error error => simp [Except.toOption]
  | ok compiled => simp [Except.toOption]

end BoxedCalls
