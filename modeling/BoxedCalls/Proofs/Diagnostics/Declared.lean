import BoxedCalls.Proofs.Diagnostics.FirstViolation

namespace BoxedCalls

section Found

variable {k : Knowledge} {name : String}

theorem Context.Grows.found {first second : Context} (h : first.Grows second) {v : Variable}
    (hfind : first.symbols.find? name = some v) : ∃ v, second.symbols.find? name = some v :=
  ⟨v, h.symbols.kept hfind⟩

theorem Boxes.found {arguments : List Expression} {mode : ArgumentMode} {ctx ctx' : Context}
    {operands : List Operand} (h : Boxes k arguments mode ctx operands ctx')
    (hread : Expression.anyReads name arguments = true) :
    ∃ v, ctx'.symbols.find? name = some v := by
  induction h with
  | nil _ => simp [Expression.anyReads] at hread
  | @store argument boxing rest mode ctx operands ctx' hconsistent hboxing hrest ih =>
    rw [Expression.anyReads, Bool.or_eq_true] at hread
    rcases hread with hfirst | hothers
    · cases argument with
      | literal value span => simp [Expression.reads] at hfirst
      | call function arguments span => cases hboxing
      | var other span =>
        have hname : other = name := by simpa [Expression.reads] using hfirst
        subst hname
        obtain ⟨v, hfind, _⟩ := Option.bind_eq_some_iff.mp hboxing
        exact ((Context.Grows.box hconsistent mode boxing).trans hrest.grows).found hfind
    · exact ih hothers
  | @pass other span v rest mode ctx operands ctx' hconsistent hfind hboxed hrest ih =>
    rw [Expression.anyReads, Bool.or_eq_true] at hread
    rcases hread with hfirst | hothers
    · have hname : other = name := by simpa [Expression.reads] using hfirst
      subst hname
      exact hrest.grows.found hfind
    · exact ih hothers
  | condition _ _ harguments hrest iharguments ihrest =>
    rw [Expression.anyReads, Bool.or_eq_true] at hread
    rcases hread with hfirst | hothers
    · obtain ⟨v, hfind⟩ := iharguments hfirst
      exact ((Context.Grows.box harguments.grows.consistent _ _).trans hrest.grows).found hfind
    · exact ihrest hothers
  | routine _ _ harguments hrest iharguments ihrest =>
    rw [Expression.anyReads, Bool.or_eq_true] at hread
    rcases hread with hfirst | hothers
    · obtain ⟨v, hfind⟩ := iharguments hfirst
      exact ((Context.Grows.deliverFresh harguments.grows.consistent _ _ _).trans
        hrest.grows).found hfind
    · exact ihrest hothers

theorem Compiles.found {call : Call} {demand : Demand} {ctx ctx' : Context} {result : Compiled}
    (h : Compiles k call demand ctx result ctx') (hread : call.argumentsRead name = true) :
    ∃ v, ctx'.symbols.find? name = some v := by
  cases h with
  | condition _ harguments => exact harguments.found hread
  | discarded _ harguments => simpa using harguments.found hread
  | delivered _ harguments hdestination _ =>
    obtain ⟨v, hfind⟩ := harguments.found hread
    simpa using (hdestination.grows harguments.grows.consistent).found hfind

theorem Performs.found {statement : Statement} {ctx ctx' : Context}
    (h : Performs k statement ctx ctx') (hmentions : statement.mentions name = true) :
    ∃ v, ctx'.symbols.find? name = some v := by
  cases h with
  | call hcompiles => exact hcompiles.found hmentions
  | @assign target call result v _ ctx₁ hcompiles hfind hboxed =>
    have hassign := Context.Grows.assign hcompiles.grows.consistent v
      (call.argumentsRead target) result
    rw [Statement.mentions, Bool.or_eq_true, decide_eq_true_eq] at hmentions
    rcases hmentions with rfl | hread
    · exact hassign.found hfind
    · obtain ⟨w, hw⟩ := hcompiles.found hread
      exact hassign.found hw

theorem Runs.found {statements : List Statement} {ctx ctx' : Context}
    (h : Runs k statements ctx ctx') (hmentions : statements.any (·.mentions name) = true) :
    ∃ v, ctx'.symbols.find? name = some v := by
  induction h with
  | nil _ => cases hmentions
  | cons hperforms hrest ih =>
    rw [List.any_cons, Bool.or_eq_true] at hmentions
    rcases hmentions with hfirst | hothers
    · obtain ⟨v, hfind⟩ := hperforms.found hfirst
      exact hrest.grows.found hfind
    · exact ih hothers

end Found

section Undeclared

variable {host : HostFunctions} {types : String → Option VariableType} {name : String}

mutual

theorem Expression.undeclared_mem_violations (argument : Expression) (hname : types name = none)
    (hread : argument.reads name = true) :
    ∃ span, ⟨.undeclaredVariable name, span⟩ ∈ argument.violations host types := by
  cases argument with
  | literal value span => simp [reads] at hread
  | var other span =>
    have hother : other = name := by simpa [reads] using hread
    subst hother
    exact ⟨span, by simp [violations, hname, readViolations]⟩
  | call function arguments span =>
    obtain ⟨place, hmem⟩ := undeclared_mem_allViolations arguments hname hread
    exact ⟨place, List.mem_append_right _ hmem⟩

theorem Expression.undeclared_mem_allViolations (arguments : List Expression)
    (hname : types name = none) (hread : anyReads name arguments = true) :
    ∃ span, ⟨.undeclaredVariable name, span⟩ ∈ allViolations host types arguments := by
  cases arguments with
  | nil => simp [anyReads] at hread
  | cons argument rest =>
    rw [anyReads, Bool.or_eq_true] at hread
    rcases hread with hfirst | hothers
    · obtain ⟨span, hmem⟩ := argument.undeclared_mem_violations hname hfirst
      exact ⟨span, List.mem_append_left _ hmem⟩
    · obtain ⟨span, hmem⟩ := undeclared_mem_allViolations rest hname hothers
      exact ⟨span, List.mem_append_right _ hmem⟩

end

theorem Statement.undeclared_mem_violations {statement : Statement} (hname : types name = none)
    (hmentions : statement.mentions name = true) :
    ∃ span, ⟨.undeclaredVariable name, span⟩ ∈ statement.violations host types := by
  cases statement with
  | call call =>
    obtain ⟨span, hmem⟩ :=
      Expression.undeclared_mem_allViolations call.arguments hname hmentions
    exact ⟨span, List.mem_append_right _ hmem⟩
  | assign target call =>
    rw [mentions, Bool.or_eq_true, decide_eq_true_eq] at hmentions
    rcases hmentions with rfl | hread
    · exact ⟨call.span, List.mem_append_right _ (by simp [hname, targetViolations])⟩
    · obtain ⟨span, hmem⟩ := Expression.undeclared_mem_allViolations call.arguments hname hread
      exact ⟨span, List.mem_append_left _ (List.mem_append_right _ hmem)⟩

variable (host) in
theorem CallUnit.undeclared_mem_violations {unit : CallUnit} (hname : ¬ unit.declares name)
    (hmentions : unit.mentions name = true) :
    ∃ span, ⟨.undeclaredVariable name, span⟩ ∈ unit.violations host := by
  obtain ⟨statement, hmem, hstatement⟩ := List.any_eq_true.mp hmentions
  obtain ⟨span, hviolation⟩ :=
    Statement.undeclared_mem_violations (declaredType_eq_none_iff.mpr hname) hstatement
  exact ⟨span, List.mem_flatMap.mpr ⟨statement, hmem, hviolation⟩⟩

end Undeclared

theorem OptimizerTable.plain_builtin : builtin.Plain := .inl rfl

theorem declares_or_temporary_of_accepted {unit : CallUnit} {compiled : CompiledFunction}
    (h : (compileUnit unit .standard).1 = .ok compiled) {name : String}
    (hmentions : unit.mentions name = true) :
    unit.declares name ∨
      ∃ v number, compiled.context.symbols.find? name = some v ∧ v.isTemporary = true ∧
        name = temporaryName number := by
  have hknowledge := Compiler.usesContracts_new .standard OptimizerTable.plain_builtin
  have hruns := compileUnit_runs hknowledge.followsCalls h
  obtain ⟨v, hfind⟩ := hruns.found hmentions
  rcases hruns.grows.symbols.added hfind with hold | ⟨_, htemporary, _, number, hname⟩
  · rw [find?_declareAll] at hold
    by_cases hdeclares : unit.declares name
    · exact .inl hdeclares
    · simp [declaredType_eq_none_iff.mpr hdeclares] at hold
  · exact .inr ⟨v, number, hfind, htemporary, hname⟩

theorem accepted_names_declared_iff (unit : CallUnit) :
    ((∃ compiled, (compileUnit unit .standard).1 = .ok compiled) →
      ((∀ name, unit.mentions name = true → unit.declares name) ↔ unit.SparesTemporaries)) ∧
    (unit.SparesTemporaries → ∀ name, unit.mentions name = true → ¬ unit.declares name →
      ∃ error later span, unit.violations .standard = error :: later ∧
        ⟨.undeclaredVariable name, span⟩ ∈ error :: later ∧
        (compileUnit unit .standard).1 = .error error) := by
  constructor
  · rintro ⟨compiled, hcompiled⟩
    constructor
    · intro hdeclared number hmentions
      exact hdeclared (temporaryName number) hmentions
    · intro hspares name hmentions
      rcases declares_or_temporary_of_accepted hcompiled hmentions with
        hdeclares | ⟨v, number, _, _, rfl⟩
      · exact hdeclares
      · exact hspares number hmentions
  · intro hspares name hmentions hundeclared
    obtain ⟨span, hmem⟩ := CallUnit.undeclared_mem_violations .standard hundeclared hmentions
    cases hviolations : unit.violations .standard with
    | nil =>
      rw [hviolations] at hmem
      cases hmem
    | cons error later =>
      rw [hviolations] at hmem
      exact ⟨error, later, span, rfl, hmem,
        compileUnit_eq_error OptimizerTable.plain_builtin hspares hviolations⟩

def CallUnit.misspelledTarget : CallUnit where
  functionName := "f"
  declarations := [⟨"text", .string⟩, ⟨"size", .boxed⟩]
  statements := [
    .assign "size" ⟨"strlen", [.var "text" (.point 1 8)], .point 1 1⟩,
    .assign "sise" ⟨"strlen", [.var "text" (.point 2 8)], .point 2 1⟩]

theorem misspelledTarget_sparesTemporaries : CallUnit.misspelledTarget.SparesTemporaries := by
  intro number hmentions
  have hsize : "size" ≠ temporaryName number := ne_temporaryName (by decide) number
  have hsise : "sise" ≠ temporaryName number := ne_temporaryName (by decide) number
  have htext : "text" ≠ temporaryName number := ne_temporaryName (by decide) number
  simp [CallUnit.mentions, CallUnit.misspelledTarget, Statement.mentions, Call.argumentsRead,
    Expression.anyReads, Expression.reads, hsize, hsise, htext] at hmentions

theorem misspelledTarget_refused :
    CallUnit.misspelledTarget.SparesTemporaries ∧
      ∃ error later span, CallUnit.misspelledTarget.violations .standard = error :: later ∧
        ⟨.undeclaredVariable "sise", span⟩ ∈ error :: later ∧
        (compileUnit .misspelledTarget .standard).1 = .error error :=
  ⟨misspelledTarget_sparesTemporaries,
    (accepted_names_declared_iff .misspelledTarget).2 misspelledTarget_sparesTemporaries "sise"
      (by decide) (by decide)⟩

def CallUnit.readingTemporary : CallUnit where
  functionName := "f"
  statements := [.call ⟨"foo", [.literal (.int 1) {}, .var "_0" {}], {}⟩]

theorem not_accepted_names_declared :
    ¬ ∀ unit compiled, (compileUnit unit .standard).1 = .ok compiled →
      ∀ name, unit.mentions name = true → unit.declares name := by
  intro hdeclared
  have haccepted : ∃ compiled, (compileUnit .readingTemporary .standard).1 = .ok compiled :=
    ⟨_, rfl⟩
  obtain ⟨compiled, hcompiled⟩ := haccepted
  have hdeclares := hdeclared .readingTemporary compiled hcompiled "_0" (by decide)
  exact absurd hdeclares (by decide)

end BoxedCalls
