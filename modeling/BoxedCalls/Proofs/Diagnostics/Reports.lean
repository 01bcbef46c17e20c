import BoxedCalls.Proofs.Compile.Success
import BoxedCalls.Proofs.Compile.Builtins
import BoxedCalls.Proofs.Diagnostics.Violations

namespace BoxedCalls

open CompileM

/-- An outcome with an error has the first violation. One without has none before it. -/
def Reports {α : Type} (violations : List CompileError) :
    EStateM.Result CompileError Workspace α → Prop
  | .ok _ _ => violations = []
  | .error error _ => violations.head? = some error

namespace Reports

variable {α β : Type} {first second : List CompileError}

theorem bind {x : CompileM α} {f : α → CompileM β} {w : Workspace} (hx : Reports first (x w))
    (hf : ∀ {a w'}, x w = .ok a w' → Reports second (f a w')) :
    Reports (first ++ second) ((x >>= f) w) := by
  rw [bind_run]
  cases hrun : x w with
  | ok a w' =>
    rw [hrun] at hx
    have hnil : first = [] := hx
    rw [hnil]
    exact hf hrun
  | error error w' =>
    rw [hrun] at hx
    have hhead : first.head? = some error := hx
    change (first ++ second).head? = some error
    rw [List.head?_append, hhead]
    rfl

theorem of_ok {x : EStateM.Result CompileError Workspace α} {a : α} {w : Workspace}
    (h : x = .ok a w) : Reports [] x := by
  rw [h]
  rfl

end Reports

def ReportsPartly {α : Type} (violations checks : List CompileError)
    (outcome : EStateM.Result CompileError Workspace α) : Prop :=
  ∃ made, (made = [] ∨ made = checks) ∧ Reports (violations ++ made) outcome

namespace ReportsPartly

variable {α β : Type} {first checks : List CompileError}

theorem of_reports {outcome : EStateM.Result CompileError Workspace α} (h : Reports first outcome) :
    ReportsPartly first checks outcome :=
  ⟨[], .inl rfl, by rwa [List.append_nil]⟩

theorem reports {outcome : EStateM.Result CompileError Workspace α}
    (h : ReportsPartly first [] outcome) : Reports first outcome := by
  obtain ⟨made, hmade, hreports⟩ := h
  have hnil : made = [] := hmade.elim id id
  rwa [hnil, List.append_nil] at hreports

theorem of_ok {outcome : EStateM.Result CompileError Workspace α} {a : α} {w : Workspace}
    (h : outcome = .ok a w) : ReportsPartly [] checks outcome :=
  .of_reports (.of_ok h)

theorem bind {x : CompileM α} {f : α → CompileM β} {w : Workspace} (hx : Reports first (x w))
    (hf : ∀ {a w'}, x w = .ok a w' → ReportsPartly [] checks (f a w')) :
    ReportsPartly first checks ((x >>= f) w) := by
  cases hrun : x w with
  | ok a w' =>
    obtain ⟨made, hmade, hreports⟩ := hf hrun
    refine ⟨made, hmade, Reports.bind hx fun {b w''} hsame => ?_⟩
    cases hrun.symm.trans hsame
    exact hreports
  | error error w' =>
    refine ⟨[], .inl rfl, Reports.bind hx fun {b w''} hsame => ?_⟩
    cases hrun.symm.trans hsame

theorem followed {x : CompileM α} {f : α → CompileM β} {w : Workspace}
    (hx : ReportsPartly first checks (x w))
    (hf : ∀ {a w'}, x w = .ok a w' → Reports checks (f a w')) :
    Reports (first ++ checks) ((x >>= f) w) := by
  obtain ⟨made, hmade, hreports⟩ := hx
  have htwice : Reports (first ++ made ++ checks) ((x >>= f) w) := hreports.bind hf
  rcases hmade with rfl | rfl
  · rwa [List.append_nil] at htwice
  · cases hresult : (x >>= f) w with
    | ok b w' =>
      rw [hresult] at htwice
      have hnil : first ++ made ++ made = [] := htwice
      exact List.append_eq_nil_iff.mpr ⟨by simp_all, by simp_all⟩
    | error error w' =>
      rw [hresult] at htwice
      have hhead : (first ++ made ++ made).head? = some error := htwice
      change (first ++ made).head? = some error
      simpa [List.head?_append, Option.or_assoc] using hhead

end ReportsPartly

structure Workspace.Elaborates (k : Knowledge) (declarations : List Declaration) (w : Workspace) :
    Prop where
  ready : w.Ready k
  extends_declared : (declareAll declarations).symbols.Extends w.context.symbols

namespace Workspace.Elaborates

variable {k : Knowledge} {declarations : List Declaration} {w w' : Workspace}

theorem find?_eq (h : w.Elaborates k declarations) {name : String}
    (hname : Settled declarations name) :
    w.context.symbols.find? name =
      (declaredType declarations name).map fun type => ⟨name, .named, type⟩ :=
  h.extends_declared.find?_settled hname

theorem of_grows (h : w.Elaborates k declarations) (hgrows : w.context.Grows w'.context)
    (hknowledge : w'.compiler.knowledge = k) : w'.Elaborates k declarations where
  ready := ⟨hknowledge, hgrows.consistent⟩
  extends_declared := h.extends_declared.trans hgrows.symbols

theorem of_symbols_eq (h : w.Elaborates k declarations)
    (hsymbols : w'.context.symbols = w.context.symbols)
    (hknowledge : w'.compiler.knowledge = k) : w'.Elaborates k declarations where
  ready := ⟨hknowledge, hsymbols ▸ h.ready.consistent⟩
  extends_declared := hsymbols ▸ h.extends_declared

end Workspace.Elaborates

section Destinations

variable {k : Knowledge} {declarations : List Declaration} {w : Workspace} {call : Call}

def Demand.violations (types : String → Option VariableType) (span : Span) :
    Demand → List CompileError
  | nothing => []
  | anywhere => []
  | inVariable name => targetViolations name span (types name)

def Demand.Settled (declarations : List Declaration) : Demand → Prop
  | nothing => True
  | anywhere => True
  | inVariable name => BoxedCalls.Settled declarations name

theorem lookup_run (h : w.Elaborates k declarations) {name : String}
    (hname : Settled declarations name) (span : Span) :
    lookup name span w =
      match declaredType declarations name with
      | some type => .ok ⟨name, .named, type⟩ w
      | none => .error ⟨.undeclaredVariable name, span⟩ w := by
  unfold lookup Context.lookup
  rw [h.find?_eq hname]
  cases declaredType declarations name <;> rfl

theorem choose_reports (h : w.Elaborates k declarations) {demand : Demand}
    (hdemand : demand.Settled declarations) {f : Option Destination → CompileM Compiled}
    (hnone : demand = .nothing → ∀ w, ∃ result w', f none w = .ok result w')
    (hsome : ∀ destination, ∃ g : Unit → CompileM Compiled,
      f (some destination) = checkBoxed destination call.span >>= g ∧
      ∀ w, ∃ result w', g () w = .ok result w') :
    ReportsPartly [] (demand.violations (declaredType declarations) call.span)
      ((chooseDestination call demand >>= f) w) := by
  have hboxed : ∀ (destination : Destination) (w : Workspace), destination.target.type = .boxed →
      ∃ result w', f (some destination) w = .ok result w' := by
    intro destination w htype
    obtain ⟨g, hf, hg⟩ := hsome destination
    obtain ⟨result, w', hrun⟩ := hg w
    refine ⟨result, w', ?_⟩
    rw [hf, bind_run, checkBoxed, if_pos htype]
    exact hrun
  cases demand with
  | nothing =>
    obtain ⟨result, w', hrun⟩ := hnone rfl w
    exact .of_ok hrun
  | anywhere =>
    obtain ⟨result, w', hrun⟩ :=
      hboxed w.context.fresh ⟨w.compiler, (w.context.allocate .heapTemporary).2⟩ (by simp)
    exact .of_ok hrun
  | inVariable name =>
    have hlookup := lookup_run h hdemand call.span
    change ReportsPartly [] (targetViolations name call.span (declaredType declarations name)) _
    cases htype : declaredType declarations name with
    | none =>
      rw [htype] at hlookup
      refine ⟨_, .inr rfl, ?_⟩
      simp only [chooseDestination, bind_assoc]
      rw [bind_run, hlookup]
      rfl
    | some type =>
      rw [htype] at hlookup
      simp only [chooseDestination, bind_assoc]
      rw [bind_run, hlookup]
      simp only
      by_cases hread : call.argumentsRead name = true
      · obtain ⟨result, w', hrun⟩ :=
          hboxed w.context.fresh ⟨w.compiler, (w.context.allocate .heapTemporary).2⟩ (by simp)
        refine ⟨[], .inl rfl, ?_⟩
        rw [if_pos hread]
        exact .of_ok hrun
      · refine ⟨_, .inr rfl, ?_⟩
        rw [if_neg hread]
        by_cases hboxedType : type = .boxed
        · subst hboxedType
          obtain ⟨result, w', hrun⟩ := hboxed ⟨⟨name, .named, .boxed⟩, true⟩ w rfl
          exact .of_ok hrun
        · obtain ⟨g, hf, _⟩ := hsome ⟨⟨name, .named, type⟩, true⟩
          change Reports _ (f (some ⟨⟨name, .named, type⟩, true⟩) w)
          rw [hf, bind_run, checkBoxed, if_neg hboxedType,
            targetViolations_of_ne_boxed name call.span hboxedType]
          rfl

end Destinations

end BoxedCalls
