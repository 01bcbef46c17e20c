import BoxedCalls.Proofs.Caches.Transparency
import BoxedCalls.Proofs.Text.Lines
import BoxedCalls.Proofs.Text.Literal

namespace BoxedCalls

open CompileM

theorem literals?_callFunction {function : String} {destination : Option Operand}
    {arguments : List Operand}
    (hoperands : ∀ operand ∈ destination.toList ++ arguments, Quoteless operand.render) :
    literals? (Instruction.callFunction function destination arguments).render =
        some [utf8 function.toList] ↔
      function.toList.all isVerbatim = true := by
  obtain ⟨hdestination, harguments⟩ := List.forall_mem_append.mp hoperands
  obtain ⟨before, after, hbefore, hafter, hlist⟩ :=
    Avoids.intercalate_around (by decide) ("\"" ++ function ++ "\"")
      (List.forall_mem_map.mpr hdestination) (List.forall_mem_map.mpr harguments)
  have hopening : Quoteless (callRoutine arguments.length destination.isSome ++ "(" ++ before) :=
    ((Avoids.callRoutine (by decide) _ _).append (by decide)).append hbefore
  have hclosing : Quoteless (after ++ ");") :=
    hafter.append (by decide)
  have hline : (Instruction.callFunction function destination arguments).render =
      .ofList ((callRoutine arguments.length destination.isSome ++ "(" ++ before).toList ++
        '"' :: function.toList ++ '"' :: (after ++ ");").toList) := by
    rw [Instruction.render, Instruction.line, hlist, String.ext_iff]
    simp [String.toList_append]
  rw [hline]
  exact literals?_eq_singleton_iff hopening.quote hclosing.quote

def Context.Quoteless (ctx : Context) : Prop :=
  ∀ v ∈ ctx.symbols.entries, BoxedCalls.Quoteless v.name

theorem Context.LeadsTo.changes {calls : List Call} {p : String → Prop} {ctx : Context} {α : Type}
    {P : α → Prop} {x : CompileM α} {compiler : Compiler}
    (h : ctx.LeadsTo calls p P (x ⟨compiler, ctx⟩)) :
    ctx.Changes calls p (x.outcome compiler ctx).2 := by
  unfold CompileM.outcome
  generalize x ⟨compiler, ctx⟩ = result at h ⊢
  cases h with
  | ok _ hchanges => exact hchanges
  | error hchanges => exact hchanges

theorem call_names_denoted_iff (compiler : Compiler) (call : Call) (demand : Demand)
    {ctx : Context} (hquoteless : ctx.Quoteless) :
    ∀ instruction ∈ ((compileCall call demand).outcome compiler ctx).2.instructions,
      instruction ∈ ctx.instructions ∨
        ∀ function destination arguments,
          instruction = .callFunction function destination arguments →
            (∃ named ∈ call.callsInPreorder, Text.lowercase named.function = function) ∧
              (literals? instruction.render = some [utf8 function.toList] ↔
                function.toList.all isVerbatim = true) := by
  have hbuilds := CompileM.Builds.compileCall call (List.Subset.refl _) demand ⟨compiler, ctx⟩
    ⟨Avoids.temporaryName (by decide), hquoteless⟩
  have hchanges := hbuilds.changes
  intro instruction hmem
  rcases hchanges.instructions instruction hmem with hold | hnew
  · exact .inl hold
  · right
    rintro function destination arguments rfl
    exact ⟨hnew.1,
      literals?_callFunction fun operand hmem => .operand (by decide) (hnew.2 operand hmem)⟩

def Call.greet : Call where
  function := "My_Greet"
  arguments := [.literal (.string "\"_0\"") {}, .var "text" {}]

def greetCode : List Instruction := [
  .init (.var "_0"),
  .storeString (.var "_0") (.quoted "\"_0\"") true,
  .init (.var "_1"),
  .callFunction "my_greet" (some (.var "_1")) [.var "_0", .var "text"]]

theorem greet_denoted :
    (declareAll [⟨"text", .boxed⟩]).Quoteless ∧
      ((compileCall .greet .anywhere).outcome .standard
        (declareAll [⟨"text", .boxed⟩])).2.instructions = greetCode ∧
      literals? (Instruction.callFunction "my_greet" (some (.var "_1"))
        [.var "_0", .var "text"]).render = some [utf8 "my_greet".toList] := by
  have hquoteless : (declareAll [⟨"text", .boxed⟩]).Quoteless := by
    intro v hmem
    rw [List.mem_singleton.mp (show v ∈ [⟨"text", .named, .boxed⟩] from hmem)]
    decide
  have hcode : ((compileCall .greet .anywhere).outcome .standard
      (declareAll [⟨"text", .boxed⟩])).2.instructions = greetCode := by
    decide +kernel
  refine ⟨hquoteless, hcode, ?_⟩
  have hdenoted := call_names_denoted_iff .standard .greet .anywhere hquoteless
  rw [hcode, declareAll_instructions] at hdenoted
  rcases hdenoted _ (List.mem_of_getLast? rfl) with hold | hnew
  · cases hold
  · exact (hnew _ _ _ rfl).2.mpr (by decide)

theorem not_call_names_denoted :
    ¬ ∀ (compiler : Compiler) (call : Call) (demand : Demand) (ctx : Context), ctx.Quoteless →
      ∀ instruction ∈ ((compileCall call demand).outcome compiler ctx).2.instructions,
        instruction ∈ ctx.instructions ∨
          ∀ function destination arguments,
            instruction = .callFunction function destination arguments →
              literals? instruction.render = some [utf8 function.toList] := by
  intro h
  have hcode : ((compileCall ⟨"app\\name", [], {}⟩ .nothing).outcome .standard {}).2.instructions =
      [.callFunction "app\\name" none []] := by
    decide +kernel
  have hclaimed := h .standard ⟨"app\\name", [], {}⟩ .nothing {} nofun
  rw [hcode] at hclaimed
  rcases hclaimed _ List.mem_cons_self with hold | hnew
  · cases hold
  · exact absurd (hnew _ _ _ rfl) (by decide +kernel)

end BoxedCalls
