import BoxedCalls.Proofs.Compile.Knowledge

namespace BoxedCalls

namespace OptimizerTable

theorem find?_register (table : OptimizerTable) (name other : String) (optimizer : Optimizer) :
    (table.register name optimizer).find? other =
      if other = Text.lowercase name then some optimizer else table.find? other :=
  NameMap.find?_insert _ _ _ _

theorem find?_registerAll (contracts : List HelperContract) (table : OptimizerTable)
    (hlower : ∀ contract ∈ contracts, Text.lowercase contract.name = contract.name)
    (hdistinct : contracts.Pairwise fun first second => first.name ≠ second.name)
    (name : String) :
    (contracts.foldl (fun table contract => table.register contract.name (.ofContract contract))
      table).find? name =
      ((contracts.find? (·.name = name)).map Optimizer.ofContract).or (table.find? name) := by
  induction contracts generalizing table with
  | nil => simp
  | cons contract rest ih =>
    obtain ⟨hfirst, hrest⟩ := List.pairwise_cons.mp hdistinct
    have hlower' : ∀ other ∈ rest, Text.lowercase other.name = other.name :=
      fun other hother => hlower other (List.mem_cons_of_mem _ hother)
    rw [List.foldl_cons, ih _ hlower' hrest, find?_register,
      hlower contract (List.mem_cons_self ..), List.find?_cons]
    by_cases hname : contract.name = name
    · subst hname
      have habsent : rest.find? (·.name = contract.name) = none := by
        rw [List.find?_eq_none]
        intro other hother
        simpa using (hfirst other hother).symm
      simp [habsent]
    · simp [hname, Ne.symm hname]

theorem find?_builtin (name : String) :
    builtin.find? name = (Builtin.contract? name).map Optimizer.ofContract :=
  (find?_registerAll Builtin.contracts {} (by decide) (by decide) name).trans Option.or_none

def Plain (table : OptimizerTable) : Prop :=
  table = builtin ∨ table = {}

theorem Plain.contract_of_find? {table : OptimizerTable} (h : table.Plain) {name : String}
    {optimizer : Optimizer} (hfind : table.find? name = some optimizer) :
    ∃ contract, Builtin.contract? name = some contract ∧
      optimizer = .ofContract contract := by
  rcases h with rfl | rfl
  · rw [find?_builtin] at hfind
    obtain ⟨contract, hcontract, hoptimizer⟩ := Option.map_eq_some_iff.mp hfind
    exact ⟨contract, hcontract, hoptimizer.symm⟩
  · cases hfind

end OptimizerTable

namespace Builtin

theorem contract?_eq_some {name : String} {contract : HelperContract}
    (h : contract? name = some contract) : contract ∈ contracts ∧ contract.name = name :=
  ⟨List.mem_of_find?_eq_some h, by simpa using List.find?_some h⟩

theorem contains_of_contract? {name : String} {contract : HelperContract}
    (h : contract? name = some contract) : contains name = true := by
  simp [contains, h]

end Builtin

theorem Optimizer.ofContract_eq_booleanHelper {contract other : HelperContract}
    (h : .booleanHelper other = Optimizer.ofContract contract) :
    other = contract ∧ contract.result = .boolean := by
  unfold ofContract at h
  split at h <;> simp_all

theorem Optimizer.ofContract_eq_boxedHelper {contract other : HelperContract}
    (h : .boxedHelper other = Optimizer.ofContract contract) :
    other = contract ∧ contract.result = .boxedValue := by
  unfold ofContract at h
  split at h <;> simp_all

theorem Optimizer.ofContract_ne_fixed {contract : HelperContract} {result : Compiled} :
    .fixed result ≠ Optimizer.ofContract contract := by
  unfold ofContract
  split <;> simp

namespace Knowledge

def UsesContracts (k : Knowledge) : Prop :=
  ∀ name optimizer, k.optimizer name = some optimizer →
    ∃ contract, Builtin.contract? name = some contract ∧ optimizer = .ofContract contract

variable {k : Knowledge} {function : String} {arity : Nat} {wanted : Bool}
  {contract : HelperContract}

theorem UsesContracts.followsCalls (h : k.UsesContracts) : k.FollowsCalls := by
  intro name result hoptimizer
  obtain ⟨contract, _, hfixed⟩ := h _ _ hoptimizer
  exact Optimizer.ofContract_ne_fixed hfixed

theorem UsesContracts.of_shape_condition (h : k.UsesContracts)
    (hshape : k.shape function arity wanted = .condition contract) :
    Builtin.contract? function = some contract ∧ contract.result = .boolean ∧
      arity = contract.parameterCount := by
  unfold shape at hshape
  split at hshape
  · next other hoptimizer =>
    split at hshape
    · next hcount =>
      cases hshape
      obtain ⟨contract, hcontract, hhelper⟩ := h _ _ hoptimizer
      obtain ⟨rfl, hresult⟩ := Optimizer.ofContract_eq_booleanHelper hhelper
      exact ⟨hcontract, hresult, hcount⟩
    · cases hshape
  · split at hshape <;> cases hshape
  · cases hshape

theorem UsesContracts.of_shape_helper (h : k.UsesContracts)
    (hshape : k.shape function arity wanted = .routine (.helper contract)) :
    Builtin.contract? function = some contract ∧ contract.result = .boxedValue ∧
      arity = contract.parameterCount := by
  unfold shape at hshape
  split at hshape
  · split at hshape <;> cases hshape
  · next other hoptimizer =>
    split at hshape
    · next htaken =>
      cases hshape
      obtain ⟨contract, hcontract, hhelper⟩ := h _ _ hoptimizer
      obtain ⟨rfl, hresult⟩ := Optimizer.ofContract_eq_boxedHelper hhelper
      exact ⟨hcontract, hresult, htaken.1⟩
    · cases hshape
  · cases hshape

end Knowledge

namespace Compiler

variable (host : HostFunctions) (table : OptimizerTable)

@[simp] theorem knowledge_new_known (name : String) :
    (new host table).knowledge.known name = (host.contains name || Builtin.contains name) := rfl

@[simp] theorem knowledge_new_signature (name : String) :
    (new host table).knowledge.signature name = host.signatureOf? name := rfl

@[simp] theorem knowledge_new_optimizer (name : String) :
    (new host table).knowledge.optimizer name = table.find? name := rfl

variable {table} in
theorem usesContracts_new (h : table.Plain) : (new host table).knowledge.UsesContracts :=
  fun _ _ hoptimizer => h.contract_of_find? hoptimizer

end Compiler

end BoxedCalls
