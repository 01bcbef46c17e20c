import Mathlib.Data.List.DropRight
import Mathlib.Data.List.Induction
import BoxedCalls.Proofs.Compile.Knowledge

namespace BoxedCalls

structure Concern (ε : Type) where
  asks : ε → Bool
  forgets : ε → Bool

namespace Concern

variable {ε α : Type} (c : Concern ε)

def askedSince (history : List ε) : Bool :=
  (history.rtakeWhile (!c.forgets ·)).any c.asks

/-- What came before the first question since the name was last forgotten. It is the whole history
when there was no such question. -/
def decisive (history : List ε) : List ε :=
  history.rdropWhile (!c.forgets ·) ++ (history.rtakeWhile (!c.forgets ·)).takeWhile (!c.asks ·)

variable {c} {history : List ε} {event : ε}

theorem askedSince_concat_forget (h : c.forgets event = true) :
    c.askedSince (history ++ [event]) = false := by
  simp [askedSince, h]

theorem askedSince_concat (h : c.forgets event = false) :
    c.askedSince (history ++ [event]) = (c.askedSince history || c.asks event) := by
  simp [askedSince, h]

theorem decisive_of_not_asked (h : c.askedSince history = false) :
    c.decisive history = history := by
  have hquiet : (history.rtakeWhile (!c.forgets ·)).takeWhile (!c.asks ·) =
      history.rtakeWhile (!c.forgets ·) := by
    rw [List.takeWhile_eq_self_iff]
    intro event hmem
    simpa using List.any_eq_false.mp h event hmem
  rw [decisive, hquiet, List.rdropWhile_append_rtakeWhile]

theorem decisive_concat (h : c.forgets event = false)
    (hasked : (c.askedSince history || c.asks event) = true) :
    c.decisive (history ++ [event]) = c.decisive history := by
  have hstops : ((history.rtakeWhile (!c.forgets ·)).takeWhile (!c.asks ·)).length =
      (history.rtakeWhile (!c.forgets ·)).length → c.asks event = true := by
    intro hlength
    have hall := (List.takeWhile_prefix _).eq_of_length hlength
    have hquiet : c.askedSince history = false := by
      rw [askedSince, List.any_eq_false]
      intro question hmem
      simpa using List.takeWhile_eq_self_iff.mp hall question hmem
    simpa [hquiet] using hasked
  simp only [decisive, h, Bool.not_false, List.rdropWhile_concat_pos, List.rtakeWhile_concat_pos,
    List.takeWhile_append]
  split
  · next hlength =>
    rw [(List.takeWhile_prefix _).eq_of_length hlength, List.takeWhile_cons, hstops hlength]
    simp
  · rfl

end Concern

structure Concern.Memoizes {ε α : Type} (c : Concern ε) (answer : List ε → α)
    (memory : List ε → Option α) : Prop where
  start : memory [] = none
  forgotten : ∀ {history event}, c.forgets event = true → memory (history ++ [event]) = none
  answered : ∀ {history event}, c.forgets event = false → c.asks event = true →
    memory (history ++ [event]) = some ((memory history).getD (answer history))
  kept : ∀ {history event}, c.forgets event = false → c.asks event = false →
    memory (history ++ [event]) = memory history

namespace Concern.Memoizes

variable {ε α : Type} {c : Concern ε} {answer : List ε → α} {memory : List ε → Option α}
  (h : c.Memoizes answer memory)
include h

theorem memory_eq (history : List ε) :
    memory history =
      if c.askedSince history then some (answer (c.decisive history)) else none := by
  induction history using List.reverseRecOn with
  | nil => exact h.start
  | append_singleton history event ih =>
    cases hforgets : c.forgets event with
    | true => rw [h.forgotten hforgets, askedSince_concat_forget hforgets]; rfl
    | false =>
      rw [askedSince_concat hforgets]
      cases hasks : c.asks event with
      | true =>
        rw [h.answered hforgets hasks, decisive_concat hforgets (by simp [hasks]), ih]
        cases hasked : c.askedSince history with
        | true => rfl
        | false => rw [decisive_of_not_asked hasked]; rfl
      | false =>
        rw [h.kept hforgets hasks, ih]
        cases hasked : c.askedSince history with
        | true => rw [decisive_concat hforgets (by simp [hasked])]; rfl
        | false => rfl

theorem isSome_memory (history : List ε) : (memory history).isSome = c.askedSince history := by
  rw [h.memory_eq]
  cases c.askedSince history <;> rfl

theorem answer_eq (history : List ε) :
    (memory history).getD (answer history) = answer (c.decisive history) := by
  rw [h.memory_eq]
  cases hasked : c.askedSince history with
  | true => rfl
  | false => rw [decisive_of_not_asked hasked]; rfl

theorem memory_skip (first : List ε) (event : ε) (hforgets : c.forgets event = false)
    (hasks : c.asks event = false)
    (hanswer : ∀ later, answer (first ++ event :: later) = answer (first ++ later))
    (later : List ε) : memory (first ++ event :: later) = memory (first ++ later) := by
  induction later using List.reverseRecOn with
  | nil => rw [h.kept hforgets hasks, List.append_nil]
  | append_singleton later last ih =>
    rw [← List.cons_append, ← List.append_assoc, ← List.append_assoc]
    cases hlast : c.forgets last with
    | true => rw [h.forgotten hlast, h.forgotten hlast]
    | false =>
      cases hquestion : c.asks last with
      | true => rw [h.answered hlast hquestion, h.answered hlast hquestion, ih, hanswer]
      | false => rw [h.kept hlast hquestion, h.kept hlast hquestion, ih]

end Concern.Memoizes

namespace OptimizerLookup

inductive Event where
  | resolve (name : String)
  | register (name : String) (optimizer : Optimizer)
  | registerOnly (name : String) (optimizer : Optimizer)
  | invalidate (name : String)

def Event.apply (lookup : OptimizerLookup) : Event → OptimizerLookup
  | resolve name => (lookup.resolve name).2
  | register name optimizer => lookup.register name optimizer
  | registerOnly name optimizer => lookup.registerOnly name optimizer
  | invalidate name => (lookup.invalidate name).2

def after (table : OptimizerTable) (history : List Event) : OptimizerLookup :=
  history.foldl Event.apply { table }

def concern (name : String) : Concern Event where
  asks
    | .resolve other => other = name
    | _ => false
  forgets
    | .register other _ => Text.lowercase other = name
    | .invalidate other => other = name
    | _ => false

variable (table : OptimizerTable) {history : List Event}

theorem after_concat (event : Event) :
    after table (history ++ [event]) = event.apply (after table history) := by
  simp [after]

theorem resolve_eq (lookup : OptimizerLookup) (name : String) :
    (lookup.resolve name).1 = (lookup.resolved.find? name).getD (lookup.table.find? name) := by
  unfold resolve
  cases lookup.resolved.find? name <;> rfl

theorem resolve_of_resolved {lookup : OptimizerLookup} {name : String}
    {outcome : Option Optimizer} (h : lookup.resolved.find? name = some outcome) :
    (lookup.resolve name).1 = outcome := by
  rw [resolve_eq, h]
  rfl

theorem table_resolve (lookup : OptimizerLookup) (name : String) :
    (lookup.resolve name).2.table = lookup.table := by
  unfold resolve
  cases lookup.resolved.find? name <;> rfl

theorem find?_resolve (lookup : OptimizerLookup) (name other : String) :
    (lookup.resolve other).2.resolved.find? name =
      if name = other then some (lookup.resolve name).1 else lookup.resolved.find? name := by
  cases hother : lookup.resolved.find? other with
  | some outcome =>
    by_cases hname : name = other
    · simp [resolve, hname, hother]
    · simp [resolve, hname, hother]
  | none =>
    by_cases hname : name = other
    · simp [resolve, hname, hother, NameMap.find?_insert]
    · simp [resolve, hname, hother, NameMap.find?_insert]

theorem memoizes (name : String) :
    (concern name).Memoizes (fun history => (after table history).table.find? name)
      (fun history => (after table history).resolved.find? name) where
  start := rfl
  forgotten := by
    intro history event hforgets
    simp only [after_concat]
    cases event with
    | resolve other => cases hforgets
    | registerOnly other optimizer => cases hforgets
    | register other optimizer =>
      have hname : Text.lowercase other = name := of_decide_eq_true hforgets
      simp [Event.apply, register, invalidate, NameMap.find?_erase, hname]
    | invalidate other =>
      have hname : other = name := of_decide_eq_true hforgets
      simp [Event.apply, invalidate, NameMap.find?_erase, hname]
  answered := by
    intro history event _ hasks
    simp only [after_concat]
    cases event with
    | resolve other =>
      have hname : other = name := of_decide_eq_true hasks
      rw [Event.apply, find?_resolve, if_pos hname.symm, resolve_eq]
    | register other optimizer => cases hasks
    | registerOnly other optimizer => cases hasks
    | invalidate other => cases hasks
  kept := by
    intro history event hforgets hasks
    simp only [after_concat]
    cases event with
    | resolve other =>
      have hname : other ≠ name := of_decide_eq_false hasks
      rw [Event.apply, find?_resolve, if_neg hname.symm]
    | registerOnly other optimizer => rfl
    | register other optimizer =>
      have hname : Text.lowercase other ≠ name := of_decide_eq_false hforgets
      simp [Event.apply, register, registerOnly, invalidate, NameMap.find?_erase, hname.symm]
    | invalidate other =>
      have hname : other ≠ name := of_decide_eq_false hforgets
      simp [Event.apply, invalidate, NameMap.find?_erase, hname.symm]

theorem table_skip (event : Event) (h : ∀ lookup, (event.apply lookup).table = lookup.table)
    (first later : List Event) :
    (after table (first ++ event :: later)).table = (after table (first ++ later)).table := by
  induction later using List.reverseRecOn with
  | nil => rw [after_concat, h, List.append_nil]
  | append_singleton later last ih =>
    rw [← List.cons_append, ← List.append_assoc, ← List.append_assoc, after_concat, after_concat]
    cases last with
    | resolve name => rw [Event.apply, Event.apply, table_resolve, table_resolve, ih]
    | register name optimizer => exact congrArg (·.register name optimizer) ih
    | registerOnly name optimizer => exact congrArg (·.register name optimizer) ih
    | invalidate name => exact ih

end OptimizerLookup

structure HostedCache where
  host : HostFunctions
  cache : SignatureCache := {}

namespace HostedCache

inductive Event where
  | isReadOnly (name : String) (count : Nat) (span : Span)
  | invalidate (name : String)
  | register (name : String) (signature : Option Signature)
  | unregister (name : String)

def Event.apply (hosted : HostedCache) : Event → HostedCache
  | isReadOnly name count span =>
      { hosted with cache := (hosted.cache.isReadOnly hosted.host name count span).2 }
  | invalidate name => { hosted with cache := (hosted.cache.invalidate name).2 }
  | register name signature => { hosted with host := hosted.host.register name signature }
  | unregister name => { hosted with host := hosted.host.unregister name }

def after (host : HostFunctions) (history : List Event) : HostedCache :=
  history.foldl Event.apply { host }

def concern (name : String) : Concern Event where
  asks
    | .isReadOnly other _ _ => other = name && !Builtin.contains name
    | _ => false
  forgets
    | .invalidate other => other = name
    | _ => false

def verdict (name : String) (count : Nat) (span : Span) (signature : Option Signature) :
    Except CompileError Bool :=
  match signature with
  | none => .ok false
  | some signature =>
      if count < signature.required then .error ⟨.insufficientArguments name, span⟩
      else .ok (!signature.anyByReference count)

variable (host : HostFunctions) {history : List Event}

theorem after_concat (event : Event) :
    after host (history ++ [event]) = event.apply (after host history) := by
  simp [after]

theorem signatureOf_eq (cache : SignatureCache) (name : String) :
    (cache.signatureOf host name).1 =
      (cache.signatures.find? name).getD (host.signatureOf? name) := by
  unfold SignatureCache.signatureOf
  cases cache.signatures.find? name <;> rfl

theorem isReadOnly_eq (hosted : HostedCache) (name : String) (count : Nat) (span : Span) :
    (hosted.cache.isReadOnly hosted.host name count span).1 =
      if Builtin.contains name then .ok false
      else verdict name count span
        ((hosted.cache.signatures.find? name).getD (hosted.host.signatureOf? name)) := by
  cases hbuiltin : Builtin.contains name with
  | true => rw [SignatureCache.isReadOnly_of_builtin hbuiltin]; rfl
  | false => rw [SignatureCache.isReadOnly_of_not_builtin hbuiltin, signatureOf_eq]; rfl

theorem find?_isReadOnly (hosted : HostedCache) (name other : String) (count : Nat) (span : Span) :
    (hosted.cache.isReadOnly hosted.host other count span).2.signatures.find? name =
      if name = other ∧ Builtin.contains name = false then
        some ((hosted.cache.signatures.find? name).getD (hosted.host.signatureOf? name))
      else hosted.cache.signatures.find? name := by
  cases hbuiltin : Builtin.contains other with
  | true =>
    rw [SignatureCache.isReadOnly_of_builtin hbuiltin, if_neg]
    rintro ⟨rfl, hname⟩
    rw [hbuiltin] at hname
    cases hname
  | false =>
    rw [SignatureCache.isReadOnly_of_not_builtin hbuiltin]
    by_cases hname : name = other
    · subst hname
      rw [if_pos ⟨rfl, hbuiltin⟩]
      cases hfind : hosted.cache.signatures.find? name <;>
        simp [SignatureCache.signatureOf, hfind, NameMap.find?_insert]
    · rw [if_neg fun h => hname h.1]
      cases hfind : hosted.cache.signatures.find? other <;>
        simp [SignatureCache.signatureOf, hfind, NameMap.find?_insert, hname]

theorem memoizes (name : String) :
    (concern name).Memoizes (fun history => (after host history).host.signatureOf? name)
      (fun history => (after host history).cache.signatures.find? name) where
  start := rfl
  forgotten := by
    intro history event hforgets
    simp only [after_concat]
    cases event with
    | isReadOnly other count span => cases hforgets
    | register other signature => cases hforgets
    | unregister other => cases hforgets
    | invalidate other =>
      have hname : other = name := of_decide_eq_true hforgets
      simp [Event.apply, SignatureCache.invalidate, NameMap.find?_erase, hname]
  answered := by
    intro history event _ hasks
    simp only [after_concat]
    cases event with
    | isReadOnly other count span =>
      simp only [concern, Bool.and_eq_true, decide_eq_true_eq, Bool.not_eq_true'] at hasks
      rw [Event.apply, find?_isReadOnly, if_pos ⟨hasks.1.symm, hasks.2⟩]
    | invalidate other => cases hasks
    | register other signature => cases hasks
    | unregister other => cases hasks
  kept := by
    intro history event hforgets hasks
    simp only [after_concat]
    cases event with
    | isReadOnly other count span =>
      rw [Event.apply, find?_isReadOnly, if_neg]
      rintro ⟨rfl, hbuiltin⟩
      simp [concern, hbuiltin] at hasks
    | invalidate other =>
      have hname : other ≠ name := of_decide_eq_false hforgets
      simp [Event.apply, SignatureCache.invalidate, NameMap.find?_erase, hname.symm]
    | register other signature => rfl
    | unregister other => rfl

theorem host_skip (event : Event) (h : ∀ hosted, (event.apply hosted).host = hosted.host)
    (first later : List Event) :
    (after host (first ++ event :: later)).host = (after host (first ++ later)).host := by
  induction later using List.reverseRecOn with
  | nil => rw [after_concat, h, List.append_nil]
  | append_singleton later last ih =>
    rw [← List.cons_append, ← List.append_assoc, ← List.append_assoc, after_concat, after_concat]
    cases last with
    | isReadOnly name count span => exact ih
    | invalidate name => exact ih
    | register name signature => exact congrArg (·.register name signature) ih
    | unregister name => exact congrArg (·.unregister name) ih

end HostedCache

theorem cached_answers_are_frozen :
    (∀ table history name,
      let lookup := OptimizerLookup.after table history
      let concern := OptimizerLookup.concern name
      (lookup.resolve name).1 =
          (OptimizerLookup.after table (concern.decisive history)).table.find? name ∧
        (lookup.invalidate name).1 = concern.askedSince history ∧
        ∀ other optimizer, concern.askedSince history = true →
          ((lookup.registerOnly other optimizer).resolve name).1 = (lookup.resolve name).1) ∧
      (∀ host history name count span,
        let hosted := HostedCache.after host history
        let concern := HostedCache.concern name
        (hosted.cache.isReadOnly hosted.host name count span).1 =
            (if Builtin.contains name then .ok false
              else HostedCache.verdict name count span
                ((HostedCache.after host (concern.decisive history)).host.signatureOf? name)) ∧
          (hosted.cache.invalidate name).1 = concern.askedSince history) ∧
      (∀ table first later name other, other ≠ name →
        ((OptimizerLookup.after table (first ++ .invalidate other :: later)).resolve name).1 =
          ((OptimizerLookup.after table (first ++ later)).resolve name).1) ∧
      ∀ host first later name other count span, other ≠ name →
        let hosted := HostedCache.after host (first ++ .invalidate other :: later)
        let plain := HostedCache.after host (first ++ later)
        (hosted.cache.isReadOnly hosted.host name count span).1 =
          (plain.cache.isReadOnly plain.host name count span).1 := by
  refine ⟨?_, ?_, ?_, ?_⟩
  · intro table history name
    have hmemo := OptimizerLookup.memoizes table name
    refine ⟨?_, hmemo.isSome_memory history, ?_⟩
    · rw [OptimizerLookup.resolve_eq]
      exact hmemo.answer_eq history
    · intro other optimizer hasked
      obtain ⟨outcome, hfind⟩ := Option.isSome_iff_exists.mp
        ((hmemo.isSome_memory history).trans hasked)
      rw [OptimizerLookup.resolve_of_resolved hfind, OptimizerLookup.resolve_of_resolved]
      exact hfind
  · intro host history name count span
    have hmemo := HostedCache.memoizes host name
    refine ⟨?_, hmemo.isSome_memory history⟩
    rw [HostedCache.isReadOnly_eq, hmemo.answer_eq history]
  · intro table first later name other hother
    have htable := OptimizerLookup.table_skip table (.invalidate other) (fun _ => rfl) first
    have hmemory := (OptimizerLookup.memoizes table name).memory_skip first (.invalidate other)
      (decide_eq_false hother) rfl (fun later => congrArg (·.find? name) (htable later)) later
    rw [OptimizerLookup.resolve_eq, OptimizerLookup.resolve_eq, hmemory, htable]
  · intro host first later name other count span hother hosted plain
    have hhost := HostedCache.host_skip host (.invalidate other) (fun _ => rfl) first
    have hmemory := (HostedCache.memoizes host name).memory_skip first (.invalidate other)
      (decide_eq_false hother) rfl (fun later => congrArg (·.signatureOf? name) (hhost later)) later
    rw [HostedCache.isReadOnly_eq, HostedCache.isReadOnly_eq, hmemory, hhost]

theorem late_registrations_unseen :
    "bar" ≠ "foo" ∧ (OptimizerLookup.concern "foo").askedSince [.resolve "foo"] = true ∧
      (((OptimizerLookup.after {} [.resolve "foo"]).registerOnly "Foo" .declining).resolve
        "foo").1 = none ∧
      ((OptimizerLookup.after {}
        ([.resolve "foo"] ++ .invalidate "bar" :: [.registerOnly "Foo" .declining])).resolve
          "foo").1 = none ∧
      let hosted := HostedCache.after {}
        ([.isReadOnly "foo" 1 {}] ++ .invalidate "bar" :: [.register "Foo" (some (.byValue 1 1))])
      hosted.host.signatureOf? "foo" = some (.byValue 1 1) ∧
        (hosted.cache.isReadOnly hosted.host "foo" 1 {}).1.toOption = some false := by
  obtain ⟨hlookup, hhosted, hlookupOther, hhostedOther⟩ := cached_answers_are_frozen
  have hne : "bar" ≠ "foo" := by decide
  have hasked : (OptimizerLookup.concern "foo").askedSince [.resolve "foo"] = true := by decide
  refine ⟨hne, hasked, ?_, ?_, by decide +kernel, ?_⟩
  · rw [(hlookup {} [.resolve "foo"] "foo").2.2 "Foo" .declining hasked,
      (hlookup {} [.resolve "foo"] "foo").1]
    decide +kernel
  · rw [hlookupOther {} [.resolve "foo"] [.registerOnly "Foo" .declining] "foo" "bar" hne,
      (hlookup {} _ "foo").1]
    decide +kernel
  · rw [hhostedOther {} [.isReadOnly "foo" 1 {}] [.register "Foo" (some (.byValue 1 1))] "foo"
      "bar" 1 {} hne, (hhosted {} _ "foo" 1 {}).1]
    decide +kernel

end BoxedCalls
