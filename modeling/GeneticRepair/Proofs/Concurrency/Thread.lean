import GeneticRepair.Concurrency.Thread
import GeneticRepair.Proofs.Outcome
import Mathlib.Order.Defs.Unbundled

/-!
# Threads that tolerate each other

Threads of which each tolerates and respects the same relation between states can be interleaved:
whatever the others do in between, each of them ends with what it has secured.
-/

namespace GeneticRepair.Thread

variable {σ τ α β : Type}

/-- From the state on, whatever changes come in between that the relation allows, every step makes
such a change, and the thread ends with the postcondition, for good. -/
def Secures (rel : σ → σ → Prop) (post : α → σ → Prop) : Thread σ α → σ → Prop
  | done a, s => ∀ s', rel s s' → post a s'
  | step next update, s =>
    ∀ s', rel s s' → rel s' (update s') ∧ (next s').Secures rel post (update s')

variable {rel : σ → σ → Prop} [IsPreorder σ rel] {mid post : α → σ → Prop} {thread : Thread σ α}
  {s s' : σ}

theorem Secures.of_rel (h : thread.Secures rel post s) (hrel : rel s s') :
    thread.Secures rel post s' := by
  cases thread with
  | done a =>
    intro s'' hrel'
    exact h s'' (trans_of rel hrel hrel')
  | step next update =>
    intro s'' hrel'
    exact h s'' (trans_of rel hrel hrel')

omit [IsPreorder σ rel] in
theorem Secures.mono (h : thread.Secures rel mid s) (himp : ∀ a s', mid a s' → post a s') :
    thread.Secures rel post s := by
  induction thread generalizing s with
  | done a =>
    intro s' hrel
    exact himp a s' (h s' hrel)
  | step next update ih =>
    intro s' hrel
    obtain ⟨hstep, hnext⟩ := h s' hrel
    exact ⟨hstep, ih s' hnext⟩

theorem Secures.bind {post : β → σ → Prop} {f : α → Thread σ β} (h : thread.Secures rel mid s)
    (hf : ∀ a s', rel s s' → (∀ s'', rel s' s'' → mid a s'') → (f a).Secures rel post s') :
    (thread >>= f).Secures rel post s := by
  show (thread.bind f).Secures rel post s
  induction thread generalizing s with
  | done a => exact hf a s (refl_of rel s) h
  | step next update ih =>
    intro s' hrel
    obtain ⟨hstep, hnext⟩ := h s' hrel
    refine ⟨hstep, ih s' hnext fun a s'' hrel' => hf a s'' ?_⟩
    exact trans_of rel hrel (trans_of rel hstep hrel')

omit [IsPreorder σ rel] in
theorem secures_atomic {act : StateM σ α}
    (h : ∀ s', rel s s' → rel s' (act.run s').2 ∧
      ∀ s'', rel (act.run s').2 s'' → post (act.run s').1 s'') :
    (atomic act).Secures rel post s :=
  h

omit [IsPreorder σ rel] in
theorem Secures.within {get : σ → τ} {set : σ → τ → σ} {inv : σ → Prop} {part : τ → τ → Prop}
    {post : α → τ → Prop} {thread : Thread τ α} (h : thread.Secures part post (get s)) (hs : inv s)
    (hset : ∀ s t, get (set s t) = t)
    (hget : ∀ s s', inv s → rel s s' → inv s' ∧ part (get s) (get s'))
    (hrel : ∀ s t, inv s → part (get s) t → inv (set s t) ∧ rel s (set s t)) :
    (thread.within get set).Secures rel (fun a s => post a (get s)) s := by
  induction thread generalizing s with
  | done a =>
    intro s' hs'
    exact h (get s') (hget s s' hs hs').2
  | step next update ih =>
    intro s' hs'
    obtain ⟨hinv, hpart⟩ := hget s s' hs hs'
    obtain ⟨hstep, hnext⟩ := h (get s') hpart
    obtain ⟨hinv', hrel'⟩ := hrel s' _ hinv hstep
    refine ⟨hrel', ih (get s') ?_ hinv'⟩
    rw [hset]
    exact hnext

private theorem Secures.advance (h : thread.Secures rel post s) :
    rel s (thread.advance.run s).2 ∧
      (thread.advance.run s).1.Secures rel post (thread.advance.run s).2 := by
  cases thread with
  | done a => exact ⟨refl_of rel s, h⟩
  | step next update => exact h s (refl_of rel s)

theorem Secures.finish (h : thread.Secures rel post s) :
    rel s (thread.finish.run s).2 ∧
      ∀ s', rel (thread.finish.run s).2 s' → post (thread.finish.run s).1 s' := by
  induction thread generalizing s with
  | done a => exact ⟨refl_of rel s, h⟩
  | step next update ih =>
    obtain ⟨hstep, hnext⟩ := h s (refl_of rel s)
    obtain ⟨hrest, hpost⟩ := ih s hnext
    exact ⟨trans_of rel hstep hrest, hpost⟩

/-! ## Threads that may fail -/

section Failing

variable {ε : Type} {f : α → ExceptT ε (Thread σ) β} {post : Except ε β → σ → Prop}

omit [IsPreorder σ rel] in
theorem secures_attempt_bind {act : ExceptT ε (StateM σ) α}
    (h : ∀ s', rel s s' → ∃ a t, Returns act s' a t ∧ rel s' t ∧ (f a).run.Secures rel post t) :
    (attempt act >>= f).run.Secures rel post s := by
  intro s' hs
  obtain ⟨a, t, hact, hrel, hrest⟩ := h s' hs
  have hrun : act.run.run s' = (.ok a, t) := hact
  show rel s' (act.run.run s').2 ∧
    Secures rel post (ExceptT.bindCont f (act.run.run s').1) (act.run.run s').2
  rw [hrun]
  exact ⟨hrel, hrest⟩

theorem Secures.run_bind {thread : ExceptT ε (Thread σ) α} {mid : α → Prop}
    (h : thread.run.Secures rel (fun r _ => ∃ a, r = .ok a ∧ mid a) s)
    (hf : ∀ a s', rel s s' → mid a → (f a).run.Secures rel post s') :
    (thread >>= f).run.Secures rel post s := by
  refine Secures.bind h fun r s' hs hr => ?_
  obtain ⟨a, rfl, ha⟩ := hr s' (refl_of rel s')
  exact hf a s' hs ha

theorem Secures.meets_bind {thread : ExceptT ε (Thread σ) α} {value : α → Prop}
    {failure : ε → Prop} (h : thread.run.Secures rel (fun r _ => Meets value failure r) s)
    (hf : ∀ a s', rel s s' → value a → (f a).run.Secures rel post s')
    (herror : ∀ e s', failure e → post (.error e) s') :
    (thread >>= f).run.Secures rel post s := by
  refine Secures.bind h fun r s' hs hr => ?_
  cases r with
  | ok a => exact hf a s' hs (hr s' (refl_of rel s'))
  | error e => exact fun s'' hs' => herror e s'' (hr s'' hs')

omit [IsPreorder σ rel] in
theorem secures_pure {b : β} (h : ∀ s', rel s s' → post (.ok b) s') :
    (pure b : ExceptT ε (Thread σ) β).run.Secures rel post s :=
  h

end Failing

/-! ## Several threads -/

/-- Interleaved threads still secure what each of them secures alone. -/
theorem secures_interleave {post : Nat → α → σ → Prop} {threads : List (Thread σ α)}
    (schedule : List Nat)
    (h : ∀ n (thread : Thread σ α), threads[n]? = some thread → thread.Secures rel (post n) s) :
    rel s ((interleave schedule threads).run s).2 ∧
      ((interleave schedule threads).run s).1.length = threads.length ∧
      ∀ n (thread : Thread σ α), ((interleave schedule threads).run s).1[n]? = some thread →
        thread.Secures rel (post n) ((interleave schedule threads).run s).2 := by
  induction schedule generalizing s threads with
  | nil => exact ⟨refl_of rel s, rfl, h⟩
  | cons i schedule ih =>
    cases hi : threads[i]? with
    | none =>
      have hrun : (interleave (i :: schedule) threads).run s =
          (interleave schedule threads).run s := by
        rw [interleave, hi]
      rw [hrun]
      exact ih h
    | some thread =>
      have hrun : (interleave (i :: schedule) threads).run s =
          (interleave schedule (threads.set i (thread.advance.run s).1)).run
            (thread.advance.run s).2 := by
        rw [interleave, hi]
        rfl
      obtain ⟨hrel, hadvanced⟩ := (h i thread hi).advance
      have hall : ∀ n (t : Thread σ α), (threads.set i (thread.advance.run s).1)[n]? = some t →
          t.Secures rel (post n) (thread.advance.run s).2 := by
        intro n t ht
        by_cases hn : i = n
        · subst hn
          have hlt : i < threads.length := (List.getElem?_eq_some_iff.mp hi).1
          rw [List.getElem?_set_self hlt] at ht
          obtain rfl := Option.some.inj ht
          exact hadvanced
        · rw [List.getElem?_set_ne hn] at ht
          exact (h n t ht).of_rel hrel
      rw [hrun]
      obtain ⟨hrest, hlength, hsecure⟩ := ih hall
      refine ⟨trans_of rel hrel hrest, ?_, hsecure⟩
      rw [hlength, List.length_set]

end GeneticRepair.Thread
