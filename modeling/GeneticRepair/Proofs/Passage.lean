import GeneticRepair.Concurrency.Thread
import GeneticRepair.Proofs.Outcome
import Mathlib.Order.Defs.Unbundled

/-!
# States that actions pass through

An action may be composed of atoms, and then passes through all states between one of them and the
next, also if it fails. If every atom leads from a state to a related one, then the states that it
passes through are related to the first, and the last one to them.
-/

namespace GeneticRepair

variable {ε σ α β : Type}

/-- A choice of actions, of any type. -/
abbrev Actions (ε σ : Type) : Type 1 :=
  (α : Type) → ExceptT ε (StateM σ) α → Prop

/-- The action is composed of atoms; what follows a part of it has to be for the values that the part
can return. -/
inductive Composed (atom : Actions ε σ) : Actions ε σ
  | atom {α : Type} {x : ExceptT ε (StateM σ) α} (h : atom α x) : Composed atom α x
  | pure {α : Type} (a : α) : Composed atom α (pure a)
  | throw {α : Type} (e : ε) : Composed atom α (throw e)
  | bind {α β : Type} {x : ExceptT ε (StateM σ) α} {f : α → ExceptT ε (StateM σ) β}
      (first : Composed atom α x)
      (rest : ∀ s a t, Returns x s a t → Composed atom β (f a)) : Composed atom β (x >>= f)
  | tryCatch {α : Type} {x : ExceptT ε (StateM σ) α} {handler : ε → ExceptT ε (StateM σ) α}
      (first : Composed atom α x) (rest : ∀ e, Composed atom α (handler e)) :
      Composed atom α (MonadExcept.tryCatch x handler)

/-- The action, which is composed of atoms, passes through the second state on its way from the
first. -/
inductive Passes (atom : Actions ε σ) : (α : Type) → ExceptT ε (StateM σ) α → σ → σ → Prop
  | start {α : Type} (x : ExceptT ε (StateM σ) α) (s : σ) : Passes atom α x s s
  | finish {α : Type} (x : ExceptT ε (StateM σ) α) (s : σ) : Passes atom α x s (x.run.run s).2
  | first {α β : Type} {x : ExceptT ε (StateM σ) α} {f : α → ExceptT ε (StateM σ) β} {s t : σ}
      (first : Composed atom α x) (rest : ∀ s a t, Returns x s a t → Composed atom β (f a))
      (passes : Passes atom α x s t) : Passes atom β (x >>= f) s t
  | second {α β : Type} {x : ExceptT ε (StateM σ) α} {f : α → ExceptT ε (StateM σ) β} {s t u : σ}
      {a : α} (first : Composed atom α x)
      (rest : ∀ s a t, Returns x s a t → Composed atom β (f a)) (returns : Returns x s a u)
      (passes : Passes atom β (f a) u t) : Passes atom β (x >>= f) s t
  | tried {α : Type} {x : ExceptT ε (StateM σ) α} {handler : ε → ExceptT ε (StateM σ) α} {s t : σ}
      (first : Composed atom α x) (rest : ∀ e, Composed atom α (handler e))
      (passes : Passes atom α x s t) : Passes atom α (MonadExcept.tryCatch x handler) s t
  | caught {α : Type} {x : ExceptT ε (StateM σ) α} {handler : ε → ExceptT ε (StateM σ) α}
      {s t u : σ} {e : ε} (first : Composed atom α x) (rest : ∀ e, Composed atom α (handler e))
      (fails : x.run.run s = (.error e, u)) (passes : Passes atom α (handler e) u t) :
      Passes atom α (MonadExcept.tryCatch x handler) s t

variable {atom : Actions ε σ} {rel : σ → σ → Prop} [IsPreorder σ rel]
  {x : ExceptT ε (StateM σ) α}

omit [IsPreorder σ rel] in
theorem Returns.passes {s t : σ} {a : α} (h : Returns x s a t) : Passes atom α x s t := by
  have hfinish : Passes atom α x s (x.run.run s).2 := .finish x s
  rwa [show x.run.run s = (.ok a, t) from h] at hfinish

private theorem Composed.related (h : Composed atom α x)
    (hatom : ∀ {α : Type} {x : ExceptT ε (StateM σ) α}, atom α x → ∀ s, rel s (x.run.run s).2)
    (s : σ) : rel s (x.run.run s).2 := by
  induction h generalizing s with
  | atom h => exact hatom h s
  | pure a => exact refl_of rel s
  | throw e => exact refl_of rel s
  | @bind α β x f _ _ ihfirst ihrest =>
    have hfirst := ihfirst s
    rcases hx : x.run.run s with ⟨e | a, t⟩
    · rw [run_bind_error hx]
      rw [hx] at hfirst
      exact hfirst
    · rw [Returns.run_bind hx]
      rw [hx] at hfirst
      exact trans_of rel hfirst (ihrest s a t hx t)
  | @tryCatch α x handler _ _ ihfirst ihrest =>
    have hfirst := ihfirst s
    rcases hx : x.run.run s with ⟨e | a, t⟩
    · rw [run_tryCatch_error hx]
      rw [hx] at hfirst
      exact trans_of rel hfirst (ihrest e t)
    · rw [Returns.tryCatch hx]
      rw [hx] at hfirst
      exact hfirst

theorem related_bind {f : α → ExceptT ε (StateM σ) β} {s : σ}
    (rest : ∀ s a t, Returns x s a t → Composed atom β (f a))
    (hatom : ∀ {α : Type} {x : ExceptT ε (StateM σ) α}, atom α x → ∀ s, rel s (x.run.run s).2) :
    rel (x.run.run s).2 ((x >>= f).run.run s).2 := by
  rcases hrun : x.run.run s with ⟨e | a, u⟩
  · rw [run_bind_error hrun]
    exact refl_of rel u
  · rw [Returns.run_bind hrun]
    exact (rest s a u hrun).related hatom u

/-- States on the way lie between the first and the last. -/
theorem Passes.between {s t : σ} (h : Passes atom α x s t) (hx : Composed atom α x)
    (hatom : ∀ {α : Type} {x : ExceptT ε (StateM σ) α}, atom α x → ∀ s, rel s (x.run.run s).2) :
    rel s t ∧ rel t (x.run.run s).2 := by
  induction h with
  | start x s => exact ⟨refl_of rel s, hx.related hatom s⟩
  | finish x s => exact ⟨hx.related hatom s, refl_of rel _⟩
  | @first α β x f s t first rest _ ih =>
    obtain ⟨hbefore, hafter⟩ := ih first
    exact ⟨hbefore, trans_of rel hafter (related_bind rest hatom)⟩
  | @second α β x f s t u a first rest returns _ ih =>
    obtain ⟨hbefore, hafter⟩ := ih (rest s a u returns)
    have hfirst := first.related hatom s
    rw [show x.run.run s = (.ok a, u) from returns] at hfirst
    rw [Returns.run_bind returns]
    exact ⟨trans_of rel hfirst hbefore, hafter⟩
  | @tried α x handler s t first rest _ ih =>
    obtain ⟨hbefore, hafter⟩ := ih first
    refine ⟨hbefore, trans_of rel hafter ?_⟩
    rcases hrun : x.run.run s with ⟨e | a, u⟩
    · rw [run_tryCatch_error hrun]
      exact (rest e).related hatom u
    · rw [Returns.tryCatch hrun]
      exact refl_of rel u
  | @caught α x handler s t u e first rest fails _ ih =>
    obtain ⟨hbefore, hafter⟩ := ih (rest e)
    have hfirst := first.related hatom s
    rw [fails] at hfirst
    rw [run_tryCatch_error fails]
    exact ⟨trans_of rel hfirst hbefore, hafter⟩

/-! ## Lists of actions -/

variable {f : α → ExceptT ε (StateM σ) β} {l : List α}

theorem Composed.then (hx : Composed atom α x) (hf : ∀ a, Composed atom β (f a)) :
    Composed atom β (x >>= f) :=
  .bind hx fun _ a _ _ => hf a

theorem Composed.map {g : α → β} (hx : Composed atom α x) : Composed atom β (g <$> x) := by
  rw [map_eq_pure_bind]
  exact hx.then fun a => .pure (g a)

theorem Composed.mapM (h : ∀ a ∈ l, Composed atom β (f a)) : Composed atom (List β) (l.mapM f) := by
  induction l with
  | nil => exact .pure []
  | cons a l ih =>
    rw [List.mapM_cons]
    apply (h a List.mem_cons_self).then
    intro b
    apply (ih fun a' ha' => h a' (List.mem_cons_of_mem a ha')).then
    intro bs
    exact .pure _

theorem Composed.filterM {p : α → ExceptT ε (StateM σ) Bool} (h : ∀ a ∈ l, Composed atom Bool (p a)) :
    Composed atom (List α) (l.filterM p) := by
  have haux : ∀ kept, Composed atom (List α) (l.filterAuxM p kept) := by
    induction l with
    | nil => exact fun kept => .pure kept
    | cons a l ih =>
      intro kept
      apply (h a List.mem_cons_self).then
      intro b
      exact ih (fun a' ha' => h a' (List.mem_cons_of_mem a ha')) _
  exact (haux []).then fun r => .pure _

theorem Composed.forIn (h : ∀ a ∈ l, Composed atom β (f a)) :
    Composed atom PUnit (ForIn.forIn l PUnit.unit fun a _ => do
      let _ ← f a
      Pure.pure (ForInStep.yield PUnit.unit)) := by
  induction l with
  | nil => exact .pure _
  | cons a l ih =>
    rw [List.forIn_cons]
    apply ((h a List.mem_cons_self).then fun _ => .pure _).then
    intro step
    cases step with
    | done u => exact .pure u
    | yield u => exact ih fun a' ha' => h a' (List.mem_cons_of_mem a ha')

/-! ## Threads -/

/-- Every step of the thread is allowed, whatever state it finds. -/
def Thread.Takes (allowed : σ → σ → Prop) : Thread σ α → Prop
  | .done _ => True
  | .step next update => ∀ s, allowed s (update s) ∧ (next s).Takes allowed

namespace Thread

variable {allowed : σ → σ → Prop} {thread : Thread σ α}

theorem Takes.advance (h : thread.Takes allowed) (s : σ) :
    (thread.advance.run s).1.Takes allowed := by
  cases thread with
  | done a => exact h
  | step next update => exact (h s).2

theorem Takes.bind {f : α → Thread σ β} (h : thread.Takes allowed)
    (hf : ∀ a, (f a).Takes allowed) : (thread >>= f).Takes allowed := by
  show (thread.bind f).Takes allowed
  induction thread with
  | done a => exact hf a
  | step next update ih => exact fun s => ⟨(h s).1, ih s (h s).2⟩

private theorem takes_atomic {act : StateM σ α} (h : ∀ s, allowed s (act.run s).2) :
    (atomic act).Takes allowed :=
  fun s => ⟨h s, trivial⟩

theorem takes_attempt {act : ExceptT ε (StateM σ) α} (h : ∀ s, allowed s (act.run.run s).2) :
    (attempt act).run.Takes allowed :=
  takes_atomic h

theorem Takes.run_bind {thread : ExceptT ε (Thread σ) α} {f : α → ExceptT ε (Thread σ) β}
    (h : thread.run.Takes allowed) (hf : ∀ a, (f a).run.Takes allowed) :
    (thread >>= f).run.Takes allowed := by
  apply Takes.bind h
  intro r
  cases r with
  | ok a => exact hf a
  | error e => trivial

theorem Takes.run_tryCatch {thread : ExceptT ε (Thread σ) α}
    {handler : ε → ExceptT ε (Thread σ) α} (h : thread.run.Takes allowed)
    (hh : ∀ e, (handler e).run.Takes allowed) :
    (MonadExcept.tryCatch thread handler).run.Takes allowed := by
  apply Takes.bind h
  intro r
  cases r with
  | ok a => trivial
  | error e => exact hh e

theorem takes_within {τ : Type} {get : σ → τ} {set : σ → τ → σ} {thread : Thread τ α}
    (h : ∀ s t, allowed s (set s t)) : (thread.within get set).Takes allowed := by
  induction thread with
  | done a => trivial
  | step next update ih => exact fun s => ⟨h s _, ih (get s)⟩

end Thread

end GeneticRepair
