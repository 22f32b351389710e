import Mathlib.Order.Basic
import Mathlib.Tactic.Common

/-!
# What actions return

An action of a laboratory or of a search works on a state and may fail. `Returns` reads it as a
relation between the states before and after, with one equation for each way of building actions.

Invariants are stated over worlds: a world records what is known of a state, and grows while the
actions run. `Keeps` says that an action leads from states of a world to states of a greater one
whenever it returns, and `Achieves` that it does return.
-/

namespace GeneticRepair

variable {ε σ α β : Type}

def Returns (act : ExceptT ε (StateM σ) α) (s : σ) (a : α) (s' : σ) : Prop :=
  act.run.run s = (.ok a, s')

theorem Returns.eq {act : ExceptT ε (StateM σ) α} {s s₁ s₂ : σ} {a b : α}
    (h₁ : Returns act s a s₁) (h₂ : Returns act s b s₂) : a = b ∧ s₁ = s₂ := by
  rw [Returns, h₁] at h₂
  cases h₂
  exact ⟨rfl, rfl⟩

theorem exists_returns {act : ExceptT ε (StateM σ) α} {s : σ}
    (h : (act.run.run s).1.toBool = true) : ∃ a s', Returns act s a s' := by
  rcases hrun : act.run.run s with ⟨r, s'⟩
  rw [hrun] at h
  cases r with
  | ok a => exact ⟨a, s', hrun⟩
  | error e => cases h

/-- What was returned passes the test. -/
def returned (p : α → σ → Prop) [∀ a s, Decidable (p a s)] : Except ε α × σ → Bool
  | (.ok a, s) => decide (p a s)
  | (.error _, _) => false

theorem exists_returns_of {act : ExceptT ε (StateM σ) α} {s : σ} {p : α → σ → Prop}
    [∀ a s, Decidable (p a s)] (h : returned p (act.run.run s) = true) :
    ∃ a s', Returns act s a s' ∧ p a s' := by
  rcases hrun : act.run.run s with ⟨r, s'⟩
  rw [hrun] at h
  cases r with
  | ok a => exact ⟨a, s', hrun, of_decide_eq_true h⟩
  | error e => cases h

@[simp] theorem returns_pure {a b : α} {s s' : σ} :
    Returns (pure a : ExceptT ε (StateM σ) α) s b s' ↔ b = a ∧ s' = s := by
  constructor
  · intro h
    cases h
    exact ⟨rfl, rfl⟩
  · rintro ⟨rfl, rfl⟩
    rfl

@[simp] theorem returns_bind {x : ExceptT ε (StateM σ) α} {f : α → ExceptT ε (StateM σ) β}
    {s s' : σ} {b : β} :
    Returns (x >>= f) s b s' ↔ ∃ a t, Returns x s a t ∧ Returns (f a) t b s' := by
  simp only [Returns, ExceptT.run_bind, StateT.run_bind]
  rcases x.run.run s with ⟨r, t⟩
  cases r with
  | ok a =>
    constructor
    · intro h
      exact ⟨a, t, rfl, h⟩
    · rintro ⟨_, _, heq, h⟩
      cases heq
      exact h
  | error e =>
    constructor
    · intro h
      cases h
    · rintro ⟨_, _, heq, _⟩
      cases heq

@[simp] theorem returns_map {x : ExceptT ε (StateM σ) α} {f : α → β} {s s' : σ} {b : β} :
    Returns (f <$> x) s b s' ↔ ∃ a, Returns x s a s' ∧ b = f a := by
  rw [map_eq_pure_bind, returns_bind]
  constructor
  · rintro ⟨a, t, hx, hf⟩
    obtain ⟨rfl, rfl⟩ := returns_pure.mp hf
    exact ⟨a, hx, rfl⟩
  · rintro ⟨a, hx, rfl⟩
    exact ⟨a, s', hx, returns_pure.mpr ⟨rfl, rfl⟩⟩

@[simp] theorem returns_get {s s' t : σ} :
    Returns (get : ExceptT ε (StateM σ) σ) s t s' ↔ t = s ∧ s' = s := by
  constructor
  · intro h
    cases h
    exact ⟨rfl, rfl⟩
  · rintro ⟨rfl, rfl⟩
    rfl

@[simp] theorem returns_modifyGet {f : σ → α × σ} {s s' : σ} {a : α} :
    Returns (modifyGet f : ExceptT ε (StateM σ) α) s a s' ↔ f s = (a, s') := by
  constructor
  · intro h
    cases h
    rfl
  · intro h
    show ((Except.ok (f s).1, (f s).2) : Except ε α × σ) = _
    rw [h]

@[simp] theorem returns_modify {f : σ → σ} {s s' : σ} {u : Unit} :
    Returns (modify f : ExceptT ε (StateM σ) Unit) s u s' ↔ s' = f s := by
  rw [modify, returns_modifyGet, Prod.mk.injEq]
  exact ⟨fun h => h.2.symm, fun h => ⟨rfl, h.symm⟩⟩

theorem returns_get_bind {f : σ → ExceptT ε (StateM σ) α} {s s' : σ} {a : α} :
    Returns (get >>= f) s a s' ↔ Returns (f s) s a s' := by
  rw [returns_bind]
  constructor
  · rintro ⟨_, _, hget, h⟩
    obtain ⟨rfl, rfl⟩ := returns_get.mp hget
    exact h
  · intro h
    exact ⟨s, s, returns_get.mpr ⟨rfl, rfl⟩, h⟩

theorem returns_modify_bind {g : σ → σ} {f : Unit → ExceptT ε (StateM σ) α} {s s' : σ} {a : α} :
    Returns (modify g >>= f) s a s' ↔ Returns (f ()) (g s) a s' := by
  rw [returns_bind]
  constructor
  · rintro ⟨_, _, hmodify, h⟩
    obtain rfl := returns_modify.mp hmodify
    exact h
  · intro h
    exact ⟨(), g s, returns_modify.mpr rfl, h⟩

@[simp] theorem not_returns_throw {e : ε} {s s' : σ} {a : α} :
    ¬ Returns (throw e : ExceptT ε (StateM σ) α) s a s' := by
  intro h
  cases h

@[simp] theorem returns_liftExcept {e : Except ε α} {s s' : σ} {a : α} :
    Returns (liftExcept e : ExceptT ε (StateM σ) α) s a s' ↔ e = .ok a ∧ s' = s := by
  cases e with
  | ok b => simp [liftExcept, eq_comm]
  | error e => simp [liftExcept]

theorem returns_liftM {act : StateM σ α} {s s' : σ} {a : α} :
    Returns (liftM act : ExceptT ε (StateM σ) α) s a s' ↔
      a = (act.run s).1 ∧ s' = (act.run s).2 := by
  change (Except.ok (act.run s).1, (act.run s).2) = _ ↔ _
  rw [Prod.ext_iff, Except.ok.injEq, eq_comm, eq_comm (a := s')]

theorem Returns.tryCatch {x : ExceptT ε (StateM σ) α} {handler : ε → ExceptT ε (StateM σ) α}
    {s s' : σ} {a : α} (h : Returns x s a s') :
    Returns (MonadExcept.tryCatch x handler) s a s' := by
  change (x.run >>= fun r => match r with
    | .ok a => pure (.ok a)
    | .error e => (handler e).run : StateM σ (Except ε α)).run s = _
  rw [StateT.run_bind, h]
  rfl

section Worlds

variable {W : Type} [Preorder W] (inv : W → σ → Prop)

/-- Whenever the action returns, the invariant holds in a world that has grown to one of the
postcondition. -/
def Keeps (w : W) (act : ExceptT ε (StateM σ) α) (post : W → α → Prop) : Prop :=
  ∀ s a s', inv w s → Returns act s a s' → ∃ w', w ≤ w' ∧ inv w' s' ∧ post w' a

/-- The action returns, and keeps the invariant. -/
def Achieves (w : W) (act : ExceptT ε (StateM σ) α) (post : W → α → Prop) : Prop :=
  ∀ s, inv w s → ∃ a s', Returns act s a s' ∧ ∃ w', w ≤ w' ∧ inv w' s' ∧ post w' a

variable {inv} {w : W} {x : ExceptT ε (StateM σ) α} {f : α → ExceptT ε (StateM σ) β}

theorem Achieves.keeps {post : W → α → Prop} (h : Achieves inv w x post) :
    Keeps inv w x post := by
  intro s a s' hs hx
  obtain ⟨b, t, hb, hpost⟩ := h s hs
  obtain ⟨rfl, rfl⟩ := hx.eq hb
  exact hpost

theorem Keeps.mono {post post' : W → α → Prop} (h : Keeps inv w x post)
    (himp : ∀ w' a, w ≤ w' → post w' a → post' w' a) : Keeps inv w x post' := by
  intro s a s' hs hx
  obtain ⟨w', hw, hs', hpost⟩ := h s a s' hs hx
  exact ⟨w', hw, hs', himp w' a hw hpost⟩

theorem keeps_same_iff {V : Type} [Preorder V] (v : V) {post : α → Prop} :
    Keeps inv w x (fun w' a => w' = w ∧ post a) ↔
      Keeps (fun _ : V => inv w) v x fun _ a => post a := by
  constructor
  · intro h s a s' hs hx
    obtain ⟨_, -, hs', rfl, hpost⟩ := h s a s' hs hx
    exact ⟨v, le_rfl, hs', hpost⟩
  · intro h s a s' hs hx
    obtain ⟨_, -, hs', hpost⟩ := h s a s' hs hx
    exact ⟨w, le_rfl, hs', rfl, hpost⟩

theorem keeps_pure {post : W → α → Prop} {a : α} (h : post w a) :
    Keeps inv w (pure a : ExceptT ε (StateM σ) α) post := by
  intro s b s' hs hx
  obtain ⟨rfl, rfl⟩ := returns_pure.mp hx
  exact ⟨w, le_rfl, hs, h⟩

theorem Keeps.bind {mid : W → α → Prop} {post : W → β → Prop} (hx : Keeps inv w x mid)
    (hf : ∀ w' a, w ≤ w' → mid w' a → Keeps inv w' (f a) post) : Keeps inv w (x >>= f) post := by
  intro s b s' hs h
  obtain ⟨a, t, hxa, hfb⟩ := returns_bind.mp h
  obtain ⟨w₁, hw₁, ht, hmid⟩ := hx s a t hs hxa
  obtain ⟨w₂, hw₂, hs', hpost⟩ := hf w₁ a hw₁ hmid t b s' ht hfb
  exact ⟨w₂, hw₁.trans hw₂, hs', hpost⟩

theorem keeps_get : Keeps inv w (get : ExceptT ε (StateM σ) σ) fun w' s => w' = w ∧ inv w s := by
  intro s t s' hs h
  obtain ⟨rfl, rfl⟩ := returns_get.mp h
  exact ⟨w, le_rfl, hs, rfl, hs⟩

theorem achieves_pure {post : W → α → Prop} {a : α} (h : post w a) :
    Achieves inv w (pure a : ExceptT ε (StateM σ) α) post :=
  fun s hs => ⟨a, s, returns_pure.mpr ⟨rfl, rfl⟩, w, le_rfl, hs, h⟩

theorem Achieves.bind {mid : W → α → Prop} {post : W → β → Prop} (hx : Achieves inv w x mid)
    (hf : ∀ w' a, w ≤ w' → mid w' a → Achieves inv w' (f a) post) :
    Achieves inv w (x >>= f) post := by
  intro s hs
  obtain ⟨a, t, hxa, w₁, hw₁, ht, hmid⟩ := hx s hs
  obtain ⟨b, s', hfb, w₂, hw₂, hs', hpost⟩ := hf w₁ a hw₁ hmid t ht
  exact ⟨b, s', returns_bind.mpr ⟨a, t, hxa, hfb⟩, w₂, hw₁.trans hw₂, hs', hpost⟩

theorem Achieves.mono {post post' : W → α → Prop} (h : Achieves inv w x post)
    (himp : ∀ w' a, w ≤ w' → post w' a → post' w' a) : Achieves inv w x post' := by
  intro s hs
  obtain ⟨a, s', hx, w', hw, hs', hpost⟩ := h s hs
  exact ⟨a, s', hx, w', hw, hs', himp w' a hw hpost⟩

theorem Achieves.map {post : W → β → Prop} {g : α → β}
    (h : Achieves inv w x fun w' a => post w' (g a)) : Achieves inv w (g <$> x) post := by
  intro s hs
  obtain ⟨a, s', hx, hpost⟩ := h s hs
  exact ⟨g a, s', returns_map.mpr ⟨a, hx, rfl⟩, hpost⟩

theorem Achieves.tryCatch {post : W → α → Prop} {handler : ε → ExceptT ε (StateM σ) α}
    (h : Achieves inv w x post) : Achieves inv w (MonadExcept.tryCatch x handler) post := by
  intro s hs
  obtain ⟨a, s', hx, hpost⟩ := h s hs
  exact ⟨a, s', hx.tryCatch, hpost⟩

/-! ## Lists of actions -/

theorem Keeps.forIn {l : List α} (h : ∀ w', w ≤ w' → ∀ a ∈ l, Keeps inv w' (f a) fun _ _ => True) :
    Keeps inv w (ForIn.forIn l PUnit.unit fun a _ => do
      let _ ← f a
      pure (ForInStep.yield PUnit.unit)) fun _ _ => True := by
  induction l generalizing w with
  | nil => exact keeps_pure trivial
  | cons a l ih =>
    have hstep : Keeps inv w (do let _ ← f a; pure (ForInStep.yield PUnit.unit))
        fun _ step => step = .yield PUnit.unit :=
      (h w le_rfl a (by simp)).bind fun _ _ _ _ => keeps_pure rfl
    rw [List.forIn_cons]
    refine hstep.bind ?_
    rintro w' _ hw' rfl
    exact ih fun w'' hw'' a' ha' => h w'' (hw'.trans hw'') a' (by simp [ha'])

end Worlds

end GeneticRepair
