import GeneticRepair.Proofs.Action

/-!
# Actions that mirror each other

Two actions are compared from states that are related: whenever the first returns, the second
returns too, and the states are related again. The worlds of `Keeps` say what is known of both
states. Mostly the two are one action, or differ in a detail only, and return the same.
-/

namespace GeneticRepair

variable {ε σ α β W : Type} [Preorder W] (rel : W → σ → σ → Prop)

/-- Whenever `x` returns from a state, `y` returns from the related ones, to states that are related
in a world that has grown to one of the postcondition. -/
def Mirrors (w : W) (x y : ExceptT ε (StateM σ) α) (post : W → α → α → Prop) : Prop :=
  ∀ s s' a t, rel w s s' → Returns x s a t →
    ∃ b t', Returns y s' b t' ∧ ∃ w', w ≤ w' ∧ rel w' t t' ∧ post w' a b

def Same (P : W → α → Prop) (w : W) (a b : α) : Prop :=
  b = a ∧ P w a

/-- The action returns the same from related states. -/
def Repeats (w : W) (x : ExceptT ε (StateM σ) α) (P : W → α → Prop) : Prop :=
  Mirrors rel w x x (Same P)

variable {rel} {w : W} {x y : ExceptT ε (StateM σ) α} {f g : α → ExceptT ε (StateM σ) β}

theorem Mirrors.mono {post post' : W → α → α → Prop} (h : Mirrors rel w x y post)
    (himp : ∀ w' a b, w ≤ w' → post w' a b → post' w' a b) : Mirrors rel w x y post' := by
  intro s s' a t hs hx
  obtain ⟨b, t', hy, w', hw, ht, hpost⟩ := h s s' a t hs hx
  exact ⟨b, t', hy, w', hw, ht, himp w' a b hw hpost⟩

theorem Repeats.mono {P P' : W → α → Prop} (h : Repeats rel w x P)
    (himp : ∀ w' a, w ≤ w' → P w' a → P' w' a) : Repeats rel w x P' :=
  Mirrors.mono h fun w' a _ hw hab => ⟨hab.1, himp w' a hw hab.2⟩

theorem mirrors_pure {post : W → α → α → Prop} {a b : α} (h : post w a b) :
    Mirrors rel w (pure a : ExceptT ε (StateM σ) α) (pure b) post := by
  intro s s' a' t hs hx
  obtain ⟨rfl, rfl⟩ := returns_pure.mp hx
  exact ⟨b, s', returns_pure.mpr ⟨rfl, rfl⟩, w, le_rfl, hs, h⟩

theorem repeats_pure {P : W → α → Prop} {a : α} (h : P w a) :
    Repeats rel w (pure a : ExceptT ε (StateM σ) α) P :=
  mirrors_pure ⟨rfl, h⟩

theorem mirrors_of_returns {post : W → α → α → Prop}
    (h : ∀ s s', rel w s s' → ∃ a t b t', Returns x s a t ∧ Returns y s' b t' ∧
      ∃ w', w ≤ w' ∧ rel w' t t' ∧ post w' a b) : Mirrors rel w x y post := by
  intro s s' a t hs hx
  obtain ⟨a', t₁, b, t', hx', hy, hpost⟩ := h s s' hs
  obtain ⟨rfl, rfl⟩ := hx.eq hx'
  exact ⟨b, t', hy, hpost⟩

theorem mirrors_throw {post : W → α → α → Prop} {e : ε} :
    Mirrors rel w (throw e : ExceptT ε (StateM σ) α) y post :=
  fun _ _ _ _ _ h => absurd h not_returns_throw

theorem repeats_throw {P : W → α → Prop} {e : ε} :
    Repeats rel w (throw e : ExceptT ε (StateM σ) α) P :=
  mirrors_throw

theorem Mirrors.bind {mid : W → α → α → Prop} {post : W → β → β → Prop}
    (hx : Mirrors rel w x y mid)
    (hf : ∀ w' a b, w ≤ w' → mid w' a b → Mirrors rel w' (f a) (g b) post) :
    Mirrors rel w (x >>= f) (y >>= g) post := by
  intro s s' c t hs h
  obtain ⟨a, s₁, hxa, hfa⟩ := returns_bind.mp h
  obtain ⟨b, s₁', hyb, w₁, hw₁, hs₁, hmid⟩ := hx s s' a s₁ hs hxa
  obtain ⟨d, t', hgb, w₂, hw₂, ht, hpost⟩ := hf w₁ a b hw₁ hmid s₁ s₁' c t hs₁ hfa
  exact ⟨d, t', returns_bind.mpr ⟨b, s₁', hyb, hgb⟩, w₂, hw₁.trans hw₂, ht, hpost⟩

theorem Mirrors.then {P : W → α → Prop} {post : W → β → β → Prop} (hx : Mirrors rel w x y (Same P))
    (hf : ∀ w' a, w ≤ w' → P w' a → Mirrors rel w' (f a) (g a) post) :
    Mirrors rel w (x >>= f) (y >>= g) post := by
  refine Mirrors.bind hx ?_
  rintro w' a _ hw ⟨rfl, ha⟩
  exact hf w' _ hw ha

theorem Repeats.bind {P : W → α → Prop} {Q : W → β → Prop} (hx : Repeats rel w x P)
    (hf : ∀ w' a, w ≤ w' → P w' a → Repeats rel w' (f a) Q) : Repeats rel w (x >>= f) Q :=
  Mirrors.then hx hf

/-! ## Lists of actions -/

variable {l : List α}

theorem Repeats.mapM {P : W → β → Prop} (mono : ∀ {w₁ w₂ b}, w₁ ≤ w₂ → P w₁ b → P w₂ b)
    (h : ∀ w', w ≤ w' → ∀ a ∈ l, Repeats rel w' (f a) P) :
    Repeats rel w (l.mapM f) fun w' bs => bs.length = l.length ∧ ∀ b ∈ bs, P w' b := by
  induction l generalizing w with
  | nil => exact repeats_pure (by simp)
  | cons a l ih =>
    rw [List.mapM_cons]
    refine (h w le_rfl a List.mem_cons_self).bind fun w₁ b hw₁ hb => ?_
    have hl : ∀ w', w₁ ≤ w' → ∀ a' ∈ l, Repeats rel w' (f a') P :=
      fun w' hw' a' ha' => h w' (hw₁.trans hw') a' (List.mem_cons_of_mem a ha')
    refine (ih hl).bind fun w₂ bs hw₂ hbs => repeats_pure ⟨by simp [hbs.1], ?_⟩
    intro b' hb'
    rcases List.mem_cons.mp hb' with rfl | hb'
    · exact mono hw₂ hb
    · exact hbs.2 b' hb'

variable {p : α → ExceptT ε (StateM σ) Bool} {P : α → Bool → Prop}

private theorem Repeats.filterAuxM
    (h : ∀ w', w ≤ w' → ∀ a ∈ l, Repeats rel w' (p a) fun _ b => P a b) (kept : List α) :
    Repeats rel w (l.filterAuxM p kept) fun _ r => ∃ l' : List α, r = l'.reverse ++ kept ∧
      l'.Sublist l ∧ (∀ a ∈ l', P a true) ∧ ∀ a ∈ l, a ∈ l' ∨ P a false := by
  induction l generalizing w kept with
  | nil => exact repeats_pure ⟨[], by simp⟩
  | cons a l ih =>
    refine (h w le_rfl a (by simp)).bind fun w₁ b hw₁ hb => ?_
    have hl : ∀ w', w₁ ≤ w' → ∀ a' ∈ l, Repeats rel w' (p a') fun _ b => P a' b :=
      fun w' hw' a' ha' => h w' (hw₁.trans hw') a' (by simp [ha'])
    refine (ih hl _).mono fun w₂ r _ ⟨l', hr, hsub, hkept, hall⟩ => ?_
    cases b with
    | true =>
      refine ⟨a :: l', by simp [hr], hsub.cons_cons a, ?_, ?_⟩
      · intro a' ha'
        rcases List.mem_cons.mp ha' with rfl | ha'
        · exact hb
        · exact hkept a' ha'
      · intro a' ha'
        rcases List.mem_cons.mp ha' with rfl | ha'
        · exact .inl (by simp)
        · exact (hall a' ha').imp_left (List.mem_cons_of_mem a)
    | false =>
      refine ⟨l', by simp [hr], hsub.cons a, hkept, ?_⟩
      intro a' ha'
      rcases List.mem_cons.mp ha' with rfl | ha'
      · exact .inr hb
      · exact hall a' ha'

theorem Repeats.filterM
    (h : ∀ w', w ≤ w' → ∀ a ∈ l, Repeats rel w' (p a) fun _ b => P a b) :
    Repeats rel w (l.filterM p) fun _ r =>
      r.Sublist l ∧ (∀ a ∈ r, P a true) ∧ ∀ a ∈ l, a ∈ r ∨ P a false := by
  refine (Repeats.filterAuxM h []).bind fun w' r _ hr => repeats_pure ?_
  obtain ⟨l', rfl, hl'⟩ := hr
  simpa using hl'

/-! ## One state -/

/-- Both are one state, of which an invariant holds. -/
def Diagonal (inv : W → σ → Prop) (w : W) (s s' : σ) : Prop :=
  s' = s ∧ inv w s

theorem repeats_diagonal_iff {inv : W → σ → Prop} {Q : W → α → Prop} :
    Repeats (Diagonal inv) w x Q ↔ Keeps inv w x Q := by
  constructor
  · intro h s a t hs hx
    obtain ⟨b, t', hx', w', hw, ⟨rfl, ht⟩, -, hQ⟩ := h s s a t ⟨rfl, hs⟩ hx
    exact ⟨w', hw, ht, hQ⟩
  · rintro h s _ a t ⟨rfl, hs⟩ hx
    obtain ⟨w', hw, ht, hQ⟩ := h _ a t hs hx
    exact ⟨a, t, hx, w', hw, ⟨rfl, ht⟩, rfl, hQ⟩

end GeneticRepair
