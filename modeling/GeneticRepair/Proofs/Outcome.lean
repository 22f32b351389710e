import GeneticRepair.Proofs.Action

/-!
# What comes of actions

An action ends in a value or in a failure, and in both cases in a state. `Ends` says what is known
of all three, from every state of an invariant.
-/

namespace GeneticRepair

variable {ε σ α β : Type}

/-- The value or the failure is as it is said to be. -/
def Meets (value : α → Prop) (failure : ε → Prop) : Except ε α → Prop
  | .ok a => value a
  | .error e => failure e

theorem Meets.mono {value value' : α → Prop} {failure failure' : ε → Prop} {x : Except ε α}
    (h : Meets value failure x) (hvalue : ∀ a, value a → value' a)
    (hfailure : ∀ e, failure e → failure' e) : Meets value' failure' x := by
  cases x with
  | ok a => exact hvalue a h
  | error e => exact hfailure e h

theorem Meets.bind {value : α → Prop} {result : β → Prop} {failure : ε → Prop} {x : Except ε α}
    {f : α → Except ε β} (hx : Meets value failure x)
    (hf : ∀ a, value a → Meets result failure (f a)) : Meets result failure (x >>= f) := by
  cases x with
  | ok a => exact hf a hx
  | error e => exact hx

theorem Meets.of_ok {value : α → Prop} {failure : ε → Prop} {x : Except ε α} {a : α}
    (h : Meets value failure x) (hx : x = .ok a) : value a := by
  rw [hx] at h
  exact h

theorem bind_eq_ok {x : Except ε α} {f : α → Except ε β} {b : β} :
    (x >>= f) = .ok b ↔ ∃ a, x = .ok a ∧ f a = .ok b := by
  cases x <;> simp [bind, Except.bind]

theorem mapM_eq_ok {f : α → Except ε β} {g : α → β} {l : List α} (h : ∀ a ∈ l, f a = .ok (g a)) :
    l.mapM f = .ok (l.map g) := by
  induction l with
  | nil => rfl
  | cons a l ih =>
    obtain ⟨ha, hl⟩ := List.forall_mem_cons.mp h
    rw [List.mapM_cons, ha, ih hl]
    rfl

theorem mapM_eq_error {f : α → Except ε β} {e : ε} {l : List α}
    (h : ∀ a ∈ l, (∃ b, f a = .ok b) ∨ f a = .error e) (hfails : ∃ a ∈ l, f a = .error e) :
    l.mapM f = .error e := by
  induction l with
  | nil =>
    obtain ⟨a, ha, -⟩ := hfails
    exact absurd ha List.not_mem_nil
  | cons a l ih =>
    obtain ⟨ha, hl⟩ := List.forall_mem_cons.mp h
    rw [List.mapM_cons]
    rcases ha with ⟨b, hb⟩ | he
    · obtain ⟨a', ha', he'⟩ := hfails
      rcases List.mem_cons.mp ha' with rfl | ha'
      · cases hb.symm.trans he'
      · rw [hb, ih hl ⟨a', ha', he'⟩]
        rfl
    · rw [he]
      rfl

def failure? : Except ε α → Option ε
  | .ok _ => none
  | .error e => some e

theorem exists_fails {act : ExceptT ε (StateM σ) α} {s : σ} {e : ε}
    (h : failure? (act.run.run s).1 = some e) : ∃ s', act.run.run s = (.error e, s') := by
  rcases hrun : act.run.run s with ⟨e' | a, s'⟩
  · rw [hrun] at h
    obtain rfl := Option.some.inj h
    exact ⟨s', rfl⟩
  · rw [hrun] at h
    cases h

theorem Returns.run_bind {x : ExceptT ε (StateM σ) α} {f : α → ExceptT ε (StateM σ) β} {s t : σ}
    {a : α} (h : Returns x s a t) : (x >>= f).run.run s = (f a).run.run t := by
  rw [ExceptT.run_bind, StateT.run_bind, h]
  rfl

theorem run_bind_error {x : ExceptT ε (StateM σ) α} {f : α → ExceptT ε (StateM σ) β} {s t : σ}
    {e : ε} (h : x.run.run s = (.error e, t)) : (x >>= f).run.run s = (.error e, t) := by
  rw [ExceptT.run_bind, StateT.run_bind, h]
  rfl

theorem run_bind_congr {x : ExceptT ε (StateM σ) α} {f : α → ExceptT ε (StateM σ) β} {s t : σ}
    (h : x.run.run s = x.run.run t) : (x >>= f).run.run s = (x >>= f).run.run t := by
  rw [ExceptT.run_bind, StateT.run_bind, StateT.run_bind, h]

theorem run_tryCatch_error {x : ExceptT ε (StateM σ) α} {handler : ε → ExceptT ε (StateM σ) α}
    {s t : σ} {e : ε} (h : x.run.run s = (.error e, t)) :
    (MonadExcept.tryCatch x handler).run.run s = (handler e).run.run t := by
  change (x.run >>= fun r => match r with
    | .ok a => pure (.ok a)
    | .error e => (handler e).run : StateM σ (Except ε α)).run s = _
  rw [StateT.run_bind, h]
  rfl

theorem Returns.of_tryCatch {x : ExceptT ε (StateM σ) α} {handler : ε → ExceptT ε (StateM σ) α}
    {s s' : σ} {a : α} (h : Returns (MonadExcept.tryCatch x handler) s a s') :
    Returns x s a s' ∨ ∃ e t, x.run.run s = (.error e, t) ∧ Returns (handler e) t a s' := by
  rcases hrun : x.run.run s with ⟨e | b, t⟩
  · rw [Returns, run_tryCatch_error hrun] at h
    exact .inr ⟨e, t, rfl, h⟩
  · obtain ⟨rfl, rfl⟩ := h.eq (Returns.tryCatch hrun)
    exact .inl hrun

/-- From a state of the invariant the action ends in such a state, with such a value or failure. -/
def Ends (inv : σ → Prop) (act : ExceptT ε (StateM σ) α) (value : α → Prop) (failure : ε → Prop) :
    Prop :=
  ∀ s, inv s → Meets value failure (act.run.run s).1 ∧ inv (act.run.run s).2

variable {inv : σ → Prop} {value : α → Prop} {failure : ε → Prop} {x : ExceptT ε (StateM σ) α}

theorem Ends.mono {value' : α → Prop} {failure' : ε → Prop} (h : Ends inv x value failure)
    (hvalue : ∀ a, value a → value' a) (hfailure : ∀ e, failure e → failure' e) :
    Ends inv x value' failure' := by
  intro s hs
  obtain ⟨hmeets, hs'⟩ := h s hs
  exact ⟨hmeets.mono hvalue hfailure, hs'⟩

theorem ends_pure {a : α} (h : value a) :
    Ends inv (pure a : ExceptT ε (StateM σ) α) value failure :=
  fun _ hs => ⟨h, hs⟩

theorem ends_throw {e : ε} (h : failure e) :
    Ends inv (throw e : ExceptT ε (StateM σ) α) value failure :=
  fun _ hs => ⟨h, hs⟩

theorem ends_liftExcept {e : Except ε α} (hvalue : ∀ a, e = .ok a → value a)
    (hfailure : ∀ e', e = .error e' → failure e') :
    Ends inv (liftExcept e : ExceptT ε (StateM σ) α) value failure := by
  cases e with
  | ok a => exact ends_pure (hvalue a rfl)
  | error e' => exact ends_throw (hfailure e' rfl)

theorem ends_get : Ends inv (get : ExceptT ε (StateM σ) σ) inv failure :=
  fun _ hs => ⟨hs, hs⟩

theorem ends_modifyGet {f : σ → α × σ} (h : ∀ s, inv s → value (f s).1 ∧ inv (f s).2) :
    Ends inv (modifyGet f : ExceptT ε (StateM σ) α) value failure :=
  h

theorem ends_modify {f : σ → σ} (h : ∀ s, inv s → inv (f s)) :
    Ends inv (modify f : ExceptT ε (StateM σ) Unit) (fun _ => True) failure :=
  fun s hs => ⟨trivial, h s hs⟩

theorem Ends.bind {f : α → ExceptT ε (StateM σ) β} {result : β → Prop}
    (hx : Ends inv x value failure) (hf : ∀ a, value a → Ends inv (f a) result failure) :
    Ends inv (x >>= f) result failure := by
  intro s hs
  obtain ⟨hmeets, hs'⟩ := hx s hs
  rcases hr : x.run.run s with ⟨e | a, s'⟩
  · rw [hr] at hmeets hs'
    rw [run_bind_error hr]
    exact ⟨hmeets, hs'⟩
  · rw [hr] at hmeets hs'
    rw [Returns.run_bind hr]
    exact hf a hmeets s' hs'

theorem Ends.map {f : α → β} {result : β → Prop} (hx : Ends inv x value failure)
    (hf : ∀ a, value a → result (f a)) : Ends inv (f <$> x) result failure := by
  rw [map_eq_pure_bind]
  exact hx.bind fun a ha => ends_pure (hf a ha)

theorem Ends.tryCatch {caught : ε → Prop} {handler : ε → ExceptT ε (StateM σ) α}
    (hx : Ends inv x value caught) (hh : ∀ e, caught e → Ends inv (handler e) value failure) :
    Ends inv (MonadExcept.tryCatch x handler) value failure := by
  intro s hs
  obtain ⟨hmeets, hs'⟩ := hx s hs
  rcases hr : x.run.run s with ⟨e | a, t⟩
  · rw [hr] at hmeets hs'
    rw [run_tryCatch_error hr]
    exact hh e hmeets t hs'
  · rw [hr] at hmeets hs'
    rw [Returns.tryCatch hr]
    exact ⟨hmeets, hs'⟩

theorem Ends.of_returns {s t : σ} {a : α} (h : Ends inv x value failure) (hs : inv s)
    (hx : Returns x s a t) : value a ∧ inv t := by
  have h' := h s hs
  rw [hx] at h'
  exact h'

theorem Ends.exists_returns {s : σ} (h : Ends inv x value fun _ => False) (hs : inv s) :
    ∃ a t, Returns x s a t ∧ value a ∧ inv t := by
  rcases hr : x.run.run s with ⟨e | a, t⟩
  · have hfails := (h s hs).1
    rw [hr] at hfails
    exact hfails.elim
  · exact ⟨a, t, hr, h.of_returns hs hr⟩

theorem Ends.keeps {W : Type} [Preorder W] {inv : W → σ → Prop} {w : W}
    (h : Ends (inv w) x value failure) : Keeps inv w x fun w' a => w' = w ∧ value a := by
  intro s a s' hs hx
  obtain ⟨ha, hs'⟩ := h.of_returns hs hx
  exact ⟨w, le_rfl, hs', rfl, ha⟩

/-! ## Lists of actions -/

variable {l : List α}

private theorem Ends.filterAuxM {p : α → ExceptT ε (StateM σ) Bool} {P : α → Bool → Prop}
    (h : ∀ a ∈ l, Ends inv (p a) (P a) failure) (kept : List α) :
    Ends inv (l.filterAuxM p kept) (fun r => ∀ a ∈ r, a ∈ kept ∨ a ∈ l ∧ P a true) failure := by
  induction l generalizing kept with
  | nil => exact ends_pure fun a ha => .inl ha
  | cons a l ih =>
    apply (h a List.mem_cons_self).bind
    intro b hb
    have hl : ∀ a' ∈ l, Ends inv (p a') (P a') failure :=
      fun a' ha' => h a' (List.mem_cons_of_mem a ha')
    apply (ih hl _).mono _ fun e he => he
    intro r hr x hx
    cases b with
    | false => exact (hr x hx).imp_right fun hx => ⟨List.mem_cons_of_mem a hx.1, hx.2⟩
    | true =>
      rcases hr x hx with hx | hx
      · rcases List.mem_cons.mp hx with rfl | hx
        · exact .inr ⟨List.mem_cons_self, hb⟩
        · exact .inl hx
      · exact .inr ⟨List.mem_cons_of_mem a hx.1, hx.2⟩

theorem Ends.filterM {p : α → ExceptT ε (StateM σ) Bool} {P : α → Bool → Prop}
    (h : ∀ a ∈ l, Ends inv (p a) (P a) failure) :
    Ends inv (l.filterM p) (fun r => ∀ a ∈ r, a ∈ l ∧ P a true) failure := by
  apply (Ends.filterAuxM h []).bind
  intro r hr
  apply ends_pure
  intro a ha
  simpa using hr a (List.mem_reverse.mp ha)

theorem Ends.mapM {f : α → ExceptT ε (StateM σ) β} {result : β → Prop}
    (h : ∀ a ∈ l, Ends inv (f a) result failure) :
    Ends inv (l.mapM f) (fun bs => ∀ b ∈ bs, result b) failure := by
  induction l with
  | nil => exact ends_pure (by simp)
  | cons a l ih =>
    rw [List.mapM_cons]
    apply (h a List.mem_cons_self).bind
    intro b hb
    apply (ih fun a' ha' => h a' (List.mem_cons_of_mem a ha')).bind
    intro bs hbs
    exact ends_pure (List.forall_mem_cons.mpr ⟨hb, hbs⟩)

theorem Ends.forIn {f : α → ExceptT ε (StateM σ) β}
    (h : ∀ a ∈ l, Ends inv (f a) (fun _ => True) failure) :
    Ends inv (ForIn.forIn l PUnit.unit fun a _ => do
      let _ ← f a
      pure (ForInStep.yield PUnit.unit)) (fun _ => True) failure := by
  induction l with
  | nil => exact ends_pure trivial
  | cons a l ih =>
    have hstep : Ends inv (do let _ ← f a; pure (ForInStep.yield PUnit.unit))
        (fun step => step = .yield PUnit.unit) failure :=
      (h a List.mem_cons_self).bind fun _ _ => ends_pure rfl
    rw [List.forIn_cons]
    apply hstep.bind
    intro step hyield
    subst hyield
    exact ih fun a' ha' => h a' (List.mem_cons_of_mem a ha')

end GeneticRepair
