import GeneticRepair.Proofs.Outcome
import GeneticRepair.Session.Subscription
import Mathlib.Data.List.Induction
import Mathlib.Data.List.Nodup

/-!
# Who is subscribed

A list of subscribers changes by one handler at a time, at its end or by a removal. So no handler is
in it twice, and one that stands before another has been there since before the other came. A call
that is refused changes nothing, except for a removal from a session whose search does not hold the
handler any more: then the session loses the handler, though the call is refused.
-/

namespace GeneticRepair

/-! ## Notifying the subscribers -/

namespace Subscribers

variable {H ε σ : Type}

/-- Records who is reached, and then notifies. -/
def recorded (notify : H → ExceptT ε (StateM σ) Unit) (h : H) :
    ExceptT ε (StateM (σ × List H)) Unit :=
  ExceptT.mk fun (w, reached) =>
    let (r, w') := (notify h).run.run w
    (r, (w', reached ++ [h]))

/-- All handlers are reached in their order, or they are reached up to the first one that fails. -/
def Reaches (notify : H → ExceptT ε (StateM σ) Unit) (handlers reached : List H) :
    Except ε Unit → Prop
  | .ok _ => reached = handlers
  | .error e => ∃ before h rest w, reached = before ++ [h] ∧ handlers = before ++ h :: rest ∧
      ((notify h).run.run w).1 = .error e

private theorem run_recorded {notify : H → ExceptT ε (StateM σ) Unit} {h : H} {w w' : σ}
    {r : Except ε Unit}
    (hrun : (notify h).run.run w = (r, w')) (before : List H) :
    (recorded notify h).run.run (w, before) = (r, (w', before ++ [h])) := by
  change (let (r, w') := (notify h).run.run w; (r, (w', before ++ [h]))) = _
  rw [hrun]

private theorem Reaches.cons {notify : H → ExceptT ε (StateM σ) Unit} {handlers reached : List H}
    {r : Except ε Unit} (hreached : Reaches notify handlers reached r) (h : H) :
    Reaches notify (h :: handlers) (h :: reached) r := by
  cases r with
  | ok =>
    have heq : reached = handlers := hreached
    rw [heq]
    exact rfl
  | error e =>
    obtain ⟨before, failing, rest, w, rfl, rfl, hfails⟩ := hreached
    exact ⟨h :: before, failing, rest, w, rfl, rfl, hfails⟩

private theorem run_forM_recorded (notify : H → ExceptT ε (StateM σ) Unit)
    (handlers before : List H) (w : σ) :
    ∃ r w' reached, (handlers.forM notify).run.run w = (r, w') ∧
      (handlers.forM (recorded notify)).run.run (w, before) = (r, (w', before ++ reached)) ∧
      Reaches notify handlers reached r := by
  induction handlers generalizing before w with
  | nil => exact ⟨.ok (), w, [], rfl, by simp; rfl, rfl⟩
  | cons h handlers ih =>
    rcases hrun : (notify h).run.run w with ⟨e | ⟨⟩, w₁⟩
    · refine ⟨.error e, w₁, [h], ?_, ?_, [], h, handlers, w, rfl, rfl, by rw [hrun]⟩
      · exact run_bind_error hrun
      · exact run_bind_error (run_recorded hrun before)
    · obtain ⟨r, w', reached, hplain, hrecorded, hreached⟩ := ih (before ++ [h]) w₁
      refine ⟨r, w', h :: reached, ?_, ?_, hreached.cons h⟩
      · exact (Returns.run_bind hrun).trans hplain
      · refine (Returns.run_bind (run_recorded hrun before)).trans ?_
        rw [hrecorded]
        simp

private theorem dispatch_reaches (s : Subscribers H) (notify : H → ExceptT ε (StateM σ) Unit)
    (w : σ) :
    ∃ r w' reached, (s.dispatch notify).run.run w = (r, w') ∧
      (s.dispatch (recorded notify)).run.run (w, []) = (r, (w', reached)) ∧
      Reaches notify s.handlers reached r :=
  run_forM_recorded notify s.handlers [] w

/-! ## Changes of a list -/

variable [DecidableEq H]

omit [DecidableEq H] in
/-- A list loses handlers or none, or it gets a new one behind the others. -/
def Changes (s s' : Subscribers H) : Prop :=
  s'.handlers.Sublist s.handlers ∨ ∃ h ∉ s.handlers, s'.handlers = s.handlers ++ [h]

omit [DecidableEq H] in
private theorem changes_self (s : Subscribers H) : Changes s s :=
  .inl (List.Sublist.refl s.handlers)

private theorem changes_attach (s : Subscribers H) (h : H) : Changes s (s.attach h) := by
  by_cases hmem : h ∈ s.handlers
  · rw [attach, if_pos hmem]
    exact changes_self s
  · rw [attach, if_neg hmem]
    exact .inr ⟨h, hmem, rfl⟩

private theorem remove_of_mem {s : Subscribers H} {h : H} (hmem : h ∈ s.handlers) :
    s.remove h = .ok ⟨s.handlers.erase h⟩ :=
  if_pos hmem

private theorem remove_of_notMem {s : Subscribers H} {h : H} (hmem : h ∉ s.handlers) :
    s.remove h = .error .notSubscribed :=
  if_neg hmem

private theorem changes_remove {s s' : Subscribers H} {h : H} (hremove : s.remove h = .ok s') :
    Changes s s' := by
  by_cases hmem : h ∈ s.handlers
  · rw [remove_of_mem hmem, Except.ok.injEq] at hremove
    rw [← hremove]
    exact .inl List.erase_sublist
  · rw [remove_of_notMem hmem] at hremove
    cases hremove

end Subscribers

/-! ## Calls -/

namespace Subscriptions

open Subscribers

variable {H : Type}

/-- A call on a session or on its search. -/
inductive Call (H : Type) where
  | attach (h : H)
  | remove (h : H)
  | attachToSearch (h : H)
  | removeFromSearch (h : H)

/-- A handler is to be removed that is not subscribed. -/
def Refused (s : Subscriptions H) : Call H → Prop
  | .attach _ | .attachToSearch _ => False
  | .remove h => h ∉ s.session.handlers ∨ h ∉ s.search.handlers
  | .removeFromSearch h => h ∉ s.search.handlers

/-- A handler is to be removed from a session that holds it, though the search does not. -/
def Drifted (s : Subscriptions H) : Call H → Prop
  | .remove h => h ∈ s.session.handlers ∧ h ∉ s.search.handlers
  | _ => False

variable [DecidableEq H]

/-- The outcome of a call, and the subscribers afterwards. -/
def perform (s : Subscriptions H) : Call H → Except SubscriptionError Unit × Subscriptions H
  | .attach h => (.ok (), s.attach h)
  | .remove h => (Subscriptions.remove h).run.run s
  | .attachToSearch h => (.ok (), s.attachToSearch h)
  | .removeFromSearch h => (Subscriptions.removeFromSearch h).run.run s

/-- The subscribers after calls, refused ones among them. -/
def after (calls : List (Call H)) : Subscriptions H :=
  calls.foldl (fun s call => (s.perform call).2) none

private theorem after_concat (calls : List (Call H)) (call : Call H) :
    after (calls ++ [call]) = ((after calls).perform call).2 := by
  rw [after, List.foldl_append]
  rfl

variable {s : Subscriptions H} {h : H}

private theorem perform_removeFromSearch (s : Subscriptions H) (h : H) :
    s.perform (.removeFromSearch h) = match s.search.remove h with
      | .ok search => (.ok (), { s with search })
      | .error e => (.error e, s) := by
  change (liftExcept (s.search.remove h) >>= fun search =>
    modify fun s => { s with search } : ExceptT _ (StateM _) _).run.run s = _
  cases s.search.remove h <;> rfl

private theorem perform_remove (s : Subscriptions H) (h : H) :
    s.perform (.remove h) = match s.session.remove h with
      | .ok session => perform { s with session } (.removeFromSearch h)
      | .error e => (.error e, s) := by
  change (liftExcept (s.session.remove h) >>= fun session => (do
    modify fun s => { s with session }
    removeFromSearch h) : ExceptT _ (StateM _) _).run.run s = _
  cases s.session.remove h <;> rfl

private theorem perform_fails_iff (s : Subscriptions H) (call : Call H) :
    (s.perform call).1 = .error .notSubscribed ↔ s.Refused call := by
  cases call with
  | attach h | attachToSearch h => simp [perform, Refused]
  | removeFromSearch h =>
    rw [perform_removeFromSearch, Refused]
    by_cases hmem : h ∈ s.search.handlers
    · simp [remove_of_mem hmem, hmem]
    · simp [remove_of_notMem hmem, hmem]
  | remove h =>
    rw [perform_remove, Refused]
    by_cases hsession : h ∈ s.session.handlers
    · rw [remove_of_mem hsession]
      by_cases hsearch : h ∈ s.search.handlers
      · simp [perform_removeFromSearch, remove_of_mem hsearch, hsession, hsearch]
      · simp [perform_removeFromSearch, remove_of_notMem hsearch, hsearch]
    · simp [remove_of_notMem hsession, hsession]

private theorem perform_of_refused {call : Call H} (hrefused : s.Refused call)
    (hdrifted : ¬ s.Drifted call) :
    (s.perform call).2 = s := by
  cases call with
  | attach h | attachToSearch h => exact hrefused.elim
  | removeFromSearch h =>
    rw [perform_removeFromSearch, remove_of_notMem hrefused]
  | remove h =>
    have hsession : h ∉ s.session.handlers := by
      intro hmem
      rcases hrefused with hnot | hnot
      · exact hnot hmem
      · exact hdrifted ⟨hmem, hnot⟩
    rw [perform_remove, remove_of_notMem hsession]

/-- The removal is done by half. -/
theorem perform_of_drifted (hdrifted : s.Drifted (.remove h)) :
    s.perform (.remove h) =
      (.error .notSubscribed, { s with session := ⟨s.session.handlers.erase h⟩ }) := by
  obtain ⟨hsession, hsearch⟩ := hdrifted
  rw [perform_remove, remove_of_mem hsession]
  simp only [perform_removeFromSearch, remove_of_notMem hsearch]

/-! ## The order of attachment -/

private theorem session_of_removeFromSearch (s : Subscriptions H) (h : H) :
    (s.perform (.removeFromSearch h)).2.session = s.session := by
  rw [perform_removeFromSearch]
  cases s.search.remove h <;> rfl

private theorem changes_session (s : Subscriptions H) (call : Call H) :
    Changes s.session (s.perform call).2.session := by
  cases call with
  | attach h => exact changes_attach s.session h
  | attachToSearch h => exact changes_self s.session
  | removeFromSearch h =>
    rw [session_of_removeFromSearch]
    exact changes_self s.session
  | remove h =>
    rw [perform_remove]
    cases hremove : s.session.remove h with
    | error e => exact changes_self s.session
    | ok session =>
      simp only [session_of_removeFromSearch]
      exact changes_remove hremove

private theorem changes_search (s : Subscriptions H) (call : Call H) :
    Changes s.search (s.perform call).2.search := by
  have hremoved : ∀ (s : Subscriptions H) (h : H),
      Changes s.search (s.perform (.removeFromSearch h)).2.search := by
    intro s h
    rw [perform_removeFromSearch]
    cases hremove : s.search.remove h with
    | error e => exact changes_self s.search
    | ok search => exact changes_remove hremove
  cases call with
  | attach h | attachToSearch h => exact changes_attach s.search h
  | removeFromSearch h => exact hremoved s h
  | remove h =>
    rw [perform_remove]
    cases s.session.remove h with
    | error e => exact changes_self s.search
    | ok session => exact hremoved { s with session } h

/-- One handler has been subscribed since a moment at which the other one was not. -/
def Older (side : Subscriptions H → Subscribers H) (calls : List (Call H)) (h₁ h₂ : H) : Prop :=
  ∃ earlier later, calls = earlier ++ later ∧ h₂ ∉ (side (after earlier)).handlers ∧
    ∀ passed, passed <+: later → h₁ ∈ (side (after (earlier ++ passed))).handlers

variable {side : Subscriptions H → Subscribers H} {calls : List (Call H)} {call : Call H} {h₁ h₂ : H}

private theorem Older.ne (h : Older side calls h₁ h₂) : h₁ ≠ h₂ := by
  obtain ⟨earlier, later, -, habsent, hpresent⟩ := h
  intro heq
  have hmem : h₁ ∈ (side (after (earlier ++ []))).handlers := hpresent [] List.nil_prefix
  rw [heq, List.append_nil] at hmem
  exact habsent hmem

private theorem Older.concat (h : Older side calls h₁ h₂)
    (hmem : h₁ ∈ (side (after (calls ++ [call]))).handlers) : Older side (calls ++ [call]) h₁ h₂ := by
  obtain ⟨earlier, later, rfl, habsent, hpresent⟩ := h
  refine ⟨earlier, later ++ [call], List.append_assoc _ _ _, habsent, fun passed hpassed => ?_⟩
  rcases List.prefix_concat_iff.mp hpassed with rfl | hpassed
  · rwa [← List.append_assoc]
  · exact hpresent passed hpassed

private theorem older_of_added (habsent : h₂ ∉ (side (after calls)).handlers)
    (hbefore : h₁ ∈ (side (after calls)).handlers)
    (hafter : h₁ ∈ (side (after (calls ++ [call]))).handlers) :
    Older side (calls ++ [call]) h₁ h₂ := by
  refine ⟨calls, [call], rfl, habsent, fun passed hpassed => ?_⟩
  have hshort : passed <+: [] ++ [call] := hpassed
  rcases List.prefix_concat_iff.mp hshort with rfl | hempty
  · exact hafter
  · rw [List.prefix_nil.mp hempty, List.append_nil]
    exact hbefore

private theorem pairwise_older (hchanges : ∀ s call, Changes (side s) (side (s.perform call).2))
    (hnone : (side .none).handlers = []) (calls : List (Call H)) :
    (side (after calls)).handlers.Pairwise (Older side calls) := by
  induction calls using List.reverseRecOn with
  | nil =>
    rw [after, List.foldl_nil, hnone]
    exact .nil
  | append_singleton calls call ih =>
    have hchange : Changes (side (after calls)) (side (after (calls ++ [call]))) := by
      rw [after_concat]
      exact hchanges (after calls) call
    have holder : ∀ {l : List H}, l.Sublist (side (after calls)).handlers →
        (∀ h ∈ l, h ∈ (side (after (calls ++ [call]))).handlers) →
        l.Pairwise (Older side (calls ++ [call])) := by
      intro l hsublist hmem
      refine (ih.sublist hsublist).imp_of_mem fun hfirst hsecond hpair => ?_
      exact hpair.concat (hmem _ hfirst)
    rcases hchange with hsublist | ⟨new, habsent, hadded⟩
    · exact holder hsublist fun h hmem => hmem
    · rw [hadded, List.pairwise_append]
      have hmem : ∀ h ∈ (side (after calls)).handlers,
          h ∈ (side (after (calls ++ [call]))).handlers := by
        intro h hmem
        rw [hadded]
        exact List.mem_append_left [new] hmem
      refine ⟨holder (List.Sublist.refl _) hmem, List.pairwise_singleton _ _, fun h hh h' hh' => ?_⟩
      rw [List.mem_singleton.mp hh']
      exact older_of_added habsent hh (hmem h hh)

/-! ## Who is subscribed -/

private theorem received_of_nodup {E : Type} (hnodup : s.search.handlers.Nodup) (h : H)
    (events : List E) :
    s.received h events = if h ∈ s.search.handlers then events else [] := by
  have honce : ∀ e : E, s.received h [e] = if h ∈ s.search.handlers then [e] else [] := by
    intro e
    rw [received, deliveries, List.flatMap_cons, List.flatMap_nil, List.append_nil,
      List.filter_map, List.map_map]
    change ((s.search.handlers.filter fun other => other == h).map fun _ => e) = _
    rw [List.filter_beq, List.map_replicate, hnodup.count]
    split <;> rfl
  have happend : ∀ first second : List E,
      s.received h (first ++ second) = s.received h first ++ s.received h second := by
    intro first second
    simp only [received, deliveries, List.flatMap_append, List.filter_append, List.map_append]
  induction events with
  | nil => simp [received, deliveries]
  | cons e events ih =>
    rw [← List.singleton_append, happend, honce, ih]
    split <;> rfl

private theorem nodup_of_pairwise_older {l : List H} (h : l.Pairwise (Older side calls)) :
    l.Nodup :=
  h.imp Older.ne

/-- After any calls no handler is in a list twice, and the lists are in the order of attachment. An
event reaches the handlers of the search in this order, all of them unless one fails. A call fails
just if it is refused; then all lists are as they were, unless the lists have drifted apart, in which
case the session has lost the handler. -/
theorem subscribed_after (calls : List (Call H)) :
    (after calls).session.handlers.Nodup ∧ (after calls).search.handlers.Nodup ∧
      (after calls).session.handlers.Pairwise (Older session calls) ∧
      (after calls).search.handlers.Pairwise (Older search calls) ∧
      (∀ {σ ε : Type} (notify : H → ExceptT ε (StateM σ) Unit) (w : σ), ∃ r w' reached,
        ((after calls).search.dispatch notify).run.run w = (r, w') ∧
        ((after calls).search.dispatch (recorded notify)).run.run (w, []) = (r, (w', reached)) ∧
        Reaches notify (after calls).search.handlers reached r) ∧
      (∀ {E : Type} (h : H) (events : List E), (after calls).received h events =
        if h ∈ (after calls).search.handlers then events else []) ∧
      ∀ call, (((after calls).perform call).1 = .error .notSubscribed ↔
          (after calls).Refused call) ∧
        ((after calls).Refused call → ¬ (after calls).Drifted call →
          after (calls ++ [call]) = after calls) ∧
        ∀ h, call = .remove h → (after calls).Drifted call →
          after (calls ++ [call]) = { after calls with
            session := ⟨(after calls).session.handlers.erase h⟩ } := by
  have hsession : (after calls).session.handlers.Pairwise (Older session calls) :=
    pairwise_older changes_session rfl calls
  have hsearch : (after calls).search.handlers.Pairwise (Older search calls) :=
    pairwise_older changes_search rfl calls
  have hnodup : (after calls).search.handlers.Nodup := nodup_of_pairwise_older hsearch
  refine ⟨nodup_of_pairwise_older hsession, hnodup, hsession, hsearch,
    fun notify w => dispatch_reaches (after calls).search notify w,
    fun h events => received_of_nodup hnodup h events, fun call => ?_⟩
  simp only [after_concat]
  refine ⟨perform_fails_iff (after calls) call, perform_of_refused, fun h hcall hdrifted => ?_⟩
  subst hcall
  rw [perform_of_drifted hdrifted]

/-- The session and its search have the same handlers in different orders. -/
theorem subscribed_after_five :
    after [.attach "a", .attachToSearch "b", .remove "a", .attach "a", .attach "b"] =
        ⟨⟨["a", "b"]⟩, ⟨["b", "a"]⟩⟩ ∧
      Older session [.attach "a", .attachToSearch "b", .remove "a", .attach "a", .attach "b"] "a" "b" ∧
      Older search [.attach "a", .attachToSearch "b", .remove "a", .attach "a", .attach "b"] "b" "a" := by
  have hafter : after [.attach "a", .attachToSearch "b", .remove "a", .attach "a", .attach "b"] =
      ⟨⟨["a", "b"]⟩, ⟨["b", "a"]⟩⟩ := rfl
  obtain ⟨-, -, hsession, hsearch, -⟩ := subscribed_after
    [.attach "a", .attachToSearch "b", .remove "a", .attach "a", .attach "b"]
  rw [hafter] at hsession hsearch
  exact ⟨hafter, List.pairwise_pair.mp hsession, List.pairwise_pair.mp hsearch⟩

/-- The search has lost the handler, so the session cannot remove it: the call fails, and the session
has lost the handler nevertheless. And a handler that fails keeps an event from those behind it. -/
theorem remove_by_half :
    after [.attach "a", .removeFromSearch "a"] = ⟨⟨["a"]⟩, ⟨[]⟩⟩ ∧
      (after [.attach "a", .removeFromSearch "a"]).perform (.remove "a") =
        (.error .notSubscribed, ⟨⟨[]⟩, ⟨[]⟩⟩) ∧
      ((after [.attach "a", .attach "b"]).search.dispatch
        (recorded fun _ => Subscriptions.removeFromSearch "c")).run.run
          (after [.attach "a", .attach "b"], []) =
        (.error .notSubscribed, (⟨⟨["a", "b"]⟩, ⟨["a", "b"]⟩⟩, ["a"])) :=
  ⟨rfl, rfl, rfl⟩

end Subscriptions

end GeneticRepair
