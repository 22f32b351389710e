import GeneticRepair.Event.Stopwatch
import GeneticRepair.Proofs.Number.Exact
import Mathlib.Algebra.BigOperators.Intervals
import Mathlib.Algebra.Order.BigOperators.Group.Finset
import Mathlib.Data.List.GetD

/-!
# Measured time

In exact arithmetic a stopwatch shows the total length of those spans of the clock, since the last
reset, in which it runs. The spans are the times between an operation and the next one or the moment
at which the watch is read; in which of them it runs is told by the operations alone.
-/

namespace GeneticRepair.Stopwatch

/-! ## Effective operations -/

/-- Whether the watch runs after the operation. -/
def Operation.begins : Operation → Bool
  | start | enter => true
  | stop | reset | exit => false

/-- Adds an operation to the effective ones, unless it starts a watch that runs already or stops one
that is paused. A reset always has an effect. -/
def addEffective (done : List Operation) (operation : Operation) : List Operation :=
  if operation ≠ .reset ∧ operation.begins = done.getLast?.any Operation.begins then done
  else done ++ [operation]

def effective (operations : List Operation) : List Operation :=
  operations.foldl addEffective []

/-- The last effective operation was a start or an entry. -/
def running (operations : List Operation) : Bool :=
  (effective operations).getLast?.any Operation.begins

private theorem running_concat (operations : List Operation) (operation : Operation) :
    running (operations ++ [operation]) = operation.begins := by
  rw [running, effective, List.foldl_append, List.foldl_cons, List.foldl_nil, addEffective]
  split
  · rename_i hidle
    exact hidle.2.symm
  · simp

/-! ## Time in which the watch runs -/

/-- An operation at a time of the clock. -/
structure Press where
  operation : Operation
  time : ℝ

def operations (presses : List Press) : List Operation :=
  presses.map Press.operation

def readings (presses : List Press) (now : ℝ) : List ℝ :=
  presses.map Press.time ++ [now]

/-- The clock does not go back. -/
def Timely (presses : List Press) (now : ℝ) : Prop :=
  (readings presses now).Pairwise (· ≤ ·)

/-- The span that begins with a press counts if the watch runs in it, and no reset is behind it. -/
def counts (operations : List Operation) (i : Nat) : Bool :=
  running (operations.take (i + 1)) && !(operations.drop (i + 1)).contains .reset

/-- The length of the span of the clock that begins with a press. -/
def span (presses : List Press) (now : ℝ) (i : Nat) : ℝ :=
  (readings presses now).getD (i + 1) now - (readings presses now).getD i now

/-- The total length of the spans that count. -/
def runningTime (presses : List Press) (now : ℝ) : ℝ :=
  ∑ i ∈ Finset.range presses.length, if counts (operations presses) i then span presses now i else 0

variable {presses more : List Press} {press : Press} {now later : ℝ}

private theorem operations_concat (presses : List Press) (press : Press) :
    operations (presses ++ [press]) = operations presses ++ [press.operation] := by
  simp [operations]

private theorem readings_concat (presses : List Press) (press : Press) (now : ℝ) :
    readings (presses ++ [press]) now = readings presses press.time ++ [now] := by
  simp [readings]

private theorem span_concat_of_lt {i : Nat} (hi : i < presses.length) :
    span (presses ++ [press]) now i = span presses press.time i := by
  have hreading : ∀ j, j ≤ presses.length → (readings (presses ++ [press]) now).getD j now =
      (readings presses press.time).getD j press.time := by
    intro j hj
    have hlt : j < (readings presses press.time).length := by
      simp [readings]
      omega
    rw [readings_concat, List.getD_append _ _ _ _ hlt, List.getD_eq_getElem _ _ hlt,
      List.getD_eq_getElem _ _ hlt]
  rw [span, span, hreading i (by omega), hreading (i + 1) (by omega)]

private theorem span_concat_last :
    span (presses ++ [press]) now presses.length = now - press.time := by
  simp [span, readings, List.getD_eq_getElem?_getD]

private theorem counts_concat_of_lt {i : Nat} {done : List Operation} {operation : Operation}
    (hi : i < done.length) :
    counts (done ++ [operation]) i = (counts done i && operation != .reset) := by
  have htake : (done ++ [operation]).take (i + 1) = done.take (i + 1) :=
    List.take_append_of_le_length hi
  have hdrop : (done ++ [operation]).drop (i + 1) = done.drop (i + 1) ++ [operation] :=
    List.drop_append_of_le_length hi
  rw [counts, counts, htake, hdrop]
  cases running (done.take (i + 1)) <;> cases operation <;> simp

private theorem counts_concat_last (done : List Operation) (operation : Operation) :
    counts (done ++ [operation]) done.length = operation.begins := by
  rw [counts, List.take_of_length_le (by simp), List.drop_of_length_le (by simp), running_concat]
  simp

/-- A press ends a span and begins another one, and a reset discards all spans before it. -/
theorem runningTime_concat (presses : List Press) (press : Press) (now : ℝ) :
    runningTime (presses ++ [press]) now =
      (if press.operation = .reset then 0 else runningTime presses press.time) +
        if press.operation.begins then now - press.time else 0 := by
  have hlength : (operations presses).length = presses.length := by simp [operations]
  rw [runningTime, List.length_append, List.length_singleton, Finset.sum_range_succ,
    operations_concat]
  have hlast : counts (operations presses ++ [press.operation]) presses.length =
      press.operation.begins := by
    rw [← hlength, counts_concat_last]
  rw [hlast, span_concat_last]
  congr 1
  have hearlier : ∀ i ∈ Finset.range presses.length,
      (if counts (operations presses ++ [press.operation]) i then
        span (presses ++ [press]) now i else 0) =
      if press.operation = .reset then 0 else
        if counts (operations presses) i then span presses press.time i else 0 := by
    intro i hi
    have hlt : i < presses.length := Finset.mem_range.mp hi
    rw [counts_concat_of_lt (by omega), span_concat_of_lt hlt]
    by_cases hreset : press.operation = .reset <;> simp [hreset]
  rw [Finset.sum_congr rfl hearlier]
  by_cases hreset : press.operation = .reset
  · simp [hreset]
  · simp [hreset, runningTime]

@[simp] theorem runningTime_nil : runningTime [] now = 0 := by simp [runningTime]

/-! ## Reading it later -/

private theorem runningTime_le_of_le (presses : List Press) (h : now ≤ later) :
    runningTime presses now ≤ runningTime presses later := by
  induction presses using List.reverseRecOn with
  | nil => simp
  | append_singleton presses press ih =>
    rw [runningTime_concat, runningTime_concat]
    split <;> split <;> linarith

private theorem runningTime_of_paused (h : running (operations presses) = false) :
    runningTime presses now = runningTime presses later := by
  induction presses using List.reverseRecOn with
  | nil => simp
  | append_singleton presses press ih =>
    have hends : press.operation.begins = false := by
      rw [← h, operations_concat, running_concat]
    rw [runningTime_concat, runningTime_concat, hends]
    simp

private theorem Timely.of_concat (h : Timely (presses ++ [press]) now) :
    Timely presses press.time ∧ press.time ≤ now := by
  rw [Timely, readings_concat, List.pairwise_append] at h
  exact ⟨h.1, h.2.2 press.time (by simp [readings]) now (by simp)⟩

private theorem runningTime_nonneg (h : Timely presses now) : 0 ≤ runningTime presses now := by
  induction presses using List.reverseRecOn generalizing now with
  | nil => simp
  | append_singleton presses press ih =>
    have hbefore : 0 ≤ runningTime presses press.time := ih h.of_concat.1
    have hspan : press.time ≤ now := h.of_concat.2
    rw [runningTime_concat]
    split <;> split <;> linarith

/-- The watch was read at one moment, and what is done afterwards ends with reading it again. -/
def Follow (now : ℝ) (more : List Press) (later : ℝ) : Prop :=
  (now :: readings more later).Pairwise (· ≤ ·)

private theorem Follow.of_concat (h : Follow now (more ++ [press]) later) :
    Follow now more press.time ∧ press.time ≤ later := by
  rw [Follow, readings_concat, ← List.cons_append, List.pairwise_append] at h
  exact ⟨h.1, h.2.2 press.time (by simp [readings]) later (by simp)⟩

private theorem runningTime_le_append (h : Follow now more later)
    (hkept : ∀ press ∈ more, press.operation ≠ .reset) :
    runningTime presses now ≤ runningTime (presses ++ more) later := by
  induction more using List.reverseRecOn generalizing later with
  | nil =>
    rw [List.append_nil]
    exact runningTime_le_of_le presses (by simpa [Follow, readings] using h)
  | append_singleton more press ih =>
    have hbefore : runningTime presses now ≤ runningTime (presses ++ more) press.time :=
      ih h.of_concat.1 fun earlier hearlier => hkept earlier (List.mem_append_left _ hearlier)
    have hspan : press.time ≤ later := h.of_concat.2
    rw [← List.append_assoc, runningTime_concat, if_neg (hkept press (by simp))]
    split <;> linarith

private theorem runningTime_append_of_paused (h : running (operations presses) = false)
    (hkept : ∀ press ∈ more, press.operation ≠ .reset)
    (hpaused : ∀ press ∈ more, press.operation.begins = false) :
    runningTime (presses ++ more) later = runningTime presses now := by
  induction more using List.reverseRecOn generalizing later with
  | nil =>
    rw [List.append_nil]
    exact runningTime_of_paused h
  | append_singleton more press ih =>
    have hbefore : runningTime (presses ++ more) press.time = runningTime presses now :=
      ih (fun earlier hearlier => hkept earlier (List.mem_append_left _ hearlier))
        fun earlier hearlier => hpaused earlier (List.mem_append_left _ hearlier)
    rw [← List.append_assoc, runningTime_concat, if_neg (hkept press (by simp)),
      hpaused press (by simp), hbefore]
    simp

/-! ## What the watch shows -/

noncomputable def after (presses : List Press) : Except ArithmeticError (Stopwatch ℝ) :=
  presses.foldlM (fun w press => w.perform press.time press.operation) new

theorem duration_paused (elapsed now : ℝ) :
    (⟨elapsed, none⟩ : Stopwatch ℝ).duration now = .ok elapsed := rfl

private theorem duration_running (elapsed began now : ℝ) :
    (⟨elapsed, some began⟩ : Stopwatch ℝ).duration now = .ok (elapsed + (now - began)) := rfl

variable {w : Stopwatch ℝ} {shown time : ℝ}

private theorem duration_start (h : w.duration time = .ok shown) (now : ℝ) :
    (w.start time).duration now = .ok (shown + (now - time)) := by
  obtain ⟨elapsed, startedAt⟩ := w
  cases startedAt with
  | none =>
    have hshown : elapsed = shown := Except.ok.inj h
    rw [← hshown]
    exact duration_running elapsed time now
  | some began =>
    have hshown : elapsed + (time - began) = shown := Except.ok.inj h
    have hsum : elapsed + (now - began) = shown + (now - time) := by
      rw [← hshown]
      ring
    rw [← hsum]
    exact duration_running elapsed began now

private theorem paused_start (w : Stopwatch ℝ) (time : ℝ) : (w.start time).paused = false := by
  obtain ⟨elapsed, startedAt⟩ := w
  cases startedAt <;> rfl

private theorem stop_eq (h : w.duration time = .ok shown) : w.stop time = .ok ⟨shown, none⟩ := by
  obtain ⟨elapsed, startedAt⟩ := w
  cases startedAt with
  | none =>
    have hshown : elapsed = shown := Except.ok.inj h
    rw [← hshown]
    rfl
  | some began =>
    have hshown : elapsed + (time - began) = shown := Except.ok.inj h
    rw [← hshown]
    rfl

private theorem perform_real (press : Press) (h : w.duration press.time = .ok shown) :
    ∃ w', w.perform press.time press.operation = .ok w' ∧
      w'.paused = !press.operation.begins ∧
      ∀ now, w'.duration now = .ok ((if press.operation = .reset then 0 else shown) +
        if press.operation.begins then now - press.time else 0) := by
  obtain ⟨operation, time⟩ := press
  cases operation with
  | start | enter =>
    refine ⟨w.start time, rfl, paused_start w time, fun now => ?_⟩
    rw [duration_start h]
    rfl
  | stop | exit =>
    refine ⟨⟨shown, none⟩, stop_eq h, rfl, fun now => ?_⟩
    simp [duration_paused, Operation.begins]
  | reset =>
    refine ⟨new, rfl, rfl, fun now => ?_⟩
    simp [new, duration_paused, Operation.begins]

private theorem after_concat (presses : List Press) (press : Press) :
    after (presses ++ [press]) =
      (after presses).bind fun w => w.perform press.time press.operation := by
  simp [after, List.foldlM_append]
  rfl

/-- The watch shows the time in which it ran, whatever the clock reads. -/
theorem after_real (presses : List Press) :
    ∃ w, after presses = .ok w ∧ w.paused = !running (operations presses) ∧
      ∀ now, w.duration now = .ok (runningTime presses now) := by
  induction presses using List.reverseRecOn with
  | nil =>
    refine ⟨new, rfl, rfl, fun now => ?_⟩
    rw [runningTime_nil]
    exact congrArg Except.ok Scalar.origin_real
  | append_singleton presses press ih =>
    obtain ⟨w, hw, -, hshown⟩ := ih
    obtain ⟨w', hw', hpaused, hshown'⟩ := perform_real press (hshown press.time)
    refine ⟨w', ?_, ?_, fun now => ?_⟩
    · rw [after_concat, hw]
      exact hw'
    · rw [operations_concat, running_concat, hpaused]
    · rw [runningTime_concat, hshown']

/-- The watch shows the length of the spans since the last reset in which it runs. That is never
negative. Until the next reset it does not decrease, and it stays the same while the watch is
paused. -/
theorem duration_eq_runningTime (htimely : Timely presses now) :
    ∃ w, after presses = .ok w ∧ w.paused = !running (operations presses) ∧
      w.duration now = .ok (runningTime presses now) ∧ 0 ≤ runningTime presses now ∧
      ∀ more later, Follow now more later → (∀ press ∈ more, press.operation ≠ .reset) →
        ∃ w' shown, after (presses ++ more) = .ok w' ∧ w'.duration later = .ok shown ∧
          runningTime presses now ≤ shown ∧
          (w.paused → (∀ press ∈ more, press.operation.begins = false) →
            shown = runningTime presses now) := by
  obtain ⟨w, hw, hpaused, hshown⟩ := after_real presses
  refine ⟨w, hw, hpaused, hshown now, runningTime_nonneg htimely, fun more later hfollow hkept => ?_⟩
  obtain ⟨w', hw', -, hshown'⟩ := after_real (presses ++ more)
  refine ⟨w', runningTime (presses ++ more) later, hw', hshown' later,
    runningTime_le_append hfollow hkept, fun hidle hends => ?_⟩
  have hstopped : running (operations presses) = false := by
    rw [hpaused] at hidle
    simpa using hidle
  exact runningTime_append_of_paused hstopped hkept hends

/-- A watch that is reset while it runs, entered, started again and stopped shows the time between
the entry and the stop. -/
theorem duration_seven :
    ∃ w, after [⟨.start, 1⟩, ⟨.reset, 3⟩, ⟨.exit, 4⟩, ⟨.enter, 5⟩, ⟨.start, 6⟩, ⟨.stop, 12⟩] = .ok w ∧
      w.paused = true ∧ w.duration 20 = .ok 7 := by
  have htimely : Timely
      [⟨.start, 1⟩, ⟨.reset, 3⟩, ⟨.exit, 4⟩, ⟨.enter, 5⟩, ⟨.start, 6⟩, ⟨.stop, 12⟩] 20 := by
    norm_num [Timely, readings]
  obtain ⟨w, hw, hpaused, hshown, -⟩ := duration_eq_runningTime htimely
  have hcounts : ∀ i < 6, counts [.start, .reset, .exit, .enter, .start, .stop] i =
      decide (i = 3 ∨ i = 4) := by
    decide
  have hseven : runningTime
      [⟨.start, 1⟩, ⟨.reset, 3⟩, ⟨.exit, 4⟩, ⟨.enter, 5⟩, ⟨.start, 6⟩, ⟨.stop, 12⟩] 20 = 7 := by
    norm_num [runningTime, Finset.sum_range_succ, operations, hcounts, span, readings]
  rw [hseven] at hshown
  exact ⟨w, hw, hpaused, hshown⟩

end GeneticRepair.Stopwatch
