/-!
# Threads

A thread works on a state that it shares with others. It takes one step after another; a step is
done at once, but the others may take steps of their own in between. Work that nobody interrupts is
an action of the state.
-/

namespace GeneticRepair

inductive Thread (σ α : Type) where
  | done (a : α)
  /-- What a step leaves to be done, and what it changes, depend on the state that it finds. -/
  | step (next : σ → Thread σ α) (update : σ → σ)

namespace Thread

variable {σ τ ε α β : Type}

def bind : Thread σ α → (α → Thread σ β) → Thread σ β
  | done a, f => f a
  | step next update, f => step (fun s => (next s).bind f) update

instance : Monad (Thread σ) where
  pure := done
  bind := bind

def atomic (act : StateM σ α) : Thread σ α :=
  step (fun s => done (act.run s).1) fun s => (act.run s).2

def within (get : σ → τ) (set : σ → τ → σ) : Thread τ α → Thread σ α
  | done a => done a
  | step next update =>
    step (fun s => (next (get s)).within get set) fun s => set s (update (get s))

def advance : Thread σ α → StateM σ (Thread σ α)
  | done a => return done a
  | step next update => fun s => (next s, update s)

def finish : Thread σ α → StateM σ α
  | done a => return a
  | step next update => fun s => (next s).finish.run (update s)

/-- Each number lets the thread in that place take a step. -/
def interleave : List Nat → List (Thread σ α) → StateM σ (List (Thread σ α))
  | [], threads => return threads
  | i :: schedule, threads => do
    match threads[i]? with
    | some thread => interleave schedule (threads.set i (← thread.advance))
    | none => interleave schedule threads

theorem finish_within {get : σ → τ} {set : σ → τ → σ} (hset : ∀ s t, get (set s t) = t)
    (hsame : ∀ s, set s (get s) = s) (hlast : ∀ s t t', set (set s t) t' = set s t')
    (thread : Thread τ α) (s : σ) :
    (thread.within get set).finish.run s =
      ((thread.finish.run (get s)).1, set s (thread.finish.run (get s)).2) := by
  induction thread generalizing s with
  | done a =>
    show (a, s) = (a, set s (get s))
    rw [hsame]
  | step next update ih =>
    show ((next (get s)).within get set).finish.run (set s (update (get s))) = _
    rw [ih, hset, hlast]
    rfl

/-! ## Threads that may fail -/

def attempt (act : ExceptT ε (StateM σ) α) : ExceptT ε (Thread σ) α :=
  ExceptT.mk (atomic act.run)

/-- Runs to the end or until it fails. -/
def complete (thread : ExceptT ε (Thread σ) α) : ExceptT ε (StateM σ) α :=
  ExceptT.mk thread.run.finish

theorem finish_bind (thread : Thread σ α) (f : α → Thread σ β) :
    (thread >>= f).finish = thread.finish >>= fun a => (f a).finish := by
  funext s
  show (thread.bind f).finish s = (thread.finish >>= fun a => (f a).finish) s
  induction thread generalizing s with
  | done a => rfl
  | step next update ih => exact ih s (update s)

@[simp] theorem complete_pure (a : α) :
    complete (pure a : ExceptT ε (Thread σ) α) = pure a :=
  rfl

@[simp] theorem complete_attempt (act : ExceptT ε (StateM σ) α) : complete (attempt act) = act :=
  rfl

@[simp] theorem complete_bind (thread : ExceptT ε (Thread σ) α)
    (f : α → ExceptT ε (Thread σ) β) :
    complete (thread >>= f) = complete thread >>= fun a => complete (f a) := by
  apply ExceptT.ext
  rw [complete, ExceptT.run_mk, ExceptT.run_bind, ExceptT.run_bind, finish_bind]
  congr 1
  funext r
  cases r <;> rfl

theorem complete_tryCatch (thread : ExceptT ε (Thread σ) α)
    (handler : ε → ExceptT ε (Thread σ) α) :
    complete (tryCatch thread handler) =
      tryCatch (complete thread) fun e => complete (handler e) := by
  apply ExceptT.ext
  have hrun : (complete (tryCatch thread handler)).run = thread.run.finish >>= fun r =>
      (match r with
        | .ok a => (pure (.ok a) : Thread σ (Except ε α))
        | .error e => (handler e).run).finish :=
    finish_bind _ _
  have hcatch : (tryCatch (complete thread) fun e => complete (handler e)).run =
      thread.run.finish >>= fun r => match r with
        | .ok a => pure (.ok a)
        | .error e => (complete (handler e)).run :=
    rfl
  rw [hrun, hcatch]
  congr 1
  funext r
  cases r <;> rfl

end Thread

end GeneticRepair
