/-!
# Subscriptions

The handlers that receive the events of a producer are notified in the order in which they were
attached, each at most once. A session has its own subscribers and those of its search: who attaches
to the session attaches to both, but only the search reports events.
-/

namespace GeneticRepair

inductive SubscriptionError where
  | notSubscribed
  deriving Repr, DecidableEq

structure Subscribers (H : Type) where
  handlers : List H
  deriving DecidableEq

namespace Subscribers

variable {H : Type} [DecidableEq H]

def none : Subscribers H :=
  ⟨[]⟩

/-- Attaches a handler behind the others, unless it is attached. -/
def attach (s : Subscribers H) (h : H) : Subscribers H :=
  if h ∈ s.handlers then s else ⟨s.handlers ++ [h]⟩

def remove (s : Subscribers H) (h : H) : Except SubscriptionError (Subscribers H) :=
  if h ∈ s.handlers then return ⟨s.handlers.erase h⟩ else throw .notSubscribed

omit [DecidableEq H] in
/-- Notifies the handlers that are attached when the event is dispatched, whatever they attach or
remove meanwhile. -/
def dispatch {m : Type → Type} [Monad m] (s : Subscribers H) (notify : H → m Unit) : m Unit :=
  s.handlers.forM notify

end Subscribers

structure Subscriptions (H : Type) where
  session : Subscribers H
  search : Subscribers H
  deriving DecidableEq

namespace Subscriptions

variable {H E : Type} [DecidableEq H]

def none : Subscriptions H :=
  ⟨.none, .none⟩

def attach (s : Subscriptions H) (h : H) : Subscriptions H :=
  ⟨s.session.attach h, s.search.attach h⟩

def attachToSearch (s : Subscriptions H) (h : H) : Subscriptions H :=
  { s with search := s.search.attach h }

def removeFromSearch (h : H) : ExceptT SubscriptionError (StateM (Subscriptions H)) Unit := do
  let search ← liftExcept ((← get).search.remove h)
  modify fun s => { s with search }

/-- Removes a handler from the session and then from the search. -/
def remove (h : H) : ExceptT SubscriptionError (StateM (Subscriptions H)) Unit := do
  let session ← liftExcept ((← get).session.remove h)
  modify fun s => { s with session }
  removeFromSearch h

def deliveries (s : Subscriptions H) (events : List E) : List (H × E) :=
  events.flatMap fun e => s.search.handlers.map fun h => (h, e)

def received (s : Subscriptions H) (h : H) (events : List E) : List E :=
  ((s.deliveries events).filter fun (other, _) => other = h).map Prod.snd

end Subscriptions

end GeneticRepair
