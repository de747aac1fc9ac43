import FlowCanvas.Value.Basic

/-!
# Listeners

Whoever wants to hear of events subscribes, and every event is delivered to the subscribers in the
order of their subscriptions. A listener that fails disturbs nobody. Ending a subscription removes
the first subscription of that listener, if it has any; an event under way still reaches those who
were subscribed when it began. An event is stamped with the time, which only a record can take.
-/

namespace FlowCanvas

/-- What a listener does with an event it receives. -/
inductive Listener.Manner where
  /-- It takes the event. -/
  | plain
  /-- It takes the event and fails. -/
  | failing
  /-- It takes the event and ends its subscription. -/
  | once
deriving DecidableEq, Repr

/-- The listeners known by name and the subscriptions in force, in order. -/
structure Listeners where
  manners : List (String × Listener.Manner) := []
  subscriptions : List String := []
deriving DecidableEq, Repr

namespace Listeners

/-- The manner of a listener; it is fixed when the listener is first met. -/
def manner (ls : Listeners) (name : String) : Listener.Manner :=
  (ls.manners.lookup name).getD .plain

/-- Adds a subscription of a listener. -/
def subscribe (ls : Listeners) (name : String) (manner : Listener.Manner) : Listeners where
  manners :=
    if (ls.manners.lookup name).isSome then ls.manners else ls.manners ++ [(name, manner)]
  subscriptions := ls.subscriptions ++ [name]

/-- Ends the first subscription of a listener, if it has one. -/
def unsubscribe (ls : Listeners) (name : String) : Listeners :=
  { ls with subscriptions := ls.subscriptions.erase name }

/-- What remains after a listener has taken an event. -/
def afterDelivery (ls : Listeners) (name : String) : Listeners :=
  match ls.manner name with
  | .once => ls.unsubscribe name
  | .plain | .failing => ls

/-- Whether a value can be fired as an event. -/
def takesStamp : Value → Bool
  | .object _ => true
  | _ => false

/-- Delivers an event; gives the receivers in order, and what remains. -/
def fire (ls : Listeners) : List String × Listeners :=
  (ls.subscriptions, ls.subscriptions.foldl afterDelivery ls)

end Listeners

end FlowCanvas
