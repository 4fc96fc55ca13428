/-!
# Outcomes

What an operation on a state comes to: the value it returns, the state it leaves, and the events it
reports on the way, in order.
-/

namespace StaticMulticast

/-- The value, the final state and the reported events of an operation. -/
structure Outcome (State Event Value : Type) where
  value : Value
  state : State
  events : List Event

namespace Outcome

variable {State Other Event Report Value : Type}

/-- The same outcome seen in a larger state and as part of a larger report. -/
def lift (embed : State → Other) (report : Event → Report) (outcome : Outcome State Event Value) :
    Outcome Other Report Value :=
  ⟨outcome.value, embed outcome.state, outcome.events.map report⟩

end Outcome

end StaticMulticast
