import Lifeline.Event
/-! The timers of reconnect attempts, each due at an instant. -/
namespace Lifeline

structure Timers where
  lastId : TimerId
  now : Nat
  waiting : List (TimerId × Nat)
deriving DecidableEq, Repr

namespace Timers

def empty : Timers := ⟨⟨0⟩, 0, []⟩

def schedule (t : Timers) (delay : Duration) : TimerId × Timers :=
  let id : TimerId := ⟨t.lastId.value + 1⟩
  (id, { t with lastId := id, waiting := t.waiting ++ [(id, t.now + delay.nanos)] })

def isWaiting (t : Timers) (id : TimerId) : Bool := t.waiting.any (·.1 = id)

/-- A timer that is taken back, or has run out, waits no longer. -/
def remove (t : Timers) (id : TimerId) : Timers :=
  { t with waiting := t.waiting.filter (·.1 ≠ id) }

end Timers

end Lifeline
