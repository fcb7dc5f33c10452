import Lifeline.Duration
/-! The vocabulary of a connection's life: identifiers, states, the notices that a transport
posts, the callbacks that a manager makes, and the events that a subscriber reads. -/
namespace Lifeline

structure ConnectionId where
  value : UInt64
deriving DecidableEq, Repr

structure TimerId where
  value : UInt64
deriving DecidableEq, Repr

inductive State
  | disconnected
  | connecting
  | established
  | closing
deriving DecidableEq, Repr

def State.label : State → String
  | disconnected => "Disconnected"
  | connecting => "Connecting"
  | established => "Open"
  | closing => "Closing"

/-- What a client may see of its manager. -/
structure Status where
  state : State
  retries : UInt32
  exhausted : Bool
deriving DecidableEq, Repr

def Status.initial : Status := ⟨.disconnected, 0, false⟩

inductive Notice
  | opened
  | message (text : String)
  | error (text : String)
  | closed (code : Option UInt16) (reason : String)
deriving DecidableEq, Repr

inductive Callback
  | opened
  | message (text : String)
  | error (text : String)
  | closed (code : Option UInt16) (reason : String)
  | reconnecting (attempt : UInt32) (delay : Duration)
  | exhausted (attempts : UInt32)
deriving DecidableEq, Repr

/-- What the reader of an event stream receives. -/
inductive Event
  | connected
  | text (text : String)
  | error (text : String)
  | disconnected (code : Option UInt16) (reason : String)
  | reconnecting (attempt : UInt32) (delay : Duration)
  | gaveUp (attempts : UInt32)
deriving DecidableEq, Repr

/-- Each callback has one event of the same content. -/
def Callback.event : Callback → Event
  | opened => .connected
  | message text => .text text
  | error text => .error text
  | closed code reason => .disconnected code reason
  | reconnecting attempt delay => .reconnecting attempt delay
  | exhausted attempts => .gaveUp attempts

theorem Callback.event_injective {a b : Callback} (h : a.event = b.event) : a = b := by
  cases a <;> cases b <;> simp_all [event]

end Lifeline
