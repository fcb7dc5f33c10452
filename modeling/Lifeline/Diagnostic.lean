import Lifeline.Error
import Lifeline.Event
/-! What is worth a log line, and how the line reads. -/
namespace Lifeline

inductive Level
  | trace
  | debug
  | info
  | warn
  | error
deriving DecidableEq, Repr

def Level.name : Level → String
  | trace => "TRACE"
  | debug => "DEBUG"
  | info => "INFO"
  | warn => "WARN"
  | error => "ERROR"

inductive Diagnostic
  | inert (url : String)
  | alreadyStarted (url : String)
  | connecting (url : String) (attempt : UInt32)
  | staleConnection (id : ConnectionId)
  | opened (url : String)
  | transportError (text : String)
  | closed (code : Option UInt16) (reason : String)
  | staleTimer (id : TimerId)
  | gaveUp (attempts : UInt32)
  | reconnecting (attempt : UInt32) (delay : Duration)
  | refused (state : State)
  | sendFailed (e : ClientError)
  | shutDown (url : String)
  | readerGone
deriving DecidableEq, Repr

namespace Diagnostic

def level : Diagnostic → Level
  | inert _ => .warn
  | alreadyStarted _ => .debug
  | connecting .. => .info
  | staleConnection _ => .trace
  | opened _ => .info
  | transportError _ => .warn
  | closed .. => .info
  | staleTimer _ => .trace
  | gaveUp _ => .error
  | reconnecting .. => .info
  | refused _ => .warn
  | sendFailed _ => .warn
  | shutDown _ => .info
  | readerGone => .trace

def message : Diagnostic → String
  | inert _ => "Connection manager is inert, not starting"
  | alreadyStarted _ => "Connection manager already started"
  | connecting .. => "Connecting to WebSocket"
  | staleConnection _ => "Ignoring event from stale connection"
  | opened _ => "WebSocket connected"
  | transportError _ => "WebSocket error"
  | closed .. => "WebSocket closed"
  | staleTimer _ => "Ignoring stale reconnect timer"
  | gaveUp _ => "Max reconnect attempts reached, giving up"
  | reconnecting .. => "Reconnecting"
  | refused _ => "WebSocket is not open. Message not sent."
  | sendFailed _ => "WebSocket send failed"
  | shutDown _ => "Connection manager shut down"
  | readerGone => "Event receiver dropped"

def codeText : Option UInt16 → String
  | some code => "Some(" ++ code.toNat.repr ++ ")"
  | none => "None"

/-- The milliseconds that a log line shows, in 64 bits. -/
def loggedMillis (d : Duration) : Nat := d.wholeMillis % UInt64.size

def fields : Diagnostic → List (String × String)
  | inert url => [("url", url)]
  | alreadyStarted url => [("url", url)]
  | connecting url attempt => [("url", url), ("attempt", attempt.toNat.repr)]
  | staleConnection id => [("connection", id.value.toNat.repr)]
  | opened url => [("url", url)]
  | transportError text => [("error", text)]
  | closed code reason => [("code", codeText code), ("reason", reason)]
  | staleTimer id => [("timer", id.value.toNat.repr)]
  | gaveUp attempts => [("attempts", attempts.toNat.repr)]
  | reconnecting attempt delay =>
    [("attempt", attempt.toNat.repr), ("delay_ms", (loggedMillis delay).repr)]
  | refused state => [("state", state.label)]
  | sendFailed e => [("error", e.message)]
  | shutDown url => [("url", url)]
  | readerGone => []

end Diagnostic

end Lifeline
