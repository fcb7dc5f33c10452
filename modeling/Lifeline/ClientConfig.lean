import Lifeline.Backoff
import Lifeline.Target
/-! Everything a client has to know: where to connect, how to reconnect, and whether to send
keepalive pings. -/
namespace Lifeline

structure ClientConfig where
  target : Target
  reconnect : ReconnectPolicy
  pingInterval : Option Duration
deriving DecidableEq, Repr

namespace ClientConfig

/-- A plain endpoint with the standard policy and no pings. -/
def ofHost (host : String) : ClientConfig := ⟨.ofHost host, .standard, none⟩

def withPort (c : ClientConfig) (port : UInt16) : ClientConfig :=
  { c with target := { c.target with port } }

def withPath (c : ClientConfig) (path : String) : ClientConfig :=
  { c with target := { c.target with path } }

def withSecure (c : ClientConfig) (secure : Bool) : ClientConfig :=
  { c with target := { c.target with scheme := .ofSecure secure } }

def withMaxReconnects (c : ClientConfig) (n : UInt32) : ClientConfig :=
  { c with reconnect := { c.reconnect with maxAttempts := n } }

def withInitialDelay (c : ClientConfig) (d : Duration) : ClientConfig :=
  { c with reconnect := { c.reconnect with initialDelay := d } }

def withMaxDelay (c : ClientConfig) (d : Duration) : ClientConfig :=
  { c with reconnect := { c.reconnect with maxDelay := d } }

def withPingInterval (c : ClientConfig) (d : Duration) : ClientConfig :=
  { c with pingInterval := some d }

def url (c : ClientConfig) : String := c.target.url

end ClientConfig

end Lifeline
