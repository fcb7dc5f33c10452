/-! The endpoint of a connection and the address it is dialled under. -/
namespace Lifeline

inductive Scheme
  | ws
  | wss
deriving DecidableEq, Repr

namespace Scheme

def ofSecure (secure : Bool) : Scheme := if secure then .wss else .ws

def text : Scheme → String
  | ws => "ws"
  | wss => "wss"

theorem text_injective {a b : Scheme} (h : a.text = b.text) : a = b := by
  cases a <;> cases b <;> first | rfl | exact absurd h (by decide)

end Scheme

structure Target where
  host : String
  port : UInt16
  path : String
  scheme : Scheme
deriving DecidableEq, Repr

namespace Target

def defaultPort : UInt16 := 8765

def ofHost (host : String) : Target := ⟨host, defaultPort, "", .ws⟩

/-- The address: host and path stand in it verbatim, the port in decimal. -/
def url (t : Target) : String :=
  t.scheme.text ++ "://" ++ t.host ++ ":" ++ t.port.toNat.repr ++ t.path

end Target

end Lifeline
