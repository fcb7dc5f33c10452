import Lifeline.Client.Basic
/-! A client among other parties, all in memory: a network, one peer that may listen, and a clock.
Whatever is ready happens in a fixed order until nothing is; the clock goes on only while somebody
waits, and then to the next instant at which something is due. -/
namespace Lifeline

/-- Which addresses lead to the peer, and the words for a connection that is not made or breaks. -/
structure Network where
  routes : String → Bool
  failure : String

namespace Session

structure Link where
  id : ConnectionId
  unread : List Frame
  /-- Answers that go out when the peer reads next. -/
  owed : List Frame

structure World where
  network : Network
  client : Client
  listening : Bool
  /-- Connections that wait for the peer to answer them. -/
  arrivals : List ConnectionId
  link : Option Link
  /-- When the next keepalive ping of a connection is due. -/
  pings : List (ConnectionId × Instant)
  /-- What was measured, the latest first. -/
  measured : List Metric

inductive Happening
  | move (m : Move)
  | arrival (id : ConnectionId)
  | ping (id : ConnectionId) (due : Instant)

/-- The earliest entry, and of several the first. -/
def earliest? : List (α × Instant) → Option (α × Instant)
  | [] => none
  | e :: rest =>
    match earliest? rest with
    | some l => if l.2 < e.2 then some l else some e
    | none => some e

namespace World

def totals (w : World) : Totals := .ofList w.measured.reverse

def start (network : Network) (listening : Bool) (client : Client) : World :=
  ⟨network, client, listening, [], none, [], []⟩

def now (w : World) : Instant := w.client.wiring.timers.now

def setClock (w : World) (now : Instant) : World :=
  { w with
    client :=
      { w.client with
        wiring := { w.client.wiring with timers := { w.client.wiring.timers with now } } } }

/-- Keeps what is measured, and what is written to the peer. -/
def witness (w : World) : Occurrence → World
  | .effect (.metric m) => { w with measured := m :: w.measured }
  | .wrote id f =>
    { w with
      link := w.link.map fun l => if l.id = id then { l with unread := l.unread ++ [f] } else l }
  | _ => w

def move (w : World) (m : Move) : World × List Occurrence :=
  let (client, seen) := w.client.move m
  (seen.foldl witness { w with client }, seen)

def make (w : World) (m : Move) : World := (w.move m).1

def isStreaming (w : World) (id : ConnectionId) : Bool :=
  (w.client.phase? id).any (·.isStreaming)

/-- Pings of connections that have ended are not due any more. -/
def livePings (w : World) : List (ConnectionId × Instant) := w.pings.filter (w.isStreaming ·.1)

def driving? (w : World) : Option Happening :=
  match w.client.driver with
  | .waiting => some (.move .begin)
  | .running =>
    if w.client.inbox ≠ [] then some (.move .takePosting)
    else if w.client.commands ≠ [] ∨ ¬w.client.hasHandle then some (.move .takeCommand)
    else none
  | .stopped => none

def dialling? (w : World) : Option Happening := do
  let (id, _) ← w.client.connections.find? fun (id, p) => p = .dialling && !w.arrivals.contains id
  if w.listening ∧ w.network.routes w.client.config.url then some (.arrival id)
  else some (.move (.connection id (.dialled (.error w.network.failure)) none))

def collecting? (w : World) : Option Happening := do
  let (id, _) ← w.client.connections.find? fun (id, p) =>
    p.isStreaming && (w.client.wiring.transport.collect id).1 ≠ .nothing
  some (.move (.collect id none))

def due? (w : World) : Option (Happening × Instant) :=
  earliest? <|
    w.client.wiring.timers.waiting.map (fun (id, due) => (.move (.elapse id), due)) ++
      w.livePings.map fun (id, due) => (.ping id due, due)

/-- What happens next without the clock going on. -/
def ready? (w : World) : Option Happening :=
  w.driving? <|> w.dialling? <|> w.collecting? <|>
    w.due?.bind fun (h, due) => if due ≤ w.now then some h else none

def happen (w : World) : Happening → World
  | .move m => w.make m
  | .arrival id => { w with arrivals := w.arrivals ++ [id] }
  | .ping id due =>
    let next := due + (w.client.config.pingInterval.map (·.nanos)).getD 0
    { w with pings := w.pings.map fun (i, d) => if i = id then (i, next) else (i, d) }.make
      (.connection id .tick none)

/-- A rehearsal in which more than this happens at a stretch is broken off. -/
def stamina : Nat := 100000

def settle (w : World) : Nat → World
  | 0 => w
  | n + 1 =>
    match w.ready? with
    | some h => (w.happen h).settle n
    | none => w

/-- Waits until the world is as wanted or the deadline is past, and tells which. -/
def await (w : World) (deadline : Instant) (wanted : World → Bool) : Nat → World × Bool
  | 0 => (w, false)
  | n + 1 =>
    match w.ready? with
    | some h => (w.happen h).await deadline wanted n
    | none =>
      if wanted w then (w, true)
      else
        match w.due? with
        | some (_, due) =>
          if due ≤ deadline then (w.setClock due).await deadline wanted n
          else (w.setClock deadline, false)
        | none => (w.setClock deadline, false)

end World

end Session

end Lifeline
