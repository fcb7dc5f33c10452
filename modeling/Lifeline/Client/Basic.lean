import Lifeline.ClientConfig
import Lifeline.Connection
import Lifeline.Manager.Basic
import Lifeline.Observer
import Lifeline.Timers
import Lifeline.Transport
/-! A running client: a driver that owns the manager, the connections and timers that post to it,
and a handle that gives it commands. Everything that can happen next is a move; in which order moves
come is left open, so a statement about all lists of moves covers every interleaving. Of the log
there is what the manager, its listener and the handle write; the debug lines of connections and the
line of a driver that has stopped are left out. -/
namespace Lifeline

inductive Posting
  | notice (id : ConnectionId) (n : Notice)
  | elapsed (id : TimerId)
deriving DecidableEq, Repr

inductive Command
  | send (text : String)
  | shutdown
deriving DecidableEq, Repr

inductive DriverPhase
  | waiting
  | running
  | stopped
deriving DecidableEq, Repr

structure Wiring where
  transport : Transport
  timers : Timers
deriving DecidableEq, Repr

def Wiring.gateway : Gateway Wiring where
  dial w _ := let (id, t) := w.transport.dial; (id, { w with transport := t })
  transmit w id text := let (r, t) := w.transport.send id text; (r, { w with transport := t })
  hangUp w id := { w with transport := w.transport.close id }
  schedule w delay := let (id, t) := w.timers.schedule delay; (id, { w with timers := t })
  cancel w id := { w with timers := w.timers.remove id }

structure Client where
  config : ClientConfig
  manager : Manager
  wiring : Wiring
  connections : List (ConnectionId × Phase)
  inbox : List Posting
  commands : List Command
  hasHandle : Bool
  published : Status
  driver : DriverPhase
  observer : Observer

inductive Move
  | begin
  | takePosting
  /-- The driver takes the next command, or finds that there will be none. -/
  | takeCommand
  | elapse (id : TimerId)
  /-- Something happens to a connection, and a write that it causes fails or not. -/
  | connection (id : ConnectionId) (s : Stimulus) (failure : Option String)
  | collect (id : ConnectionId) (failure : Option String)
  /-- The handle sends a value, given as the outcome of writing it out. -/
  | send (written : Except String String)
  | sendText (text : String)
  /-- The handle asks for the end, and is used up by it. -/
  | shutdown
  | dropHandle

inductive Occurrence
  | effect (e : Effect)
  | wrote (id : ConnectionId) (f : Frame)
  | answered (r : Except ClientError Unit)

namespace Client

def start (config : ClientConfig) (observer : Observer) : Client where
  config := config
  manager := .fresh config.target config.reconnect
  wiring := ⟨.empty, .empty⟩
  connections := []
  inbox := []
  commands := []
  hasHandle := true
  published := .initial
  driver := .waiting
  observer := observer

def phase? (c : Client) (id : ConnectionId) : Option Phase := c.connections.lookup id

/-- Takes in what a step of the manager did: connections that it dialled come to life. -/
def adopt (c : Client) (s : Step Wiring) : Client × List Occurrence :=
  let (observer, effects) := c.observer.attend s.effects
  let dialled := effects.filterMap fun
    | .call (.dial _ id) => some (id, Phase.dialling)
    | _ => none
  ({ c with
      manager := s.manager
      wiring := s.world
      connections := c.connections ++ dialled
      observer := observer },
    effects.map .effect)

/-- The handle is shown the status of the manager. -/
def publish (c : Client) : Client := { c with published := c.manager.status }

@[simp] theorem manager_publish (c : Client) : c.publish.manager = c.manager := rfl

@[simp] theorem observer_publish (c : Client) : c.publish.observer = c.observer := rfl

/-- The driver stops: queues lose their sending ends, timers are taken back, and nothing that is
posted or commanded any more is looked at. -/
def stop (c : Client) : Client :=
  { c with
    driver := .stopped
    wiring :=
      { transport := c.wiring.transport.closeAll
        timers := { c.wiring.timers with waiting := [] } }
    inbox := []
    commands := [] }

/-- After a posting or a message the driver goes on, unless the manager has given up. -/
def proceed (c : Client) : Client := if c.manager.exhausted then c.stop else c

def perform (c : Client) (op : Operation) : Client × List Occurrence :=
  c.adopt (Manager.perform Wiring.gateway c.manager c.wiring op)

def takePosting (c : Client) : Client × List Occurrence :=
  match c.driver, c.inbox with
  | .running, p :: rest =>
    let op := match p with
      | .notice id n => Operation.receive id n
      | .elapsed id => .elapse id
    let (c, os) := perform { c with inbox := rest } op
    (c.publish.proceed, os)
  | _, _ => (c, [])

def takeCommand (c : Client) : Client × List Occurrence :=
  match c.driver, c.commands with
  | .running, .send text :: rest =>
    let (c, os) := perform { c with commands := rest } (.sendText text)
    (c.publish.proceed, os)
  | .running, .shutdown :: rest =>
    let (c, os) := perform { c with commands := rest } .shutdown
    (c.publish.stop, os)
  | .running, [] =>
    if c.hasHandle then (c, [])
    else
      let (c, os) := c.perform .shutdown
      (c.publish.stop, os)
  | _, _ => (c, [])

def post (c : Client) (p : Posting) : Client :=
  if c.driver = .stopped then c else { c with inbox := c.inbox ++ [p] }

def relay (c : Client) (id : ConnectionId) : List Emission → Client × List Occurrence
  | [] => (c, [])
  | .notice n :: rest => relay (c.post (.notice id n)) id rest
  | .wrote f :: rest =>
    let (c, os) := relay c id rest
    (c, .wrote id f :: os)
  | .metric m :: rest =>
    let (c, os) := relay c id rest
    (c, .effect (.metric m) :: os)

def setPhase (c : Client) (id : ConnectionId) (p : Phase) : Client :=
  { c with connections := c.connections.map fun (i, q) => if i = id then (i, p) else (i, q) }

/-- Something happens to a connection; one that ends or breaks serves its queue no longer. -/
def stimulate (c : Client) (id : ConnectionId) (s : Stimulus) (failure : Option String) :
    Client × List Occurrence :=
  match c.phase? id with
  | none => (c, [])
  | some p =>
    let (p', emissions) := Connection.step c.config.pingInterval failure p s
    let c := c.setPhase id p'
    let c := if p' = .ended ∨ p' = .broken then
        { c with wiring := { c.wiring with transport := c.wiring.transport.ended id } }
      else c
    c.relay id emissions

def collect (c : Client) (id : ConnectionId) (failure : Option String) :
    Client × List Occurrence :=
  match c.phase? id with
  | some (.streaming _) =>
    match c.wiring.transport.collect id with
    | (.message text, t) =>
      stimulate { c with wiring := { c.wiring with transport := t } } id (.outbound text) failure
    | (.discarded, _) => c.stimulate id .discarded failure
    | (.nothing, _) => (c, [])
  | _ => (c, [])

/-- Queues a message with the driver, if the published state is open. To look at the state and to
queue are one move: that the driver stops in between is left out, and only then would the answer be
`channelClosed`. -/
def enqueue (c : Client) (written : Except String String) : Client × List Occurrence :=
  if ¬c.hasHandle then (c, [])
  else if c.published.state ≠ .established then
    (c, [.effect (.log (.refused c.published.state)), .answered (.error .notOpen)])
  else
    match written with
    | .error reason => (c, [.answered (.error (.unserializable reason))])
    | .ok text =>
      if c.driver = .stopped then (c, [.answered (.error .channelClosed)])
      else ({ c with commands := c.commands ++ [.send text] }, [.answered (.ok ())])

def move (c : Client) : Move → Client × List Occurrence
  | .begin =>
    if c.driver = .waiting then
      let (c, os) := perform { c with driver := .running } .start
      (c.publish, os)
    else (c, [])
  | .takePosting => c.takePosting
  | .takeCommand => c.takeCommand
  | .elapse id =>
    if c.wiring.timers.isWaiting id then
      let timers := c.wiring.timers.remove id
      (post { c with wiring := { c.wiring with timers } } (.elapsed id), [])
    else (c, [])
  | .connection id s failure =>
    match s with
    | .outbound _ => (c, [])
    | .discarded => (c, [])
    | s => c.stimulate id s failure
  | .collect id failure => c.collect id failure
  | .send written => c.enqueue written
  | .sendText text => c.enqueue (.ok text)
  | .shutdown =>
    if c.hasHandle ∧ c.driver ≠ .stopped then
      ({ c with commands := c.commands ++ [.shutdown], hasHandle := false }, [])
    else ({ c with hasHandle := false }, [])
  | .dropHandle => ({ c with hasHandle := false }, [])

def run (c : Client) : List Move → Client × List Occurrence
  | [] => (c, [])
  | m :: ms =>
    let (c, now) := c.move m
    let (c, later) := c.run ms
    (c, now ++ later)

theorem run_append (c : Client) (first second : List Move) :
    c.run (first ++ second) =
      (((c.run first).1.run second).1, (c.run first).2 ++ ((c.run first).1.run second).2) := by
  induction first generalizing c with
  | nil => simp [run]
  | cons m ms ih => simp [run, ih]

/-- Whether waiting for the open state is over, and with what answer. -/
def opening? (c : Client) : Option (Except ClientError Unit) :=
  if c.published.exhausted then some (.error .attemptsExhausted)
  else if c.published.state = .established then some (.ok ())
  else if c.driver = .stopped then some (.error .channelClosed)
  else none

end Client

end Lifeline
