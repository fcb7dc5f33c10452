import Lifeline.Backoff
import Lifeline.Target
import Lifeline.Manager.Gateway
/-! The manager of one logical connection. It reacts to one operation at a time: it dials, follows
what the transport reports, waits out a growing delay after each close and dials again, until the
attempts are used up or it is shut down. Each operation returns the new manager, the new state of
the gateway, the answer to the caller, and everything that was done, in order. -/
namespace Lifeline

structure Manager where
  target : Target
  policy : ReconnectPolicy
  state : State
  retries : UInt32
  active : Option ConnectionId
  pending : Option TimerId
  exhausted : Bool
  shutDown : Bool
deriving DecidableEq, Repr

structure Step (σ : Type) where
  manager : Manager
  world : σ
  answer : Except ClientError Unit
  effects : List Effect

namespace Manager

def fresh (target : Target) (policy : ReconnectPolicy) : Manager :=
  ⟨target, policy, .disconnected, 0, none, none, false, false⟩

/-- Nothing will happen any more. -/
def isInert (m : Manager) : Bool := m.exhausted || m.shutDown

def status (m : Manager) : Status := ⟨m.state, m.retries, m.exhausted⟩

variable {σ : Type}

/-- No change, and at most a log line. -/
def idle (m : Manager) (w : σ) (d : Diagnostic) : Step σ := ⟨m, w, .ok (), [.log d]⟩

def connect (g : Gateway σ) (m : Manager) (w : σ) : Step σ :=
  let (id, w') := g.dial w m.target.url
  { manager := { m with state := .connecting, active := some id }
    world := w'
    answer := .ok ()
    effects :=
      [.log (.connecting m.target.url m.retries), .metric (.count .connectAttempts),
        .call (.dial m.target.url id)] }

/-- Dials for the first time; a manager that is busy or inert stays as it is. -/
def start (g : Gateway σ) (m : Manager) (w : σ) : Step σ :=
  if m.isInert then idle m w (.inert m.target.url)
  else if m.active.isSome || m.pending.isSome then idle m w (.alreadyStarted m.target.url)
  else connect g m w

/-- After a close: sets the timer for the next attempt, or gives up for good. -/
def reconnect (g : Gateway σ) (m : Manager) (w : σ) : Step σ :=
  if m.isInert then ⟨m, w, .ok (), []⟩
  else if m.policy.allows m.retries then
    let delay := m.policy.delayFor m.retries
    let (id, w') := g.schedule w delay
    let retries := m.retries + 1
    { manager := { m with pending := some id, retries }
      world := w'
      answer := .ok ()
      effects :=
        [.call (.schedule delay id), .log (.reconnecting retries delay),
          .metric (.count .reconnectsScheduled), .metric (.delay delay),
          .metric (.retries retries), .callback (.reconnecting retries delay)] }
  else
    { manager := { m with exhausted := true }
      world := w
      answer := .ok ()
      effects :=
        [.log (.gaveUp m.retries), .metric (.count .reconnectsExhausted),
          .callback (.exhausted m.retries)] }

/-- Follows a notice of the active connection; any other connection is stale. -/
def receive (g : Gateway σ) (m : Manager) (w : σ) (id : ConnectionId) (n : Notice) : Step σ :=
  if m.active = some id then
    match n with
    | .opened =>
      { manager := { m with state := .established, retries := 0 }
        world := w
        answer := .ok ()
        effects :=
          [.log (.opened m.target.url), .metric (.count .connectionsOpened), .metric (.retries 0),
            .callback .opened] }
    | .message text =>
      ⟨m, w, .ok (), [.metric (.count .messagesReceived), .callback (.message text)]⟩
    | .error text => ⟨m, w, .ok (), [.log (.transportError text), .callback (.error text)]⟩
    | .closed code reason =>
      let next := reconnect g { m with state := .disconnected, active := none } w
      { next with
        effects :=
          [.log (.closed code reason), .metric (.count .connectionsClosed),
            .callback (.closed code reason)] ++ next.effects }
  else idle m w (.staleConnection id)

/-- The pending timer has run out; any other timer is stale. -/
def elapse (g : Gateway σ) (m : Manager) (w : σ) (id : TimerId) : Step σ :=
  if m.shutDown || m.pending ≠ some id then idle m w (.staleTimer id)
  else connect g { m with pending := none } w

def refuse (m : Manager) (w : σ) : Step σ :=
  ⟨m, w, .error .notOpen, [.log (.refused m.state), .metric (.count .messagesDropped)]⟩

/-- Transmits one text frame while the connection is open. -/
def sendText (g : Gateway σ) (m : Manager) (w : σ) (text : String) : Step σ :=
  match m.state, m.active with
  | .established, some id =>
    match g.transmit w id text with
    | (.ok (), w') =>
      ⟨m, w', .ok (), [.call (.transmit id text), .metric (.count .messagesSent)]⟩
    | (.error e, w') =>
      ⟨m, w', .error e,
        [.call (.transmit id text), .log (.sendFailed e), .metric (.count .messagesDropped)]⟩
  | _, _ => refuse m w

/-- Transmits a value by its JSON text, given as the outcome of writing it out. Outside the open
state the value is not looked at. -/
def send (g : Gateway σ) (m : Manager) (w : σ) (written : Except String String) : Step σ :=
  if m.state = .established then
    match written with
    | .ok text => sendText g m w text
    | .error reason => ⟨m, w, .error (.unserializable reason), []⟩
  else refuse m w

/-- Takes back the pending timer, drops the active connection, and goes inert. -/
def shutdown (g : Gateway σ) (m : Manager) (w : σ) : Step σ :=
  if m.shutDown then ⟨m, w, .ok (), []⟩
  else
    let (w, cancels) := match m.pending with
      | some id => (g.cancel w id, [Effect.call (.cancel id)])
      | none => (w, [])
    let (w, hangUps) := match m.active with
      | some id => (g.hangUp w id, [Effect.call (.hangUp id)])
      | none => (w, [])
    { manager :=
        { m with shutDown := true, pending := none, active := none, state := .disconnected }
      world := w
      answer := .ok ()
      effects := cancels ++ hangUps ++ [.log (.shutDown m.target.url)] }

end Manager

inductive Operation
  | start
  | receive (id : ConnectionId) (n : Notice)
  | elapse (id : TimerId)
  | send (written : Except String String)
  | sendText (text : String)
  | shutdown

namespace Manager

variable {σ : Type}

def perform (g : Gateway σ) (m : Manager) (w : σ) : Operation → Step σ
  | .start => start g m w
  | .receive id n => receive g m w id n
  | .elapse id => elapse g m w id
  | .send written => send g m w written
  | .sendText text => sendText g m w text
  | .shutdown => shutdown g m w

def run (g : Gateway σ) (m : Manager) (w : σ) : List Operation → List (Step σ)
  | [] => []
  | op :: ops =>
    let s := perform g m w op
    s :: run g s.manager s.world ops

end Manager

end Lifeline
