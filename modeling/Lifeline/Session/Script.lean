import Lifeline.Session.Basic
/-! A script for a session: what the holder of the client and the peer do, step by step, and what
they learn. A step that waits too long is given up, and the next one begins. -/
namespace Lifeline.Session

inductive Act
  | send (written : Except String String)
  | sendText (text : String)
  | awaitOpen
  | status
  | shutdown
  | dropClient
  | read
  | listen
  | accept
  | reject
  | deliver (f : Frame)
  | breakOff
  | receive

/-- An act, after which up to so many events are read. -/
structure Cue where
  act : Act
  events : Nat

inductive Answer
  | done
  | returned (r : Except ClientError Unit)
  | status (s : Status)
  | frame (f : Frame)
  | ended

inductive Report
  /-- What the act answered, the events read after it, and whether the stream of events ended. -/
  | told (a : Answer) (events : List Event) (streamEnded : Bool)
  | timedOut

namespace World

def deliver (w : World) (l : Link) (f : Frame) : World :=
  (w.make (.connection l.id (.frame f) none)).settle stamina

/-- The peer answers the connection that arrived first. -/
def answerArrival (w : World) : World × Option ConnectionId :=
  match w.arrivals with
  | [] => (w, none)
  | id :: rest => ({ w with arrivals := rest }, some id)

/-- Takes the next connection; its first ping is due one interval from now. -/
def accept (w : World) : World :=
  match w.answerArrival with
  | (w, none) => w
  | (w, some id) =>
    let first := w.client.config.pingInterval.bind (firstPing? w.now)
    let w := { w with
      link := some ⟨id, [], []⟩
      pings := w.pings ++ first.toList.map (id, ·) }
    (w.make (.connection id (.dialled (.ok w.now)) none)).settle stamina

def reject (w : World) : World :=
  match w.answerArrival with
  | (w, none) => w
  | (w, some id) =>
    (w.make (.connection id (.dialled (.error w.network.failure)) none)).settle stamina

def breakOff (w : World) : World :=
  match w.link with
  | none => w
  | some l =>
    ({ w with link := none }.make (.connection l.id (.readFailed w.network.failure) none)).settle
      stamina

def settleDebts (w : World) : World :=
  match w.link with
  | none => w
  | some l => l.owed.foldl (fun w f => w.deliver l f) { w with link := some { l with owed := [] } }

/-- There is a frame to read, or there will be none. -/
def canReceive (w : World) : Bool :=
  match w.link with
  | none => true
  | some l => !l.unread.isEmpty || !w.isStreaming l.id

/-- The peer reads a frame; a ping will be answered when it reads again. -/
def receive (w : World) : World × Answer :=
  match w.link with
  | none => (w, .ended)
  | some l =>
    match l.unread with
    | [] => (w, .ended)
    | f :: rest =>
      let owed := match f with
        | .ping payload => [.pong payload]
        | _ => []
      ({ w with link := some { l with unread := rest, owed := l.owed ++ owed } }, .frame f)

def answer (seen : List Occurrence) : Answer :=
  (seen.findSome? fun
    | .answered r => some (.returned r)
    | _ => none).getD .done

/-- The events that can be read, and whether the stream has ended behind them. -/
def stream (w : World) : List Event × Bool :=
  (w.client.observer.readable, w.client.driver = .stopped)

def readEvents (w : World) (deadline : Instant) (n : Nat) : World × Option (List Event × Bool) :=
  let (w, arrived) := w.await deadline
    (fun w => n ≤ w.stream.1.length || w.stream.2) stamina
  let (unread, ended) := w.stream
  let w := { w with client := { w.client with observer := w.client.observer.skip n } }
  (w, if arrived then some (unread.take n, ended && unread.length < n) else none)

/-- Does an act, and tells what it answered, or that it waited too long. There is no result if the
peer has no connection to act on. -/
def perform (w : World) (deadline : Instant) : Act → Option (World × Option Answer)
  | .send written => let (w, seen) := w.move (.send written); some (w, some (answer seen))
  | .sendText text => let (w, seen) := w.move (.sendText text); some (w, some (answer seen))
  | .awaitOpen =>
    let (w, _) := w.await deadline (·.client.opening?.isSome) stamina
    some (w, w.client.opening?.map .returned)
  | .status => some (w, some (.status w.client.published))
  | .shutdown =>
    let (w, arrived) := (w.make .shutdown).await deadline (·.client.driver = .stopped) stamina
    some (w, if arrived then some .done else none)
  | .dropClient => some (w.make .dropHandle, some .done)
  | .read => some (w, some .done)
  | .listen => some ({ w with listening := true }, some .done)
  | .accept =>
    let (w, arrived) := w.await deadline (!·.arrivals.isEmpty) stamina
    some (w.accept, if arrived then some .done else none)
  | .reject =>
    let (w, arrived) := w.await deadline (!·.arrivals.isEmpty) stamina
    some (w.reject, if arrived then some .done else none)
  | .deliver f => w.link.map fun l => (w.deliver l f, some .done)
  | .breakOff => some (w.breakOff, some .done)
  | .receive =>
    w.link.map fun _ =>
      let (w, arrived) := w.settleDebts.await deadline canReceive stamina
      if arrived then let (w, a) := w.receive; (w, some a) else (w, none)

/-- One cue, for which the clock goes on by no more than the patience. -/
def play (w : World) (patience : Nat) (c : Cue) : Option (World × Report) :=
  let deadline := w.now + patience
  match w.perform deadline c.act with
  | none => none
  | some (w, none) => some (w, .timedOut)
  | some (w, some a) =>
    if c.events = 0 then some (w, .told a [] false)
    else
      match w.readEvents deadline c.events with
      | (w, some (events, ended)) => some (w, .told a events ended)
      | (w, none) => some (w, .timedOut)

/-- A whole script. It has no result if the peer is to act on a connection that it has not. -/
def playAll (w : World) (patience : Nat) : List Cue → Option (World × List Report)
  | [] => some (w, [])
  | c :: cs => do
    let (w, r) ← w.play patience c
    let (w, rs) ← w.playAll patience cs
    some (w, r :: rs)

end World

end Lifeline.Session
