import Lifeline.Error
import Lifeline.Event
import Lifeline.Metric
import Lifeline.Text.Utf8
/-! The life of one connection, from dialling to its end. It is told what happens and answers with
notices for the manager and frames for the peer. A connection that fails reports the error and then
a close of the same text; one that is closed reports only the close. -/
namespace Lifeline

inductive Frame
  | text (s : String)
  | binary (bytes : List UInt8)
  | ping (payload : List UInt8)
  | pong (payload : List UInt8)
  | close (status : Option (UInt16 × String))
  | raw
deriving DecidableEq, Repr

/-- A reading of the monotonic clock in nanoseconds. -/
abbrev Instant := Nat

/-- The last instant that the clock can hold: a signed 64-bit count of seconds. -/
def Instant.limit : Nat := 9223372036854775808 * 1000000000 - 1

/-- When the first keepalive ping is due. There is no such instant if the interval is empty or leads
past the last instant. -/
def firstPing? (now : Instant) (interval : Duration) : Option Instant :=
  if interval.nanos = 0 then none
  else if now + interval.nanos ≤ Instant.limit then some (now + interval.nanos)
  else none

inductive Stimulus
  /-- The handshake is over: it succeeded at an instant, or failed for a reason. -/
  | dialled (outcome : Except String Instant)
  | frame (f : Frame)
  | readFailed (reason : String)
  | streamEnded
  | outbound (text : String)
  /-- The outbound queue is empty and its other end is gone. -/
  | discarded
  | tick
deriving Repr

inductive Phase
  | dialling
  | streaming (awaitingPong : Bool)
  | ended
  /-- Gone without a word, because the keepalive timer could not be set. -/
  | broken
deriving DecidableEq, Repr

def Phase.isStreaming : Phase → Bool
  | streaming _ => true
  | _ => false

inductive Emission
  | notice (n : Notice)
  | wrote (f : Frame)
  | metric (m : Metric)
deriving DecidableEq, Repr

namespace Connection

def fail (e : ClientError) : Phase × List Emission :=
  (.ended,
    [.metric (.count .transportErrors), .notice (.error e.message),
      .notice (.closed none e.message)])

/-- Writes a frame, unless writing fails for the reason given. -/
def write (failure : Option String) (f : Frame) (next : Phase) : Phase × List Emission :=
  match failure with
  | none => (next, [.wrote f])
  | some reason => fail (.sendFailed reason)

def receive (awaitingPong : Bool) (failure : Option String) : Frame → Phase × List Emission
  | .text s => (.streaming awaitingPong, [.notice (.message s)])
  | .binary bytes =>
    match Text.Utf8.decode bytes with
    | .ok s => (.streaming awaitingPong, [.notice (.message s)])
    | .error _ => (.streaming awaitingPong, [])
  | .ping payload => write failure (.pong payload) (.streaming awaitingPong)
  | .pong _ => (.streaming false, [])
  | .close (some (code, reason)) => (.ended, [.notice (.closed (some code) reason)])
  | .close none => (.ended, [.notice (.closed none "")])
  | .raw => (.streaming awaitingPong, [])

/-- One stimulus. Should it lead to a write, `failure` tells whether and why the write fails; a
failure to say goodbye does not matter. -/
def step (keepalive : Option Duration) (failure : Option String) (p : Phase) (s : Stimulus) :
    Phase × List Emission :=
  match p, s with
  | .dialling, .dialled (.error reason) => fail (.connectionFailed reason)
  | .dialling, .dialled (.ok now) =>
    match keepalive with
    | none => (.streaming false, [.notice .opened])
    | some interval =>
      (if (firstPing? now interval).isSome then .streaming false else .broken, [.notice .opened])
  | .streaming awaitingPong, .frame f => receive awaitingPong failure f
  | .streaming _, .readFailed reason => fail (.connectionFailed reason)
  | .streaming _, .streamEnded => fail (.connectionFailed "Stream ended unexpectedly")
  | .streaming awaitingPong, .outbound text =>
    write failure (.text text) (.streaming awaitingPong)
  | .streaming _, .discarded =>
    (.ended,
      (if failure.isNone then [.wrote (.close none)] else []) ++ [.notice (.closed none "")])
  | .streaming awaitingPong, .tick =>
    if keepalive.isNone then (.streaming awaitingPong, [])
    else if awaitingPong then fail (.connectionFailed "Pong timeout")
    else write failure (.ping []) (.streaming true)
  | p, _ => (p, [])

/-- All that a connection does in answer to stimuli whose writes succeed. -/
def run (keepalive : Option Duration) (p : Phase) : List Stimulus → Phase × List Emission
  | [] => (p, [])
  | s :: rest =>
    let (p, now) := step keepalive none p s
    let (p, later) := run keepalive p rest
    (p, now ++ later)

theorem run_append (keepalive : Option Duration) (p : Phase) (first second : List Stimulus) :
    run keepalive p (first ++ second) =
      ((run keepalive (run keepalive p first).1 second).1,
        (run keepalive p first).2 ++ (run keepalive (run keepalive p first).1 second).2) := by
  induction first generalizing p with
  | nil => simp [run]
  | cons s rest ih => simp [run, ih]

theorem run_ended (keepalive : Option Duration) (ss : List Stimulus) :
    run keepalive .ended ss = (.ended, []) := by
  induction ss with
  | nil => rfl
  | cons s rest ih =>
    have h : step keepalive none .ended s = (.ended, []) := by cases s <;> rfl
    simp [run, h, ih]

end Connection

end Lifeline
