import Lifeline.Manager.Basic
import Lifeline.Observer
/-! Rehearsing a manager without a network: a script hands out identifiers and answers sends, cues
say what happens, and a report says how each cue was taken. -/
namespace Lifeline

/-- The identifiers and answers that are laid down, and the identifiers handed out last. Where the
script ends, identifiers count on from the last one and every send succeeds. -/
structure Script where
  connections : List ConnectionId
  timers : List TimerId
  answers : List (Except ClientError Unit)
  lastConnection : ConnectionId
  lastTimer : TimerId

namespace Script

def ofLists (connections : List ConnectionId) (timers : List TimerId)
    (answers : List (Except ClientError Unit)) : Script :=
  ⟨connections, timers, answers, ⟨0⟩, ⟨0⟩⟩

def nextConnection (s : Script) : ConnectionId × Script :=
  match s.connections with
  | id :: rest => (id, { s with connections := rest, lastConnection := id })
  | [] =>
    let id : ConnectionId := ⟨s.lastConnection.value + 1⟩
    (id, { s with lastConnection := id })

def nextTimer (s : Script) : TimerId × Script :=
  match s.timers with
  | id :: rest => (id, { s with timers := rest, lastTimer := id })
  | [] =>
    let id : TimerId := ⟨s.lastTimer.value + 1⟩
    (id, { s with lastTimer := id })

def nextAnswer (s : Script) : Except ClientError Unit × Script :=
  match s.answers with
  | a :: rest => (a, { s with answers := rest })
  | [] => (.ok (), s)

def gateway : Gateway Script where
  dial s _ := s.nextConnection
  transmit s _ _ := s.nextAnswer
  hangUp s _ := s
  schedule s _ := s.nextTimer
  cancel s _ := s

end Script

namespace Rehearsal

/-- One thing that happens. A missing identifier means the one that is active or pending, or else
the one handed out last. -/
inductive Cue
  | start
  | notice (id : Option ConnectionId) (n : Notice)
  | elapse (id : Option TimerId)
  | send (written : Except String String)
  | sendText (text : String)
  | shutdown
  | dropReader
  | rounds (times : Nat) (cues : List Cue)
deriving Inhabited

structure Stage where
  manager : Manager
  script : Script
  observer : Observer

/-- The manager after a cue, what was done, and the events that the cue brought to a reader. -/
structure Scene where
  manager : Manager
  answer : Except ClientError Unit
  effects : List Effect
  events : List Event

inductive Report
  | scene (cue : Cue) (s : Scene)
  /-- Of repeated cues only the last round is told. -/
  | rounds (last : List Report)

def Stage.setUp (target : Target) (policy : ReconnectPolicy) (script : Script)
    (observer : Observer) : Stage :=
  ⟨.fresh target policy, script, observer⟩

def Stage.perform (s : Stage) (op : Operation) : Stage × Scene :=
  let step := Manager.perform Script.gateway s.manager s.script op
  let (observer, effects) := s.observer.attend step.effects
  let (observer, events) := observer.drain
  (⟨step.manager, step.world, observer⟩, ⟨step.manager, step.answer, effects, events⟩)

def Stage.connection (s : Stage) (id : Option ConnectionId) : ConnectionId :=
  id.getD (s.manager.active.getD s.script.lastConnection)

def Stage.timer (s : Stage) (id : Option TimerId) : TimerId :=
  id.getD (s.manager.pending.getD s.script.lastTimer)

/-- Plays the same part again and again and keeps the reports of the last time. -/
def playRounds (part : Stage → Stage × List Report) : Nat → List Report → Stage →
    Stage × List Report
  | 0, last, s => (s, last)
  | n + 1, _, s =>
    let (s, reports) := part s
    playRounds part n reports s

mutual
def play : Cue → Stage → Stage × Report
  | .rounds times cues, s =>
    let (s, reports) := playRounds (playAll cues) times [] s
    (s, .rounds reports)
  | .dropReader, s =>
    let s := { s with observer := s.observer.dropReader }
    (s, .scene .dropReader ⟨s.manager, .ok (), [], []⟩)
  | .start, s =>
    let (s, scene) := s.perform .start
    (s, .scene .start scene)
  | .notice id n, s =>
    let (s, scene) := s.perform (.receive (s.connection id) n)
    (s, .scene (.notice id n) scene)
  | .elapse id, s =>
    let (s, scene) := s.perform (.elapse (s.timer id))
    (s, .scene (.elapse id) scene)
  | .send written, s =>
    let (s, scene) := s.perform (.send written)
    (s, .scene (.send written) scene)
  | .sendText text, s =>
    let (s, scene) := s.perform (.sendText text)
    (s, .scene (.sendText text) scene)
  | .shutdown, s =>
    let (s, scene) := s.perform .shutdown
    (s, .scene .shutdown scene)

def playAll : List Cue → Stage → Stage × List Report
  | [], s => (s, [])
  | c :: cs, s =>
    let (s, report) := play c s
    let (s, reports) := playAll cs s
    (s, report :: reports)
end

end Rehearsal

end Lifeline
