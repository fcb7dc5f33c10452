import Lifeline.Session.Script
import Lifeline.Terminal.Basic
/-! Rehearsing a terminal in memory: its client and the network are a session's, its input is laid
down, and a host may stand on the other side. The host takes one connection, greets, and holds the
input back until its greetings are on the screen; at the farewell it interrupts or hangs up. -/
namespace Lifeline.Terminal

open Session (World)

structure Host where
  greetings : List String
  /-- The message behind which the host reads no more. -/
  farewell : String
  interrupts : Bool

inductive Encounter
  | awaited (h : Host)
  | met (h : Host)
  | interrupting
  | over

structure Stage where
  world : World
  host : Encounter
  /-- The messages that the host has read, without the farewell. -/
  heard : List String
  takesInput : Bool
  input : List (List UInt8)
  deeds : List Deed
  ending : Option Ending

namespace Stage

def start (world : World) (host : Option Host) (input : List UInt8) : Stage where
  world := world
  host := match host with
    | some h => .awaited h
    | none => .over
  heard := []
  takesInput := true
  input := lines input
  deeds := []
  ending := none

/-- The texts on the screen, one after the other. -/
def printed (s : Stage) : List String :=
  s.deeds.filterMap fun
    | .print text => some text
    | .send _ => none

/-- Input can be read, unless a host still holds it back. -/
def hasInput (s : Stage) : Bool :=
  s.takesInput &&
    match s.host with
    | .awaited _ => false
    | .met h => h.greetings.isPrefixOf s.printed
    | _ => true

def act (w : World) : Deed → World
  | .print _ => w
  | .send v => w.make (.send (.ok v.print))

def hear (s : Stage) (signal : Signal) : Stage :=
  let (deeds, next) := step s.takesInput signal
  let s := { s with world := deeds.foldl act s.world, deeds := s.deeds ++ deeds }
  match next with
  | .ok takesInput => { s with takesInput }
  | .error e => { s with ending := some e }

def hearInput (s : Stage) : Stage :=
  match s.input with
  | l :: rest => { s with input := rest }.hear (.line l)
  | [] => s.hear .inputEnded

def hearEvent? (s : Stage) : Option Stage :=
  s.world.client.observer.readable.head?.map fun e =>
    let client := { s.world.client with observer := s.world.client.observer.skip 1 }
    { s with world := { s.world with client } }.hear (.event e)

def attend (s : Stage) (h : Host) : Stage :=
  match s.world.settleDebts.receive with
  | (w, .frame (.text text)) =>
    if text ≠ h.farewell then { s with world := w, heard := s.heard ++ [text] }
    else if h.interrupts then { s with world := w, host := .interrupting }
    else { s with world := { w with listening := false }.breakOff, host := .over }
  | (w, _) => { s with world := w }

def hosting? (s : Stage) : Option Stage :=
  match s.host with
  | .awaited h =>
    if s.world.arrivals.isEmpty then none
    else
      let w := s.world.accept
      let w := h.greetings.foldl (fun w text => (w.link.map (w.deliver · (.text text))).getD w) w
      some { s with world := w, host := .met h }
  | .met h => if (s.world.link.map (·.unread)).getD [] = [] then none else some (s.attend h)
  | .interrupting => some ({ s with host := .over }.hear .interrupt)
  | .over => none

/-- What happens next. Nothing is as fast as the client, then come the host, events and input; a
dial takes longer, and the clock goes on only when nothing else can. -/
def next? (s : Stage) : Option Stage :=
  if s.ending.isSome then none
  else
    match s.world.driving? <|> s.world.collecting? with
    | some h => some { s with world := s.world.happen h }
    | none =>
      s.hosting? <|> s.hearEvent? <|> (if s.hasInput then some s.hearInput else none) <|>
        (s.world.ready?.map fun h => { s with world := s.world.happen h }) <|>
        (if s.world.client.driver = .stopped then some (s.hear .eventsEnded) else none) <|>
        s.world.due?.map fun (_, due) => { s with world := s.world.setClock due }

/-- Goes on until the end, or until nothing can happen any more. -/
def play (s : Stage) : Nat → Stage
  | 0 => s
  | n + 1 =>
    match s.next? with
    | some s => s.play n
    | none => s

end Stage

end Lifeline.Terminal
