import Lifeline.Event
import Lifeline.Json.Printer
import Lifeline.Json.Reader
import Lifeline.Text.Blank
import Lifeline.Text.Utf8
/-! The terminal of a client: lines of input go out as messages, texts of messages are printed. What
it hears comes one thing at a time and in any order. -/
namespace Lifeline

inductive Signal
  | event (e : Event)
  | eventsEnded
  /-- A line of input, with its line end if it has one. -/
  | line (bytes : List UInt8)
  | inputEnded
  | interrupt
deriving DecidableEq, Repr

namespace Terminal

inductive Deed
  | print (text : String)
  | send (payload : Json.Value)

inductive Ending
  /-- It was interrupted or there are no more events, and closes the client. -/
  | closing
  | gaveUp (attempts : UInt32)
  | unreadable (fault : Text.Utf8.Fault)
deriving DecidableEq, Repr

def Ending.complaint? : Ending → Option String
  | closing => none
  | gaveUp attempts => some ("gave up after " ++ attempts.toNat.repr ++ " reconnect attempts")
  | unreadable fault => some fault.message

/-- A line that is JSON stands for its value, any other for itself as a string. -/
def payload (line : String) : Json.Value := (Json.parse line).getD (.text line)

/-- A line without its line end, which is a line feed after at most one carriage return. -/
def chomp (s : String) : String :=
  match s.toList.reverse with
  | '\n' :: '\r' :: r => String.ofList r.reverse
  | '\n' :: r => String.ofList r.reverse
  | _ => s

/-- The lines of an input, each with its line end. -/
def lines : List UInt8 → List (List UInt8)
  | [] => []
  | b :: rest =>
    if b = 0x0a then [b] :: lines rest
    else
      match lines rest with
      | [] => [[b]]
      | l :: ls => (b :: l) :: ls

theorem flatten_lines (bytes : List UInt8) : (lines bytes).flatten = bytes := by
  induction bytes with
  | nil => rfl
  | cons b rest ih =>
    unfold lines
    split
    · simp [ih]
    · split
      · rename_i h; rw [h] at ih; simpa using ih
      · rename_i h; rw [h] at ih; simpa using ih

example : lines [0x61, 0x0d, 0x0a, 0x0a, 0x62] = [[0x61, 0x0d, 0x0a], [0x0a], [0x62]] := by rfl
example : chomp "a\r\n" = "a" := by decide +kernel
example : chomp "a\r" = "a\r" := by decide +kernel

/-- What to do about a signal, and whether to go on and still take input. -/
def step (takesInput : Bool) : Signal → List Deed × Except Ending Bool
  | .event (.text text) => ([.print text], .ok takesInput)
  | .event (.gaveUp attempts) => ([], .error (.gaveUp attempts))
  | .event _ => ([], .ok takesInput)
  | .eventsEnded => ([], .error .closing)
  | .line bytes =>
    if takesInput then
      match (Text.Utf8.decode bytes).map chomp with
      | .error fault => ([], .error (.unreadable fault))
      | .ok line =>
        (if Text.isAllBlank line then [] else [.send (payload line)], .ok true)
    else ([], .ok false)
  | .inputEnded => ([], .ok false)
  | .interrupt => ([], .error .closing)

/-- All that is done about signals up to an end, if they lead to one. -/
def run (takesInput : Bool) : List Signal → List Deed × Option Ending
  | [] => ([], none)
  | s :: rest =>
    match step takesInput s with
    | (deeds, .error e) => (deeds, some e)
    | (deeds, .ok takesInput) =>
      let (later, e) := run takesInput rest
      (deeds ++ later, e)

/-- What stands on the screen: each printed text on a line of its own. -/
def screen : List Deed → String
  | [] => ""
  | .print text :: rest => text ++ "\n" ++ screen rest
  | .send _ :: rest => screen rest

theorem screen_append (first second : List Deed) :
    screen (first ++ second) = screen first ++ screen second := by
  induction first with
  | nil => simp [screen]
  | cons d rest ih => cases d <;> simp [screen, ih, String.append_assoc]

end Terminal

end Lifeline
