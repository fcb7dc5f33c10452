import Lifeline.Manager.Gateway
/-! Those who listen to a manager's callbacks. An observer takes the callbacks one by one and never
answers, so no observer has a part in what the manager does. -/
namespace Lifeline

inductive Observer
  | recorder (seen : List Callback)
  | silent
  | messages (texts : List String)
  /-- Passes each callback on as an event; once the reader is gone nothing is passed on. -/
  | channel (unread : List Event) (hasReader : Bool)
deriving DecidableEq, Repr

namespace Observer

def subscription : Observer := channel [] true

def notify (o : Observer) (c : Callback) : Observer :=
  match o with
  | recorder seen => recorder (seen ++ [c])
  | silent => silent
  | messages texts =>
    match c with
    | .message text => messages (texts ++ [text])
    | _ => messages texts
  | channel unread true => channel (unread ++ [c.event]) true
  | channel unread false => channel unread false

/-- Whether the observer keeps the callback itself. -/
def keeps : Observer → Callback → Bool
  | recorder _, _ => true
  | messages _, .message _ => true
  | _, _ => false

def complaint? : Observer → Callback → Option Diagnostic
  | channel _ false, _ => some .readerGone
  | _, _ => none

/-- The reader goes away, and what it had not read goes with it. -/
def dropReader : Observer → Observer
  | channel _ _ => channel [] false
  | o => o

/-- What was kept or is still to be read is handed out. -/
def drain : Observer → Observer × List Event
  | recorder _ => (recorder [], [])
  | silent => (silent, [])
  | messages _ => (messages [], [])
  | channel unread hasReader => (channel [] hasReader, unread)

/-- What a reader finds: events, or the texts of messages. -/
def readable : Observer → List Event
  | channel unread _ => unread
  | messages texts => texts.map .text
  | _ => []

/-- The observer once a reader has taken the first `n` of what was there. -/
def skip (n : Nat) : Observer → Observer
  | channel unread hasReader => channel (unread.drop n) hasReader
  | messages texts => messages (texts.drop n)
  | o => o

theorem readable_skip (o : Observer) (n : Nat) : (o.skip n).readable = o.readable.drop n := by
  cases o <;> simp [skip, readable]

/-- Takes the callbacks out of a trace in order, and adds the log lines that they cause. -/
def attend (o : Observer) : List Effect → Observer × List Effect
  | [] => (o, [])
  | .callback c :: rest =>
    let (o', rest') := attend (o.notify c) rest
    match o.complaint? c with
    | some d => (o', .callback c :: .log d :: rest')
    | none => (o', .callback c :: rest')
  | e :: rest =>
    let (o', rest') := attend o rest
    (o', e :: rest')

theorem attend_cons (o : Observer) (e : Effect) (es : List Effect) :
    o.attend (e :: es) =
      (((o.attend [e]).1.attend es).1, (o.attend [e]).2 ++ ((o.attend [e]).1.attend es).2) := by
  cases e with
  | callback c =>
    simp only [attend]
    split <;> rfl
  | _ => rfl

/-- Whatever is no log line passes through an observer as it is. -/
theorem filterMap_attend {α : Type} {f : Effect → Option α} (hlog : ∀ d, f (.log d) = none)
    (o : Observer) (es : List Effect) : (o.attend es).2.filterMap f = es.filterMap f := by
  induction es generalizing o with
  | nil => rfl
  | cons e es ih =>
    have hone : (o.attend [e]).2.filterMap f = [e].filterMap f := by
      cases e with
      | callback c =>
        simp only [attend]
        split <;> simp [List.filterMap_cons, hlog]
      | _ => rfl
    rw [attend_cons, List.filterMap_append, hone, ih, ← List.filterMap_append,
      List.singleton_append]

end Observer

end Lifeline
