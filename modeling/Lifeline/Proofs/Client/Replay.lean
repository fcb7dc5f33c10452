import Lifeline.Proofs.Client.Published
import Lifeline.Proofs.Client.Reading
/-! All that is done to a client, in one list: its moves, the events that its reader takes, and the
clock. Such a list makes a client of the one that was started, whose settings it keeps, and nothing
in it is answered but what the handle is given to send. -/
namespace Lifeline

/-- What is done to a client. -/
inductive Doing
  | move (m : Move)
  /-- The reader takes the event at the front. -/
  | read
  | clock (now : Instant)

/-- What the handle is given to send. -/
def Doing.written? : Doing → Option (Except String String)
  | move m => m.written?
  | read | clock _ => none

def Occurrence.answer? : Occurrence → Option (Except ClientError Unit)
  | answered r => some r
  | _ => none

theorem Move.written?_eq_none {m : Move} (h : m.party ≠ .handle) : m.written? = none := by
  cases m with
  | send | sendText => exact absurd rfl h
  | _ => rfl

namespace Client

variable (c : Client)

def setClock (now : Instant) : Client :=
  { c with wiring := { c.wiring with timers := { c.wiring.timers with now } } }

def undergo : Doing → Client × List Occurrence
  | .move m => c.move m
  | .read => (c.read, [])
  | .clock now => (c.setClock now, [])

/-- What a client comes to by all that is done to it, and what is seen of that. -/
def replay (c : Client) : List Doing → Client × List Occurrence
  | [] => (c, [])
  | d :: ds =>
    let (c, now) := c.undergo d
    let (c, later) := c.replay ds
    (c, now ++ later)

theorem replay_cons (d : Doing) (ds : List Doing) :
    c.replay (d :: ds) =
      (((c.undergo d).1.replay ds).1, (c.undergo d).2 ++ ((c.undergo d).1.replay ds).2) := rfl

theorem replay_append (first second : List Doing) :
    c.replay (first ++ second) =
      (((c.replay first).1.replay second).1,
        (c.replay first).2 ++ ((c.replay first).1.replay second).2) := by
  induction first generalizing c with
  | nil => simp [replay]
  | cons d ds ih => simp [replay_cons, ih]

/-! ## Settings -/

theorem answers_perform (op : Operation) : (c.perform op).2.filterMap Occurrence.answer? = [] := by
  simp [perform, adopt, List.filterMap_map, Function.comp_def, Occurrence.answer?]

theorem answers_relay (id : ConnectionId) (es : List Emission) :
    (c.relay id es).2.filterMap Occurrence.answer? = [] := by
  induction es generalizing c with
  | nil => rfl
  | cons e es ih => cases e <;> simp [relay, List.filterMap_cons, Occurrence.answer?, ih]

theorem answers_stimulate (id : ConnectionId) (s : Stimulus) (failure : Option String) :
    (c.stimulate id s failure).2.filterMap Occurrence.answer? = [] := by
  unfold stimulate
  split
  · rfl
  · exact answers_relay ..

theorem answers_move {m : Move} (h : m.written? = none) :
    (c.move m).2.filterMap Occurrence.answer? = [] := by
  cases m with
  | send | sendText => cases h
  | begin =>
    simp only [move]
    split
    · exact answers_perform ..
    · rfl
  | takePosting =>
    simp only [move, takePosting]
    split
    · exact answers_perform ..
    · rfl
  | takeCommand =>
    simp only [move, takeCommand]
    split
    · exact answers_perform ..
    · exact answers_perform ..
    · split
      · rfl
      · exact answers_perform ..
    · rfl
  | elapse id =>
    simp only [move]
    split <;> rfl
  | connection id s failure =>
    cases s with
    | outbound | discarded => rfl
    | _ => exact answers_stimulate ..
  | collect id failure =>
    simp only [move, collect]
    split
    · split
      · exact answers_stimulate ..
      · exact answers_stimulate ..
      · rfl
    · rfl
  | shutdown =>
    simp only [move]
    split <;> rfl
  | dropHandle => rfl

/-- Whoever holds the handle gets one answer to each message. -/
theorem exists_answer_enqueue (h : c.hasHandle) (written : Except String String) :
    ∃ r, (c.enqueue written).2.filterMap Occurrence.answer? = [r] := by
  unfold enqueue
  rw [if_neg (not_not_intro h)]
  repeat' split
  all_goals exact ⟨_, rfl⟩

end Client

end Lifeline
