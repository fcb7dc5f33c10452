import Lifeline.Client.Basic
import Lifeline.Proofs.Client.Course
/-! What a connection says of itself, and what of it waits in an inbox to be heard. Whatever happens
to a connection, it says only what carries on what it said before. -/
namespace Lifeline

def Notice.event : Notice → Event
  | opened => .connected
  | message text => .text text
  | error text => .error text
  | closed code reason => .disconnected code reason

def Emission.notice? : Emission → Option Notice
  | notice n => some n
  | _ => none

def Posting.event? : Posting → Option Event
  | notice _ n => some n.event
  | elapsed _ => none

/-- The notices among the emissions of a connection, as they are posted. -/
def Emission.postings (id : ConnectionId) (es : List Emission) : List Posting :=
  (es.filterMap Emission.notice?).map (.notice id)

/-- How far a connection in this phase has told of itself. -/
def Phase.juncture : Phase → Juncture
  | dialling => .between
  | streaming _ => .opened
  | ended => .closed
  | broken => .opened

attribute [simp] Emission.notice? Phase.juncture

theorem Phase.eq_ended {p : Phase} (h : p.juncture = .closed) : p = .ended := by
  cases p <;> first | rfl | cases h

namespace Connection

/-- What is said in the emissions. -/
def told (es : List Emission) : List Event := (es.filterMap Emission.notice?).map Notice.event

variable (keepalive : Option Duration) (failure : Option String)

theorem told_fail (e : ClientError) :
    told (fail e).2 = [.error e.message, .disconnected none e.message] := rfl

theorem after?_fail {j : Juncture} (hj : j = .between ∨ j = .opened) (e : ClientError) :
    j.after? (told (fail e).2) = some (fail e).1.juncture := by
  rw [told_fail]
  rcases hj with rfl | rfl <;> simp [Juncture.next?, fail]

theorem after?_write (f : Frame) (awaitingPong : Bool) :
    Juncture.opened.after? (told (write failure f (.streaming awaitingPong)).2) =
      some (write failure f (.streaming awaitingPong)).1.juncture := by
  cases failure with
  | none => rfl
  | some reason => exact after?_fail (.inr rfl) _

theorem after?_receive (awaitingPong : Bool) (f : Frame) :
    Juncture.opened.after? (told (receive awaitingPong failure f).2) =
      some (receive awaitingPong failure f).1.juncture := by
  cases f with
  | binary bytes =>
    simp only [receive]
    cases Text.Utf8.decode bytes <;> rfl
  | ping payload => exact after?_write _ _ _
  | close status => cases status <;> rfl
  | _ => rfl

/-- Whatever happens to a connection, what it says carries on what it said before. -/
theorem after?_step (p : Phase) (s : Stimulus) :
    p.juncture.after? (told (step keepalive failure p s).2) =
      some (step keepalive failure p s).1.juncture := by
  cases p with
  | dialling =>
    cases s with
    | dialled outcome =>
      cases outcome with
      | error reason => exact after?_fail (.inl rfl) _
      | ok now =>
        cases keepalive with
        | none => rfl
        | some interval =>
          simp only [step]
          split <;> rfl
    | _ => rfl
  | streaming awaitingPong =>
    cases s with
    | frame f => exact after?_receive _ _ f
    | readFailed | streamEnded => exact after?_fail (.inr rfl) _
    | outbound text => exact after?_write _ _ _
    | discarded => cases failure <;> rfl
    | tick =>
      cases keepalive with
      | none => rfl
      | some interval =>
        cases awaitingPong with
        | true => exact after?_fail (.inr rfl) _
        | false => exact after?_write _ _ _
    | dialled => rfl
  | ended | broken => cases s <;> rfl

theorem step_ended (s : Stimulus) : step keepalive failure .ended s = (.ended, []) := by
  cases s <;> rfl

end Connection

/-- What waits to be heard. -/
def unheard (inbox : List Posting) : List Event := inbox.filterMap Posting.event?

theorem unheard_notice (id : ConnectionId) (n : Notice) (inbox : List Posting) :
    unheard (.notice id n :: inbox) = n.event :: unheard inbox := rfl

theorem unheard_eq_nil_iff {inbox : List Posting} :
    unheard inbox = [] ↔ ∀ id n, .notice id n ∉ inbox := by
  rw [unheard, List.filterMap_eq_nil_iff]
  constructor
  · intro h id n hmem
    cases h _ hmem
  · intro h p hp
    cases p with
    | notice id n => exact absurd hp (h id n)
    | elapsed id => rfl

theorem unheard_post (inbox : List Posting) (id : ConnectionId) (es : List Emission) :
    unheard (inbox ++ Emission.postings id es) = unheard inbox ++ Connection.told es := by
  have hevent : Posting.event? ∘ Posting.notice id = some ∘ Notice.event := rfl
  rw [unheard, Emission.postings, List.filterMap_append, List.filterMap_map, hevent,
    List.filterMap_eq_map]
  rfl

def Notice.isClose : Notice → Bool
  | closed .. => true
  | _ => false

/-- No notice ends the stream, and only a close ends what is told of a connection. -/
theorem Notice.ne_of_next? {n : Notice} {j k : Juncture} (hn : n.isClose = false)
    (h : j.next? n.event = some k) : k ≠ .closed ∧ k ≠ .finished := by
  cases n with
  | closed code reason => cases hn
  | error text =>
    rw [Juncture.of_next?_error h]
    simp
  | opened | message text =>
    cases j <;> cases h
    simp

/-- Behind a close nothing more is said of the connection. -/
theorem unheard_eq_nil_of_after?_closed {inbox : List Posting} {k : Juncture}
    (h : Juncture.closed.after? (unheard inbox) = some k) : unheard inbox = [] := by
  induction inbox with
  | nil => rfl
  | cons p inbox ih =>
    cases p with
    | elapsed id => exact ih h
    | notice id n => cases n <;> cases h

end Lifeline
