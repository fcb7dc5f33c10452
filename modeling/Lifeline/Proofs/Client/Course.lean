import Lifeline.Event
/-! The order of the events that a subscriber reads. Each connection is told of in one block, and
behind a block the next connection is announced or it is said that there will be none. A juncture is
a point in such a stream, with what may be read next; a list of events that can be read from
juncture to juncture is the beginning of a stream. -/
namespace Lifeline

/-- All that is told of one connection. What fails is told as an error and then as a close without a
code and with the same text. -/
inductive Block : List Event → Prop
  | refused (reason : String) : Block [.error reason, .disconnected none reason]
  | closed (texts : List String) (code : Option UInt16) (reason : String) :
      Block (.connected :: texts.map .text ++ [.disconnected code reason])
  | failed (texts : List String) (reason : String) :
      Block (.connected :: texts.map .text ++ [.error reason, .disconnected none reason])

/-- Blocks one after the other. Behind each the next attempt is announced, and behind the last one
it may be said instead that there will be none. -/
inductive Course : List Event → Prop
  | nil : Course []
  | reconnecting {block rest : List Event} (hblock : Block block) (attempt : UInt32)
      (delay : Duration) (hrest : Course rest) :
      Course (block ++ .reconnecting attempt delay :: rest)
  | gaveUp {block : List Event} (hblock : Block block) (attempts : UInt32) :
      Course (block ++ [.gaveUp attempts])

inductive Juncture
  | between
  | opened
  | failed (reason : String)
  | closed
  | finished
deriving DecidableEq

namespace Juncture

def next? : Juncture → Event → Option Juncture
  | between, .connected => some opened
  | between, .error reason => some (failed reason)
  | opened, .text _ => some opened
  | opened, .error reason => some (failed reason)
  | opened, .disconnected _ _ => some closed
  | failed reason, .disconnected none reason' => if reason' = reason then some closed else none
  | closed, .reconnecting _ _ => some between
  | closed, .gaveUp _ => some finished
  | _, _ => none

def after? (j : Juncture) (es : List Event) : Option Juncture := es.foldlM next? j

variable {j k : Juncture} {e : Event} {es fs : List Event}

@[simp] theorem after?_nil : j.after? [] = some j := rfl

@[simp] theorem after?_cons : j.after? (e :: es) = (j.next? e).bind (·.after? es) := by
  rw [after?, List.foldlM_cons]
  rfl

theorem after?_append : j.after? (es ++ fs) = (j.after? es).bind (·.after? fs) := by
  rw [after?, List.foldlM_append]
  rfl

theorem after?_append_of_eq {i : Juncture} (h : i.after? es = some j) (h' : j.after? fs = some k) :
    i.after? (es ++ fs) = some k := by
  rw [after?_append, h]
  exact h'

theorem exists_of_after?_append (h : j.after? (es ++ fs) = some k) :
    ∃ i, j.after? es = some i ∧ i.after? fs = some k := by
  rw [after?_append] at h
  exact Option.bind_eq_some_iff.mp h

theorem exists_of_after?_cons (h : j.after? (e :: es) = some k) :
    ∃ i, j.next? e = some i ∧ i.after? es = some k := by
  rw [after?_cons] at h
  exact Option.bind_eq_some_iff.mp h

theorem of_next?_failed {reason : String} (h : (failed reason).next? e = some k) :
    e = .disconnected none reason ∧ k = .closed := by
  cases e with
  | disconnected code reason' =>
    cases code with
    | none =>
      simp only [next?, Option.ite_none_right_eq_some, Option.some.injEq] at h
      exact ⟨by rw [h.1], h.2.symm⟩
    | some code => cases h
  | _ => cases h

theorem of_next?_error {text : String} (h : j.next? (.error text) = some k) : k = .failed text := by
  cases j <;> cases h <;> rfl

theorem of_next?_disconnected {code : Option UInt16} {reason : String}
    (h : j.next? (.disconnected code reason) = some k) : k = .closed := by
  cases j with
  | failed text => exact (of_next?_failed h).2
  | opened =>
    cases h
    rfl
  | _ => cases h

theorem of_next?_gaveUp {attempts : UInt32} (h : j.next? (.gaveUp attempts) = some k) :
    k = .finished := by
  cases j <;> cases h
  rfl

theorem of_after?_finished (h : Juncture.finished.after? es = some k) : k = .finished := by
  cases es with
  | nil =>
    cases h
    rfl
  | cons e es => cases h

/-- A close that is read right behind an error has no code and the text of the error. -/
theorem eq_of_after?_error {text reason : String} {code : Option UInt16}
    (h : j.after? (es ++ .error text :: .disconnected code reason :: fs) = some k) :
    code = none ∧ reason = text := by
  obtain ⟨j₁, -, h⟩ := exists_of_after?_append h
  obtain ⟨j₂, herror, h⟩ := exists_of_after?_cons h
  obtain ⟨j₃, hclosed, -⟩ := exists_of_after?_cons h
  rw [of_next?_error herror] at hclosed
  obtain ⟨hevent, -⟩ := of_next?_failed hclosed
  cases hevent
  exact ⟨rfl, rfl⟩

theorem getLast?_ne_disconnected (h : j.after? es = some k) (hk : k ≠ .closed)
    (code : Option UInt16) (reason : String) :
    es.getLast? ≠ some (.disconnected code reason) := by
  intro hlast
  obtain ⟨before, rfl⟩ := List.getLast?_eq_some_iff.mp hlast
  obtain ⟨i, -, hclose⟩ := exists_of_after?_append h
  obtain ⟨j', hnext, hnone⟩ := exists_of_after?_cons hclose
  rw [of_next?_disconnected hnext] at hnone
  exact hk (Option.some.inj hnone).symm

/-- Nothing can be read behind the end. -/
theorem eq_finished_of_mem {attempts : UInt32} (h : j.after? es = some k)
    (hmem : .gaveUp attempts ∈ es) : k = .finished := by
  obtain ⟨before, after, rfl⟩ := List.append_of_mem hmem
  obtain ⟨j₁, -, h⟩ := exists_of_after?_append h
  obtain ⟨j₂, hgaveUp, h⟩ := exists_of_after?_cons h
  rw [of_next?_gaveUp hgaveUp] at h
  exact of_after?_finished h

/-- How far a block has come. -/
inductive Reached : Juncture → List Event → Prop
  | between : Reached between []
  | opened (texts : List String) : Reached opened (.connected :: texts.map .text)
  | refused (reason : String) : Reached (failed reason) [.error reason]
  | failed (texts : List String) (reason : String) :
      Reached (failed reason) (.connected :: texts.map .text ++ [.error reason])
  | closed {block : List Event} (hblock : Block block) : Reached closed block
  | finished {block : List Event} (hblock : Block block) (attempts : UInt32) :
      Reached finished (block ++ [.gaveUp attempts])

theorem Reached.exists_course {part : List Event} (h : Reached j part) :
    ∃ rest, Course (part ++ rest) := by
  cases h with
  | between => exact ⟨[], .nil⟩
  | opened texts =>
    refine ⟨[.disconnected none "", .gaveUp 0], ?_⟩
    simpa using Course.gaveUp (.closed texts none "") 0
  | refused reason => exact ⟨[.disconnected none reason, .gaveUp 0], .gaveUp (.refused reason) 0⟩
  | failed texts reason =>
    refine ⟨[.disconnected none reason, .gaveUp 0], ?_⟩
    simpa using Course.gaveUp (.failed texts reason) 0
  | closed hblock => exact ⟨[.gaveUp 0], .gaveUp hblock 0⟩
  | finished hblock attempts => exact ⟨[], by simpa using Course.gaveUp hblock attempts⟩

/-- The next event carries the block on, or is the announcement behind it. -/
theorem Reached.step {part : List Event} (h : Reached j part) (hnext : j.next? e = some k) :
    Reached k (part ++ [e]) ∨
      Block part ∧ k = .between ∧ ∃ attempt delay, e = .reconnecting attempt delay := by
  cases h with
  | between =>
    cases e with
    | connected => cases hnext; exact .inl (.opened [])
    | error reason => cases hnext; exact .inl (.refused reason)
    | _ => cases hnext
  | opened texts =>
    cases e with
    | text text =>
      cases hnext
      exact .inl (by simpa using Reached.opened (texts ++ [text]))
    | error reason => cases hnext; exact .inl (.failed texts reason)
    | disconnected code reason => cases hnext; exact .inl (.closed (.closed texts code reason))
    | _ => cases hnext
  | refused reason =>
    obtain ⟨rfl, rfl⟩ := of_next?_failed hnext
    exact .inl (.closed (.refused reason))
  | failed texts reason =>
    obtain ⟨rfl, rfl⟩ := of_next?_failed hnext
    exact .inl (by simpa using Reached.closed (.failed texts reason))
  | closed hblock =>
    cases e with
    | reconnecting attempt delay => cases hnext; exact .inr ⟨hblock, rfl, attempt, delay, rfl⟩
    | gaveUp attempts => cases hnext; exact .inl (.finished hblock attempts)
    | _ => cases hnext
  | finished hblock attempts => cases hnext

theorem Reached.exists_course_of_after? {part : List Event} (h : Reached j part)
    (hafter : j.after? es = some k) : ∃ rest, Course (part ++ es ++ rest) := by
  -- The part that is read grows event by event, until an announcement makes it a block of its own.
  induction es generalizing j part with
  | nil => simpa using h.exists_course
  | cons e es ih =>
    obtain ⟨i, hnext, hlater⟩ := exists_of_after?_cons hafter
    rcases h.step hnext with hon | ⟨hblock, rfl, attempt, delay, rfl⟩
    · simpa using ih hon hlater
    · obtain ⟨rest, hrest⟩ := ih .between hlater
      exact ⟨rest, by simpa using Course.reconnecting hblock attempt delay hrest⟩

/-- What can be read from the beginning is the beginning of a stream. -/
theorem exists_course (h : Juncture.between.after? es = some j) : ∃ rest, Course (es ++ rest) :=
  Reached.between.exists_course_of_after? h

end Juncture

end Lifeline
