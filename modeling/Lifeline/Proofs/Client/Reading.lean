import Lifeline.Proofs.Client.Stream
/-! What a reader takes of a client. Each move passes on the events of the callbacks that were made
in it, in their order, and the reader takes them from the front, one by one. Behind the word that
the client gave up nothing waits for the reader, and nothing ever will. -/
namespace Lifeline

def Occurrence.event? : Occurrence → Option Event
  | effect (.callback c) => some c.event
  | _ => none

namespace Client

variable {c : Client} {es : List Event}

/-! ## What a move passes on -/

theorem observer_perform (h : c.observer = .channel es true) (op : Operation) :
    (c.perform op).1.observer =
      .channel (es ++ (c.perform op).2.filterMap Occurrence.event?) true := by
  have hevent : Occurrence.event? ∘ Occurrence.effect = (·.callback?.map Callback.event) := by
    funext e
    cases e <;> rfl
  simp only [perform, adopt, h, Observer.attend_channel, List.filterMap_map, hevent,
    List.map_filterMap]

@[simp] theorem observer_proceed : c.proceed.observer = c.observer := by
  unfold proceed
  split <;> rfl

theorem hasHandle_proceed : c.proceed.hasHandle = c.hasHandle := by
  unfold proceed
  split <;> rfl

theorem events_relay (c : Client) (id : ConnectionId) (es : List Emission) :
    (c.relay id es).2.filterMap Occurrence.event? = [] := by
  induction es generalizing c with
  | nil => rfl
  | cons e es ih => cases e <;> simp [relay, List.filterMap_cons, Occurrence.event?, ih]

theorem events_stimulate (c : Client) (id : ConnectionId) (s : Stimulus)
    (failure : Option String) :
    (c.stimulate id s failure).2.filterMap Occurrence.event? = [] := by
  unfold stimulate
  split
  · rfl
  · exact events_relay ..

/-- Only the driver passes anything on. -/
theorem events_move {m : Move} (h : m.party ≠ .driver) :
    (c.move m).2.filterMap Occurrence.event? = [] := by
  cases m with
  | begin | takePosting | takeCommand => exact absurd rfl h
  | elapse id =>
    simp only [move]
    split <;> rfl
  | connection id s failure =>
    cases s with
    | outbound | discarded => rfl
    | _ => exact events_stimulate ..
  | collect id failure =>
    simp only [move, collect]
    split
    · split
      · exact events_stimulate ..
      · exact events_stimulate ..
      · rfl
    · rfl
  | send written | sendText text =>
    simp only [move, enqueue]
    repeat' split
    all_goals rfl
  | shutdown =>
    simp only [move]
    split <;> rfl
  | dropHandle => rfl

theorem observer_move (h : c.observer = .channel es true) (m : Move) :
    (c.move m).1.observer =
      .channel (es ++ (c.move m).2.filterMap Occurrence.event?) true := by
  cases hm : m.party with
  | network =>
    obtain ⟨wiring, connections, inbox, heq⟩ := c.exists_move_of_network hm
    rw [events_move (by simp [hm]), List.append_nil, heq]
    exact h
  | handle =>
    obtain ⟨commands, hasHandle, heq⟩ := c.exists_move_of_handle hm
    rw [events_move (by simp [hm]), List.append_nil, heq]
    exact h
  | driver =>
    have hkept : c.observer = .channel (es ++ [].filterMap Occurrence.event?) true := by
      simpa using h
    cases m with
    | begin =>
      simp only [move]
      split
      · exact observer_perform (c := { c with driver := .running }) h _
      · exact hkept
    | takePosting =>
      simp only [move, takePosting]
      split
      · rw [observer_proceed]
        exact observer_perform (c := { c with inbox := _ }) h _
      · exact hkept
    | takeCommand =>
      simp only [move, takeCommand]
      split
      · rw [observer_proceed]
        exact observer_perform (c := { c with commands := _ }) h _
      · exact observer_perform (c := { c with commands := _ }) h _
      · split
        · exact hkept
        · exact observer_perform h _
      · exact hkept
    | _ => cases hm

/-- Only the handle lets go of itself. -/
theorem hasHandle_move {m : Move} (h : m.party ≠ .handle) :
    (c.move m).1.hasHandle = c.hasHandle := by
  cases hm : m.party with
  | handle => exact absurd hm h
  | network =>
    obtain ⟨wiring, connections, inbox, heq⟩ := c.exists_move_of_network hm
    rw [heq]
  | driver =>
    cases m with
    | begin =>
      simp only [move]
      split <;> rfl
    | takePosting =>
      simp only [move, takePosting]
      split
      · rw [hasHandle_proceed]
        rfl
      · rfl
    | takeCommand =>
      simp only [move, takeCommand]
      split
      · rw [hasHandle_proceed]
        rfl
      · rfl
      · split <;> rfl
      · rfl
    | _ => cases hm

/-! ## What the reader has before it -/

/-- The reader has taken the event at the front. -/
def read (c : Client) : Client := { c with observer := c.observer.skip 1 }

namespace Chronicled

variable {i : Juncture}

theorem exists_channel (h : c.Chronicled i) : ∃ es, c.observer = .channel es true := by
  obtain ⟨j, ⟨-, es, hobserver, -⟩, -⟩ := h
  exact ⟨es, hobserver⟩

/-- An event that is taken leads the reader to the next juncture. -/
theorem read {e : Event} (h : c.Chronicled i) (he : c.observer.readable.head? = some e) :
    ∃ k, i.next? e = some k ∧ c.read.Chronicled k := by
  obtain ⟨j, ⟨hj, es, hobserver, hread⟩, hstep⟩ := h
  rw [hobserver] at he
  obtain ⟨rest, rfl⟩ := List.head?_eq_some_iff.mp he
  obtain ⟨k, hnext, hrest⟩ := Juncture.exists_of_after?_cons hread
  refine ⟨k, hnext, j, ⟨hj, rest, ?_, hrest⟩, hstep⟩
  rw [Client.read, hobserver]
  rfl

/-- A reader who has come to the end finds the driver stopped and nothing more to read. -/
theorem of_finished (h : c.Chronicled .finished) :
    c.driver = .stopped ∧ c.observer.readable = [] := by
  obtain ⟨j, ⟨-, es, hobserver, hread⟩, hstep⟩ := h
  refine ⟨Decidable.byContradiction fun hlive => ?_, ?_⟩
  · exact (hstep hlive).going (Juncture.of_after?_finished hread)
  · cases es with
    | nil =>
      rw [hobserver]
      rfl
    | cons e es => cases hread

end Chronicled

end Client

end Lifeline
