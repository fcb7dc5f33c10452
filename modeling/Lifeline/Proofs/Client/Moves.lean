import Lifeline.Proofs.Client.Notices
import Lifeline.Proofs.Manager.Ledger
/-! What one move changes of a client: the parts that it can touch, and how. A client whose driver
has stopped tells its observer nothing any more. -/
namespace Lifeline

/-- The connections that come to life by a step. -/
def Step.newcomers {σ : Type} (s : Step σ) : List (ConnectionId × Phase) :=
  (s.calls.filterMap Call.dialed?).map (·, .dialling)

/-- The phases once the connections of an identifier have come to a phase. -/
def Phase.setAt (phases : List (ConnectionId × Phase)) (id : ConnectionId) (p : Phase) :
    List (ConnectionId × Phase) :=
  phases.map fun (i, q) => if i = id then (i, p) else (i, q)

theorem Phase.forall_mem_setAt {phases : List (ConnectionId × Phase)} {id : ConnectionId}
    {p : Phase} {holds : ConnectionId × Phase → Prop} (hothers : ∀ c ∈ phases, c.1 ≠ id → holds c)
    (hnew : holds (id, p)) : ∀ c ∈ setAt phases id p, holds c := by
  rw [setAt, List.forall_mem_map]
  rintro ⟨i, q⟩ hmem
  by_cases hi : i = id
  · simpa [hi] using hnew
  · simpa [hi] using hothers (i, q) hmem hi

/-- Whose doing a move is. -/
inductive Party
  | driver
  | network
  | handle
deriving DecidableEq

def Move.party : Move → Party
  | .begin | .takePosting | .takeCommand => .driver
  | .elapse _ | .connection .. | .collect .. => .network
  | .send _ | .sendText _ | .shutdown | .dropHandle => .handle

/-- While the reader listens, each callback is passed on as an event, without a complaint. -/
theorem Observer.attend_channel (unread : List Event) (effects : List Effect) :
    (channel unread true).attend effects =
      (channel (unread ++ (effects.filterMap Effect.callback?).map Callback.event) true,
        effects) := by
  induction effects generalizing unread with
  | nil => simp [attend]
  | cons e effects ih => cases e <;> simp [attend, notify, complaint?, ih, List.filterMap_cons]

namespace Client

variable {c : Client}

theorem adopt_channel {es : List Event} (h : c.observer = .channel es true) (s : Step Wiring) :
    (c.adopt s).1 =
      { c with
        manager := s.manager
        wiring := s.world
        connections := c.connections ++ s.newcomers
        observer := .channel (es ++ s.callbacks.map Callback.event) true } := by
  simp only [adopt, h, Observer.attend_channel, Step.newcomers, Step.calls, Step.callbacks,
    List.filterMap_filterMap, List.map_filterMap]
  congr 3
  funext e
  cases e with
  | call c => cases c <;> rfl
  | _ => rfl

theorem relay_fst (c : Client) (id : ConnectionId) (es : List Emission) :
    (c.relay id es).1 =
      { c with
        inbox := if c.driver = .stopped then c.inbox else c.inbox ++ Emission.postings id es } := by
  induction es generalizing c with
  | nil => simp [relay, Emission.postings]
  | cons e es ih =>
    cases e with
    | notice n =>
      simp only [relay, ih, post]
      split <;> simp [*, Emission.postings]
    | wrote f | metric m =>
      simp only [relay, ih]
      rfl

/-- A stimulus moves one connection on, and its notices are posted until the driver stops. -/
theorem exists_stimulate {id : ConnectionId} {p : Phase} (hp : c.phase? id = some p) (s : Stimulus)
    (failure : Option String) :
    let (p', said) := Connection.step c.config.pingInterval failure p s
    ∃ wiring, (c.stimulate id s failure).1 =
      { c with
        wiring
        connections := Phase.setAt c.connections id p'
        inbox :=
          if c.driver = .stopped then c.inbox else c.inbox ++ Emission.postings id said } := by
  rw [stimulate, hp]
  dsimp only
  split <;> exact ⟨_, relay_fst ..⟩

theorem exists_collect (id : ConnectionId) (failure : Option String) :
    (c.collect id failure).1 = c ∨ ∃ wiring s,
      (c.collect id failure).1 = ({ c with wiring }.stimulate id s failure).1 := by
  unfold collect
  split
  · split
    · exact .inr ⟨_, _, rfl⟩
    · exact .inr ⟨c.wiring, _, rfl⟩
    · exact .inl rfl
  · exact .inl rfl

theorem exists_enqueue (written : Except String String) :
    ∃ commands, (c.enqueue written).1 = { c with commands } := by
  unfold enqueue
  repeat' split
  all_goals exact ⟨_, rfl⟩

/-- The network moves connections and timers on, and posts to the inbox. -/
theorem exists_move_of_network {m : Move} (h : m.party = .network) :
    ∃ wiring connections inbox, (c.move m).1 = { c with wiring, connections, inbox } := by
  have hstimulate (c : Client) (id : ConnectionId) (s : Stimulus) (failure : Option String) :
      ∃ wiring connections inbox,
        (c.stimulate id s failure).1 = { c with wiring, connections, inbox } := by
    cases hp : c.phase? id with
    | none =>
      rw [stimulate, hp]
      exact ⟨_, _, _, rfl⟩
    | some p =>
      obtain ⟨wiring, heq⟩ := exists_stimulate hp s failure
      exact ⟨_, _, _, heq⟩
  cases m with
  | elapse id =>
    simp only [move]
    split
    · unfold post
      split <;> exact ⟨_, _, _, rfl⟩
    · exact ⟨_, _, _, rfl⟩
  | connection id s failure =>
    cases s with
    | outbound | discarded => exact ⟨_, _, _, rfl⟩
    | _ => exact hstimulate c id _ failure
  | collect id failure =>
    rw [move]
    rcases c.exists_collect id failure with heq | ⟨wiring, s, heq⟩
    · exact ⟨_, _, _, heq⟩
    · obtain ⟨wiring', connections, inbox, hrest⟩ := hstimulate { c with wiring } id s failure
      exact ⟨wiring', connections, inbox, heq.trans hrest⟩
  | _ => cases h

/-- The handle gives commands, until it is gone. -/
theorem exists_move_of_handle {m : Move} (h : m.party = .handle) :
    ∃ commands hasHandle, (c.move m).1 = { c with commands, hasHandle } := by
  cases m with
  | send written =>
    obtain ⟨commands, heq⟩ := c.exists_enqueue written
    exact ⟨commands, c.hasHandle, heq⟩
  | sendText text =>
    obtain ⟨commands, heq⟩ := c.exists_enqueue (.ok text)
    exact ⟨commands, c.hasHandle, heq⟩
  | shutdown =>
    simp only [move]
    split <;> exact ⟨_, _, rfl⟩
  | dropHandle => exact ⟨_, _, rfl⟩
  | _ => cases h

/-- Only the driver stops the driver. -/
theorem driver_move {m : Move} (h : m.party ≠ .driver) : (c.move m).1.driver = c.driver := by
  cases hm : m.party with
  | driver => exact absurd hm h
  | network =>
    obtain ⟨wiring, connections, inbox, heq⟩ := c.exists_move_of_network hm
    rw [heq]
  | handle =>
    obtain ⟨commands, hasHandle, heq⟩ := c.exists_move_of_handle hm
    rw [heq]

theorem move_driver_of_stopped (h : c.driver = .stopped) {m : Move} (hm : m.party = .driver) :
    c.move m = (c, []) := by
  cases m with
  | begin | takePosting | takeCommand => simp [move, takePosting, takeCommand, h]
  | _ => cases hm

/-- Once the driver has stopped, its manager, what is published and the observer rest. -/
theorem exists_move_of_stopped (h : c.driver = .stopped) (m : Move) :
    ∃ wiring connections inbox commands hasHandle,
      (c.move m).1 = { c with wiring, connections, inbox, commands, hasHandle } := by
  cases hm : m.party with
  | driver =>
    rw [move_driver_of_stopped h hm]
    exact ⟨_, _, _, _, _, rfl⟩
  | network =>
    obtain ⟨wiring, connections, inbox, heq⟩ := c.exists_move_of_network hm
    exact ⟨wiring, connections, inbox, _, _, heq⟩
  | handle =>
    obtain ⟨commands, hasHandle, heq⟩ := c.exists_move_of_handle hm
    exact ⟨_, _, _, commands, hasHandle, heq⟩

theorem driver_move_of_stopped (h : c.driver = .stopped) (m : Move) :
    (c.move m).1.driver = .stopped := by
  obtain ⟨_, _, _, _, _, heq⟩ := exists_move_of_stopped h m
  rw [heq, h]

theorem exists_run_of_stopped (h : c.driver = .stopped) (moves : List Move) :
    ∃ wiring connections inbox commands hasHandle,
      (c.run moves).1 = { c with wiring, connections, inbox, commands, hasHandle } := by
  induction moves generalizing c with
  | nil => exact ⟨_, _, _, _, _, rfl⟩
  | cons m moves ih =>
    obtain ⟨_, _, _, _, _, hnow⟩ := exists_move_of_stopped h m
    obtain ⟨wiring, connections, inbox, commands, hasHandle, hlater⟩ :=
      ih (driver_move_of_stopped h m)
    refine ⟨wiring, connections, inbox, commands, hasHandle, hlater.trans ?_⟩
    rw [hnow]

/-- Nothing reaches the reader of a client whose driver has stopped. -/
theorem run_of_stopped (h : c.driver = .stopped) (moves : List Move) :
    (c.run moves).1.observer = c.observer := by
  obtain ⟨_, _, _, _, _, heq⟩ := exists_run_of_stopped h moves
  rw [heq]

end Client

end Lifeline
