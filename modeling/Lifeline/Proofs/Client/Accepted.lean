import Lifeline.Proofs.Client.Published
/-! What becomes of an accepted message. The commands of a handle wait in a queue that the driver
serves from the front, one message at a time, and it sends each that it takes or counts and logs it
as dropped. A driver whose manager gives up leaves what still waits behind. -/
namespace Lifeline

def Command.text? : Command → Option String
  | send text => some text
  | shutdown => none

/-- What becomes of a message that is taken: the transport gets it, and may fail, or nothing is
open. What is not sent is logged and counted as dropped. -/
inductive Settled (text : String) : List Occurrence → Prop
  | sent (id : ConnectionId) :
      Settled text [.effect (.call (.transmit id text)), .effect (.metric (.count .messagesSent))]
  | failed (id : ConnectionId) (e : ClientError) :
      Settled text [.effect (.call (.transmit id text)), .effect (.log (.sendFailed e)),
        .effect (.metric (.count .messagesDropped))]
  | refused (s : State) :
      Settled text [.effect (.log (.refused s)), .effect (.metric (.count .messagesDropped))]

theorem Observer.attend_of_callbacks_eq_nil (o : Observer) {effects : List Effect}
    (h : effects.filterMap Effect.callback? = []) : o.attend effects = (o, effects) := by
  induction effects with
  | nil => rfl
  | cons e effects ih =>
    cases e with
    | callback => simp at h
    | _ => simp [attend, ih (by simpa [List.filterMap_cons] using h)]

def Occurrence.effect? : Occurrence → Option Effect
  | effect e => some e
  | _ => none

def Occurrence.isSuccess : Occurrence → Bool
  | .answered (.ok ()) => true
  | _ => false

/-- The messages that wait for the driver. -/
def Client.queued (c : Client) : List String := c.commands.filterMap Command.text?

/-- One move of a client. -/
structure Beat where
  client : Client
  move : Move

namespace Beat

def next (b : Beat) : Client := (b.client.move b.move).1

def seen (b : Beat) : List Occurrence := (b.client.move b.move).2

/-- The message that was sent, if the answer is success. -/
def accepted (b : Beat) : List String :=
  if b.seen.any Occurrence.isSuccess then (b.move.written?.bind Except.toOption).toList else []

/-- The message that the driver took from the queue. -/
def taken (b : Beat) : List String :=
  match b.move, b.client.driver, b.client.commands with
  | .takeCommand, .running, .send text :: _ => [text]
  | _, _, _ => []

/-- The messages that wait when the driver stops. -/
def lost (b : Beat) : List String :=
  if b.client.driver ≠ .stopped ∧ b.next.driver = .stopped then b.client.queued else []

end Beat

theorem Move.party_of_written? {m : Move} {written : Except String String}
    (h : m.written? = some written) : m.party = .handle := by
  cases m with
  | send | sendText => rfl
  | _ => cases h

namespace Client

variable {c : Client}

def beats (c : Client) : List Move → List Beat
  | [] => []
  | m :: ms => ⟨c, m⟩ :: beats (c.move m).1 ms

/-- A beat begins where the moves before it lead. -/
theorem mem_beats (c : Client) (before after : List Move) (m : Move) :
    ⟨(c.run before).1, m⟩ ∈ c.beats (before ++ m :: after) := by
  induction before generalizing c with
  | nil => exact .head _
  | cons m' before ih => exact .tail _ (ih (c.move m').1)

theorem flatMap_seen_beats (c : Client) (moves : List Move) :
    (c.beats moves).flatMap Beat.seen = (c.run moves).2 := by
  induction moves generalizing c with
  | nil => rfl
  | cons m ms ih => simp [beats, run, ih, Beat.seen]

theorem seen_perform {op : Operation}
    (h : (Manager.perform Wiring.gateway c.manager c.wiring op).callbacks = []) :
    (c.perform op).2 =
      (Manager.perform Wiring.gateway c.manager c.wiring op).effects.map .effect := by
  rw [perform, adopt, Observer.attend_of_callbacks_eq_nil _ h]

/-- An accepted message, and nothing else, is put at the end of the queue. -/
theorem queued_enqueue (c : Client) (written : Except String String) :
    (c.enqueue written).1.queued =
      c.queued ++
        if (c.enqueue written).2.any Occurrence.isSuccess then written.toOption.toList else [] := by
  unfold enqueue
  split
  · simp
  · split
    · simp [Occurrence.isSuccess]
    · split
      · simp [Occurrence.isSuccess]
      · split
        · simp [Occurrence.isSuccess]
        · simp [Occurrence.isSuccess, queued, Except.toOption, Command.text?]

theorem takeCommand_of_send (hrunning : c.driver = .running) {text : String}
    {rest : List Command} (hcommands : c.commands = .send text :: rest) :
    let p := Client.perform { c with commands := rest } (.sendText text)
    c.takeCommand = (p.1.publish.proceed, p.2) := by
  unfold takeCommand
  split
  · rename_i hhead
    rw [hcommands] at hhead
    cases hhead
    rfl
  · rename_i hhead
    rw [hcommands] at hhead
    cases hhead
  · rename_i hnone
    rw [hcommands] at hnone
    cases hnone
  · rename_i hother _ _
    exact absurd hcommands (hother text rest hrunning)

/-- A send changes nothing in the manager, so the driver goes on after it. -/
theorem Shown.takeCommand_of_send (h : c.Shown) (hrunning : c.driver = .running) {text : String}
    {rest : List Command} (hcommands : c.commands = .send text :: rest) :
    let p := Client.perform { c with commands := rest } (.sendText text)
    c.takeCommand = (p.1.publish, p.2) := by
  intro p
  have hinert := h.isInert_eq_false (by simp [hrunning])
  have hmove := h.sound.move (g := Wiring.gateway) (w := c.wiring) (.sendText text)
  have hsame : p.1.publish.manager = c.manager := (hmove.quiet_of_isSend rfl).manager_eq
  have hgoing : ¬p.1.publish.manager.exhausted := by
    rw [hsame]
    simpa using (Bool.or_eq_false_iff.mp hinert).1
  have hproceed : p.1.publish.proceed = p.1.publish := if_neg hgoing
  rw [Client.takeCommand_of_send hrunning hcommands, hproceed]

theorem queued_proceed (hgoing : c.proceed.driver ≠ .stopped) : c.proceed.queued = c.queued := by
  unfold proceed at hgoing ⊢
  split at hgoing
  · exact absurd rfl hgoing
  · rename_i hexhausted
    rw [if_neg hexhausted]

theorem queued_takePosting (hgoing : c.driver = .stopped ∨ c.takePosting.1.driver ≠ .stopped) :
    c.takePosting.1.queued = c.queued := by
  unfold takePosting at hgoing ⊢
  split at hgoing
  · rename_i hrunning _
    exact queued_proceed (hgoing.resolve_left (by simp [hrunning]))
  · rfl

theorem queued_takeCommand (hgoing : c.driver = .stopped ∨ c.takeCommand.1.driver ≠ .stopped) :
    c.queued = Beat.taken ⟨c, .takeCommand⟩ ++ c.takeCommand.1.queued := by
  unfold takeCommand at hgoing ⊢
  split at hgoing
  · rename_i text rest hrunning hcommands
    have htaken : Beat.taken ⟨c, .takeCommand⟩ = [text] := by
      simp [Beat.taken, hrunning, hcommands]
    rw [queued_proceed (hgoing.resolve_left (by simp [hrunning])), htaken, queued, hcommands]
    rfl
  · rename_i hrunning _
    simp [hrunning] at hgoing
  · rename_i hrunning hcommands
    split at hgoing
    · rename_i hhandle
      rw [if_pos hhandle]
      simp [Beat.taken, hcommands]
    · simp [hrunning] at hgoing
  · rename_i hsend _ _
    have htaken : Beat.taken ⟨c, .takeCommand⟩ = [] := by
      unfold Beat.taken
      split
      · rename_i hrunning hcommands
        exact absurd hcommands (hsend _ _ hrunning)
      · rfl
    rw [htaken]
    rfl

/-- The handle asks for the end once and last, and a driver that has stopped has left its commands
behind. -/
structure Orderly (c : Client) : Prop where
  unasked : c.hasHandle → .shutdown ∉ c.commands
  last : .shutdown ∉ c.commands.dropLast
  emptied : c.driver = .stopped → c.commands = []

theorem orderly_start (config : ClientConfig) (observer : Observer) :
    (start config observer).Orderly where
  unasked := by simp [start]
  last := by simp [start]
  emptied := fun _ => rfl

theorem orderly_stop (c : Client) : c.stop.Orderly where
  unasked := by simp [stop]
  last := by simp [stop]
  emptied := fun _ => rfl

namespace Orderly

theorem eq_nil_of_shutdown (h : c.Orderly) {rest : List Command}
    (hcommands : c.commands = .shutdown :: rest) : rest = [] := by
  have hlast := h.last
  rw [hcommands] at hlast
  cases rest with
  | nil => rfl
  | cons command rest => simp at hlast

/-- The handle appends a command. -/
theorem append (h : c.Orderly) (hhandle : c.hasHandle) (hgoing : c.driver ≠ .stopped)
    (command : Command) (hasHandle : Bool) (hkeeps : hasHandle → command ≠ .shutdown) :
    Orderly { c with commands := c.commands ++ [command], hasHandle } where
  unasked := by
    intro hstill hmem
    rcases List.mem_append.mp hmem with hmem | hmem
    · exact h.unasked hhandle hmem
    · exact hkeeps hstill (List.mem_singleton.mp hmem).symm
  last := by
    rw [List.dropLast_concat]
    exact h.unasked hhandle
  emptied := fun hstopped => absurd hstopped hgoing

theorem tail (h : c.Orderly) {command : Command} {rest : List Command}
    (hcommands : c.commands = command :: rest) (hgoing : c.driver ≠ .stopped) :
    Orderly { c with commands := rest } where
  unasked := by
    intro hhandle hmem
    exact h.unasked hhandle (hcommands ▸ List.mem_cons_of_mem command hmem)
  last := by
    intro hmem
    have hrest : rest ≠ [] := by
      rintro rfl
      cases hmem
    have hlast := h.last
    rw [hcommands, List.dropLast_cons_of_ne_nil hrest] at hlast
    exact hlast (List.mem_cons_of_mem command hmem)
  emptied := fun hstopped => absurd hstopped hgoing

theorem dropHandle (h : c.Orderly) : Orderly { c with hasHandle := false } :=
  ⟨by simp, h.last, h.emptied⟩

theorem enqueue (h : c.Orderly) (written : Except String String) :
    (c.enqueue written).1.Orderly := by
  unfold Client.enqueue
  split
  · exact h
  · rename_i hhandle
    rw [Decidable.not_not] at hhandle
    split
    · exact h
    · split
      · exact h
      · split
        · exact h
        · rename_i text hgoing
          exact h.append hhandle hgoing (.send text) c.hasHandle (by simp)

theorem proceed (h : c.Orderly) : c.proceed.Orderly := by
  unfold Client.proceed
  split
  · exact c.orderly_stop
  · exact h

theorem begin (h : c.Orderly) : (c.move .begin).1.Orderly := by
  simp only [Client.move]
  split
  · exact ⟨h.unasked, h.last, fun hstopped => by cases hstopped⟩
  · exact h

theorem takePosting (h : c.Orderly) : c.takePosting.1.Orderly := by
  unfold Client.takePosting
  split
  · rename_i p rest _ _
    have hrest (op : Operation) :
        (Client.perform { c with inbox := rest } op).1.publish.Orderly :=
      ⟨h.unasked, h.last, h.emptied⟩
    exact (hrest _).proceed
  · exact h

theorem takeCommand (h : c.Orderly) : c.takeCommand.1.Orderly := by
  unfold Client.takeCommand
  split
  · rename_i text rest hrunning hcommands
    have hrest := h.tail hcommands (by simp [hrunning])
    have hsent : (Client.perform { c with commands := rest } (.sendText text)).1.publish.Orderly :=
      ⟨hrest.unasked, hrest.last, hrest.emptied⟩
    exact hsent.proceed
  · exact orderly_stop _
  · split
    · exact h
    · exact orderly_stop _
  · exact h

theorem move (h : c.Orderly) (m : Lifeline.Move) : (c.move m).1.Orderly := by
  cases hm : m.party with
  | driver =>
    cases m with
    | begin => exact h.begin
    | takePosting => exact h.takePosting
    | takeCommand => exact h.takeCommand
    | _ => cases hm
  | network =>
    obtain ⟨wiring, connections, inbox, heq⟩ := c.exists_move_of_network hm
    rw [heq]
    exact ⟨h.unasked, h.last, h.emptied⟩
  | handle =>
    cases m with
    | send written => exact h.enqueue written
    | sendText text => exact h.enqueue (.ok text)
    | shutdown =>
      simp only [Client.move]
      split
      · rename_i hgoing
        exact h.append hgoing.1 hgoing.2 .shutdown false (by simp)
      · exact h.dropHandle
    | dropHandle => exact h.dropHandle
    | _ => cases hm

theorem run (h : c.Orderly) (moves : List Lifeline.Move) : (c.run moves).1.Orderly := by
  induction moves generalizing c with
  | nil => exact h
  | cons m moves ih => exact ih (h.move m)

end Orderly

end Client

namespace Beat

variable {b : Beat}

theorem accepted_of_written?_eq_none (h : b.move.written? = none) : b.accepted = [] := by
  simp [accepted, h]

theorem taken_of_ne (h : b.move ≠ .takeCommand) : b.taken = [] := by
  unfold taken
  split
  · rename_i hmove _ _
    exact absurd hmove h
  · rfl

/-- A move that is no send and takes no message leaves the queue as it is, unless the driver stops
with it. -/
theorem queued_next_of_ne (hwritten : b.move.written? = none) (htake : b.move ≠ .takeCommand)
    (hgoing : b.client.driver = .stopped ∨ b.next.driver ≠ .stopped) :
    b.next.queued = b.client.queued := by
  obtain ⟨c, m⟩ := b
  cases hm : m.party with
  | network =>
    obtain ⟨wiring, connections, inbox, heq⟩ := c.exists_move_of_network hm
    rw [next, heq]
    rfl
  | driver =>
    cases m with
    | begin =>
      simp only [next, Client.move]
      split <;> rfl
    | takePosting => exact Client.queued_takePosting hgoing
    | takeCommand => exact absurd rfl htake
    | _ => cases hm
  | handle =>
    cases m with
    | send | sendText => cases hwritten
    | shutdown =>
      simp only [next, Client.move]
      split
      · simp [Client.queued, Command.text?]
      · rfl
    | dropHandle => rfl
    | _ => cases hm

/-- As long as the driver goes on, what is accepted joins the queue at its end, and what is taken
leaves it at its head. -/
theorem queued_next (hgoing : b.client.driver = .stopped ∨ b.next.driver ≠ .stopped) :
    b.client.queued ++ b.accepted = b.taken ++ b.next.queued := by
  cases hwritten : b.move.written? with
  | some written =>
    have htake : b.move ≠ .takeCommand := by
      intro h
      rw [h] at hwritten
      cases hwritten
    rw [taken_of_ne htake, List.nil_append, accepted, next, seen, hwritten,
      Client.move_of_written hwritten]
    exact (b.client.queued_enqueue written).symm
  | none =>
    rw [accepted_of_written?_eq_none hwritten, List.append_nil]
    by_cases htake : b.move = .takeCommand
    · obtain ⟨c, m⟩ := b
      obtain rfl : m = .takeCommand := htake
      exact Client.queued_takeCommand hgoing
    · rw [taken_of_ne htake, queued_next_of_ne hwritten htake hgoing, List.nil_append]

/-- The driver stops with what still waits, and neither takes a message at that nor accepts one. -/
theorem of_stops (hs : b.client.Shown) (h : b.client.Orderly) (hgoing : b.client.driver ≠ .stopped)
    (hstopped : b.next.driver = .stopped) :
    b.accepted = [] ∧ b.taken = [] ∧ b.next.queued = [] := by
  refine ⟨accepted_of_written?_eq_none ?_, ?_, ?_⟩
  · cases hm : b.move.written? with
    | none => rfl
    | some written =>
      have hparty : b.move.party ≠ .driver := by simp [Move.party_of_written? hm]
      exact absurd ((Client.driver_move hparty).symm.trans hstopped) hgoing
  · unfold taken
    split
    · rename_i text rest hmove hrunning hcommands
      have htake := hs.takeCommand_of_send hrunning hcommands
      have hnext : b.next.driver = .running := by
        rw [next, hmove, Client.move, htake, ← hrunning]
        rfl
      rw [hnext] at hstopped
      cases hstopped
    · rfl
  · have hempty : b.next.commands = [] := (h.move b.move).emptied hstopped
    rw [Client.queued, hempty]
    rfl

theorem conserves (hs : b.client.Shown) (h : b.client.Orderly) :
    b.client.queued ++ b.accepted = b.taken ++ b.lost ++ b.next.queued := by
  by_cases hstops : b.client.driver ≠ .stopped ∧ b.next.driver = .stopped
  · obtain ⟨haccepted, htaken, hqueued⟩ := of_stops hs h hstops.1 hstops.2
    simp [lost, hstops, haccepted, htaken, hqueued]
  · have hlost : b.lost = [] := if_neg hstops
    have hgoing : b.client.driver = .stopped ∨ b.next.driver ≠ .stopped := by
      simpa [Decidable.or_iff_not_imp_left] using hstops
    rw [hlost, List.append_nil, queued_next hgoing]

/-- Only a driver whose manager gave up leaves messages behind. -/
theorem lost_eq_nil (h : b.client.Orderly) (hgoing : b.next.manager.exhausted = false) :
    b.lost = [] := by
  unfold lost
  split
  · rename_i hstops
    obtain ⟨c, m⟩ := b
    cases Client.ends_of_driver_eq_stopped hstops.1 hstops.2 with
    | exhausted hexhausted =>
      have hno : (c.move m).1.manager.exhausted = false := hgoing
      simp [hno] at hexhausted
    | shutdown hhead =>
      obtain ⟨rest, hcommands⟩ := List.head?_eq_some_iff.mp hhead
      rw [h.eq_nil_of_shutdown hcommands] at hcommands
      rw [Client.queued, hcommands]
      rfl
    | abandoned hempty =>
      rw [Client.queued, hempty]
      rfl
  · rfl

theorem exists_of_mem_taken {text : String} (h : text ∈ b.taken) :
    b.move = .takeCommand ∧ b.client.driver = .running ∧
      ∃ rest, b.client.commands = .send text :: rest := by
  unfold taken at h
  split at h
  · rename_i text' rest hmove hrunning hcommands
    obtain rfl := List.mem_singleton.mp h
    exact ⟨hmove, hrunning, rest, hcommands⟩
  · cases h

/-- A message that is taken is settled. -/
theorem settled (hs : b.client.Shown) {text : String} (htext : text ∈ b.taken) :
    Settled text b.seen := by
  obtain ⟨hmove, hrunning, rest, hcommands⟩ := exists_of_mem_taken htext
  have hquiet := (hs.sound.move (g := Wiring.gateway) (w := b.client.wiring)
    (.sendText text)).quiet_of_isSend rfl
  have hseen : b.seen = (Manager.perform Wiring.gateway b.client.manager b.client.wiring
      (.sendText text)).effects.map .effect := by
    rw [seen, hmove, Client.move, hs.takeCommand_of_send hrunning hcommands]
    exact Client.seen_perform (hquiet.callbacks_of_isSend rfl)
  rw [hseen]
  generalize Manager.perform _ _ _ _ = s at hquiet
  cases hquiet with
  | refused => exact .refused _
  | sent _ text' id _ htext' =>
    cases htext'
    exact .sent id
  | unsent _ text' id _ e htext' =>
    cases htext'
    exact .failed id e

end Beat

namespace Client

variable {c : Client}

theorem shown_of_mem_beats (h : c.Shown) {moves : List Move} {b : Beat}
    (hb : b ∈ c.beats moves) : b.client.Shown := by
  induction moves generalizing c with
  | nil => cases hb
  | cons m ms ih =>
    rcases List.mem_cons.mp hb with rfl | hb
    · exact h
    · exact ih (h.move m) hb

theorem taken_beats_of_stopped (h : c.driver = .stopped) (moves : List Move) :
    (c.beats moves).flatMap Beat.taken = [] := by
  induction moves generalizing c with
  | nil => rfl
  | cons m ms ih =>
    have hnow : Beat.taken ⟨c, m⟩ = [] := by
      unfold Beat.taken
      split
      · rename_i hrunning _
        rw [h] at hrunning
        cases hrunning
      · rfl
    rw [beats, List.flatMap_cons, hnow, ih (driver_move_of_stopped h m), List.nil_append]

/-- What waited and what was accepted was taken, was left behind, or still waits, in this order. -/
theorem conserved_run (hs : c.Shown) (h : c.Orderly) (moves : List Move) :
    c.queued ++ (c.beats moves).flatMap Beat.accepted =
      (c.beats moves).flatMap Beat.taken ++ (c.beats moves).flatMap Beat.lost ++
        (c.run moves).1.queued := by
  induction moves generalizing c with
  | nil => simp [beats, run]
  | cons m ms ih =>
    have hnow := Beat.conserves (b := ⟨c, m⟩) hs h
    have hlater := ih (hs.move m) (h.move m)
    -- Behind a loss the driver has stopped, and nothing is taken any more.
    have hlost : Beat.lost ⟨c, m⟩ ++ ((c.move m).1.beats ms).flatMap Beat.taken =
        ((c.move m).1.beats ms).flatMap Beat.taken ++ Beat.lost ⟨c, m⟩ := by
      unfold Beat.lost
      split
      · rename_i hstops
        have htaken : ((c.move m).1.beats ms).flatMap Beat.taken = [] :=
          taken_beats_of_stopped hstops.2 ms
        rw [htaken, List.append_nil, List.nil_append]
      · rw [List.append_nil, List.nil_append]
    calc
      c.queued ++ (c.beats (m :: ms)).flatMap Beat.accepted =
          c.queued ++ Beat.accepted ⟨c, m⟩ ++ ((c.move m).1.beats ms).flatMap Beat.accepted := by
        simp [beats]
      _ = Beat.taken ⟨c, m⟩ ++ Beat.lost ⟨c, m⟩ ++ ((c.move m).1.queued ++
          ((c.move m).1.beats ms).flatMap Beat.accepted) := by
        rw [hnow]
        simp [Beat.next]
      _ = Beat.taken ⟨c, m⟩ ++ (Beat.lost ⟨c, m⟩ ++ ((c.move m).1.beats ms).flatMap Beat.taken) ++
          ((c.move m).1.beats ms).flatMap Beat.lost ++ ((c.move m).1.run ms).1.queued := by
        rw [hlater]
        simp
      _ = _ := by
        rw [hlost]
        simp [beats, run]

/-- A client that has not given up has left no message behind. -/
theorem lost_beats_eq_nil (hs : c.Shown) (h : c.Orderly) (moves : List Move)
    (hgoing : (c.run moves).1.manager.exhausted = false) :
    (c.beats moves).flatMap Beat.lost = [] := by
  induction moves generalizing c with
  | nil => rfl
  | cons m ms ih =>
    have hnext := hs.move m
    -- A driver whose manager gave up has stopped, and its manager rests from then on.
    have hfirst : (c.move m).1.manager.exhausted = false := by
      cases hexhausted : (c.move m).1.manager.exhausted with
      | false => rfl
      | true =>
        have hinert : (c.move m).1.manager.isInert := Bool.or_eq_true_iff.mpr (.inl hexhausted)
        obtain ⟨_, _, _, _, _, heq⟩ :=
          exists_run_of_stopped (hnext.stopped_iff.mpr hinert) ms
        have hlater : ((c.move m).1.run ms).1.manager.exhausted = false := hgoing
        rw [heq, hexhausted] at hlater
        cases hlater
    have hnow := Beat.lost_eq_nil (b := ⟨c, m⟩) h hfirst
    rw [beats, List.flatMap_cons, hnow, ih hnext (h.move m) hgoing, List.nil_append]

/-- Of all accepted messages, in the order in which they were accepted, first come those that the
driver took, one after the other, then those that it left behind when it stopped, then those that
still wait. Each that was taken was handed to the transport, or was logged and counted as dropped.
A driver that has stopped keeps none waiting, and unless its manager gave up it left none behind. -/
theorem messages_run (config : ClientConfig) (observer : Observer) (moves : List Move) :
    let c := ((start config observer).run moves).1
    let beats := (start config observer).beats moves
    beats.flatMap Beat.seen = ((start config observer).run moves).2 ∧
      beats.flatMap Beat.accepted =
        beats.flatMap Beat.taken ++ beats.flatMap Beat.lost ++ c.queued ∧
      (∀ b ∈ beats, ∀ text ∈ b.taken, Settled text b.seen) ∧
      (c.driver = .stopped → c.queued = []) ∧
      (c.manager.exhausted = false → beats.flatMap Beat.lost = []) := by
  intro c beats
  have hshown := shown_start config observer
  have hstart := orderly_start config observer
  refine ⟨flatMap_seen_beats _ moves, conserved_run hshown hstart moves, ?_, ?_,
    lost_beats_eq_nil hshown hstart moves⟩
  · intro b hb text htext
    exact Beat.settled (shown_of_mem_beats hshown hb) htext
  · intro hstopped
    rw [queued, (hstart.run moves).emptied hstopped]
    rfl

/-- A message that waits when the handle asks for the end is taken before the driver stops. -/
theorem messages_run_shutdown :
    let client := start (.ofHost "example.com") .silent
    let before := [.begin, .connection ⟨1⟩ (.dialled (.ok 0)) none, .takePosting, .sendText "1",
      .shutdown]
    let moves := before ++ [.takeCommand, .takeCommand]
    let c := (client.run moves).1
    let b : Beat := ⟨(client.run before).1, .takeCommand⟩
    c.driver = .stopped ∧ c.queued = [] ∧ c.manager.exhausted = false ∧
      (client.beats moves).flatMap Beat.lost = [] ∧ b ∈ client.beats moves ∧ "1" ∈ b.taken ∧
      Settled "1" b.seen := by
  intro client before moves c b
  obtain ⟨-, -, hsettled, hqueued, hlost⟩ := messages_run (.ofHost "example.com") .silent moves
  have hb : b ∈ client.beats moves := mem_beats client before [.takeCommand] .takeCommand
  have htaken : "1" ∈ b.taken := .head _
  exact ⟨rfl, hqueued rfl, rfl, hlost rfl, hb, htaken, hsettled b hb "1" htaken⟩

/-- A message that waits when the manager gives up is neither sent nor dropped: nobody takes it, no
counter counts it and no line of the log tells of it. -/
theorem messages_run_gave_up :
    let client := start ((ClientConfig.ofHost "example.com").withMaxReconnects 0) .silent
    let moves := [.begin, .connection ⟨1⟩ (.dialled (.ok 0)) none, .takePosting, .sendText "lost",
      .connection ⟨1⟩ (.frame (.close none)) none, .takePosting]
    let (c, seen) := client.run moves
    let effects := seen.filterMap Occurrence.effect?
    c.driver = .stopped ∧ (client.beats moves).flatMap Beat.accepted = ["lost"] ∧
      (client.beats moves).flatMap Beat.taken = [] ∧
      effects.filterMap Effect.metric? =
        [.count .connectAttempts, .count .connectionsOpened, .retries 0,
          .count .connectionsClosed, .count .reconnectsExhausted] ∧
      (effects.filterMap Effect.log?).map Diagnostic.message =
        ["Connecting to WebSocket", "WebSocket connected", "WebSocket closed",
          "Max reconnect attempts reached, giving up"] :=
  ⟨rfl, rfl, rfl, rfl, rfl⟩

end Client

end Lifeline
