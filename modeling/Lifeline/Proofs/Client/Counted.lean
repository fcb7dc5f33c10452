import Lifeline.Proofs.Client.Accepted
import Lifeline.Proofs.Manager.Reckoning
/-! What a session counts of the messages it is asked to send. Whatever the driver takes from its
queue counts as sent or as dropped, exactly once. The handle counts nothing: what it refuses is
logged, and no figure tells of it. -/
namespace Lifeline

/-- How many messages were counted, as sent or as dropped. -/
def Metric.settled (ms : List Metric) : Nat :=
  ms.count (.count .messagesSent) + ms.count (.count .messagesDropped)

theorem Metric.settled_append (ms ns : List Metric) :
    settled (ms ++ ns) = settled ms + settled ns := by
  simp only [settled, List.count_append]
  omega

def Occurrence.metric? : Occurrence → Option Metric
  | effect (.metric m) => some m
  | _ => none

/-- Someone who sends is told that nothing is open. -/
def Occurrence.isRefusal : Occurrence → Bool
  | answered (.error .notOpen) => true
  | _ => false

/-- Someone who sends is told that the value cannot be written out. -/
def Occurrence.isUnserializable : Occurrence → Bool
  | answered (.error (.unserializable _)) => true
  | _ => false

def Emission.metric? : Emission → Option Metric
  | metric m => some m
  | _ => none

attribute [simp] Occurrence.metric? Occurrence.isSuccess Occurrence.isRefusal
  Occurrence.isUnserializable Emission.metric?

namespace Beat

/-- What is measured with the move. -/
def metrics (b : Beat) : List Metric := b.seen.filterMap Occurrence.metric?

/-- The handle is there, and sends a value. -/
def asks (b : Beat) : Bool := b.client.hasHandle && b.move.written?.isSome

/-- The handle does not let the message pass, because nothing is shown to be open. -/
def refused (b : Beat) : Bool := b.asks && b.seen.any Occurrence.isRefusal

/-- The value cannot be written out. -/
def unwritten (b : Beat) : Bool := b.asks && b.seen.any Occurrence.isUnserializable

end Beat

/-- An observer has no part in what is measured. -/
theorem Observer.metrics_attend (o : Observer) (effects : List Effect) :
    (o.attend effects).2.filterMap Effect.metric? = effects.filterMap Effect.metric? :=
  filterMap_attend (fun _ => rfl) o effects

namespace Connection

variable (keepalive : Option Duration) (failure : Option String)

theorem metrics_write (f : Frame) (next : Phase) :
    (write failure f next).2.filterMap Emission.metric? ⊆ [.count .transportErrors] := by
  cases failure with
  | none => exact List.nil_subset _
  | some reason => exact List.Subset.refl _

theorem metrics_receive (awaitingPong : Bool) (f : Frame) :
    (receive awaitingPong failure f).2.filterMap Emission.metric? ⊆ [.count .transportErrors] := by
  cases f with
  | binary bytes =>
    simp only [receive]
    cases Text.Utf8.decode bytes <;> exact List.nil_subset _
  | ping payload => exact metrics_write _ _ _
  | close status => cases status <;> exact List.nil_subset _
  | _ => exact List.nil_subset _

/-- A connection measures nothing but errors of the transport. -/
theorem metrics_step (p : Phase) (s : Stimulus) :
    (step keepalive failure p s).2.filterMap Emission.metric? ⊆ [.count .transportErrors] := by
  cases p with
  | dialling =>
    cases s with
    | dialled outcome =>
      cases outcome with
      | error reason => exact List.Subset.refl _
      | ok now => cases keepalive <;> exact List.nil_subset _
    | _ => exact List.nil_subset _
  | streaming awaitingPong =>
    cases s with
    | frame f => exact metrics_receive _ _ f
    | readFailed | streamEnded => exact List.Subset.refl _
    | outbound text => exact metrics_write _ _ _
    | discarded => cases failure <;> exact List.nil_subset _
    | tick =>
      cases keepalive with
      | none => exact List.nil_subset _
      | some interval =>
        cases awaitingPong with
        | true => exact List.Subset.refl _
        | false => exact metrics_write _ _ _
    | dialled => exact List.nil_subset _
  | ended | broken => cases s <;> exact List.nil_subset _

end Connection

theorem Metric.settled_eq_zero {ms : List Metric} (h : ms ⊆ [.count .transportErrors]) :
    settled ms = 0 := by
  have hnone (c : Counter) (hc : c ≠ .transportErrors) : ms.count (.count c) = 0 := by
    refine List.count_eq_zero.mpr fun hmem => ?_
    simpa [hc] using h hmem
  rw [settled, hnone .messagesSent (by decide), hnone .messagesDropped (by decide)]

namespace Client

variable {c : Client}

theorem metrics_perform (op : Operation) : (c.perform op).2.filterMap Occurrence.metric? =
    (Manager.perform Wiring.gateway c.manager c.wiring op).metrics := by
  have hmetric : Occurrence.metric? ∘ Occurrence.effect = Effect.metric? := by
    funext e
    cases e <;> rfl
  simp only [perform, adopt]
  rw [List.filterMap_map, hmetric, Observer.metrics_attend]
  rfl

theorem metrics_relay (c : Client) (id : ConnectionId) (es : List Emission) :
    (c.relay id es).2.filterMap Occurrence.metric? = es.filterMap Emission.metric? := by
  induction es generalizing c with
  | nil => rfl
  | cons e es ih => cases e <;> simp [relay, List.filterMap_cons, ih]

/-- Apart from a send, nothing that the manager does counts a message as sent or dropped. -/
theorem Shown.settled_perform (h : c.Shown) (op : Operation) (hop : op.isSend = false) :
    Metric.settled ((c.perform op).2.filterMap Occurrence.metric?) = 0 := by
  have hmove := h.sound.move (g := Wiring.gateway) (w := c.wiring) op
  rw [metrics_perform, Metric.settled, hmove.reckon, hmove.reckon]
  simp [Turn.reckon, Turn.sends, Turn.drops, hop]

theorem settled_stimulate (c : Client) (id : ConnectionId) (s : Stimulus)
    (failure : Option String) :
    Metric.settled ((c.stimulate id s failure).2.filterMap Occurrence.metric?) = 0 := by
  unfold stimulate
  split
  · rfl
  · rw [metrics_relay]
    exact Metric.settled_eq_zero (Connection.metrics_step ..)

/-- The network counts no message as sent or dropped. -/
theorem settled_move_of_network {m : Move} (h : m.party = .network) :
    Metric.settled ((c.move m).2.filterMap Occurrence.metric?) = 0 := by
  cases m with
  | elapse id =>
    simp only [move]
    split <;> rfl
  | connection id s failure =>
    cases s with
    | outbound | discarded => rfl
    | _ => exact settled_stimulate ..
  | collect id failure =>
    simp only [move, collect]
    split
    · split
      · exact settled_stimulate ..
      · exact settled_stimulate ..
      · rfl
    · rfl
  | _ => cases h

theorem metrics_enqueue (c : Client) (written : Except String String) :
    (c.enqueue written).2.filterMap Occurrence.metric? = [] := by
  unfold enqueue
  repeat' split
  all_goals rfl

/-- The handle measures nothing at all. -/
theorem metrics_move_of_handle {m : Move} (h : m.party = .handle) :
    (c.move m).2.filterMap Occurrence.metric? = [] := by
  cases m with
  | send | sendText => exact metrics_enqueue ..
  | shutdown =>
    simp only [move]
    split <;> rfl
  | dropHandle => rfl
  | _ => cases h

/-- The driver counts a message as sent or as dropped only when it takes one. -/
theorem Shown.settled_move_of_driver (h : c.Shown) {m : Lifeline.Move} (hm : m.party = .driver)
    (hnone : Beat.taken ⟨c, m⟩ = []) :
    Metric.settled ((c.move m).2.filterMap Occurrence.metric?) = 0 := by
  cases m with
  | begin =>
    have hrunning : Metric.settled
        ((Client.perform { c with driver := .running } .start).2.filterMap Occurrence.metric?) =
          0 := h.settled_perform .start rfl
    simp only [Client.move]
    split
    · exact hrunning
    · rfl
  | takePosting =>
    simp only [Client.move, Client.takePosting]
    split
    · rename_i p rest _ _
      have hrest : Shown { c with inbox := rest } := ⟨h.sound, h.published, h.stopped_iff⟩
      cases p <;> exact hrest.settled_perform _ rfl
    · rfl
  | takeCommand =>
    simp only [Client.move, Client.takeCommand]
    split
    · rename_i text rest hrunning hcommands
      simp [Beat.taken, hrunning, hcommands] at hnone
    · rename_i rest _ _
      have hrest : Shown { c with commands := rest } := ⟨h.sound, h.published, h.stopped_iff⟩
      exact hrest.settled_perform .shutdown rfl
    · split
      · rfl
      · exact h.settled_perform .shutdown rfl
    · rfl
  | _ => cases hm

end Client

namespace Beat

variable {b : Beat}

/-- What is taken is counted once, as sent or as dropped, and nothing else is measured with it. -/
theorem metrics_of_mem_taken (hs : b.client.Shown) {text : String} (htext : text ∈ b.taken) :
    b.metrics = [.count .messagesSent] ∨ b.metrics = [.count .messagesDropped] := by
  have hsettled := settled hs htext
  rw [metrics]
  generalize b.seen = os at hsettled
  cases hsettled with
  | sent => exact .inl rfl
  | failed | refused => exact .inr rfl

theorem taken_eq_of_mem {text : String} (h : text ∈ b.taken) : b.taken = [text] := by
  obtain ⟨hmove, hrunning, _, hcommands⟩ := exists_of_mem_taken h
  simp [taken, hmove, hrunning, hcommands]

/-- As many messages are counted, as sent or as dropped, as are taken. -/
theorem settled_metrics (hs : b.client.Shown) : Metric.settled b.metrics = b.taken.length := by
  by_cases hnone : b.taken = []
  · rw [hnone]
    cases hm : b.move.party with
    | driver => exact hs.settled_move_of_driver hm hnone
    | network => exact Client.settled_move_of_network hm
    | handle =>
      rw [metrics, seen, Client.metrics_move_of_handle hm]
      rfl
  · obtain ⟨text, htext⟩ := List.exists_mem_of_ne_nil _ hnone
    rw [taken_eq_of_mem htext]
    rcases metrics_of_mem_taken hs htext with h | h <;> rw [h] <;> rfl

/-- A move that asks for nothing has nothing accepted. -/
theorem accepted_of_not_asks (h : b.asks = false) : b.accepted = [] := by
  cases hwritten : b.move.written? with
  | none => exact accepted_of_written?_eq_none hwritten
  | some written =>
    have hgone : b.client.hasHandle = false := by simpa [asks, hwritten] using h
    have hseen : b.seen = [] := by
      simp [seen, Client.move_of_written hwritten, Client.enqueue, hgone]
    simp [accepted, hseen]

/-- While nothing is shown to be open the handle refuses. -/
theorem seen_of_not_established (h : b.asks) (hs : b.client.published.state ≠ .established) :
    b.seen =
      [.effect (.log (.refused b.client.published.state)), .answered (.error .notOpen)] := by
  obtain ⟨hhandle, hsome⟩ := (Bool.and_eq_true ..).mp h
  obtain ⟨written, hwritten⟩ := Option.isSome_iff_exists.mp hsome
  rw [seen, Client.move_of_written hwritten, Client.enqueue_of_not_established hhandle hs]

/-- In the open state the value cannot be written out, or it waits for the driver. -/
theorem seen_of_established (hshown : b.client.Shown) (h : b.asks)
    (hs : b.client.published.state = .established) :
    (∃ reason, b.move.written? = some (.error reason) ∧
      b.seen = [.answered (.error (.unserializable reason))]) ∨
    ∃ text, b.move.written? = some (.ok text) ∧ b.seen = [.answered (.ok ())] := by
  obtain ⟨hhandle, hsome⟩ := (Bool.and_eq_true ..).mp h
  obtain ⟨written, hwritten⟩ := Option.isSome_iff_exists.mp hsome
  have hgoing : b.client.driver ≠ .stopped := by
    intro hstopped
    have hdown := (hshown.of_stopped hstopped).2.2
    rw [hs] at hdown
    cases hdown
  rw [seen, Client.move_of_written hwritten]
  cases written with
  | error reason => exact .inl ⟨reason, hwritten, by simp [Client.enqueue, hhandle, hs]⟩
  | ok text => exact .inr ⟨text, hwritten, by simp [Client.enqueue, hhandle, hs, hgoing]⟩

theorem refused_iff (hshown : b.client.Shown) :
    b.refused ↔ b.asks ∧ b.client.published.state ≠ .established := by
  rw [refused, Bool.and_eq_true]
  refine and_congr_right fun hasks => ?_
  by_cases hs : b.client.published.state = .established
  · rcases seen_of_established hshown hasks hs with ⟨reason, -, hseen⟩ | ⟨text, -, hseen⟩
    · simp [hs, hseen]
    · simp [hs, hseen]
  · simp [hs, seen_of_not_established hasks hs]

/-- Whoever asks has the message accepted, or is refused, or cannot write the value out. -/
theorem asks_eq (hshown : b.client.Shown) :
    (if b.asks then 1 else 0) =
      b.accepted.length + (if b.refused then 1 else 0) + if b.unwritten then 1 else 0 := by
  cases hasks : b.asks with
  | false => simp [accepted_of_not_asks hasks, refused, unwritten, hasks]
  | true =>
    by_cases hs : b.client.published.state = .established
    · rcases seen_of_established hshown hasks hs with ⟨reason, -, hseen⟩ | ⟨text, hwritten, hseen⟩
      · simp [accepted, refused, unwritten, hasks, hseen]
      · simp [accepted, refused, unwritten, hasks, hseen, hwritten, Except.toOption]
    · simp [accepted, refused, unwritten, hasks, seen_of_not_established hasks hs]

end Beat

namespace Client

variable {c : Client}

/-- What was measured in a run was measured with its moves. -/
theorem flatMap_metrics_beats (c : Client) (moves : List Move) :
    (c.beats moves).flatMap Beat.metrics = (c.run moves).2.filterMap Occurrence.metric? := by
  rw [← flatMap_seen_beats, List.filterMap_flatMap]
  rfl

theorem settled_run (h : c.Shown) (moves : List Move) :
    Metric.settled ((c.beats moves).flatMap Beat.metrics) =
      ((c.beats moves).flatMap Beat.taken).length := by
  induction moves generalizing c with
  | nil => rfl
  | cons m ms ih =>
    have hnow := Beat.settled_metrics (b := ⟨c, m⟩) h
    have hlater := ih (h.move m)
    simp only [beats, List.flatMap_cons, Metric.settled_append, List.length_append, hnow, hlater]

theorem asks_run (h : c.Shown) (moves : List Move) :
    (c.beats moves).countP Beat.asks = ((c.beats moves).flatMap Beat.accepted).length +
      (c.beats moves).countP Beat.refused + (c.beats moves).countP Beat.unwritten := by
  induction moves generalizing c with
  | nil => rfl
  | cons m ms ih =>
    have hnow := Beat.asks_eq (b := ⟨c, m⟩) h
    have hlater := ih (h.move m)
    simp only [beats, List.countP_cons, List.flatMap_cons, List.length_append]
    omega

/-- After any moves, the messages that were counted, as sent or as dropped, fall short of those that
the handle was asked to send: by those that it refused itself, by the values that could not be
written out, by those that the driver left behind, and by those that still wait for it. What the
driver takes is counted once. The handle refuses whatever it is asked to send while nothing is shown
to be open; that is logged, and counted nowhere. -/
theorem counted_run (config : ClientConfig) (observer : Observer) (moves : List Move) :
    let c := ((start config observer).run moves).1
    let beats := (start config observer).beats moves
    let totals :=
      Totals.ofList (((start config observer).run moves).2.filterMap Occurrence.metric?)
    beats.countP Beat.asks =
        totals.counts .messagesSent + totals.counts .messagesDropped +
          beats.countP Beat.refused + beats.countP Beat.unwritten +
          (beats.flatMap Beat.lost).length + c.queued.length ∧
      (∀ b ∈ beats, ∀ text ∈ b.taken,
        b.metrics = [.count .messagesSent] ∨ b.metrics = [.count .messagesDropped]) ∧
      (∀ b ∈ beats, b.refused ↔ b.asks ∧ b.client.published.state ≠ .established) ∧
      ∀ b ∈ beats, b.refused →
        b.seen =
          [.effect (.log (.refused b.client.published.state)), .answered (.error .notOpen)] := by
  intro c beats totals
  have hshown := shown_start config observer
  refine ⟨?_, fun b hb text htext => ?_, fun b hb => ?_, fun b hb hrefused => ?_⟩
  · have hasks : beats.countP Beat.asks = (beats.flatMap Beat.accepted).length +
        beats.countP Beat.refused + beats.countP Beat.unwritten := asks_run hshown moves
    have hconserved : beats.flatMap Beat.accepted =
        beats.flatMap Beat.taken ++ beats.flatMap Beat.lost ++ c.queued :=
      conserved_run hshown (orderly_start config observer) moves
    have hsettled : totals.counts .messagesSent + totals.counts .messagesDropped =
        (beats.flatMap Beat.taken).length := by
      rw [Totals.counts_ofList, Totals.counts_ofList, ← settled_run hshown moves,
        flatMap_metrics_beats]
      rfl
    rw [hasks, hconserved, List.length_append, List.length_append, hsettled]
    omega
  · exact Beat.metrics_of_mem_taken (shown_of_mem_beats hshown hb) htext
  · exact Beat.refused_iff (shown_of_mem_beats hshown hb)
  · obtain ⟨hasks, hs⟩ := (Beat.refused_iff (shown_of_mem_beats hshown hb)).mp hrefused
    exact Beat.seen_of_not_established hasks hs

/-- One message is refused before the connection opens, and one is sent by the driver. -/
theorem counted_run_second :
    let client := start (.ofHost "example.com") .silent
    let before := [.begin, .sendText "1", .connection ⟨1⟩ (.dialled (.ok 0)) none, .takePosting,
      .sendText "2"]
    let moves := before ++ [.takeCommand]
    let totals := Totals.ofList ((client.run moves).2.filterMap Occurrence.metric?)
    let early : Beat := ⟨(client.run [.begin]).1, .sendText "1"⟩
    let late : Beat := ⟨(client.run before).1, .takeCommand⟩
    2 = totals.counts .messagesSent + totals.counts .messagesDropped + 1 + 0 + 0 + 0 ∧
      early ∈ client.beats moves ∧ early.refused ∧
      early.seen = [.effect (.log (.refused .connecting)), .answered (.error .notOpen)] ∧
      late ∈ client.beats moves ∧ "2" ∈ late.taken ∧
      (late.metrics = [.count .messagesSent] ∨ late.metrics = [.count .messagesDropped]) := by
  intro client before moves totals early late
  obtain ⟨htotals, htaken, -, hrefused⟩ := counted_run (.ofHost "example.com") .silent moves
  have hearly : early ∈ client.beats moves := mem_beats client [.begin] _ (.sendText "1")
  have hlate : late ∈ client.beats moves := mem_beats client before [] .takeCommand
  have hmem : "2" ∈ late.taken := .head _
  exact ⟨htotals, hearly, rfl, hrefused early hearly rfl, hlate, hmem, htaken late hlate "2" hmem⟩

/-- After a failed dial two messages are refused by the handle. Nothing waits any more and every
value could be written out, and yet neither message is counted. -/
theorem counted_run_refused :
    let client := start (.ofHost "example.com") .silent
    let moves := [.begin, .connection ⟨1⟩ (.dialled (.error "refused")) none, .takePosting,
      .takePosting, .sendText "early", .send (.ok "1")]
    let (c, seen) := client.run moves
    let totals := Totals.ofList (seen.filterMap Occurrence.metric?)
    c.driver = .running ∧ c.commands = [] ∧ (client.beats moves).flatMap Beat.lost = [] ∧
      (client.beats moves).countP Beat.unwritten = 0 ∧
      (client.beats moves).countP Beat.asks = 2 ∧
      totals.counts .messagesSent + totals.counts .messagesDropped = 0 :=
  ⟨rfl, rfl, rfl, rfl, rfl, rfl⟩

end Client

end Lifeline
