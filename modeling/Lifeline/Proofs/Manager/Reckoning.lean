import Lifeline.Manager.Rehearsal
import Lifeline.Proofs.Manager.Delays
import Lifeline.Proofs.Metric
/-! The figures tell the truth. What is counted is held against what was done: the calls of the
gateway, the callbacks, and the answers to those who sent. Each operation measures what it does, no
more and no less, and so the totals of a run are a reckoning of its turns. -/
namespace Lifeline

attribute [simp] Effect.metric?

variable {σ : Type} {g : Gateway σ}

namespace Step

def metrics (s : Step σ) : List Metric := s.effects.filterMap Effect.metric?

@[simp] theorem metrics_mk (m : Manager) (w : σ) (a : Except ClientError Unit)
    (es : List Effect) : metrics ⟨m, w, a, es⟩ = es.filterMap Effect.metric? := rfl

end Step

/-- A value is to be sent that cannot be written out. -/
def Operation.isUnwritten : Operation → Bool
  | .send (.error _) => true
  | _ => false

theorem Operation.isUnwritten_of_text {op : Operation} {text : String} (h : op.text? = some text) :
    op.isUnwritten = false := by
  cases op with
  | send written =>
    cases written with
    | ok => rfl
    | error => cases h
  | _ => rfl

namespace Turn

/-- A message was sent, and the answer says so. -/
def sends (t : Turn σ) : Bool := t.op.isSend && t.step.answer.isOk

/-- A message was not sent. What cannot be written out in the open state is none. -/
def drops (t : Turn σ) : Bool :=
  t.op.isSend && !t.step.answer.isOk && !(t.op.isUnwritten && t.manager.state = .established)

section

variable (m m' : Manager) (op : Operation) (w : σ) (e : ClientError) (es : List Effect)

@[simp] theorem sends_ok : sends ⟨m, op, ⟨m', w, .ok (), es⟩⟩ = op.isSend := Bool.and_true _

@[simp] theorem sends_error : sends ⟨m, op, ⟨m', w, .error e, es⟩⟩ = false := Bool.and_false _

@[simp] theorem drops_ok : drops ⟨m, op, ⟨m', w, .ok (), es⟩⟩ = false := by
  simp [drops, Except.isOk, Except.toBool]

@[simp] theorem drops_error : drops ⟨m, op, ⟨m', w, .error e, es⟩⟩ =
    (op.isSend && !(op.isUnwritten && m.state = .established)) := by
  simp [drops, Except.isOk, Except.toBool]

end

/-- What each counter should have counted in some turns. Errors of the transport are counted by the
connections, not by the manager. -/
def reckon (ts : List (Turn σ)) : Counter → Nat
  | .connectAttempts => Call.tally .dial (ts.flatMap (·.step.calls))
  | .connectionsOpened => Callback.tally .opened (ts.flatMap (·.step.callbacks))
  | .connectionsClosed => Callback.tally .closed (ts.flatMap (·.step.callbacks))
  | .transportErrors => 0
  | .messagesReceived => Callback.tally .message (ts.flatMap (·.step.callbacks))
  | .messagesSent => ts.countP sends
  | .messagesDropped => ts.countP drops
  | .reconnectsScheduled => Call.tally .schedule (ts.flatMap (·.step.calls))
  | .reconnectsExhausted => Callback.tally .exhausted (ts.flatMap (·.step.callbacks))

theorem reckon_append (ts us : List (Turn σ)) (c : Counter) :
    reckon (ts ++ us) c = reckon ts c + reckon us c := by
  cases c <;> simp [reckon]

end Turn

namespace Manager

variable {m : Manager} {w : σ} {op : Operation} {s : Step σ}

theorem metrics_shutdown : (shutdown g m w).metrics = [] := by
  unfold shutdown
  split
  · rfl
  · cases m.pending <;> cases m.active <;> rfl

theorem Quiet.reckon (h : Quiet g m w op s) (c : Counter) :
    s.metrics.count (.count c) = Turn.reckon [⟨m, op, s⟩] c := by
  cases h with
  | refused op hop hs => cases c <;> simp [Turn.reckon, refuse, List.filterMap_cons, hop, hs]
  | unwritten reason hs => cases c <;> simp [Turn.reckon, Operation.isUnwritten, hs]
  | sent op text id w' htext =>
    have hop := Operation.isSend_of_text htext
    cases c <;> simp [Turn.reckon, List.filterMap_cons, hop]
  | unsent op text id w' e htext =>
    have hop := Operation.isSend_of_text htext
    have hwritten := Operation.isUnwritten_of_text htext
    cases c <;> simp [Turn.reckon, List.filterMap_cons, hop, hwritten]
  | _ => cases c <;> rfl

theorem Move.reckon (h : Move g m w op s) (c : Counter) :
    s.metrics.count (.count c) = Turn.reckon [⟨m, op, s⟩] c := by
  cases h with
  | quiet h => exact h.reckon c
  | shutdown hd =>
    rw [metrics_shutdown]
    cases c <;> simp [Turn.reckon, Turn.sends, Turn.drops, Operation.isSend,
      tally_calls_shutdown hd, callbacks_shutdown]
  | _ => cases c <;> rfl

/-- A delay is recorded with every timer that is set. -/
theorem Move.delays_metrics (h : Move g m w op s) :
    s.metrics.filterMap Metric.delay? = s.calls.filterMap Call.delay? := by
  cases h with
  | quiet h => cases h <;> rfl
  | shutdown hd =>
    rw [metrics_shutdown, calls_shutdown hd]
    cases m.pending <;> cases m.active <;> rfl
  | _ => rfl

theorem Move.tally_reconnecting (h : Move g m w op s) :
    Callback.tally .reconnecting s.callbacks = Call.tally .schedule s.calls := by
  cases h with
  | quiet h => rw [h.tally_callbacks (by simp) (by simp), h.tally_calls (by simp)]
  | shutdown hd => simp [callbacks_shutdown, tally_calls_shutdown hd]
  | _ => rfl

/-- Whatever changes the counter of retries sets the gauge to its new value. -/
theorem Move.retries_metrics (h : Move g m w op s) :
    (s.metrics.filterMap Metric.retries?).getLast?.getD m.retries = s.manager.retries := by
  cases h with
  | quiet h => cases h <;> rfl
  | shutdown hd =>
    rw [metrics_shutdown, manager_shutdown hd]
    rfl
  | _ => rfl

/-- What a send can come to. It is sent, it is dropped because the state is not open or the gateway
fails, or the value cannot be written out; in each case this is all that is measured. -/
inductive Outcome (g : Gateway σ) (m : Manager) (w : σ) (op : Operation) (s : Step σ) : Prop
  | sent (hanswer : s.answer = .ok ()) (hmetrics : s.metrics = [.count .messagesSent])
  | refused (hs : m.state ≠ .established) (hanswer : s.answer = .error .notOpen)
      (hmetrics : s.metrics = [.count .messagesDropped])
  | unsent (id : ConnectionId) (text : String) (e : ClientError)
      (hcall : .transmit id text ∈ s.calls) (ht : (g.transmit w id text).1 = .error e)
      (hanswer : s.answer = .error e) (hmetrics : s.metrics = [.count .messagesDropped])
  | unwritten (reason : String) (hop : op = .send (.error reason)) (hs : m.state = .established)
      (hanswer : s.answer = .error (.unserializable reason)) (hmetrics : s.metrics = [])

theorem Quiet.outcome (h : Quiet g m w op s) (hop : op.isSend) : Outcome g m w op s := by
  cases h with
  | sent => exact .sent rfl rfl
  | refused op hop hs => exact .refused hs rfl rfl
  | unsent op text id w' e htext hs ha ht =>
    exact .unsent id text e (.head _) (congrArg Prod.fst ht) rfl rfl
  | unwritten reason hs => exact .unwritten reason rfl hs rfl rfl
  | _ => cases hop

end Manager

theorem Call.length_delays (cs : List Call) :
    (cs.filterMap delay?).length = tally .schedule cs := by
  induction cs with
  | nil => rfl
  | cons c cs ih => cases c <;> simp [List.filterMap_cons, ih, Nat.add_comm]

namespace Life

variable {target : Target} {policy : ReconnectPolicy} {w : σ}

/-- What was measured, in order. -/
def metrics (l : Life σ) : List Metric := l.past.flatMap (·.step.metrics)

@[simp] theorem metrics_extend (l : Life σ) (op : Operation) (s : Step σ) :
    (l.extend op s).metrics = l.metrics ++ s.metrics := by
  simp [metrics]

/-- What was measured agrees with what was done. -/
structure Reckoned (l : Life σ) : Prop where
  counts : ∀ c, l.metrics.count (.count c) = Turn.reckon l.past c
  announced : Callback.tally .reconnecting l.callbacks = Call.tally .schedule l.calls
  delays : l.metrics.filterMap Metric.delay? = l.calls.filterMap Call.delay?
  retries : (l.metrics.filterMap Metric.retries?).getLast?.getD 0 = l.manager.retries

theorem Reckoned.extend {l : Life σ} {op : Operation} {s : Step σ} (h : l.Reckoned)
    (hmove : Manager.Move g l.manager l.world op s) : (l.extend op s).Reckoned where
  counts := by
    intro c
    rw [metrics_extend, List.count_append, h.counts, hmove.reckon, past_extend, Turn.reckon_append]
  announced := by simp [h.announced, hmove.tally_reconnecting]
  delays := by simp [h.delays, hmove.delays_metrics]
  retries := by
    rw [metrics_extend, List.filterMap_append, List.getLast?_append, manager_extend,
      ← hmove.retries_metrics, ← h.retries]
    cases (s.metrics.filterMap Metric.retries?).getLast? <;> rfl

theorem reckoned_run (ops : List Operation) : ((fresh target policy w).run g ops).Reckoned := by
  apply run_of_move (motive := Reckoned)
  · exact ⟨fun c => by cases c <;> rfl, rfl, rfl, rfl⟩
  · intro l op s _ hmove h
    exact h.extend hmove

/-- After any operations every counter holds what it stands for. The delays of the timers that were
set, and no others, were handed to the histogram, which holds each of them in milliseconds but for
rounding; each was announced. The gauge shows the number of retries, without rounding. A send counts
as sent or as dropped, unless it was to send in the open state what cannot be written out, which
counts as neither. -/
theorem reckoning_run (g : Gateway σ) (target : Target) (policy : ReconnectPolicy) (w : σ)
    (ops : List Operation) :
    let l := (fresh target policy w).run g ops
    let totals := Totals.ofList l.metrics
    let scheduled := l.calls.filterMap Call.delay?
    (∀ c, totals.counts c = Turn.reckon l.past c) ∧
      totals.delays = scheduled ∧
      totals.histogram = scheduled.map Duration.millisFigure ∧
      List.Forall₂ Duration.Recorded scheduled totals.histogram ∧
      totals.histogram.length = Call.tally .schedule l.calls ∧
      Callback.tally .reconnecting l.callbacks = Call.tally .schedule l.calls ∧
      totals.retries.getD 0 = l.manager.retries ∧
      totals.gauge.elim (some 0) Binary64.number? = some (l.manager.retries.toNat : ℚ) ∧
      ∀ op, op.isSend →
        Manager.Outcome g l.manager l.world op (l.manager.perform g l.world op) := by
  intro l totals scheduled
  have h : l.Reckoned := reckoned_run ops
  have hl : l.manager.Sound := sound_run (.fresh target policy) ops
  have hdelays : totals.delays = scheduled := by rw [Totals.delays_ofList, h.delays]
  have hhistogram : totals.histogram = scheduled.map Duration.millisFigure := by
    rw [Totals.histogram_ofList, hdelays]
  have hretries : totals.retries.getD 0 = l.manager.retries := by
    rw [Totals.retries_ofList, h.retries]
  refine ⟨?_, hdelays, hhistogram, ?_, ?_, h.announced, hretries, ?_, ?_⟩
  · intro c
    rw [Totals.counts_ofList, h.counts]
  · rw [hhistogram, List.forall₂_map_right_iff, List.forall₂_same]
    exact fun d _ => d.recorded_millisFigure
  · rw [hhistogram, List.length_map, Call.length_delays]
  · rw [← hretries]
    exact Totals.number?_gauge _
  · intro op hop
    exact ((hl.move op).quiet_of_isSend hop).outcome hop

/-- One message is sent, one the gateway fails to send, one is refused after the close, and one
cannot be written out: one counts as sent, and two as dropped. The histogram holds the thousand
milliseconds of the one delay. -/
theorem reckoning_run_sends :
    let answers := [.ok (), .error (.sendFailed "gone")]
    let l := (fresh (.ofHost "example.com") .standard (Script.ofLists [] [] answers)).run
      Script.gateway [.start, .receive ⟨1⟩ .opened, .send (.ok "1"), .sendText "2",
        .send (.error "cycle"), .receive ⟨1⟩ (.closed none "refused"), .send (.ok "3")]
    (Totals.ofList l.metrics).counts .messagesSent = 1 ∧
      (Totals.ofList l.metrics).counts .messagesDropped = 2 ∧
      (Totals.ofList l.metrics).histogram = [⟨0x408f400000000000⟩] ∧
      (Totals.ofList l.metrics).retries.getD 0 = 1 ∧
      Manager.Outcome Script.gateway l.manager l.world (.sendText "4")
        (l.manager.perform Script.gateway l.world (.sendText "4")) := by
  intro answers l
  obtain ⟨hcounts, -, hhistogram, -, -, -, hretries, -, hsends⟩ := reckoning_run Script.gateway
    (.ofHost "example.com") .standard (Script.ofLists [] [] answers)
    [.start, .receive ⟨1⟩ .opened, .send (.ok "1"), .sendText "2", .send (.error "cycle"),
      .receive ⟨1⟩ (.closed none "refused"), .send (.ok "3")]
  have hsent : Turn.reckon l.past .messagesSent = 1 := by decide +kernel
  have hdropped : Turn.reckon l.past .messagesDropped = 2 := by decide +kernel
  have hone : l.manager.retries = 1 := by decide +kernel
  have hscheduled : l.calls.filterMap Call.delay? = [.ofSeconds 1] := by decide +kernel
  refine ⟨?_, ?_, ?_, ?_, ?_⟩
  · rw [hcounts]
    exact hsent
  · rw [hcounts]
    exact hdropped
  · rw [hhistogram, hscheduled]
    decide +kernel
  · rw [hretries]
    exact hone
  · exact hsends (.sendText "4") rfl

/-- A delay of 1005 milliseconds is recorded as the number next below: what the histogram holds is
not the delay itself. -/
theorem histogram_run_rounded :
    let policy : ReconnectPolicy := ⟨.ofMillis 1005, .ofSeconds 30, 1000⟩
    let l := (fresh (.ofHost "example.com") policy (Script.ofLists [] [] [])).run Script.gateway
      [.start, .receive ⟨1⟩ (.closed none "refused")]
    l.calls.filterMap Call.delay? = [.ofMillis 1005] ∧
      (Totals.ofList l.metrics).histogram = [⟨0x408f67ffffffffff⟩] ∧
      ¬ List.Forall₂ (fun d x => x.number? = some d.millis) (l.calls.filterMap Call.delay?)
        (Totals.ofList l.metrics).histogram := by
  intro policy l
  have hscheduled : l.calls.filterMap Call.delay? = [.ofMillis 1005] := by decide +kernel
  have hhistogram : (Totals.ofList l.metrics).histogram = [⟨0x408f67ffffffffff⟩] := by
    decide +kernel
  refine ⟨hscheduled, hhistogram, fun hexact => ?_⟩
  rw [hscheduled, hhistogram, List.forall₂_cons] at hexact
  have hnegative : Binary64.isNegative ⟨0x408f67ffffffffff⟩ = false := by decide +kernel
  have hsignificand : Binary64.significand ⟨0x408f67ffffffffff⟩ = 8840073487319039 := by
    decide +kernel
  have hexponent : Binary64.exponent ⟨0x408f67ffffffffff⟩ = -43 := by decide +kernel
  have hnumber := hexact.1
  rw [Binary64.number?, if_pos (by decide +kernel), hnegative, if_neg Bool.false_ne_true,
    Binary64.value, hsignificand, hexponent] at hnumber
  have hmillis : (Duration.ofMillis 1005).millis = 1005 := by
    rw [Duration.millis, show (Duration.ofMillis 1005).nanos = 1005000000 from rfl]
    norm_num
  norm_num [hmillis] at hnumber

end Life

end Lifeline
