import Lifeline.Client.Basic
import Lifeline.Manager.Rehearsal
import Lifeline.Proofs.Manager.Draft
/-! Messages, errors and sends have no part in the life of a connection. They can be left out of a
run, and the gateway may answer a send as it likes: the manager takes the same course through all
that is left. Of a notice that is left out the observer would have heard, word for word and once, if
it came from the active connection, and nothing otherwise. -/
namespace Lifeline

variable {σ : Type} {g : Gateway σ}

/-- Sends do not tell in the identifiers that the gateway hands out: its states can be compared so
that a send leads to a state that is alike, and states that are alike hand out the same
identifiers. -/
structure Gateway.Unswayed (g : Gateway σ) (alike : σ → σ → Prop) : Prop where
  symm {w w' : σ} (h : alike w w') : alike w' w
  transmit {w w' : σ} (id : ConnectionId) (text : String) (h : alike w w') :
    alike (g.transmit w id text).2 w'
  dial {w w' : σ} (url : String) (h : alike w w') :
    (g.dial w url).1 = (g.dial w' url).1 ∧ alike (g.dial w url).2 (g.dial w' url).2
  hangUp {w w' : σ} (id : ConnectionId) (h : alike w w') : alike (g.hangUp w id) (g.hangUp w' id)
  schedule {w w' : σ} (delay : Duration) (h : alike w w') :
    (g.schedule w delay).1 = (g.schedule w' delay).1 ∧
      alike (g.schedule w delay).2 (g.schedule w' delay).2
  cancel {w w' : σ} (id : TimerId) (h : alike w w') : alike (g.cancel w id) (g.cancel w' id)

/-- Two scripts have the same identifiers left. -/
structure Script.SameIds (s s' : Script) : Prop where
  connections : s.connections = s'.connections
  timers : s.timers = s'.timers
  lastConnection : s.lastConnection = s'.lastConnection
  lastTimer : s.lastTimer = s'.lastTimer

theorem Script.gateway_unswayed : Script.gateway.Unswayed Script.SameIds where
  symm h := ⟨h.connections.symm, h.timers.symm, h.lastConnection.symm, h.lastTimer.symm⟩
  transmit {s s'} id text h := by
    change SameIds s.nextAnswer.2 s'
    unfold nextAnswer
    split <;> exact ⟨h.connections, h.timers, h.lastConnection, h.lastTimer⟩
  dial {s s'} url h := by
    change s.nextConnection.1 = s'.nextConnection.1 ∧ SameIds s.nextConnection.2 s'.nextConnection.2
    unfold nextConnection
    rw [← h.connections, ← h.lastConnection]
    split <;> exact ⟨rfl, rfl, h.timers, rfl, h.lastTimer⟩
  hangUp _ h := h
  schedule {s s'} delay h := by
    change s.nextTimer.1 = s'.nextTimer.1 ∧ SameIds s.nextTimer.2 s'.nextTimer.2
    unfold nextTimer
    rw [← h.timers, ← h.lastTimer]
    split <;> exact ⟨rfl, h.connections, rfl, h.lastConnection, rfl⟩
  cancel _ h := h

/-- Two states of a transport and its timers that differ in the queues only. -/
structure Wiring.SameIds (w w' : Wiring) : Prop where
  lastId : w.transport.lastId = w'.transport.lastId
  timers : w.timers = w'.timers

theorem Transport.lastId_send (t : Transport) (id : ConnectionId) (text : String) :
    (t.send id text).2.lastId = t.lastId := by
  unfold send
  split
  · split
    · rfl
    · split <;> rfl
  · rfl

theorem Wiring.gateway_unswayed : Wiring.gateway.Unswayed Wiring.SameIds where
  symm h := ⟨h.lastId.symm, h.timers.symm⟩
  transmit {w w'} id text h := ⟨(w.transport.lastId_send id text).trans h.lastId, h.timers⟩
  dial {w w'} url h := by
    have hid : w.transport.dial.1 = w'.transport.dial.1 := by simp [Transport.dial, h.lastId]
    exact ⟨hid, hid, h.timers⟩
  hangUp _ h := ⟨h.lastId, h.timers⟩
  schedule {w w'} delay h := by
    have hid : (w.timers.schedule delay).1 = (w'.timers.schedule delay).1 := by rw [h.timers]
    have hset : (w.timers.schedule delay).2 = (w'.timers.schedule delay).2 := by rw [h.timers]
    exact ⟨hid, h.lastId, hset⟩
  cancel {w w'} id h := by
    have hcancel : w.timers.remove id = w'.timers.remove id := by rw [h.timers]
    exact ⟨h.lastId, hcancel⟩

/-- What an observer is told of a notice that changes nothing. -/
def Notice.told? : Notice → Option Callback
  | message text => some (.message text)
  | error text => some (.error text)
  | _ => none

def Operation.isAdvisory : Operation → Bool
  | receive _ n => n.told?.isSome
  | op => op.isSend

def Call.isLifecycle (c : Call) : Bool := c.kind ≠ .transmit

def Callback.isLifecycle (c : Callback) : Bool := c.kind ≠ .message ∧ c.kind ≠ .error

/-- The same outcome except for the answer, and gateways that are alike. -/
structure Step.Agrees (alike : σ → σ → Prop) (s s' : Step σ) : Prop where
  manager : s.manager = s'.manager
  world : alike s.world s'.world
  calls : s.calls = s'.calls
  callbacks : s.callbacks = s'.callbacks

namespace Manager

variable {alike : σ → σ → Prop} {m : Manager} {w w' : σ} {op : Operation} {s : Step σ}

theorem agrees_connect (hg : g.Unswayed alike) (h : alike w w') :
    (connect g m w).Agrees alike (connect g m w') := by
  obtain ⟨hid, hworld⟩ := hg.dial m.target.url h
  exact ⟨by simp [hid], hworld, by simp [hid], rfl⟩

theorem agrees_start (hg : g.Unswayed alike) (h : alike w w') :
    (start g m w).Agrees alike (start g m w') := by
  unfold start
  split
  · exact ⟨rfl, h, rfl, rfl⟩
  · split
    · exact ⟨rfl, h, rfl, rfl⟩
    · exact agrees_connect hg h

theorem agrees_elapse (hg : g.Unswayed alike) (h : alike w w') (id : TimerId) :
    (elapse g m w id).Agrees alike (elapse g m w' id) := by
  unfold elapse
  split
  · exact ⟨rfl, h, rfl, rfl⟩
  · exact agrees_connect hg h

theorem agrees_reconnect (hg : g.Unswayed alike) (h : alike w w') :
    (reconnect g m w).Agrees alike (reconnect g m w') := by
  unfold reconnect
  split
  · exact ⟨rfl, h, rfl, rfl⟩
  · split
    · obtain ⟨hid, hworld⟩ := hg.schedule (m.policy.delayFor m.retries) h
      exact ⟨by simp [hid], hworld, by simp [List.filterMap_cons, hid], rfl⟩
    · exact ⟨rfl, h, rfl, rfl⟩

theorem agrees_receive (hg : g.Unswayed alike) (h : alike w w') (id : ConnectionId) (n : Notice) :
    (receive g m w id n).Agrees alike (receive g m w' id n) := by
  unfold receive
  split
  · cases n with
    | closed code reason =>
      have hnext := agrees_reconnect (m := { m with state := .disconnected, active := none }) hg h
      have hcallbacks := congrArg (Callback.closed code reason :: ·) hnext.callbacks
      exact ⟨hnext.manager, hnext.world, hnext.calls, hcallbacks⟩
    | _ => exact ⟨rfl, h, rfl, rfl⟩
  · exact ⟨rfl, h, rfl, rfl⟩

theorem agrees_sendText (hg : g.Unswayed alike) (h : alike w w') (text : String) :
    (sendText g m w text).Agrees alike (sendText g m w' text) := by
  unfold sendText
  split
  · rename_i id hs ha
    have hworld := hg.symm (hg.transmit id text (hg.symm (hg.transmit id text h)))
    -- The answers may differ, but each is preceded by the same call.
    rcases ht : g.transmit w id text with ⟨r, v⟩
    rcases ht' : g.transmit w' id text with ⟨r', v'⟩
    rw [ht, ht'] at hworld
    cases r <;> cases r' <;> exact ⟨rfl, hworld, rfl, rfl⟩
  · exact ⟨rfl, h, rfl, rfl⟩

theorem agrees_send (hg : g.Unswayed alike) (h : alike w w') (written : Except String String) :
    (send g m w written).Agrees alike (send g m w' written) := by
  unfold send
  split
  · cases written with
    | ok text => exact agrees_sendText hg h text
    | error reason => exact ⟨rfl, h, rfl, rfl⟩
  · exact ⟨rfl, h, rfl, rfl⟩

theorem agrees_shutdown (hg : g.Unswayed alike) (h : alike w w') :
    (shutdown g m w).Agrees alike (shutdown g m w') := by
  unfold shutdown
  split
  · exact ⟨rfl, h, rfl, rfl⟩
  · cases m.pending with
    | none =>
      cases m.active with
      | none => exact ⟨rfl, h, rfl, rfl⟩
      | some id => exact ⟨rfl, hg.hangUp id h, rfl, rfl⟩
    | some timer =>
      have hcancel := hg.cancel timer h
      cases m.active with
      | none => exact ⟨rfl, hcancel, rfl, rfl⟩
      | some id => exact ⟨rfl, hg.hangUp id hcancel, rfl, rfl⟩

theorem agrees_perform (hg : g.Unswayed alike) (h : alike w w') (op : Operation) :
    (perform g m w op).Agrees alike (perform g m w' op) := by
  cases op with
  | start => exact agrees_start hg h
  | receive id n => exact agrees_receive hg h id n
  | elapse id => exact agrees_elapse hg h id
  | send written => exact agrees_send hg h written
  | sendText text => exact agrees_sendText hg h text
  | shutdown => exact agrees_shutdown hg h

/-- Nothing that matters to the connection has happened to a manager and its gateway. -/
structure Aside (alike : σ → σ → Prop) (m : Manager) (w : σ) (s : Step σ) : Prop where
  manager : s.manager = m
  world : alike s.world w
  calls : s.calls.filter Call.isLifecycle = []
  callbacks : s.callbacks.filter Callback.isLifecycle = []

theorem Quiet.aside (h : Quiet g m w op s) (hg : g.Unswayed alike) (hw : alike w w') :
    Aside alike m w' s := by
  cases h with
  | sent op text id v _ _ _ ht | unsent op text id v _ _ _ _ ht =>
    have hworld := hg.transmit id text hw
    rw [ht] at hworld
    exact ⟨rfl, hworld, rfl, rfl⟩
  | _ => exact ⟨rfl, hw, rfl, rfl⟩

theorem Move.quiet_of_isAdvisory (h : Move g m w op s) (hop : op.isAdvisory) :
    Quiet g m w op s := by
  cases h with
  | quiet h => exact h
  | _ => cases hop

/-- A notice that changes nothing is told once if the connection is the active one, and else not at
all. -/
theorem perform_told {id : ConnectionId} {n : Notice} {c : Callback} (hc : n.told? = some c) :
    let s := perform g m w (.receive id n)
    s.calls = [] ∧ s.callbacks = if m.active = some id then [c] else [] := by
  intro s
  by_cases ha : m.active = some id
  · cases n with
    | message text | error text =>
      cases hc
      simp [s, perform, receive, ha, List.filterMap_cons]
    | _ => cases hc
  · simp [s, perform, receive, ha, idle, List.filterMap_cons]

end Manager

/-- What a turn meant to the connection: all but the answer to the caller and the log. -/
def Turn.course (t : Turn σ) : Operation × Manager × Manager × List Call × List Callback :=
  (t.op, t.manager, t.step.manager, t.step.calls, t.step.callbacks)

namespace Life

variable {target : Target} {policy : ReconnectPolicy} {w : σ} {alike : σ → σ → Prop}

/-- The one life takes the course of the other, with the turns that the draft strikes out on top. -/
structure SameCourse (alike : σ → σ → Prop) (d : Draft) (full fair : Life σ) : Prop where
  manager : full.manager = fair.manager
  world : alike full.world fair.world
  kept : (d.kept full.past).map Turn.course = fair.past.map Turn.course
  calls : full.calls.filter Call.isLifecycle = fair.calls.filter Call.isLifecycle
  callbacks :
    full.callbacks.filter Callback.isLifecycle = fair.callbacks.filter Callback.isLifecycle

variable {d : Draft} {full fair : Life σ}

theorem SameCourse.keep (h : SameCourse alike d full fair) (hlength : d.length = full.past.length)
    (hg : g.Unswayed alike) (op : Operation) :
    SameCourse alike (d.keep op) (full.next g op) (fair.next g op) := by
  have hstep := Manager.agrees_perform (m := fair.manager) hg h.world op
  unfold next
  rw [h.manager]
  exact
    { manager := hstep.manager
      world := hstep.world
      kept := by
        rw [past_extend, past_extend, Draft.kept_keep _ hlength, List.map_append, List.map_append,
          h.kept]
        simp [Turn.course, h.manager, hstep.manager, hstep.calls, hstep.callbacks]
      calls := by simp [h.calls, hstep.calls]
      callbacks := by simp [h.callbacks, hstep.callbacks] }

theorem SameCourse.strike (h : SameCourse alike d full fair)
    (hlength : d.length = full.past.length) {op : Operation}
    (haside : Manager.Aside alike full.manager fair.world
      (full.manager.perform g full.world op)) :
    SameCourse alike (d.strike op) (full.next g op) fair where
  manager := haside.manager.trans h.manager
  world := haside.world
  kept := by
    rw [next, past_extend, Draft.kept_strike _ hlength]
    exact h.kept
  calls := by
    rw [next, calls_extend, List.filter_append, haside.calls, List.append_nil]
    exact h.calls
  callbacks := by
    rw [next, callbacks_extend, List.filter_append, haside.callbacks, List.append_nil]
    exact h.callbacks

theorem sameCourse_run (hg : g.Unswayed alike) (hw : alike w w) (d : Draft)
    (hd : ∀ e ∈ d, e.struck → e.op.isAdvisory) :
    SameCourse alike d ((fresh target policy w).run g d.full)
      ((fresh target policy w).run g d.fair) := by
  induction d using Draft.write_induction with
  | nil => exact ⟨rfl, hw, rfl, rfl, rfl⟩
  | keep d op ih =>
    have h := ih fun e he => hd e (List.mem_append_left _ he)
    rw [Draft.full_keep, Draft.fair_keep, run_concat, run_concat]
    exact h.keep (length_past_run_full d) hg op
  | strike d op ih =>
    have h := ih fun e he => hd e (List.mem_append_left _ he)
    have hop : op.isAdvisory := hd ⟨op, true⟩ (by simp [Draft.strike]) rfl
    have hfull : ((fresh target policy w).run g d.full).manager.Sound :=
      sound_run (.fresh target policy) d.full
    rw [Draft.full_strike, Draft.fair_strike, run_concat]
    refine h.strike (length_past_run_full d) ?_
    exact ((hfull.move op).quiet_of_isAdvisory hop).aside hg h.world

/-- Take out of a run any of its messages, errors and sends. What is left takes the same course:
each operation finds the same manager, leaves the same one, and makes the same calls and callbacks.
So the calls but for the sends are the same, and so are the callbacks but for messages and errors. A
message or error taken out was told word for word and once if it came from the active connection,
and had no other effect on gateway or observer. -/
theorem advisory_run (g : Gateway σ) (alike : σ → σ → Prop) (hg : g.Unswayed alike)
    (target : Target) (policy : ReconnectPolicy) (w : σ) (hw : alike w w) (d : Draft)
    (hd : ∀ e ∈ d, e.struck → e.op.isAdvisory) :
    let full := (fresh target policy w).run g d.full
    let fair := (fresh target policy w).run g d.fair
    (d.kept full.past).map Turn.course = fair.past.map Turn.course ∧
      full.calls.filter Call.isLifecycle = fair.calls.filter Call.isLifecycle ∧
      full.callbacks.filter Callback.isLifecycle = fair.callbacks.filter Callback.isLifecycle ∧
      ∀ t ∈ d.dropped full.past, ∀ id n c, t.op = .receive id n → n.told? = some c →
        t.step.calls = [] ∧ t.step.callbacks = if t.manager.active = some id then [c] else [] := by
  intro full fair
  have h : SameCourse alike d full fair := sameCourse_run hg hw d hd
  refine ⟨h.kept, h.calls, h.callbacks, ?_⟩
  intro t ht id n c hop hc
  obtain ⟨v, hstep⟩ := exists_perform_of_mem_past (Draft.mem_of_mem_dropped ht)
  rw [hstep, hop]
  exact Manager.perform_told hc

/-- Neither an error nor a send that fails is missed by the connection. -/
theorem advisory_run_struck :
    let d : Draft := [⟨.start, false⟩, ⟨.receive ⟨1⟩ .opened, false⟩,
      ⟨.receive ⟨1⟩ (.error "reset"), true⟩, ⟨.sendText "lost", true⟩,
      ⟨.receive ⟨1⟩ (.closed none "reset"), false⟩]
    let l := fresh (.ofHost "example.com") .standard (Script.ofLists [] [] [.error .notOpen])
    (∀ e ∈ d, e.struck → e.op.isAdvisory) ∧
      (l.run Script.gateway d.full).calls.filter Call.isLifecycle =
        (l.run Script.gateway d.fair).calls.filter Call.isLifecycle ∧
      (l.run Script.gateway d.full).manager.pending = some ⟨1⟩ := by
  intro d l
  have hd : ∀ e ∈ d, e.struck → e.op.isAdvisory := by simp [d, Operation.isAdvisory]; decide
  have h := advisory_run Script.gateway Script.SameIds Script.gateway_unswayed
    (.ofHost "example.com") .standard (Script.ofLists [] [] [.error .notOpen])
    ⟨rfl, rfl, rfl, rfl⟩ d hd
  exact ⟨hd, h.2.1, rfl⟩

end Life

end Lifeline
