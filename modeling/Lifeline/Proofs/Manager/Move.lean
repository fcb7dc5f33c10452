import Lifeline.Proofs.Manager.Trace
/-! What one operation can lead to. A sound manager takes an operation in one of seven ways: it stays
as it is, or it makes one of six moves. Each way is listed with its condition and its whole outcome,
so that a law of the manager is proved by going through the list and never by opening an operation. -/
namespace Lifeline

variable {σ : Type}

namespace Manager

/-- What holds of a manager between two operations. -/
structure Sound (m : Manager) : Prop where
  active_iff : m.active.isSome ↔ m.state = .connecting ∨ m.state = .established
  not_closing : m.state ≠ .closing
  exclusive : m.active = none ∨ m.pending = none
  inert_active : m.isInert → m.active = none
  inert_pending : m.isInert → m.pending = none
  retries_le : m.retries ≤ m.policy.maxAttempts

theorem Sound.of_disconnected {m : Manager} (hs : m.state = .disconnected) (ha : m.active = none)
    (hp : m.isInert → m.pending = none) (hr : m.retries ≤ m.policy.maxAttempts) : m.Sound where
  active_iff := by simp [hs, ha]
  not_closing := by simp [hs]
  exclusive := .inl ha
  inert_active := fun _ => ha
  inert_pending := hp
  retries_le := hr

theorem Sound.fresh (target : Target) (policy : ReconnectPolicy) : Sound (fresh target policy) :=
  .of_disconnected rfl rfl (fun _ => rfl) (by simp [Manager.fresh])

theorem Sound.state_of_active_none {m : Manager} (hm : m.Sound) (h : m.active = none) :
    m.state = .disconnected := by
  have hnot := mt hm.active_iff.mpr (by simp [h])
  have hclosing := hm.not_closing
  cases hs : m.state <;> simp_all

theorem Sound.active_of_established {m : Manager} (hm : m.Sound) (h : m.state = .established) :
    ∃ id, m.active = some id :=
  Option.isSome_iff_exists.mp (hm.active_iff.mpr (.inr h))

theorem Sound.not_inert_of_active {m : Manager} (hm : m.Sound) {id : ConnectionId}
    (h : m.active = some id) : m.isInert = false := by
  cases hi : m.isInert with
  | false => rfl
  | true => rw [hm.inert_active hi] at h; cases h

/-- What is inert waits for no timer. -/
theorem Sound.not_inert_of_pending {m : Manager} (hm : m.Sound) {id : TimerId}
    (h : m.pending = some id) : m.isInert = false := by
  cases hi : m.isInert with
  | false => rfl
  | true => rw [hm.inert_pending hi] at h; cases h

theorem Sound.pending_of_active {m : Manager} (hm : m.Sound) {id : ConnectionId}
    (h : m.active = some id) : m.pending = none := by
  rcases hm.exclusive with ha | hp
  · rw [ha] at h; cases h
  · exact hp

/-- The operations that leave the manager as it is. -/
inductive Quiet (g : Gateway σ) (m : Manager) (w : σ) : Operation → Step σ → Prop
  | startAgain (d : Diagnostic) (h : m.isInert ∨ m.active.isSome ∨ m.pending.isSome) :
      Quiet g m w .start (idle m w d)
  | stale (id : ConnectionId) (n : Notice) (h : m.active ≠ some id) :
      Quiet g m w (.receive id n) (idle m w (.staleConnection id))
  | message (id : ConnectionId) (text : String) (h : m.active = some id) :
      Quiet g m w (.receive id (.message text))
        ⟨m, w, .ok (), [.metric (.count .messagesReceived), .callback (.message text)]⟩
  | error (id : ConnectionId) (text : String) (h : m.active = some id) :
      Quiet g m w (.receive id (.error text))
        ⟨m, w, .ok (), [.log (.transportError text), .callback (.error text)]⟩
  | late (id : TimerId) (h : m.shutDown ∨ m.pending ≠ some id) :
      Quiet g m w (.elapse id) (idle m w (.staleTimer id))
  | refused (op : Operation) (hop : op.isSend) (h : m.state ≠ .established) :
      Quiet g m w op (refuse m w)
  | unwritten (reason : String) (h : m.state = .established) :
      Quiet g m w (.send (.error reason)) ⟨m, w, .error (.unserializable reason), []⟩
  | sent (op : Operation) (text : String) (id : ConnectionId) (w' : σ) (hop : op.text? = some text)
      (hs : m.state = .established) (ha : m.active = some id)
      (ht : g.transmit w id text = (.ok (), w')) :
      Quiet g m w op ⟨m, w', .ok (), [.call (.transmit id text), .metric (.count .messagesSent)]⟩
  | unsent (op : Operation) (text : String) (id : ConnectionId) (w' : σ) (e : ClientError)
      (hop : op.text? = some text) (hs : m.state = .established) (ha : m.active = some id)
      (ht : g.transmit w id text = (.error e, w')) :
      Quiet g m w op ⟨m, w', .error e,
        [.call (.transmit id text), .log (.sendFailed e), .metric (.count .messagesDropped)]⟩
  | shutAgain (h : m.shutDown) : Quiet g m w .shutdown ⟨m, w, .ok (), []⟩

/-- Everything that an operation on a sound manager can lead to. -/
inductive Move (g : Gateway σ) (m : Manager) (w : σ) : Operation → Step σ → Prop
  | quiet {op : Operation} {s : Step σ} (h : Quiet g m w op s) : Move g m w op s
  | start (hi : m.isInert = false) (ha : m.active = none) (hp : m.pending = none) :
      Move g m w .start (connect g m w)
  | fire (id : TimerId) (hd : m.shutDown = false) (hp : m.pending = some id) :
      Move g m w (.elapse id) (connect g { m with pending := none } w)
  | opened (id : ConnectionId) (ha : m.active = some id) :
      Move g m w (.receive id .opened)
        ⟨{ m with state := .established, retries := 0 }, w, .ok (),
          [.log (.opened m.target.url), .metric (.count .connectionsOpened), .metric (.retries 0),
            .callback .opened]⟩
  | retry (id : ConnectionId) (code : Option UInt16) (reason : String) (timer : TimerId) (w' : σ)
      (ha : m.active = some id) (hr : m.retries < m.policy.maxAttempts)
      (ht : g.schedule w (m.policy.delayFor m.retries) = (timer, w')) :
      Move g m w (.receive id (.closed code reason))
        ⟨{ m with state := .disconnected, active := none, pending := some timer,
                  retries := m.retries + 1 }, w', .ok (),
          [.log (.closed code reason), .metric (.count .connectionsClosed),
            .callback (.closed code reason),
            .call (.schedule (m.policy.delayFor m.retries) timer),
            .log (.reconnecting (m.retries + 1) (m.policy.delayFor m.retries)),
            .metric (.count .reconnectsScheduled), .metric (.delay (m.policy.delayFor m.retries)),
            .metric (.retries (m.retries + 1)),
            .callback (.reconnecting (m.retries + 1) (m.policy.delayFor m.retries))]⟩
  | giveUp (id : ConnectionId) (code : Option UInt16) (reason : String)
      (ha : m.active = some id) (hr : m.retries = m.policy.maxAttempts) :
      Move g m w (.receive id (.closed code reason))
        ⟨{ m with state := .disconnected, active := none, exhausted := true }, w, .ok (),
          [.log (.closed code reason), .metric (.count .connectionsClosed),
            .callback (.closed code reason), .log (.gaveUp m.retries),
            .metric (.count .reconnectsExhausted), .callback (.exhausted m.retries)]⟩
  | shutdown (hd : m.shutDown = false) : Move g m w .shutdown (shutdown g m w)

variable {g : Gateway σ} {m : Manager} {w : σ} {op : Operation} {s : Step σ}

theorem move_start : Move g m w .start (start g m w) := by
  unfold Manager.start
  split
  · rename_i hi
    exact .quiet (.startAgain _ (.inl hi))
  · rename_i hi
    split
    · rename_i hbusy
      exact .quiet (.startAgain _ (.inr (by simpa using hbusy)))
    · rename_i hbusy
      simp only [Bool.or_eq_true, not_or, Bool.not_eq_true, Option.isSome_eq_false_iff,
        Option.isNone_iff_eq_none] at hbusy
      exact .start (by simpa using hi) hbusy.1 hbusy.2

theorem move_elapse (id : TimerId) : Move g m w (.elapse id) (elapse g m w id) := by
  unfold elapse
  split
  · rename_i h
    exact .quiet (.late id (by simpa using h))
  · rename_i h
    simp only [Bool.or_eq_true, not_or, Bool.not_eq_true, decide_eq_true_eq,
      Decidable.not_not] at h
    exact .fire id h.1 h.2

theorem Sound.move_closed (hm : m.Sound) {id : ConnectionId} (ha : m.active = some id)
    (code : Option UInt16) (reason : String) :
    Move g m w (.receive id (.closed code reason)) (receive g m w id (.closed code reason)) := by
  -- The test for an inert manager never succeeds here: only a busy one has an active connection.
  have hi : { m with state := .disconnected, active := none }.isInert = false :=
    hm.not_inert_of_active ha
  unfold receive reconnect
  simp only [ha, if_true, hi, Bool.false_eq_true, if_false, ReconnectPolicy.allows,
    decide_eq_true_eq]
  split
  · rename_i hr
    exact .retry id code reason _ _ ha hr rfl
  · rename_i hr
    exact .giveUp id code reason ha (UInt32.le_antisymm hm.retries_le (UInt32.not_lt.mp hr))

theorem Sound.move_receive (hm : m.Sound) (id : ConnectionId) (n : Notice) :
    Move g m w (.receive id n) (receive g m w id n) := by
  by_cases ha : m.active = some id
  · cases n with
    | opened =>
      have h : Move g m w _ _ := .opened id ha
      simpa [receive, ha] using h
    | message text =>
      have h : Quiet g m w _ _ := .message id text ha
      simpa [receive, ha] using Move.quiet h
    | error text =>
      have h : Quiet g m w _ _ := .error id text ha
      simpa [receive, ha] using Move.quiet h
    | closed code reason => exact hm.move_closed ha code reason
  · have h : Quiet g m w _ _ := .stale id n ha
    simpa [receive, ha] using Move.quiet h

theorem Sound.quiet_sendText (hm : m.Sound) {op : Operation} {text : String} (hop : op.isSend)
    (htext : op.text? = some text) : Quiet g m w op (sendText g m w text) := by
  unfold sendText
  split
  · rename_i id hs ha
    split
    · rename_i w' ht
      exact .sent op text id w' htext hs ha ht
    · rename_i e w' ht
      exact .unsent op text id w' e htext hs ha ht
  · rename_i hno
    refine .refused op hop fun hs => ?_
    obtain ⟨id, ha⟩ := hm.active_of_established hs
    exact hno id hs ha

theorem Sound.quiet_send (hm : m.Sound) (written : Except String String) :
    Quiet g m w (.send written) (send g m w written) := by
  unfold send
  split
  · rename_i hs
    cases written with
    | ok text => exact hm.quiet_sendText rfl rfl
    | error reason => exact .unwritten reason hs
  · rename_i hs
    exact .refused _ rfl hs

theorem move_shutdown : Move g m w .shutdown (shutdown g m w) := by
  cases hd : m.shutDown with
  | false => exact .shutdown hd
  | true =>
    have h : Quiet g m w _ _ := .shutAgain hd
    simpa [Manager.shutdown, hd] using Move.quiet h

theorem Sound.move (hm : m.Sound) (op : Operation) : Move g m w op (perform g m w op) := by
  cases op with
  | start => exact move_start
  | receive id n => exact hm.move_receive id n
  | elapse id => exact move_elapse id
  | send written => exact .quiet (hm.quiet_send written)
  | sendText text => exact .quiet (hm.quiet_sendText rfl rfl)
  | shutdown => exact move_shutdown

theorem Move.quiet_of_isSend (h : Move g m w op s) (hop : op.isSend) : Quiet g m w op s := by
  cases h with
  | quiet h => exact h
  | _ => cases hop

theorem Quiet.manager_eq (h : Quiet g m w op s) : s.manager = m := by
  cases h <;> rfl

theorem Quiet.callbacks_of_isSend (h : Quiet g m w op s) (hop : op.isSend) : s.callbacks = [] := by
  cases h with
  | message | error => cases hop
  | _ => rfl

/-- A notice or a timer that is heeded moves the manager. -/
theorem Quiet.not_heeded (h : Quiet g m w op s) :
    Turn.opens ⟨m, op, s⟩ = false ∧ Turn.closes ⟨m, op, s⟩ = false ∧
      Turn.fires ⟨m, op, s⟩ = false := by
  cases h with
  | stale id n hid => cases n <;> simp [Turn.opens, Turn.closes, Turn.fires, hid]
  | late id hlate =>
    refine ⟨rfl, rfl, ?_⟩
    rcases hlate with hd | hp
    · simp [Turn.fires, hd]
    · simp [Turn.fires, hp]
  | refused op hop =>
    cases op with
    | send | sendText => exact ⟨rfl, rfl, rfl⟩
    | _ => cases hop
  | sent op text id w' hop | unsent op text id w' e hop =>
    cases op with
    | send | sendText => exact ⟨rfl, rfl, rfl⟩
    | _ => cases hop
  | _ => exact ⟨rfl, rfl, rfl⟩

theorem Quiet.opens_eq_false (h : Quiet g m w op s) :
    Turn.opens ⟨m, op, s⟩ = false := h.not_heeded.1

theorem Quiet.closes_eq_false (h : Quiet g m w op s) :
    Turn.closes ⟨m, op, s⟩ = false := h.not_heeded.2.1

theorem Quiet.fires_eq_false (h : Quiet g m w op s) :
    Turn.fires ⟨m, op, s⟩ = false := h.not_heeded.2.2

theorem Quiet.tally_calls (h : Quiet g m w op s) {k : Call.Kind} (hk : k ≠ .transmit) :
    Call.tally k s.calls = 0 := by
  cases h with
  | sent | unsent => simp [List.filterMap_cons, hk.symm]
  | _ => rfl

theorem Quiet.not_mem_calls (h : Quiet g m w op s) {c : Call} (hc : c.kind ≠ .transmit) :
    c ∉ s.calls :=
  Call.not_mem_of_tally_eq_zero (h.tally_calls hc)

theorem Quiet.tally_callbacks (h : Quiet g m w op s) {k : Callback.Kind} (hm : k ≠ .message)
    (he : k ≠ .error) : Callback.tally k s.callbacks = 0 := by
  cases h with
  | message => simp [List.filterMap_cons, hm.symm]
  | error => simp [List.filterMap_cons, he.symm]
  | _ => rfl

@[simp] theorem manager_connect :
    (connect g m w).manager =
      { m with state := .connecting, active := some (g.dial w m.target.url).1 } := rfl

@[simp] theorem calls_connect :
    (connect g m w).calls = [.dial m.target.url (g.dial w m.target.url).1] := rfl

@[simp] theorem callbacks_connect : (connect g m w).callbacks = [] := rfl

theorem manager_shutdown (hd : m.shutDown = false) :
    (shutdown g m w).manager =
      { m with shutDown := true, pending := none, active := none, state := .disconnected } := by
  simp [shutdown, hd]

theorem shutDown_shutdown : (shutdown g m w).manager.shutDown := by
  unfold shutdown
  split
  · assumption
  · rfl

theorem calls_shutdown (hd : m.shutDown = false) :
    (shutdown g m w).calls = m.pending.toList.map .cancel ++ m.active.toList.map .hangUp := by
  unfold shutdown
  rw [if_neg (by simp [hd])]
  cases m.pending <;> cases m.active <;> rfl

theorem tally_calls_shutdown (hd : m.shutDown = false) (k : Call.Kind) :
    Call.tally k (shutdown g m w).calls =
      (if Call.Kind.cancel = k then m.pending.isSome.toNat else 0) +
        if Call.Kind.hangUp = k then m.active.isSome.toNat else 0 := by
  rw [calls_shutdown hd]
  cases m.pending <;> cases m.active <;> cases k <;> rfl

theorem world_shutdown (ha : m.active = none) (hp : m.pending = none) :
    (shutdown g m w).world = w := by
  unfold shutdown
  split
  · rfl
  · rw [ha, hp]

theorem callbacks_shutdown : (shutdown g m w).callbacks = [] := by
  unfold shutdown
  split
  · rfl
  · cases m.pending <;> cases m.active <;> rfl

theorem Move.target_eq (h : Move g m w op s) : s.manager.target = m.target := by
  cases h with
  | quiet h => rw [h.manager_eq]
  | shutdown hd => rw [manager_shutdown hd]
  | _ => rfl

theorem Move.policy_eq (h : Move g m w op s) : s.manager.policy = m.policy := by
  cases h with
  | quiet h => rw [h.manager_eq]
  | shutdown hd => rw [manager_shutdown hd]
  | _ => rfl

/-- Only a shutdown shuts a manager down. -/
theorem Move.shutDown_eq (h : Move g m w op s) (hop : op ≠ .shutdown) :
    s.manager.shutDown = m.shutDown := by
  cases h with
  | quiet h => rw [h.manager_eq]
  | shutdown => exact absurd rfl hop
  | _ => rfl

theorem exhausted_start : (start g m w).manager.exhausted = m.exhausted := by
  unfold start
  split
  · rfl
  · split <;> rfl

/-- Below the limit the counter goes up by one without wrapping around. -/
theorem toNat_retries_succ (h : m.retries < m.policy.maxAttempts) :
    (m.retries + 1).toNat = m.retries.toNat + 1 := by
  have hlt := UInt32.lt_iff_toNat_lt.mp h
  have hlimit := m.policy.maxAttempts.toNat_lt
  have hone : (1 : UInt32).toNat = 1 := rfl
  rw [UInt32.toNat_add, hone]
  omega

theorem retries_succ_le (h : m.retries < m.policy.maxAttempts) :
    m.retries + 1 ≤ m.policy.maxAttempts := by
  rw [UInt32.le_iff_toNat_le, toNat_retries_succ h]
  exact UInt32.lt_iff_toNat_lt.mp h

theorem Sound.connect (hi : m.isInert = false) (hp : m.pending = none)
    (hr : m.retries ≤ m.policy.maxAttempts) : (connect g m w).manager.Sound where
  active_iff := by simp
  not_closing := by simp
  exclusive := .inr hp
  inert_active := by
    intro h
    have hinert : m.isInert = true := h
    rw [hi] at hinert
    cases hinert
  inert_pending := fun _ => hp
  retries_le := hr

theorem Sound.step (hm : m.Sound) (h : Move g m w op s) : s.manager.Sound := by
  cases h with
  | quiet h =>
    rw [h.manager_eq]
    exact hm
  | start hi _ hp => exact .connect hi hp hm.retries_le
  | fire id hd hp => exact .connect (hm.not_inert_of_pending hp) rfl hm.retries_le
  | opened id ha =>
    exact
      { active_iff := by simp [ha]
        not_closing := by simp
        exclusive := .inr (hm.pending_of_active ha)
        inert_active := hm.inert_active
        inert_pending := hm.inert_pending
        retries_le := by simp }
  | retry id code reason timer w' ha hr ht =>
    refine .of_disconnected rfl rfl ?_ (retries_succ_le hr)
    intro h
    have hinert : m.isInert = true := h
    rw [hm.not_inert_of_active ha] at hinert
    cases hinert
  | giveUp id code reason ha hr =>
    exact .of_disconnected rfl rfl (fun _ => hm.pending_of_active ha) hm.retries_le
  | shutdown hd =>
    rw [manager_shutdown hd]
    exact .of_disconnected rfl rfl (fun _ => rfl) hm.retries_le

theorem Sound.perform (hm : m.Sound) (op : Operation) : (perform g m w op).manager.Sound :=
  hm.step (hm.move op)

end Manager

end Lifeline
