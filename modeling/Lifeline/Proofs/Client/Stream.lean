import Lifeline.Proofs.Client.Moves
/-! What a subscriber reads of a running client. The notices of a connection wait in the inbox in
the order in which they were posted; the manager passes on what the active connection says, and
announces what comes next. So the juncture that the reader has come to, the notices that wait, and
the phase of the connection are always in step. -/
namespace Lifeline

/-- The posting that the operation answers. -/
def Operation.posting? : Operation → Option Posting
  | receive id n => some (.notice id n)
  | elapse id => some (.elapsed id)
  | _ => none

/-- The juncture that the reader has come to, the notices that wait, and the phases of the
connections fit together. -/
structure InStep (m : Manager) (phases : List (ConnectionId × Phase)) (inbox : List Posting)
    (j : Juncture) : Prop where
  sound : m.Sound
  alive : m.exhausted = false
  going : j ≠ .finished
  idle : m.active = none → j = .between
  /-- Only the active connection has notices that wait. -/
  posted : ∀ id n, .notice id n ∈ inbox → m.active = some id
  /-- Only the active connection has not ended, and its phase is where the notices lead. -/
  pace : ∃ k, j.after? (unheard inbox) = some k ∧
    ∀ c ∈ phases, c.2 = .ended ∨ m.active = some c.1 ∧ k = c.2.juncture

namespace InStep

variable {m m' : Manager} {phases : List (ConnectionId × Phase)} {inbox : List Posting}
  {j : Juncture}

/-- Between two connections, all is said and done. -/
theorem of_done (hsound : m.Sound) (halive : m.exhausted = false)
    (hinbox : ∀ id n, .notice id n ∉ inbox) (hended : ∀ c ∈ phases, c.2 = .ended) :
    InStep m phases inbox .between where
  sound := hsound
  alive := halive
  going := by simp
  idle := fun _ => rfl
  posted := fun id n hmem => absurd hmem (hinbox id n)
  pace := ⟨.between, by rw [unheard_eq_nil_iff.mpr hinbox]; rfl, fun c hc => .inl (hended c hc)⟩

theorem fresh (target : Target) (policy : ReconnectPolicy) :
    InStep (.fresh target policy) [] [] .between :=
  of_done (.fresh target policy) rfl (by simp) (by simp)

/-- A timer that has run out says nothing. -/
theorem skip {id : TimerId} (h : InStep m phases (.elapsed id :: inbox) j) :
    InStep m phases inbox j :=
  { h with posted := fun id n hmem => h.posted id n (.tail _ hmem) }

theorem done (h : InStep m phases inbox j) (ha : m.active = none) :
    (∀ id n, .notice id n ∉ inbox) ∧ ∀ c ∈ phases, c.2 = .ended := by
  constructor
  · intro id n hmem
    have hactive := h.posted id n hmem
    rw [ha] at hactive
    cases hactive
  · obtain ⟨k, -, hphases⟩ := h.pace
    intro c hc
    rcases hphases c hc with hended | ⟨hactive, -⟩
    · exact hended
    · rw [ha] at hactive
      cases hactive

/-- So a new connection begins where nothing is said of any. -/
theorem dial {id : ConnectionId} (h : InStep m phases inbox j) (ha : m.active = none)
    (hsound : m'.Sound) (halive : m'.exhausted = false) (ha' : m'.active = some id) :
    InStep m' (phases ++ [(id, .dialling)]) inbox j := by
  obtain ⟨hinbox, hended⟩ := h.done ha
  exact
    { sound := hsound
      alive := halive
      going := h.going
      idle := by simp [ha']
      posted := fun id n hmem => absurd hmem (hinbox id n)
      pace := by
        refine ⟨.between, by rw [unheard_eq_nil_iff.mpr hinbox, h.idle ha]; rfl, ?_⟩
        intro c hc
        rcases List.mem_append.mp hc with hc | hc
        · exact .inl (hended c hc)
        · obtain rfl := List.mem_singleton.mp hc
          exact .inr ⟨ha', rfl⟩ }

/-- What the active connection says, apart from its close, is passed on. -/
theorem pass {id : ConnectionId} {n : Notice} (h : InStep m phases (.notice id n :: inbox) j)
    (hn : n.isClose = false) (hsound : m'.Sound) (halive : m'.exhausted = false)
    (ha' : m'.active = some id) :
    ∃ i, j.after? [n.event] = some i ∧ i ≠ .closed ∧ InStep m' phases inbox i := by
  have ha : m'.active = m.active := ha'.trans (h.posted id n (.head _)).symm
  obtain ⟨k, hafter, hphases⟩ := h.pace
  rw [unheard_notice] at hafter
  obtain ⟨i, hnext, hrest⟩ := Juncture.exists_of_after?_cons hafter
  obtain ⟨hclosed, hfinished⟩ := Notice.ne_of_next? hn hnext
  refine ⟨i, by simp [hnext], hclosed, ?_⟩
  exact
    { sound := hsound
      alive := halive
      going := hfinished
      idle := by simp [ha']
      posted := fun id n hmem => ha.trans (h.posted id n (.tail _ hmem))
      pace := ⟨k, hrest, ha ▸ hphases⟩ }

/-- Behind the close of the active connection nothing waits, and the connection has ended. -/
theorem part {id : ConnectionId} {code : Option UInt16} {reason : String}
    (h : InStep m phases (.notice id (.closed code reason) :: inbox) j) :
    j.after? [.disconnected code reason] = some .closed ∧ (∀ id n, .notice id n ∉ inbox) ∧
      ∀ c ∈ phases, c.2 = .ended := by
  obtain ⟨k, hafter, hphases⟩ := h.pace
  rw [unheard_notice] at hafter
  obtain ⟨i, hnext, hrest⟩ := Juncture.exists_of_after?_cons hafter
  obtain rfl := Juncture.of_next?_disconnected hnext
  have hclosed : j.next? (.disconnected code reason) = some .closed := hnext
  have hunheard := unheard_eq_nil_of_after?_closed hrest
  rw [hunheard] at hrest
  obtain rfl : Juncture.closed = k := Option.some.inj hrest
  refine ⟨by simp [hclosed], unheard_eq_nil_iff.mp hunheard, ?_⟩
  intro c hc
  rcases hphases c hc with hended | ⟨-, hjuncture⟩
  · exact hended
  · exact Phase.eq_ended hjuncture.symm

/-- A connection takes a step, and what it says waits to be heard. -/
theorem post {id : ConnectionId} {p p' : Phase} {keepalive : Option Duration}
    {failure : Option String} {stimulus : Stimulus} {es : List Emission}
    (h : InStep m phases inbox j) (hp : (id, p) ∈ phases)
    (hstep : Connection.step keepalive failure p stimulus = (p', es)) :
    InStep m (Phase.setAt phases id p') (inbox ++ Emission.postings id es) j := by
  obtain ⟨k, hafter, hphases⟩ := h.pace
  -- A connection that has ended says nothing; any other is the active one, and all notices are its.
  by_cases hended : p = .ended
  · rw [hended, Connection.step_ended] at hstep
    cases hstep
    have hnone : inbox ++ Emission.postings id [] = inbox := List.append_nil inbox
    rw [hnone]
    refine { h with pace := ⟨k, hafter, ?_⟩ }
    exact Phase.forall_mem_setAt (fun c hc _ => hphases c hc) (.inl rfl)
  · obtain ⟨ha, rfl⟩ := (hphases (id, p) hp).resolve_left hended
    have hsaid := Connection.after?_step keepalive failure p stimulus
    rw [hstep] at hsaid
    refine { h with posted := ?_, pace := ⟨p'.juncture, ?_, ?_⟩ }
    · intro id' n hmem
      rcases List.mem_append.mp hmem with hmem | hmem
      · exact h.posted id' n hmem
      · obtain ⟨n', -, heq⟩ := List.mem_map.mp hmem
        cases heq
        exact ha
    · rw [unheard_post]
      exact Juncture.after?_append_of_eq hafter hsaid
    · refine Phase.forall_mem_setAt (fun c hc hne => .inl ?_) (.inr ⟨ha, rfl⟩)
      refine (hphases c hc).resolve_right fun hactive => hne ?_
      rw [ha] at hactive
      exact (Option.some.inj hactive.1).symm

/-- A timer that runs out leaves what waits to be heard as it is. -/
theorem elapsed (h : InStep m phases inbox j) (id : TimerId) :
    InStep m phases (inbox ++ [.elapsed id]) j := by
  have hunheard : unheard (inbox ++ [.elapsed id]) = unheard inbox := by
    rw [unheard, List.filterMap_append]
    exact List.append_nil _
  exact { h with posted := by simpa using h.posted, pace := by rw [hunheard]; exact h.pace }

variable {σ : Type} {g : Gateway σ} {w : σ} {op : Operation} {s : Step σ}

theorem keep (h : InStep m phases (op.posting?.toList ++ inbox) j) (hj : j ≠ .closed)
    (hquiet : Manager.Quiet g m w op s) :
    ∃ k, j.after? (s.callbacks.map Callback.event) = some k ∧ k ≠ .closed ∧
      InStep m phases inbox k := by
  cases hquiet with
  | stale id n hid => exact absurd (h.posted id n (.head _)) hid
  | message id text ha | error id text ha => exact h.pass rfl h.sound h.alive ha
  | late id => exact ⟨j, rfl, hj, h.skip⟩
  | refused op hop | sent op text id w' hop | unsent op text id w' e hop =>
    cases op with
    | send | sendText => exact ⟨j, rfl, hj, h⟩
    | _ => cases hop
  | _ => exact ⟨j, rfl, hj, h⟩

/-- The manager takes an operation, and what it tells carries on what the reader has read. Of a
close it tells together with what comes next. -/
theorem heed (h : InStep m phases (op.posting?.toList ++ inbox) j) (hj : j ≠ .closed)
    (hop : op ≠ .shutdown) (hmove : Manager.Move g m w op s) :
    ∃ k, j.after? (s.callbacks.map Callback.event) = some k ∧ k ≠ .closed ∧
      (s.manager.exhausted = false → InStep s.manager (phases ++ s.newcomers) inbox k) := by
  have hsound := h.sound.step hmove
  cases hmove with
  | quiet hquiet =>
    obtain ⟨k, hafter, hclosed, hk⟩ := h.keep hj hquiet
    refine ⟨k, hafter, hclosed, fun _ => ?_⟩
    rw [hquiet.manager_eq, Step.newcomers, hquiet.filterMap_calls (fun _ _ => rfl)]
    simpa using hk
  | start hi ha hp => exact ⟨j, rfl, hj, fun halive => h.dial ha hsound halive rfl⟩
  | fire id hd hp =>
    have ha : m.active = none := h.sound.exclusive.resolve_right (by simp [hp])
    exact ⟨j, rfl, hj, fun halive => h.skip.dial ha hsound halive rfl⟩
  | opened id ha =>
    obtain ⟨k, hafter, hclosed, hk⟩ := h.pass rfl hsound h.alive ha
    exact ⟨k, hafter, hclosed, fun _ => by simpa [Step.newcomers, List.filterMap_cons] using hk⟩
  | retry id code reason timer w' ha =>
    obtain ⟨hclosed, hinbox, hended⟩ := h.part
    have hannounced (attempt : UInt32) (delay : Duration) :
        Juncture.closed.after? [.reconnecting attempt delay] = some .between := rfl
    refine ⟨.between, Juncture.after?_append_of_eq hclosed (hannounced _ _), by simp, ?_⟩
    intro halive
    simpa [Step.newcomers, List.filterMap_cons] using of_done hsound halive hinbox hended
  | giveUp id code reason ha =>
    obtain ⟨hclosed, -⟩ := h.part
    have hannounced (attempts : UInt32) :
        Juncture.closed.after? [.gaveUp attempts] = some .finished := rfl
    exact ⟨.finished, Juncture.after?_append_of_eq hclosed (hannounced _), by simp, by simp⟩
  | shutdown => exact absurd rfl hop

end InStep

/-- The events that wait for the reader lead from juncture to juncture, and a close is not the last
of them. -/
def Observer.Told (o : Observer) (j : Juncture) (i : Juncture := .between) : Prop :=
  j ≠ .closed ∧ ∃ es, o = channel es true ∧ i.after? es = some j

namespace Client

variable {c : Client} {i j : Juncture}

/-- The reader has come to the first juncture, what it has not read goes on from there, and as long
as the driver runs all is in step. -/
def Chronicled (c : Client) (i : Juncture := .between) : Prop :=
  ∃ j, c.observer.Told j i ∧ (c.driver ≠ .stopped → InStep c.manager c.connections c.inbox j)

theorem chronicled_start (config : ClientConfig) : (start config .subscription).Chronicled :=
  ⟨.between, ⟨by simp, [], rfl, rfl⟩, fun _ => .fresh config.target config.reconnect⟩

theorem chronicled_of_stopped (h : c.observer.Told j i) (hstopped : c.driver = .stopped) :
    c.Chronicled i :=
  ⟨j, h, fun hlive => absurd hstopped hlive⟩

theorem told_perform (op : Operation) (h : c.observer.Told j i)
    (hstep : InStep c.manager c.connections (op.posting?.toList ++ c.inbox) j)
    (hop : op ≠ .shutdown) :
    ∃ k, (c.perform op).1.observer.Told k i ∧
      ((c.perform op).1.manager.exhausted = false →
        InStep (c.perform op).1.manager (c.perform op).1.connections (c.perform op).1.inbox k) := by
  obtain ⟨hj, es, hobserver, hread⟩ := h
  obtain ⟨k, hafter, hclosed, hk⟩ :=
    hstep.heed hj hop (hstep.sound.move (g := Wiring.gateway) (w := c.wiring) op)
  refine ⟨k, ?_⟩
  rw [Client.perform, adopt_channel hobserver]
  exact ⟨⟨hclosed, _, rfl, Juncture.after?_append_of_eq hread hafter⟩, hk⟩

theorem chronicled_proceed_perform (op : Operation) (h : c.observer.Told j i)
    (hstep : InStep c.manager c.connections (op.posting?.toList ++ c.inbox) j)
    (hop : op ≠ .shutdown) : (c.perform op).1.publish.proceed.Chronicled i := by
  obtain ⟨k, htold, hk⟩ := told_perform op h hstep hop
  unfold proceed
  split
  · exact chronicled_of_stopped htold rfl
  · rename_i hgoing
    exact ⟨k, htold, fun _ => hk (by simpa using hgoing)⟩

/-- A shutdown tells the reader nothing. -/
theorem chronicled_stop_shutdown (h : c.observer.Told j i) :
    (c.perform .shutdown).1.publish.stop.Chronicled i := by
  obtain ⟨hj, es, hobserver, hread⟩ := h
  refine chronicled_of_stopped ⟨hj, es, ?_, hread⟩ rfl
  rw [stop, Client.perform, adopt_channel hobserver, Manager.perform, Manager.callbacks_shutdown]
  simp

namespace Chronicled

theorem begin (h : c.Chronicled i) : (c.move .begin).1.Chronicled i := by
  obtain ⟨j, htold, hstep⟩ := h
  simp only [move]
  split
  · rename_i hwaiting
    have hin := hstep (by simp [hwaiting])
    obtain ⟨k, htold', hk⟩ :=
      told_perform (c := { c with driver := .running }) .start htold hin (by simp)
    exact ⟨k, htold', fun _ => hk (Manager.exhausted_start.trans hin.alive)⟩
  · exact ⟨j, htold, hstep⟩

theorem takePosting (h : c.Chronicled i) : c.takePosting.1.Chronicled i := by
  obtain ⟨j, htold, hstep⟩ := h
  unfold Client.takePosting
  split
  · rename_i p rest hdriver hinbox
    rw [hinbox] at hstep
    have hin := hstep (by simp [hdriver])
    cases p with
    | notice id n =>
      exact chronicled_proceed_perform (c := { c with inbox := rest }) (.receive id n) htold hin
        (by simp)
    | elapsed id =>
      exact chronicled_proceed_perform (c := { c with inbox := rest }) (.elapse id) htold hin
        (by simp)
  · exact ⟨j, htold, hstep⟩

theorem takeCommand (h : c.Chronicled i) : c.takeCommand.1.Chronicled i := by
  obtain ⟨j, htold, hstep⟩ := h
  unfold Client.takeCommand
  split
  · rename_i text rest hdriver hcommands
    have hin := hstep (by simp [hdriver])
    exact chronicled_proceed_perform (c := { c with commands := rest }) (.sendText text) htold hin
      (by simp)
  · rename_i rest hdriver hcommands
    exact chronicled_stop_shutdown (c := { c with commands := rest }) htold
  · split
    · exact ⟨j, htold, hstep⟩
    · exact chronicled_stop_shutdown htold
  · exact ⟨j, htold, hstep⟩

theorem stimulate (h : c.Chronicled i) (id : ConnectionId) (s : Stimulus)
    (failure : Option String) : (c.stimulate id s failure).1.Chronicled i := by
  obtain ⟨j, htold, hstep⟩ := h
  cases hp : c.phase? id with
  | none =>
    rw [Client.stimulate, hp]
    exact ⟨j, htold, hstep⟩
  | some p =>
    have hmem : (id, p) ∈ c.connections := by
      obtain ⟨before, after, heq, -⟩ := List.lookup_eq_some_iff.mp hp
      simp [heq]
    obtain ⟨wiring, heq⟩ := exists_stimulate hp s failure
    rw [heq]
    refine ⟨j, htold, fun hlive => ?_⟩
    rw [if_neg hlive]
    exact (hstep hlive).post hmem rfl

theorem collect (h : c.Chronicled i) (id : ConnectionId) (failure : Option String) :
    (c.collect id failure).1.Chronicled i := by
  rcases c.exists_collect id failure with heq | ⟨wiring, s, heq⟩
  · rwa [heq]
  · have hrest : Chronicled { c with wiring } i := h
    rw [heq]
    exact hrest.stimulate id s failure

theorem enqueue (h : c.Chronicled i) (written : Except String String) :
    (c.enqueue written).1.Chronicled i := by
  obtain ⟨commands, heq⟩ := c.exists_enqueue written
  rw [heq]
  exact h

theorem elapse (h : c.Chronicled i) (id : TimerId) : (c.move (.elapse id)).1.Chronicled i := by
  obtain ⟨j, htold, hstep⟩ := h
  simp only [Client.move]
  split
  · unfold post
    split
    · exact ⟨j, htold, hstep⟩
    · exact ⟨j, htold, fun hlive => (hstep hlive).elapsed id⟩
  · exact ⟨j, htold, hstep⟩

theorem move (h : c.Chronicled i) (m : Lifeline.Move) : (c.move m).1.Chronicled i := by
  cases m with
  | begin => exact h.begin
  | takePosting => exact h.takePosting
  | takeCommand => exact h.takeCommand
  | elapse id => exact h.elapse id
  | connection id s failure =>
    cases s with
    | outbound | discarded => exact h
    | _ => exact h.stimulate id _ failure
  | collect id failure => exact h.collect id failure
  | send written => exact h.enqueue written
  | sendText text => exact h.enqueue (.ok text)
  | shutdown =>
    simp only [Client.move]
    split
    · exact h
    · exact h
  | dropHandle => exact h

theorem run (h : c.Chronicled i) (moves : List Lifeline.Move) : (c.run moves).1.Chronicled i := by
  induction moves generalizing c with
  | nil => exact h
  | cons m moves ih => exact ih (h.move m)

end Chronicled

/-- What is read of a client is the beginning of a course of blocks, and behind a close it is always
told what comes next. A close that is read right behind an error has no code and gives the text of
the error as its reason. Once it is read that the client gave up, the driver has stopped, and
nothing is read any more. -/
theorem events_run (config : ClientConfig) (moves : List Move) :
    let c := ((start config .subscription).run moves).1
    (∃ rest, Course (c.observer.readable ++ rest)) ∧
      (∀ code reason, c.observer.readable.getLast? ≠ some (.disconnected code reason)) ∧
      (∀ before text code reason after,
        c.observer.readable = before ++ .error text :: .disconnected code reason :: after →
          code = none ∧ reason = text) ∧
      ∀ attempts, .gaveUp attempts ∈ c.observer.readable →
        c.driver = .stopped ∧
          ∀ more, (c.run more).1.observer.readable = c.observer.readable := by
  intro c
  have h : c.Chronicled := (chronicled_start config).run moves
  obtain ⟨j, ⟨hj, es, hobserver, hread⟩, hstep⟩ := h
  have hevents : c.observer.readable = es := by rw [hobserver]; rfl
  rw [hevents]
  refine ⟨Juncture.exists_course hread, Juncture.getLast?_ne_disconnected hread hj, ?_, ?_⟩
  · rintro before text code reason after rfl
    exact Juncture.eq_of_after?_error hread
  · intro attempts hmem
    have hfinished := Juncture.eq_finished_of_mem hread hmem
    have hstopped : c.driver = .stopped :=
      Decidable.byContradiction fun hlive => (hstep hlive).going hfinished
    refine ⟨hstopped, fun more => ?_⟩
    rw [run_of_stopped hstopped, hevents]

/-- A client that is not to try again gives up when the first connection is refused. -/
theorem events_run_refused :
    let config := (ClientConfig.ofHost "example.com").withMaxReconnects 0
    let c := ((start config .subscription).run
      [.begin, .connection ⟨1⟩ (.dialled (.error "refused")) none, .takePosting, .takePosting]).1
    let text := (ClientError.connectionFailed "refused").message
    c.observer.readable = [.error text, .disconnected none text, .gaveUp 0] ∧
      c.driver = .stopped :=
  have h := events_run ((ClientConfig.ofHost "example.com").withMaxReconnects 0)
    [.begin, .connection ⟨1⟩ (.dialled (.error "refused")) none, .takePosting, .takePosting]
  ⟨rfl, (h.2.2.2 0 (.tail _ (.tail _ (.head _)))).1⟩

end Client

end Lifeline
