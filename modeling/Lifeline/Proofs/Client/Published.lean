import Lifeline.Proofs.Client.Moves
/-! What a handle is shown of its client. The driver publishes the status of the manager whenever it
has changed it, and it stops exactly when the manager is inert, so a handle that outlives its driver
is shown the end and never waits for it in vain. -/
namespace Lifeline

/-- The value that the handle sends, as the outcome of writing it out. -/
def Move.written? : Move → Option (Except String String)
  | .send written => some written
  | .sendText text => some (.ok text)
  | _ => none

namespace Client

variable {c : Client}

section

variable (c) (op : Operation)

theorem manager_perform : (c.perform op).1.manager =
    (Manager.perform Wiring.gateway c.manager c.wiring op).manager := rfl

@[simp] theorem driver_perform : (c.perform op).1.driver = c.driver := rfl

@[simp] theorem driver_publish : c.publish.driver = c.driver := rfl

@[simp] theorem published_publish : c.publish.published = c.manager.status := rfl

@[simp] theorem manager_stop : c.stop.manager = c.manager := rfl

@[simp] theorem driver_stop : c.stop.driver = .stopped := rfl

@[simp] theorem manager_proceed : c.proceed.manager = c.manager := by
  unfold proceed
  split <;> rfl

@[simp] theorem published_proceed : c.proceed.published = c.published := by
  unfold proceed
  split <;> rfl

theorem driver_proceed :
    c.proceed.driver = if c.manager.exhausted then .stopped else c.driver := by
  unfold proceed
  split <;> rfl

end

/-- The way in which a running driver comes to stop: its manager gave up, or it was told to shut
down, or found that nobody will tell it anything any more. -/
inductive Ends (c : Client) : Move → Client → Prop
  | exhausted {m : Move} {d : Client} (h : d.manager.exhausted) : Ends c m d
  | shutdown {d : Client} (h : c.commands.head? = some .shutdown) (hshut : d.manager.shutDown) :
      Ends c .takeCommand d
  | abandoned {d : Client} (h : c.commands = []) (hhandle : c.hasHandle = false)
      (hshut : d.manager.shutDown) : Ends c .takeCommand d

/-- Between two moves the handle is shown the status of the manager, and the driver has stopped if
and only if nothing will happen any more. -/
structure Shown (c : Client) : Prop where
  sound : c.manager.Sound
  published : c.published = c.manager.status
  stopped_iff : c.driver = .stopped ↔ c.manager.isInert

theorem shown_start (config : ClientConfig) (observer : Observer) :
    (start config observer).Shown where
  sound := .fresh config.target config.reconnect
  published := rfl
  stopped_iff := by simp [start, Manager.fresh, Manager.isInert]

namespace Shown

theorem isInert_eq_false (h : c.Shown) (hgoing : c.driver ≠ .stopped) :
    c.manager.isInert = false := by
  simpa using mt h.stopped_iff.mpr hgoing

/-- After a posting or a message the driver stops if the manager gave up. -/
theorem proceed (h : c.Shown) (hrunning : c.driver = .running) (op : Operation)
    (hop : op ≠ .shutdown) : (c.perform op).1.publish.proceed.Shown where
  sound := by
    rw [manager_proceed]
    exact h.sound.perform op
  published := by simp
  stopped_iff := by
    have hinert := h.isInert_eq_false (by simp [hrunning])
    have hmove := h.sound.move (g := Wiring.gateway) (w := c.wiring) op
    have hshut : (c.perform op).1.manager.shutDown = false := by
      rw [manager_perform, hmove.shutDown_eq hop]
      exact (Bool.or_eq_false_iff.mp hinert).2
    simp only [driver_proceed, manager_proceed, manager_publish, driver_publish, driver_perform,
      Manager.isInert, hshut, Bool.or_false, hrunning]
    split <;> simp [*]

theorem stop (h : c.Shown) : (c.perform .shutdown).1.publish.stop.Shown where
  sound := h.sound.perform .shutdown
  published := rfl
  stopped_iff := by
    have hshut : (c.perform .shutdown).1.manager.shutDown := Manager.shutDown_shutdown
    simp [Manager.isInert, hshut]

theorem begin (h : c.Shown) : (c.move .begin).1.Shown := by
  simp only [Client.move]
  split
  · rename_i hwaiting
    have hinert := h.isInert_eq_false (by simp [hwaiting])
    have hmove := h.sound.move (g := Wiring.gateway) (w := c.wiring) .start
    have hstill : (Manager.start Wiring.gateway c.manager c.wiring).manager.isInert = false := by
      rw [Manager.isInert, Manager.exhausted_start]
      exact (congrArg _ (hmove.shutDown_eq (by simp))).trans hinert
    refine ⟨h.sound.perform .start, rfl, ?_⟩
    simp [manager_perform, Manager.perform, hstill]
  · exact h

theorem takePosting (h : c.Shown) : c.takePosting.1.Shown := by
  unfold Client.takePosting
  split
  · rename_i p rest hdriver hinbox
    have hrest : Shown { c with inbox := rest } := ⟨h.sound, h.published, h.stopped_iff⟩
    cases p with
    | notice id n => exact hrest.proceed hdriver (.receive id n) (by simp)
    | elapsed id => exact hrest.proceed hdriver (.elapse id) (by simp)
  · exact h

theorem takeCommand (h : c.Shown) : c.takeCommand.1.Shown := by
  have hrest (rest : List Command) : Shown { c with commands := rest } :=
    ⟨h.sound, h.published, h.stopped_iff⟩
  unfold Client.takeCommand
  split
  · rename_i text rest hdriver hcommands
    exact (hrest rest).proceed hdriver (.sendText text) (by simp)
  · rename_i rest hdriver hcommands
    exact (hrest rest).stop
  · split
    · exact h
    · exact h.stop
  · exact h

theorem move (h : c.Shown) (m : Lifeline.Move) : (c.move m).1.Shown := by
  cases hm : m.party with
  | driver =>
    cases m with
    | begin => exact h.begin
    | takePosting => exact h.takePosting
    | takeCommand => exact h.takeCommand
    | _ => cases hm
  | network =>
    obtain ⟨wiring, connections, inbox, heq⟩ := c.exists_move_of_network hm
    rw [heq]
    exact ⟨h.sound, h.published, h.stopped_iff⟩
  | handle =>
    obtain ⟨commands, hasHandle, heq⟩ := c.exists_move_of_handle hm
    rw [heq]
    exact ⟨h.sound, h.published, h.stopped_iff⟩

theorem run (h : c.Shown) (moves : List Lifeline.Move) : (c.run moves).1.Shown := by
  induction moves generalizing c with
  | nil => exact h
  | cons m moves ih => exact ih (h.move m)

/-- A stopped driver has left nothing open. -/
theorem of_stopped (h : c.Shown) (hstopped : c.driver = .stopped) :
    c.manager.active = none ∧ c.manager.pending = none ∧ c.published.state = .disconnected := by
  have hinert := h.stopped_iff.mp hstopped
  have ha := h.sound.inert_active hinert
  refine ⟨ha, h.sound.inert_pending hinert, ?_⟩
  rw [h.published]
  exact h.sound.state_of_active_none ha

end Shown

theorem exhausted_of_proceed (hstopped : c.proceed.driver = .stopped)
    (hgoing : c.driver ≠ .stopped) : c.proceed.manager.exhausted := by
  rw [driver_proceed] at hstopped
  rw [manager_proceed]
  split at hstopped
  · assumption
  · exact absurd hstopped hgoing

theorem ends_of_driver_eq_stopped {m : Move} (hgoing : c.driver ≠ .stopped)
    (hstopped : (c.move m).1.driver = .stopped) : c.Ends m (c.move m).1 := by
  cases m with
  | begin =>
    simp only [move] at hstopped
    split at hstopped
    · simp at hstopped
    · exact absurd hstopped hgoing
  | takePosting =>
    simp only [move, takePosting] at hstopped ⊢
    split at hstopped
    · exact .exhausted (exhausted_of_proceed hstopped hgoing)
    · exact absurd hstopped hgoing
  | takeCommand =>
    simp only [move, takeCommand] at hstopped ⊢
    split at hstopped
    · exact .exhausted (exhausted_of_proceed hstopped hgoing)
    · rename_i rest hdriver hcommands
      exact .shutdown (by simp [hcommands]) Manager.shutDown_shutdown
    · rename_i hdriver hcommands
      split at hstopped
      · exact absurd hstopped hgoing
      · rename_i hhandle
        rw [if_neg hhandle]
        exact .abandoned hcommands (by simpa using hhandle) Manager.shutDown_shutdown
    · exact absurd hstopped hgoing
  | _ =>
    rw [driver_move (by simp [Move.party])] at hstopped
    exact absurd hstopped hgoing

theorem move_of_written {m : Move} {written : Except String String}
    (hm : m.written? = some written) : c.move m = c.enqueue written := by
  cases m with
  | send | sendText =>
    cases hm
    rfl
  | _ => cases hm

/-- What is sent while the state is shown as not open is refused. -/
theorem enqueue_of_not_established (hhandle : c.hasHandle)
    (hs : c.published.state ≠ .established) (written : Except String String) :
    c.enqueue written =
      (c, [.effect (.log (.refused c.published.state)), .answered (.error .notOpen)]) := by
  simp [enqueue, hhandle, hs]

/-- After any moves the handle is shown the status of the manager, which is never open and given up
at once. The driver has stopped if and only if the manager is inert, and it stops because the
manager gave up, or because it is told to shut down or nobody is left to tell it anything. Then no
connection and no timer is left and the handle is shown as much: whatever happens later, whoever
sends is told that nothing is open, and whoever waits after the client gave up is told that it
did. -/
theorem published_run (config : ClientConfig) (observer : Observer) (moves : List Move) :
    let c := ((start config observer).run moves).1
    c.published = c.manager.status ∧
      ¬(c.published.state = .established ∧ c.published.exhausted) ∧
      (c.driver = .stopped ↔ c.manager.isInert) ∧
      (∀ m, c.driver ≠ .stopped → (c.move m).1.driver = .stopped → c.Ends m (c.move m).1) ∧
      (c.driver = .stopped →
        c.manager.active = none ∧ c.manager.pending = none ∧
          c.published.state = .disconnected ∧
          ∀ more, let later := (c.run more).1
            (∀ m written, m.written? = some written → later.hasHandle →
              (later.move m).2 =
                [.effect (.log (.refused .disconnected)), .answered (.error .notOpen)]) ∧
            (c.manager.exhausted → later.opening? = some (.error .attemptsExhausted))) := by
  intro c
  have h : c.Shown := (shown_start config observer).run moves
  refine ⟨h.published, ?_, h.stopped_iff, fun m => ends_of_driver_eq_stopped, ?_⟩
  · rintro ⟨hs, hexhausted⟩
    have hinert : c.manager.isInert := by
      rw [h.published] at hexhausted
      exact Bool.or_eq_true_iff.mpr (.inl hexhausted)
    rw [(h.of_stopped (h.stopped_iff.mpr hinert)).2.2] at hs
    cases hs
  · intro hstopped
    obtain ⟨ha, hp, hs⟩ := h.of_stopped hstopped
    refine ⟨ha, hp, hs, fun more => ?_⟩
    obtain ⟨wiring, connections, inbox, commands, hasHandle, heq⟩ :=
      exists_run_of_stopped hstopped more
    have hlater : (c.run more).1.published = c.published := by rw [heq]
    refine ⟨?_, ?_⟩
    · intro m written hm hhandle
      rw [move_of_written hm, enqueue_of_not_established hhandle (by simp [hlater, hs]), hlater, hs]
    · intro hexhausted
      have hshown : (c.run more).1.published.exhausted := by rwa [hlater, h.published]
      simp [opening?, hshown]

/-- A refused connection is the end of a client that is not to try again. What is sent after it is
refused, and nobody waits any longer. -/
theorem published_run_refused :
    let config := (ClientConfig.ofHost "example.com").withMaxReconnects 0
    let moves := [.begin, .connection ⟨1⟩ (.dialled (.error "refused")) none, .takePosting]
    let c := ((start config .silent).run moves).1
    let ended := ((start config .silent).run (moves ++ [.takePosting])).1
    c.driver = .running ∧ c.Ends .takePosting (c.move .takePosting).1 ∧ ended.driver = .stopped ∧
      (ended.move (.sendText "late")).2 =
        [.effect (.log (.refused .disconnected)), .answered (.error .notOpen)] ∧
      ended.opening? = some (.error .attemptsExhausted) := by
  intro config moves c ended
  have hlast := (published_run config .silent moves).2.2.2.1 .takePosting (by decide) rfl
  have hended := (published_run config .silent (moves ++ [.takePosting])).2.2.2.2 rfl
  obtain ⟨-, -, -, hlater⟩ := hended
  obtain ⟨hrefused, hopening⟩ := hlater []
  exact ⟨rfl, hlast, rfl, hrefused (.sendText "late") (.ok "late") rfl rfl, hopening rfl⟩

end Client

end Lifeline
