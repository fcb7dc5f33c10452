import Lifeline.Proofs.Manager.Life
import Lifeline.Manager.Rehearsal
/-! An inert manager stays inert. Whatever it is asked later, by however late an event, it uses the
gateway for nothing, tells its observer nothing and refuses every message; giving up is the last
thing an observer hears of. -/
namespace Lifeline

variable {σ : Type} {g : Gateway σ}

namespace Manager

variable {m : Manager} {w : σ} {op : Operation} {s : Step σ}

/-- The one manager is the other at rest: inert, and the same to look at. -/
structure Rests (m m' : Manager) : Prop where
  inert : m'.isInert
  state : m'.state = m.state
  retries : m'.retries = m.retries
  exhausted : m'.exhausted = m.exhausted
  active : m'.active = m.active
  pending : m'.pending = m.pending

theorem Rests.refl (h : m.isInert) : Rests m m := ⟨h, rfl, rfl, rfl, rfl, rfl⟩

theorem Rests.trans {m' m'' : Manager} (h : Rests m m') (k : Rests m' m'') : Rests m m'' where
  inert := k.inert
  state := k.state.trans h.state
  retries := k.retries.trans h.retries
  exhausted := k.exhausted.trans h.exhausted
  active := k.active.trans h.active
  pending := k.pending.trans h.pending

/-- What is quiet anyway is silent without a connection. -/
theorem Quiet.silent (h : Quiet g m w op s) (ha : m.active = none)
    (hs : m.state = .disconnected) :
    s.calls = [] ∧ s.callbacks = [] ∧ s.world = w ∧ (op.isSend → s.answer = .error .notOpen) := by
  cases h with
  | startAgain | stale | late | shutAgain => exact ⟨rfl, rfl, rfl, fun h => by cases h⟩
  | refused => exact ⟨rfl, rfl, rfl, fun _ => rfl⟩
  | message id _ hid | error id _ hid => simp [ha] at hid
  | unwritten _ hopen => simp [hs] at hopen
  | sent _ _ _ _ _ hopen | unsent _ _ _ _ _ _ hopen => simp [hs] at hopen

/-- Neither a connection nor a timer is left, so only a shutdown has anything to do, and that is to
remember that it was asked for. -/
theorem Sound.rests (hm : m.Sound) (hi : m.isInert) (h : Move g m w op s) :
    s.calls = [] ∧ s.callbacks = [] ∧ s.world = w ∧ (op.isSend → s.answer = .error .notOpen) ∧
      Rests m s.manager := by
  have ha := hm.inert_active hi
  have hp := hm.inert_pending hi
  have hs := hm.state_of_active_none ha
  cases h with
  | quiet h =>
    obtain ⟨hcalls, hcallbacks, hworld, hanswer⟩ := h.silent ha hs
    refine ⟨hcalls, hcallbacks, hworld, hanswer, ?_⟩
    rw [h.manager_eq]
    exact .refl hi
  | start hinert => simp [hi] at hinert
  | fire id _ hid => simp [hp] at hid
  | opened id hid | retry id _ _ _ _ hid | giveUp id _ _ hid => simp [ha] at hid
  | shutdown hd =>
    have hcalls : (Manager.shutdown g m w).calls = [] := by simp [calls_shutdown hd, ha, hp]
    refine ⟨hcalls, callbacks_shutdown, world_shutdown ha hp, (by intro h; cases h), ?_⟩
    rw [manager_shutdown hd]
    exact ⟨by simp [isInert], hs.symm, rfl, rfl, ha.symm, hp.symm⟩

/-- Giving up makes the manager exhausted, and comes last. -/
theorem Move.exhausted_last (h : Move g m w op s) (n : UInt32) :
    (.exhausted n ∈ s.callbacks → s.manager.exhausted) ∧ .exhausted n ∉ s.callbacks.dropLast := by
  cases h with
  | giveUp => exact ⟨fun _ => rfl, by simp [List.filterMap_cons]⟩
  | quiet h =>
    have hnot : .exhausted n ∉ s.callbacks :=
      Callback.not_mem_of_tally_eq_zero (h.tally_callbacks (by simp) (by simp))
    exact ⟨fun hmem => absurd hmem hnot, fun hmem => hnot (List.dropLast_subset _ hmem)⟩
  | shutdown => simp [callbacks_shutdown]
  | _ => simp [List.filterMap_cons]

end Manager

namespace Life

variable {target : Target} {policy : ReconnectPolicy} {w : σ}

theorem rests_run {l : Life σ} (hl : l.manager.Sound) (hi : l.manager.isInert)
    (more : List Operation) :
    Manager.Rests l.manager (l.run g more).manager ∧ (l.run g more).world = l.world := by
  have keep : (l.run g more).manager.Sound ∧ Manager.Rests l.manager (l.run g more).manager ∧
      (l.run g more).world = l.world := by
    apply run_of_next (motive := fun l' =>
      l'.manager.Sound ∧ Manager.Rests l.manager l'.manager ∧ l'.world = l.world)
    · exact ⟨hl, .refl hi, rfl⟩
    · rintro l' op ⟨hl', hrests, hworld⟩
      obtain ⟨-, -, hsame, -, hnext⟩ := hl'.rests (g := g) hrests.inert (hl'.move op)
      exact ⟨hl'.perform op, hrests.trans hnext, hsame.trans hworld⟩
  exact keep.2

/-- An observer that was told of giving up has an exhausted manager, and was told nothing since. -/
theorem exhausted_last_run (ops : List Operation) (n : UInt32) :
    let l := (fresh target policy w).run g ops
    (.exhausted n ∈ l.callbacks → l.manager.exhausted) ∧ .exhausted n ∉ l.callbacks.dropLast := by
  apply run_of_move (motive := fun l =>
    (.exhausted n ∈ l.callbacks → l.manager.exhausted) ∧ .exhausted n ∉ l.callbacks.dropLast)
  · simp [callbacks, fresh]
  · rintro l op s hl hmove ⟨hgone, hlast⟩
    rw [callbacks_extend, manager_extend]
    cases hexhausted : l.manager.exhausted with
    | true =>
      have hi : l.manager.isInert := by simp [Manager.isInert, hexhausted]
      obtain ⟨-, hsilent, -, -, hrests⟩ := hl.rests hi hmove
      rw [hsilent, List.append_nil]
      exact ⟨fun _ => hrests.exhausted.trans hexhausted, hlast⟩
    | false =>
      have hnot : .exhausted n ∉ l.callbacks := fun hmem => by
        have := hgone hmem
        rw [hexhausted] at this
        cases this
      obtain ⟨hnow, hlastNow⟩ := hmove.exhausted_last n
      constructor
      · intro hmem
        exact hnow ((List.mem_append.mp hmem).resolve_left hnot)
      · intro hmem
        rw [List.dropLast_append] at hmem
        split at hmem
        · exact hlast hmem
        · exact (List.mem_append.mp hmem).elim hnot hlastNow

/-- Once the manager is inert, no operation uses the gateway or reaches the observer, every message
is refused, and nothing of the manager changes that a client can see. So giving up is told at most
once, and last. -/
theorem inert_run (g : Gateway σ) (target : Target) (policy : ReconnectPolicy) (w : σ)
    (ops : List Operation) :
    let l := (fresh target policy w).run g ops
    (l.manager.isInert → ∀ more op,
      let later := l.run g more
      let s := later.manager.perform g later.world op
      s.calls = [] ∧ s.callbacks = [] ∧ s.world = l.world ∧
        (op.isSend → s.answer = .error .notOpen) ∧ Manager.Rests l.manager s.manager) ∧
      Callback.tally .exhausted l.callbacks ≤ 1 ∧ ∀ n, .exhausted n ∉ l.callbacks.dropLast := by
  intro l
  have hl : l.manager.Sound := sound_run (.fresh target policy) ops
  have hlast : ∀ n, .exhausted n ∉ l.callbacks.dropLast := fun n => (exhausted_last_run ops n).2
  refine ⟨?_, ?_, hlast⟩
  · intro hi more op
    obtain ⟨hrests, hworld⟩ := rests_run (g := g) hl hi more
    have hlater : (l.run g more).manager.Sound := sound_run hl more
    obtain ⟨hcalls, hcallbacks, hsame, hanswer, hnext⟩ :=
      hlater.rests (g := g) hrests.inert (hlater.move op)
    exact ⟨hcalls, hcallbacks, hsame.trans hworld, hanswer, hrests.trans hnext⟩
  · apply Callback.tally_le_one
    apply Callback.tally_eq_zero
    intro c hc hkind
    cases c with
    | exhausted n => exact hlast n hc
    | _ => cases hkind

/-- With no attempt allowed one refusal is the end, and a message sent after a shutdown on top of
that is refused. -/
theorem inert_run_after_refusal :
    let l := (fresh (.ofHost "example.com") ⟨.ofSeconds 1, .ofSeconds 30, 0⟩
      (Script.ofLists [] [] [])).run Script.gateway [.start, .receive ⟨1⟩ (.closed none "refused")]
    let later := l.run Script.gateway [.start, .elapse ⟨1⟩, .shutdown]
    let s := later.manager.perform Script.gateway later.world (.sendText "late")
    l.manager.isInert ∧ (Operation.sendText "late").isSend ∧
      s.calls = [] ∧ s.answer = .error .notOpen :=
  have hl := (inert_run Script.gateway (.ofHost "example.com") ⟨.ofSeconds 1, .ofSeconds 30, 0⟩
    (Script.ofLists [] [] []) [.start, .receive ⟨1⟩ (.closed none "refused")]).1 rfl
    [.start, .elapse ⟨1⟩, .shutdown] (.sendText "late")
  ⟨rfl, rfl, hl.1, hl.2.2.2.1 rfl⟩

end Life

end Lifeline
