import Lifeline.Proofs.Manager.Life
import Lifeline.Manager.Rehearsal
/-! A started manager is never left with nothing that could wake it. Only a manager that was never
started, and not shut down either, waits for nothing, and no operation leads back to that. -/
namespace Lifeline

variable {σ : Type} {g : Gateway σ}

namespace Manager

/-- Neither dialling, connected, waiting nor inert: nothing but a start would set it going. -/
def isIdle (m : Manager) : Bool := !m.isInert && m.active.isNone && m.pending.isNone

variable {m : Manager} {w : σ} {op : Operation} {s : Step σ}

theorem isIdle_iff : m.isIdle ↔ m.isInert = false ∧ m.active = none ∧ m.pending = none := by
  simp [isIdle, and_assoc]

/-- Of the three things that can be the matter with a manager at most one is, and none only when it
is idle. -/
theorem Sound.count_true (hm : m.Sound) :
    [m.active.isSome, m.pending.isSome, m.isInert].count true = if m.isIdle then 0 else 1 := by
  cases hi : m.isInert with
  | true =>
    have ha := hm.inert_active hi
    have hp := hm.inert_pending hi
    simp [isIdle, hi, ha, hp]
  | false =>
    rcases hm.exclusive with ha | hp
    · cases hp : m.pending <;> simp [isIdle, hi, ha, hp]
    · cases ha : m.active <;> simp [isIdle, hi, ha, hp]

theorem Move.isIdle_before (h : Move g m w op s) (hs : s.manager.isIdle) :
    m.isIdle ∧ op.isStart = false := by
  cases h with
  | quiet h =>
    rw [h.manager_eq] at hs
    refine ⟨hs, ?_⟩
    cases h with
    | startAgain d hbusy =>
      obtain ⟨hi, ha, hp⟩ := isIdle_iff.mp hs
      simp [hi, ha, hp] at hbusy
    | refused op hop => cases op <;> simp_all [Operation.isSend, Operation.isStart]
    | sent op text id w' hop | unsent op text id w' e hop =>
      cases op <;> simp_all [Operation.text?, Operation.isStart]
    | _ => rfl
  | start | fire => simp [isIdle] at hs
  | opened id ha => simp [isIdle, ha] at hs
  | retry => simp [isIdle] at hs
  | giveUp => simp [isIdle, isInert] at hs
  | shutdown hd => simp [manager_shutdown hd, isIdle, isInert] at hs

end Manager

namespace Life

variable {target : Target} {policy : ReconnectPolicy} {w : σ}

theorem not_start_of_isIdle_run {ops : List Operation}
    (h : ((fresh target policy w).run g ops).manager.isIdle) : .start ∉ ops := by
  have hpast : ((fresh target policy w).run g ops).manager.isIdle →
      ∀ t ∈ ((fresh target policy w).run g ops).past, t.op.isStart = false := by
    apply run_of_move (motive := fun l => l.manager.isIdle → ∀ t ∈ l.past, t.op.isStart = false)
    · intro _ t ht
      cases ht
    · intro l op s _ hmove ih hidle t ht
      obtain ⟨hbefore, hop⟩ := hmove.isIdle_before hidle
      rcases List.mem_append.mp ht with ht | ht
      · exact ih hbefore t ht
      · obtain rfl := List.mem_singleton.mp ht
        exact hop
  intro hstart
  have hops := map_op_past_run (g := g) (fresh target policy w) ops
  obtain ⟨t, ht, hop⟩ := List.mem_map.mp (hops ▸ List.mem_append_right _ hstart)
  have := hpast h t ht
  rw [hop] at this
  cases this

/-- After any operations the state tells whether there is a connection, a connection and a timer
exclude each other, an inert manager has neither, and a manager that was started at least once is
connected, waiting or inert, and only one of these. -/
theorem wakeful_run (g : Gateway σ) (target : Target) (policy : ReconnectPolicy) (w : σ)
    (ops : List Operation) :
    let m := ((fresh target policy w).run g ops).manager
    ((m.state = .connecting ∨ m.state = .established) ↔ m.active.isSome) ∧
      m.state ≠ .closing ∧
      ¬(m.active.isSome ∧ m.pending.isSome) ∧
      (m.isInert → m.active = none ∧ m.pending = none ∧ m.state = .disconnected) ∧
      (.start ∈ ops → [m.active.isSome, m.pending.isSome, m.isInert].count true = 1) := by
  intro m
  have hm : m.Sound := sound_run (.fresh target policy) ops
  refine ⟨hm.active_iff.symm, hm.not_closing, ?_, ?_, ?_⟩
  · rintro ⟨ha, hp⟩
    rcases hm.exclusive with h | h
    · simp [h] at ha
    · simp [h] at hp
  · intro hi
    have ha := hm.inert_active hi
    exact ⟨ha, hm.inert_pending hi, hm.state_of_active_none ha⟩
  · intro hstart
    have hidle : ¬m.isIdle := fun h => not_start_of_isIdle_run h hstart
    rw [hm.count_true, if_neg hidle]

/-- A refused first connection leaves a timer, and nothing else, to wait for. -/
theorem wakeful_after_refusal :
    let ops := [.start, .receive ⟨1⟩ (.closed none "refused")]
    let m := ((fresh (.ofHost "example.com") .standard (Script.ofLists [] [] [])).run
      Script.gateway ops).manager
    .start ∈ ops ∧ m.pending = some ⟨1⟩ ∧
      [m.active.isSome, m.pending.isSome, m.isInert].count true = 1 :=
  ⟨.head _, rfl, (wakeful_run Script.gateway (.ofHost "example.com") .standard
    (Script.ofLists [] [] []) _).2.2.2.2 (.head _)⟩

end Life

end Lifeline
