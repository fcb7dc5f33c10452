import Lifeline.Manager.Rehearsal
import Lifeline.Proofs.Manager.Draft
import Lifeline.Proofs.Manager.Ledger
/-! Late and repeated events do no harm. Where no identifier is handed out twice, a notice of a
connection that is over, and a timer that is over, can come at any point and any number of times:
what the manager does about everything else stays the same to the last effect. -/
namespace Lifeline

variable {σ : Type} {g : Gateway σ}

namespace Life

variable {target : Target} {policy : ReconnectPolicy} {w : σ}

/-- A notice or a timer of what there is not any more, or not yet. -/
def Late (l : Life σ) : Operation → Prop
  | .receive id _ => l.Retired id
  | .elapse id => l.Spent id
  | _ => False

theorem perform_of_late {ops : List Operation} {op : Operation}
    (hdialed : ((fresh target policy w).run g ops).dialed.Nodup)
    (hscheduled : ((fresh target policy w).run g ops).scheduled.Nodup)
    (hlate : ((fresh target policy w).run g ops).Late op) :
    let l := (fresh target policy w).run g ops
    ∃ d, l.manager.perform g l.world op = l.manager.idle l.world d := by
  cases op with
  | receive id n =>
    have hactive := active_ne_of_retired hdialed hlate
    exact ⟨.staleConnection id, by simp [Manager.perform, Manager.receive, hactive]⟩
  | elapse id =>
    have hpending := pending_ne_of_spent hscheduled hlate
    exact ⟨.staleTimer id, by simp [Manager.perform, Manager.elapse, hpending]⟩
  | _ => cases hlate

/-- The one life is the other with the turns put in that the draft strikes out, and these have left
no trace. -/
structure Unmoved (d : Draft) (full fair : Life σ) : Prop where
  manager : full.manager = fair.manager
  world : full.world = fair.world
  calls : full.calls = fair.calls
  callbacks : full.callbacks = fair.callbacks
  kept : d.kept full.past = fair.past

theorem Unmoved.keep {d : Draft} {full fair : Life σ} (h : Unmoved d full fair)
    (hlength : d.length = full.past.length) (op : Operation) :
    Unmoved (d.keep op) (full.next g op) (fair.next g op) := by
  unfold next
  rw [h.manager, h.world]
  exact
    { manager := rfl
      world := rfl
      calls := by simp [h.calls]
      callbacks := by simp [h.callbacks]
      kept := by
        rw [past_extend, past_extend, Draft.kept_keep _ hlength, h.kept, h.manager] }

theorem Unmoved.strike {d : Draft} {full fair : Life σ} (h : Unmoved d full fair)
    (hlength : d.length = full.past.length) {op : Operation} {log : Diagnostic}
    (hidle : full.manager.perform g full.world op = full.manager.idle full.world log) :
    Unmoved (d.strike op) (full.next g op) fair := by
  unfold next
  rw [hidle]
  exact
    { manager := h.manager
      world := h.world
      calls := by simp [Manager.idle, h.calls]
      callbacks := by simp [Manager.idle, h.callbacks]
      kept := by
        rw [past_extend, Draft.kept_strike _ hlength, h.kept] }

theorem unmoved_run (d : Draft) (hdialed : ((fresh target policy w).run g d.fair).dialed.Nodup)
    (hscheduled : ((fresh target policy w).run g d.fair).scheduled.Nodup)
    (hlate : ∀ (before after : Draft) (op : Operation), d = before.strike op ++ after →
      ((fresh target policy w).run g before.full).Late op) :
    Unmoved d ((fresh target policy w).run g d.full) ((fresh target policy w).run g d.fair) := by
  induction d using Draft.write_induction with
  | nil => exact ⟨rfl, rfl, rfl, rfl, rfl⟩
  | keep d op ih =>
    rw [Draft.fair_keep, run_concat, next] at hdialed hscheduled
    rw [dialed_extend] at hdialed
    rw [scheduled_extend] at hscheduled
    have h := ih (List.nodup_append.mp hdialed).1 (List.nodup_append.mp hscheduled).1
      (fun before after op' hd => hlate before (after.keep op) op' (by simp [hd, Draft.keep]))
    rw [Draft.full_keep, Draft.fair_keep, run_concat, run_concat]
    exact h.keep (length_past_run_full d) op
  | strike d op ih =>
    rw [Draft.fair_strike] at hdialed hscheduled
    have h := ih hdialed hscheduled
      (fun before after op' hd => hlate before (after.strike op) op' (by simp [hd, Draft.strike]))
    -- What is handed out in the one run is handed out in the other, hence not twice either.
    have hfullDialed : ((fresh target policy w).run g d.full).dialed.Nodup := by
      rwa [dialed, h.calls]
    have hfullScheduled : ((fresh target policy w).run g d.full).scheduled.Nodup := by
      rwa [scheduled, h.calls]
    have hnow := hlate d [] op (List.append_nil _).symm
    obtain ⟨log, hidle⟩ := perform_of_late hfullDialed hfullScheduled hnow
    rw [Draft.full_strike, Draft.fair_strike, run_concat]
    exact h.strike (length_past_run_full d) hidle

/-- Suppose that a run is handed no identifier twice, and that further operations are put in which
are late where they are put. Then nothing else changes: every operation of the run finds the same
manager and the same gateway, and has the same outcome, answer and effects. So the calls and the
callbacks of the two runs are the same, in the same order. -/
theorem late_run (g : Gateway σ) (target : Target) (policy : ReconnectPolicy) (w : σ) (d : Draft)
    (hdialed : ((fresh target policy w).run g d.fair).dialed.Nodup)
    (hscheduled : ((fresh target policy w).run g d.fair).scheduled.Nodup)
    (hlate : ∀ (before after : Draft) (op : Operation), d = before.strike op ++ after →
      ((fresh target policy w).run g before.full).Late op) :
    let full := (fresh target policy w).run g d.full
    let fair := (fresh target policy w).run g d.fair
    d.kept full.past = fair.past ∧ full.calls = fair.calls ∧ full.callbacks = fair.callbacks ∧
      full.manager = fair.manager ∧ full.world = fair.world := by
  have h := unmoved_run d hdialed hscheduled hlate
  exact ⟨h.kept, h.calls, h.callbacks, h.manager, h.world⟩

/-- A close and a timer that come twice are heeded once. -/
theorem late_run_doubled :
    let d : Draft := [⟨.start, false⟩, ⟨.receive ⟨1⟩ (.closed none "refused"), false⟩,
      ⟨.receive ⟨1⟩ (.closed none "refused"), true⟩, ⟨.elapse ⟨1⟩, false⟩, ⟨.elapse ⟨1⟩, true⟩]
    let l := fresh (.ofHost "example.com") .standard (Script.ofLists [] [] [])
    (l.run Script.gateway d.fair).dialed.Nodup ∧ (l.run Script.gateway d.fair).scheduled.Nodup ∧
      (l.run Script.gateway d.full).calls = (l.run Script.gateway d.fair).calls ∧
      (l.run Script.gateway d.full).manager.active = some ⟨2⟩ := by
  intro d l
  have hdialed : (l.run Script.gateway d.fair).dialed.Nodup := by decide
  have hscheduled : (l.run Script.gateway d.fair).scheduled.Nodup := by decide
  have hlate : ∀ (before after : Draft) (op : Operation), d = before.strike op ++ after →
      (l.run Script.gateway before.full).Late op := by
    intro before after op h
    rcases before with _ | ⟨_, _ | ⟨_, _ | ⟨_, _ | ⟨_, _ | ⟨_, _⟩⟩⟩⟩⟩ <;>
      simp [d, Draft.strike] at h
    · obtain ⟨rfl, rfl, rfl, rfl⟩ := h
      exact .inr (.inl (.head _))
    · obtain ⟨rfl, rfl, rfl, rfl, rfl, rfl⟩ := h
      exact .inr (.inl (.head _))
  have h := late_run Script.gateway (.ofHost "example.com") .standard (Script.ofLists [] [] []) d
    hdialed hscheduled hlate
  exact ⟨hdialed, hscheduled, h.2.1, rfl⟩

end Life

end Lifeline
