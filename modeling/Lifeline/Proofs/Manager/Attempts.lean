import Lifeline.Proofs.Manager.Life
import Lifeline.Manager.Rehearsal
/-! The retry counter against the whole history. It always equals the number of reconnects scheduled
since the connection was last established, and it never exceeds the limit of the policy. Only the
close of the active connection schedules a reconnect or gives up: the one below the limit, the other
at it. -/
namespace Lifeline

variable {σ : Type} {g : Gateway σ}

namespace Life

/-- The reconnects scheduled since the connection was last established, or ever. -/
def streak (l : Life σ) : Nat :=
  Call.tally .schedule ((l.past.reverse.takeWhile (!·.opens)).flatMap (·.step.calls))

theorem streak_extend (l : Life σ) (op : Operation) (s : Step σ) :
    (l.extend op s).streak =
      if Turn.opens ⟨l.manager, op, s⟩ then 0 else l.streak + Call.tally .schedule s.calls := by
  unfold streak
  rw [past_extend, List.reverse_append, List.reverse_singleton, List.singleton_append,
    List.takeWhile_cons]
  cases Turn.opens ⟨l.manager, op, s⟩ with
  | true => rfl
  | false => simp [Nat.add_comm]

end Life

namespace Manager

variable {m : Manager} {w : σ} {op : Operation} {s : Step σ}

theorem Move.toNat_retries (h : Move g m w op s) :
    s.manager.retries.toNat =
      if Turn.opens ⟨m, op, s⟩ then 0 else m.retries.toNat + Call.tally .schedule s.calls := by
  cases h with
  | quiet h => simp [h.manager_eq, h.opens_eq_false, h.tally_calls]
  | start | fire => simp [Turn.opens]
  | opened id ha => simp [Turn.opens, ha]
  | retry id code reason timer w' ha hr ht =>
    simp [Turn.opens, List.filterMap_cons, toNat_retries_succ hr]
  | giveUp => simp [Turn.opens, List.filterMap_cons]
  | shutdown hd => simp [Turn.opens, manager_shutdown hd, tally_calls_shutdown hd]

/-- What is not an accepted close neither schedules nor reports a reconnect and never gives up. -/
theorem Move.of_not_closes (h : Move g m w op s) (hc : Turn.closes ⟨m, op, s⟩ = false) :
    Call.tally .schedule s.calls = 0 ∧ Callback.tally .reconnecting s.callbacks = 0 ∧
      Callback.tally .exhausted s.callbacks = 0 ∧ s.manager.exhausted = m.exhausted := by
  cases h with
  | quiet h => simp [h.tally_calls, h.tally_callbacks, h.manager_eq]
  | start | fire => simp
  | opened => simp [List.filterMap_cons]
  | retry id code reason timer w' ha | giveUp id code reason ha => simp [Turn.closes, ha] at hc
  | shutdown hd =>
    simp [tally_calls_shutdown hd, callbacks_shutdown, manager_shutdown hd]

theorem Sound.perform_closed_of_lt (hm : m.Sound) {id : ConnectionId} (ha : m.active = some id)
    (hr : m.retries < m.policy.maxAttempts) (code : Option UInt16) (reason : String) :
    let s := m.perform g w (.receive id (.closed code reason))
    let delay := m.policy.delayFor m.retries
    s.calls = [.schedule delay (g.schedule w delay).1] ∧
      s.callbacks = [.closed code reason, .reconnecting (m.retries + 1) delay] ∧
      s.manager.exhausted = m.exhausted := by
  have hmove := hm.move (g := g) (w := w) (.receive id (.closed code reason))
  generalize m.perform g w (.receive id (.closed code reason)) = s at hmove ⊢
  cases hmove with
  | quiet h => exact absurd h.closes_eq_false (by simp [Turn.closes, ha])
  | retry _ _ _ timer w' _ _ ht => simp [List.filterMap_cons, ht]
  | giveUp _ _ _ _ hlimit => exact absurd (hlimit ▸ hr) (UInt32.lt_irrefl _)

theorem Sound.perform_closed_of_eq (hm : m.Sound) {id : ConnectionId} (ha : m.active = some id)
    (hr : m.retries = m.policy.maxAttempts) (code : Option UInt16) (reason : String) :
    let s := m.perform g w (.receive id (.closed code reason))
    s.calls = [] ∧ s.callbacks = [.closed code reason, .exhausted m.policy.maxAttempts] ∧
      s.manager.exhausted = true := by
  have hmove := hm.move (g := g) (w := w) (.receive id (.closed code reason))
  generalize m.perform g w (.receive id (.closed code reason)) = s at hmove ⊢
  cases hmove with
  | quiet h => exact absurd h.closes_eq_false (by simp [Turn.closes, ha])
  | retry _ _ _ _ _ _ hlt => exact absurd (hr ▸ hlt) (UInt32.lt_irrefl _)
  | giveUp => simp [List.filterMap_cons, hr]

end Manager

namespace Life

variable {target : Target} {policy : ReconnectPolicy} {w : σ}

theorem policy_run (ops : List Operation) :
    ((fresh target policy w).run g ops).manager.policy = policy := by
  apply run_of_move (motive := fun l => l.manager.policy = policy)
  · rfl
  · intro l op s _ hmove ih
    exact hmove.policy_eq.trans ih

theorem toNat_retries_run (ops : List Operation) :
    ((fresh target policy w).run g ops).manager.retries.toNat =
      ((fresh target policy w).run g ops).streak := by
  apply run_of_move (motive := fun l => l.manager.retries.toNat = l.streak)
  · rfl
  · intro l op s _ hmove ih
    rw [manager_extend, hmove.toNat_retries, streak_extend, ih]

/-- With `k` reconnects scheduled since the connection was last established, the counter stands at
`k` and `k` is within the limit. The next accepted close schedules exactly one reconnect after the
delay for `k` and reports it as number `k + 1`, or gives up when `k` has reached the limit; nothing
else does either. -/
theorem attempts_run (g : Gateway σ) (target : Target) (policy : ReconnectPolicy) (w : σ)
    (ops : List Operation) (op : Operation) :
    let l := (fresh target policy w).run g ops
    let s := l.manager.perform g l.world op
    let k := l.streak
    let delay := policy.delayFor (.ofNat k)
    l.manager.retries.toNat = k ∧ k ≤ policy.maxAttempts.toNat ∧
      (∀ id code reason, op = .receive id (.closed code reason) → l.manager.active = some id →
        (k < policy.maxAttempts.toNat →
          k + 1 < UInt32.size ∧
          s.calls = [.schedule delay (g.schedule l.world delay).1] ∧
          s.callbacks = [.closed code reason, .reconnecting (.ofNat (k + 1)) delay] ∧
          s.manager.exhausted = l.manager.exhausted) ∧
        (k = policy.maxAttempts.toNat →
          s.calls = [] ∧
          s.callbacks = [.closed code reason, .exhausted policy.maxAttempts] ∧
          s.manager.exhausted = true)) ∧
      (Turn.closes ⟨l.manager, op, s⟩ = false →
        Call.tally .schedule s.calls = 0 ∧
        Callback.tally .reconnecting s.callbacks = 0 ∧
        Callback.tally .exhausted s.callbacks = 0 ∧
        s.manager.exhausted = l.manager.exhausted) := by
  intro l s k delay
  have hl : l.manager.Sound := sound_run (.fresh target policy) ops
  have hpolicy : l.manager.policy = policy := policy_run ops
  have hk : l.manager.retries.toNat = k := toNat_retries_run ops
  have hofNat : UInt32.ofNat k = l.manager.retries := by rw [← hk, UInt32.ofNat_toNat]
  have hlimit := UInt32.le_iff_toNat_le.mp (hpolicy ▸ hl.retries_le)
  refine ⟨hk, hk ▸ hlimit, ?_, fun hc => (hl.move op).of_not_closes hc⟩
  rintro id code reason rfl ha
  constructor
  · intro hlt
    have hr : l.manager.retries < l.manager.policy.maxAttempts := by
      rw [hpolicy, UInt32.lt_iff_toNat_lt, hk]
      exact hlt
    have hsucc : UInt32.ofNat (k + 1) = l.manager.retries + 1 := by
      rw [← hk, ← Manager.toNat_retries_succ hr, UInt32.ofNat_toNat]
    have hdelay : delay = l.manager.policy.delayFor l.manager.retries := by
      rw [hpolicy, ← hofNat]
    have hbound := policy.maxAttempts.toNat_lt
    refine ⟨by rw [UInt32.size]; omega, ?_⟩
    rw [hsucc, hdelay]
    exact hl.perform_closed_of_lt ha hr code reason
  · intro heq
    have hr : l.manager.retries = l.manager.policy.maxAttempts := by
      rw [hpolicy, ← UInt32.toNat_inj, hk]
      exact heq
    rw [← hpolicy]
    exact hl.perform_closed_of_eq ha hr code reason

/-- With one attempt allowed, the second refusal in a row ends the attempts. -/
theorem attempts_run_second_refusal :
    let policy : ReconnectPolicy := ⟨.ofSeconds 1, .ofSeconds 30, 1⟩
    let l := (fresh (.ofHost "example.com") policy (Script.ofLists [] [] [])).run Script.gateway
      [.start, .receive ⟨1⟩ (.closed none "refused"), .elapse ⟨1⟩]
    let s := l.manager.perform Script.gateway l.world (.receive ⟨2⟩ (.closed none "refused"))
    l.manager.active = some ⟨2⟩ ∧ l.streak = 1 ∧
      s.callbacks = [.closed none "refused", .exhausted 1] ∧ s.manager.exhausted = true :=
  have hl := attempts_run Script.gateway (.ofHost "example.com") ⟨.ofSeconds 1, .ofSeconds 30, 1⟩
    (Script.ofLists [] [] []) [.start, .receive ⟨1⟩ (.closed none "refused"), .elapse ⟨1⟩]
    (.receive ⟨2⟩ (.closed none "refused"))
  ⟨rfl, rfl, ((hl.2.2.1 ⟨2⟩ none "refused" rfl rfl).2 rfl).2⟩

end Life

end Lifeline
