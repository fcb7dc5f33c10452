import Lifeline.Manager.Rehearsal
import Lifeline.Program
import Lifeline.Proofs.Manager.Attempts
/-! The delays of a run. A manager that works with settings that were checked never redials in a
hurry: while no connection opens it waits longer and longer, at least the initial delay and at most
the cap. -/
namespace Lifeline

def Call.delay? : Call → Option Duration
  | schedule delay _ => some delay
  | _ => none

attribute [simp] Call.delay?

variable {σ : Type} {g : Gateway σ}

namespace Manager

variable {m : Manager} {w : σ} {op : Operation} {s : Step σ}

/-- An operation sets no timer and leaves the counter, unless a connection opens, or it sets one
timer by the counter and counts it. -/
theorem Move.delays (h : Move g m w op s) :
    s.calls.filterMap Call.delay? = [] ∧
        (Turn.opens ⟨m, op, s⟩ = false → s.manager.retries = m.retries) ∨
      s.calls.filterMap Call.delay? = [m.policy.delayFor m.retries] ∧
        m.retries < m.policy.maxAttempts ∧ s.manager.retries = m.retries + 1 := by
  cases h with
  | quiet h =>
    refine .inl ⟨?_, fun _ => by rw [h.manager_eq]⟩
    cases h <;> rfl
  | opened id ha => exact .inl ⟨rfl, fun h => by simp [Turn.opens, ha] at h⟩
  | retry _ _ _ _ _ _ hr => exact .inr ⟨rfl, hr, rfl⟩
  | shutdown hd =>
    refine .inl ⟨?_, fun _ => by rw [manager_shutdown hd]⟩
    rw [calls_shutdown hd]
    cases m.pending <;> cases m.active <;> rfl
  | _ => exact .inl ⟨rfl, fun _ => rfl⟩

theorem Move.eq_delayFor (h : Move g m w op s) {d : Duration}
    (hd : d ∈ s.calls.filterMap Call.delay?) : d = m.policy.delayFor m.retries := by
  rcases h.delays with ⟨hnone, -⟩ | ⟨hone, -, -⟩
  · rw [hnone] at hd
    cases hd
  · rw [hone] at hd
    exact List.mem_singleton.mp hd

/-- What is the delay for the next attempt now is no longer than what it is then. -/
theorem Move.delayFor_retries_le (h : Move g m w op s) (hopens : Turn.opens ⟨m, op, s⟩ = false) :
    m.policy.delayFor m.retries ≤ s.manager.policy.delayFor s.manager.retries := by
  rw [h.policy_eq]
  apply m.policy.delayFor_mono
  rcases h.delays with ⟨-, hsame⟩ | ⟨-, hlt, hsucc⟩
  · rw [hsame hopens]
    exact UInt32.le_refl _
  · rw [hsucc, UInt32.le_iff_toNat_le, toNat_retries_succ hlt]
    exact Nat.le_succ _

end Manager

/-- The delays of the timers set in some turns, in order. -/
def Turn.delays (ts : List (Turn σ)) : List Duration :=
  (ts.flatMap (·.step.calls)).filterMap Call.delay?

@[simp] theorem Turn.delays_append (ts us : List (Turn σ)) :
    Turn.delays (ts ++ us) = Turn.delays ts ++ Turn.delays us := by
  simp [Turn.delays]

@[simp] theorem Turn.delays_singleton (t : Turn σ) :
    Turn.delays [t] = t.step.calls.filterMap Call.delay? := by
  simp [Turn.delays]

namespace Life

variable {target : Target} {policy : ReconnectPolicy} {w : σ}

/-- While no connection opens the delays never go down, and the next one will be no shorter than the
latest. -/
structure Paced (l : Life σ) : Prop where
  rising : ∀ before stretch after, l.past = before ++ stretch ++ after →
    (∀ t ∈ stretch, t.opens = false) → (Turn.delays stretch).Pairwise (· ≤ ·)
  next : ∀ before stretch, l.past = before ++ stretch → (∀ t ∈ stretch, t.opens = false) →
    ∀ d ∈ Turn.delays stretch, d ≤ l.manager.policy.delayFor l.manager.retries

/-- The last turns of a life that is prolonged by one turn are none, or end with that turn. -/
theorem eq_nil_or_concat_of_append_eq {past before last : List (Turn σ)} {t : Turn σ}
    (h : past ++ [t] = before ++ last) :
    last = [] ∨ ∃ rest, last = rest ++ [t] ∧ past = before ++ rest := by
  rcases List.eq_nil_or_concat last with rfl | ⟨rest, u, rfl⟩
  · exact .inl rfl
  · rw [List.concat_eq_append, ← List.append_assoc] at h
    obtain ⟨hpast, hturn⟩ := List.append_inj' h rfl
    cases hturn
    exact .inr ⟨rest, List.concat_eq_append .., hpast⟩

theorem Paced.extend {l : Life σ} {op : Operation} {s : Step σ} (h : l.Paced)
    (hmove : Manager.Move g l.manager l.world op s) : (l.extend op s).Paced where
  rising := by
    intro before stretch after hpast hstretch
    rcases eq_nil_or_concat_of_append_eq hpast with rfl | ⟨rest, rfl, hearlier⟩
    · rw [List.append_nil] at hpast
      rcases eq_nil_or_concat_of_append_eq hpast with rfl | ⟨rest, rfl, hearlier⟩
      · exact .nil
      · have hrest : ∀ t ∈ rest, t.opens = false :=
          fun t ht => hstretch t (List.mem_append_left _ ht)
        have hrising := h.rising before rest [] (by simpa using hearlier) hrest
        rw [Turn.delays_append, Turn.delays_singleton]
        rcases hmove.delays with ⟨hnone, -⟩ | ⟨hone, -, -⟩
        · rw [hnone, List.append_nil]
          exact hrising
        · rw [hone]
          refine List.pairwise_append.mpr ⟨hrising, List.pairwise_singleton .., ?_⟩
          intro d hd d' hd'
          rw [List.mem_singleton.mp hd']
          exact h.next before rest hearlier hrest d hd
    · exact h.rising before stretch rest hearlier hstretch
  next := by
    intro before stretch hpast hstretch d hd
    rcases eq_nil_or_concat_of_append_eq hpast with rfl | ⟨rest, rfl, hearlier⟩
    · cases hd
    · have hopens := hstretch _ (List.mem_append_right rest (List.mem_singleton_self _))
      refine Nat.le_trans ?_ (hmove.delayFor_retries_le hopens)
      rw [Turn.delays_append, Turn.delays_singleton, List.mem_append] at hd
      rcases hd with hd | hd
      · exact h.next before rest hearlier (fun t ht => hstretch t (List.mem_append_left _ ht)) d hd
      · obtain rfl := hmove.eq_delayFor hd
        exact Nat.le_refl _

theorem paced_run (ops : List Operation) : ((fresh target policy w).run g ops).Paced := by
  apply run_of_move (motive := Paced)
  · constructor
    · intro before stretch after hpast _
      obtain ⟨-, rfl, -⟩ : before = [] ∧ stretch = [] ∧ after = [] := by
        simpa [fresh] using hpast
      exact .nil
    · intro before stretch hpast _ d hd
      obtain ⟨-, rfl⟩ : before = [] ∧ stretch = [] := by simpa [fresh] using hpast
      cases hd
  · intro l op s _ hmove h
    exact h.extend hmove

/-- Every delay is the delay of the policy for some attempt. -/
theorem exists_delayFor_of_mem_delays (ops : List Operation) :
    ∀ d ∈ Turn.delays ((fresh target policy w).run g ops).past, ∃ n, d = policy.delayFor n := by
  have h : ((fresh target policy w).run g ops).manager.policy = policy ∧
      ∀ d ∈ Turn.delays ((fresh target policy w).run g ops).past, ∃ n, d = policy.delayFor n := by
    apply run_of_move (motive := fun l =>
      l.manager.policy = policy ∧ ∀ d ∈ Turn.delays l.past, ∃ n, d = policy.delayFor n)
    · exact ⟨rfl, fun d hd => by cases hd⟩
    · rintro l op s _ hmove ⟨hpolicy, h⟩
      refine ⟨hmove.policy_eq.trans hpolicy, ?_⟩
      intro d hd
      rw [past_extend, Turn.delays_append, Turn.delays_singleton, List.mem_append] at hd
      rcases hd with hd | hd
      · exact h d hd
      · exact ⟨l.manager.retries, hpolicy ▸ hmove.eq_delayFor hd⟩
  exact h.2

/-- Whatever settings and overrides pass the check, a manager with their policy never redials in a
hurry: the initial delay is a millisecond at least, every delay lies between it and the cap, and as
long as no connection opens no delay is shorter than an earlier one. -/
theorem delays_run {base c : ConnectionConfig} {args : CommandLine.ConnectArgs}
    (h : Program.settings args base = .ok c) (g : Gateway σ) (target : Target) (w : σ)
    (ops : List Operation) :
    let l := (fresh target c.clientConfig.reconnect w).run g ops
    1 ≤ base.initialDelayMs ∧
      (∀ d ∈ Turn.delays l.past,
        .ofMillis base.initialDelayMs ≤ d ∧ d ≤ .ofMillis base.maxDelayMs) ∧
      ∀ before stretch after, l.past = before ++ stretch ++ after →
        (∀ t ∈ stretch, t.opens = false) → (Turn.delays stretch).Pairwise (· ≤ ·) := by
  intro l
  obtain ⟨rfl, hvalid⟩ := Program.settings_eq_ok_iff.mp h
  obtain ⟨-, hpositive, hle, -⟩ := ConnectionConfig.validate_eq_ok_iff.mp hvalid
  refine ⟨?_, ?_, (paced_run ops).rising⟩
  · rw [UInt64.le_iff_toNat_le]
    exact UInt64.lt_iff_toNat_lt.mp hpositive
  · intro d hd
    obtain ⟨n, rfl⟩ := exists_delayFor_of_mem_delays ops d hd
    have hdelays : (args.resolve base).clientConfig.reconnect.initialDelay ≤
        (args.resolve base).clientConfig.reconnect.maxDelay := Duration.ofMillis_le_ofMillis hle
    exact ⟨ReconnectPolicy.initialDelay_le_delayFor _ hdelays n,
      ReconnectPolicy.delayFor_le_maxDelay _ n⟩

/-- With the standard settings two refusals in a row are followed by a wait of one second and one of
two. -/
theorem delays_run_standard :
    let c := ConnectionConfig.standard
    let l := (fresh c.clientConfig.target c.clientConfig.reconnect (Script.ofLists [] [] [])).run
      Script.gateway [.start, .receive ⟨1⟩ (.closed none "refused"), .elapse ⟨1⟩,
        .receive ⟨2⟩ (.closed none "refused")]
    Program.settings .none c = .ok c ∧ (∀ t ∈ l.past, t.opens = false) ∧
      Turn.delays l.past = [.ofSeconds 1, .ofSeconds 2] ∧
      (Turn.delays l.past).Pairwise (· ≤ ·) := by
  intro c l
  have hvalid : c.validate = .ok () :=
    ConnectionConfig.validate_eq_ok_iff.mpr ⟨by decide +kernel, by decide, by decide, by decide⟩
  have hc : Program.settings .none c = .ok c := Program.settings_eq_ok_iff.mpr ⟨rfl, hvalid⟩
  have hopens : ∀ t ∈ l.past, t.opens = false := by decide +kernel
  have h := delays_run hc Script.gateway c.clientConfig.target (Script.ofLists [] [] [])
    [.start, .receive ⟨1⟩ (.closed none "refused"), .elapse ⟨1⟩,
      .receive ⟨2⟩ (.closed none "refused")]
  exact ⟨hc, hopens, by decide +kernel, h.2.2 [] l.past [] (by simp [l]) hopens⟩

end Life

end Lifeline
