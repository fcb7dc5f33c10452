import Mathlib.Data.Set.List
import Lifeline.Proofs.Manager.Delays
/-! What the log says about the delays. A log line has 64 bits for a delay in milliseconds, less
than a span of time can need. The delays of settings that are given in 64-bit milliseconds always
fit: to double a whole number of milliseconds up to a cap leads to nothing else. -/
namespace Lifeline

/-- A span of whole milliseconds whose number 64 bits hold. -/
def Duration.IsMillis (d : Duration) : Prop := ∃ ms : UInt64, d = .ofMillis ms

theorem Duration.isMillis_ofMillis (ms : UInt64) : (ofMillis ms).IsMillis := ⟨ms, rfl⟩

/-- A multiple of whole milliseconds is one of them again, if it does not exceed such a span. -/
theorem Duration.isMillis_of_nanos_eq {d : Duration} {ms cap : UInt64} {k : Nat}
    (h : d.nanos = (ofMillis ms).nanos * k) (hcap : d ≤ ofMillis cap) : d.IsMillis := by
  have hproduct : d.nanos = ms.toNat * k * 1000000 := by rw [h, ofMillis, Nat.mul_right_comm]
  have hle : ms.toNat * k ≤ cap.toNat := by
    rw [Duration.le_def, hproduct, ofMillis] at hcap
    exact Nat.le_of_mul_le_mul_right hcap (by decide)
  have hfits : ms.toNat * k < UInt64.size := Nat.lt_of_le_of_lt hle cap.toNat_lt_size
  have hword : (UInt64.ofNat (ms.toNat * k)).toNat = ms.toNat * k :=
    UInt64.toNat_ofNat_of_lt' hfits
  exact ⟨.ofNat (ms.toNat * k),
    Duration.ext (hproduct.trans (congrArg (· * 1000000) hword.symm))⟩

theorem ReconnectPolicy.isMillis_delayFor {p : ReconnectPolicy} (hinitial : p.initialDelay.IsMillis)
    (hmax : p.maxDelay.IsMillis) (n : UInt32) : (p.delayFor n).IsMillis := by
  by_cases hn : n.toNat < 32
  · obtain ⟨ms, hms⟩ := hinitial
    obtain ⟨cap, hcap⟩ := hmax
    have hnanos := p.nanos_delayFor_of_lt hn
    rcases Nat.le_total (p.initialDelay.nanos * Nat.pow 2 n.toNat) p.maxDelay.nanos with hle | hle
    · rw [Nat.min_eq_left hle, hms] at hnanos
      exact Duration.isMillis_of_nanos_eq hnanos (hcap ▸ p.delayFor_le_maxDelay n)
    · rw [Nat.min_eq_right hle] at hnanos
      exact ⟨cap, (Duration.ext hnanos).trans hcap⟩
  · rw [p.delayFor_of_le (Nat.not_lt.mp hn)]
    exact hmax

theorem ConnectionConfig.isMillis_delayFor (c : ConnectionConfig) (n : UInt32) :
    (c.clientConfig.reconnect.delayFor n).IsMillis :=
  ReconnectPolicy.isMillis_delayFor (Duration.isMillis_ofMillis _) (Duration.isMillis_ofMillis _) n

theorem Diagnostic.loggedMillis_ofMillis (ms : UInt64) :
    loggedMillis (.ofMillis ms) = ms.toNat := by
  rw [loggedMillis, Duration.wholeMillis_ofMillis, Nat.mod_eq_of_lt ms.toNat_lt_size]

/-- What a log line says in its field for a delay. -/
def Effect.loggedDelay? (e : Effect) : Option String := e.log?.bind (·.fields.lookup "delay_ms")

variable {σ : Type} {g : Gateway σ}

def Step.loggedDelays (s : Step σ) : List String := s.effects.filterMap Effect.loggedDelay?

/-- What is logged when timers with these delays are set. -/
def Diagnostic.delayTexts (ds : List Duration) : List String :=
  ds.map fun d => (loggedMillis d).repr

namespace Manager

variable {m : Manager} {w : σ} {op : Operation} {s : Step σ}

theorem loggedDelays_start : (start g m w).loggedDelays =
    Diagnostic.delayTexts ((start g m w).calls.filterMap Call.delay?) := by
  unfold start
  split
  · rfl
  · split <;> rfl

theorem Quiet.loggedDelays (h : Quiet g m w op s) (hop : op ≠ .start) :
    s.loggedDelays = Diagnostic.delayTexts (s.calls.filterMap Call.delay?) := by
  cases h with
  | startAgain => exact absurd rfl hop
  | _ => rfl

/-- Whoever sets a timer logs its delay, and nobody else logs one. -/
theorem Move.loggedDelays (h : Move g m w op s) (hop : op ≠ .start) :
    s.loggedDelays = Diagnostic.delayTexts (s.calls.filterMap Call.delay?) := by
  cases h with
  | quiet h => exact h.loggedDelays hop
  | start => exact absurd rfl hop
  | shutdown hd =>
    rw [calls_shutdown hd, Step.loggedDelays, Manager.shutdown, hd]
    cases m.pending <;> cases m.active <;> rfl
  | _ => rfl

theorem Sound.loggedDelays_perform (hm : m.Sound) (op : Operation) :
    (Manager.perform g m w op).loggedDelays =
      Diagnostic.delayTexts ((Manager.perform g m w op).calls.filterMap Call.delay?) := by
  by_cases hop : op = .start
  · rw [hop]
    exact loggedDelays_start
  · exact (hm.move op).loggedDelays hop

end Manager

/-- What some turns log about delays, in order. -/
def Turn.loggedDelays (ts : List (Turn σ)) : List String := ts.flatMap (·.step.loggedDelays)

namespace Life

variable {target : Target} {policy : ReconnectPolicy} {w : σ}

theorem loggedDelays_run (ops : List Operation) :
    Turn.loggedDelays ((fresh target policy w).run g ops).past =
      Diagnostic.delayTexts (Turn.delays ((fresh target policy w).run g ops).past) := by
  refine (run_of_next (motive := fun l => l.manager.Sound ∧
    Turn.loggedDelays l.past = Diagnostic.delayTexts (Turn.delays l.past)) ?_ ?_ ops).2
  · exact ⟨.fresh target policy, rfl⟩
  · rintro l op ⟨hl, h⟩
    refine ⟨hl.perform op, ?_⟩
    have hturn := hl.loggedDelays_perform (g := g) (w := l.world) op
    simp only [next, past_extend, Turn.delays_append, Turn.delays_singleton]
    rw [Turn.loggedDelays, List.flatMap_append, List.flatMap_singleton, hturn]
    rw [Turn.loggedDelays] at h
    rw [h, Diagnostic.delayTexts, Diagnostic.delayTexts, Diagnostic.delayTexts, List.map_append]

/-- Whatever the settings, refused ones among them, every delay of their policy is a number of whole
milliseconds that fits into a log line. So in every run the log has one line for each timer that is
set, and each shows the delay of its timer exactly. -/
theorem logged_run (c : ConnectionConfig) (g : Gateway σ) (target : Target) (w : σ)
    (ops : List Operation) :
    let p := c.clientConfig.reconnect
    let l := (fresh target p w).run g ops
    (∀ n, ∃ ms : UInt64, p.delayFor n = .ofMillis ms ∧
      Diagnostic.loggedMillis (p.delayFor n) = ms.toNat) ∧
      ∃ ms : List UInt64, Turn.delays l.past = ms.map .ofMillis ∧
        Turn.loggedDelays l.past = ms.map fun n => n.toNat.repr := by
  intro p l
  constructor
  · intro n
    obtain ⟨ms, hms⟩ := c.isMillis_delayFor n
    exact ⟨ms, hms, by rw [hms, Diagnostic.loggedMillis_ofMillis]⟩
  · have hall : ∀ d ∈ Turn.delays l.past, d.IsMillis := by
      intro d hd
      obtain ⟨n, rfl⟩ := exists_delayFor_of_mem_delays ops d hd
      exact c.isMillis_delayFor n
    obtain ⟨ms, hms⟩ : Turn.delays l.past ∈ Set.range (List.map Duration.ofMillis) := by
      rw [Set.range_list_map]
      exact fun d hd => (hall d hd).imp fun _ => Eq.symm
    refine ⟨ms, hms.symm, ?_⟩
    rw [loggedDelays_run, ← hms, Diagnostic.delayTexts, List.map_map]
    exact List.map_congr_left fun n _ => by
      rw [Function.comp_apply, Diagnostic.loggedMillis_ofMillis]

end Life

end Lifeline
