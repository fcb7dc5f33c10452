import Lifeline.Config.Decode
import Lifeline.Proofs.Connection.Traffic
/-! How a connection ends once it is open. Writes may fail, and still it tells of its end: with one
close, after which it says nothing more. This needs the keepalive timer, which is set just after the
connection has told that it is open. If the first ping would be due at an instant that the clock
cannot hold, the connection is gone without a word. -/
namespace Lifeline

open Connection

def Emission.isClose : Emission → Bool
  | notice n => n.isClose
  | _ => false

namespace Connection

/-- All that a connection does in answer to stimuli, each with the failure of the write that it may
lead to. -/
def runWith (keepalive : Option Duration) (p : Phase) :
    List (Stimulus × Option String) → Phase × List Emission
  | [] => (p, [])
  | (s, failure) :: rest =>
    let (p, now) := step keepalive failure p s
    let (p, later) := runWith keepalive p rest
    (p, now ++ later)

theorem runWith_map_none (keepalive : Option Duration) (p : Phase) (ss : List Stimulus) :
    runWith keepalive p (ss.map fun s => (s, none)) = run keepalive p ss := by
  induction ss generalizing p with
  | nil => rfl
  | cons s rest ih => simp only [List.map_cons, runWith, run, ih]

/-- The connection is open and has told of no close, or it is at its end and a close was the last
thing that it told. -/
inductive Closing : Phase × List Emission → Prop
  | still {awaitingPong : Bool} {es : List Emission} (h : ∀ e ∈ es, e.isClose = false) :
      Closing (.streaming awaitingPong, es)
  | done {es : List Emission} (h : ∀ e ∈ es, e.isClose = false) (code : Option UInt16)
      (reason : String) : Closing (.ended, es ++ [.notice (.closed code reason)])

variable {keepalive : Option Duration} {failure : Option String}

theorem closing_fail (e : ClientError) : Closing (fail e) := by
  have hbefore : ∀ x ∈ [Emission.metric (.count .transportErrors), .notice (.error e.message)],
      x.isClose = false := by
    simp [Emission.isClose, Notice.isClose]
  exact .done hbefore none e.message

theorem closing_closed (code : Option UInt16) (reason : String) :
    Closing (.ended, [.notice (.closed code reason)]) :=
  .done (List.forall_mem_nil _) code reason

theorem closing_write (failure : Option String) {f : Frame} {awaitingPong : Bool} :
    Closing (write failure f (.streaming awaitingPong)) := by
  cases failure with
  | none => exact .still (by simp [Emission.isClose])
  | some reason => exact closing_fail _

theorem closing_receive (awaitingPong : Bool) (failure : Option String) (f : Frame) :
    Closing (receive awaitingPong failure f) := by
  cases f with
  | text s => exact .still (by simp [Emission.isClose, Notice.isClose])
  | binary bytes =>
    rw [receive_binary]
    exact .still (by simp [Emission.isClose, Notice.isClose])
  | ping payload => exact closing_write failure
  | pong payload | raw => exact .still (by simp)
  | close status => cases status <;> exact closing_closed _ _

/-- Whatever comes, an open connection stays open or tells of its close. -/
theorem closing_step (keepalive : Option Duration) (failure : Option String)
    (awaitingPong : Bool) (s : Stimulus) :
    Closing (step keepalive failure (.streaming awaitingPong) s) := by
  cases s with
  | dialled outcome => exact .still (by simp)
  | frame f => exact closing_receive awaitingPong failure f
  | readFailed | streamEnded => exact closing_fail _
  | outbound text => exact closing_write failure
  | discarded => cases failure <;> exact .done (by simp [Emission.isClose]) none ""
  | tick =>
    cases keepalive with
    | none => exact .still (by simp)
    | some interval =>
      cases awaitingPong with
      | true => exact closing_fail _
      | false => exact closing_write failure

theorem step_broken (s : Stimulus) : step keepalive failure .broken s = (.broken, []) := by
  cases s <;> rfl

/-- What has ended or is gone says nothing more. -/
theorem runWith_of_step {p : Phase} (h : ∀ failure s, step keepalive failure p s = (p, []))
    (ss : List (Stimulus × Option String)) : runWith keepalive p ss = (p, []) := by
  induction ss with
  | nil => rfl
  | cons s rest ih =>
    obtain ⟨s, failure⟩ := s
    simp [runWith, h, ih]

theorem Closing.append {es : List Emission} {out : Phase × List Emission}
    (hes : ∀ e ∈ es, e.isClose = false) (h : Closing out) : Closing (out.1, es ++ out.2) := by
  cases h with
  | still hmore => exact .still (by simpa [or_imp, forall_and] using ⟨hes, hmore⟩)
  | done hmore code reason =>
    rw [← List.append_assoc]
    exact .done (by simpa [or_imp, forall_and] using ⟨hes, hmore⟩) code reason

theorem closing_runWith (keepalive : Option Duration) (awaitingPong : Bool)
    (ss : List (Stimulus × Option String)) :
    Closing (runWith keepalive (.streaming awaitingPong) ss) := by
  induction ss generalizing awaitingPong with
  | nil => exact .still (by simp)
  | cons s rest ih =>
    obtain ⟨s, failure⟩ := s
    have hstep := closing_step keepalive failure awaitingPong s
    rw [runWith]
    generalize step keepalive failure (.streaming awaitingPong) s = out at hstep ⊢
    cases hstep with
    | still hes => exact Closing.append hes (ih _)
    | done hes code reason =>
      have hended : runWith keepalive .ended rest = (.ended, []) :=
        runWith_of_step (step_ended keepalive) rest
      simp only [hended, List.append_nil]
      exact .done hes code reason

/-! ## Setting the keepalive timer -/

theorem isSome_firstPing?_iff {now : Instant} {interval : Duration} :
    (firstPing? now interval).isSome ↔
      0 < interval.nanos ∧ now + interval.nanos ≤ Instant.limit := by
  unfold firstPing?
  split
  · simp_all
  · split <;> simp_all [Nat.pos_iff_ne_zero]

end Connection

/-- The clock can hold the instant of the first ping, if there are to be pings. -/
def ConnectionConfig.FirstPingFits (c : ConnectionConfig) (now : Instant) : Prop :=
  ∀ secs, c.pingIntervalSecs = some secs →
    now + secs.toNat * 1000000000 ≤ Instant.limit

namespace Connection

variable {c : ConnectionConfig} {now : Instant}

theorem step_dialled_of_fits (failure : Option String) (hvalid : c.validate = .ok ())
    (hfits : c.FirstPingFits now) :
    step c.clientConfig.pingInterval failure .dialling (.dialled (.ok now)) =
      (.streaming false, [.notice .opened]) := by
  cases hping : c.pingIntervalSecs with
  | none => simp [ConnectionConfig.clientConfig, hping, step]
  | some secs =>
    have hpositive : 0 < (Duration.ofSeconds secs).nanos := by
      have hne := (ConnectionConfig.validate_eq_ok_iff.mp hvalid).2.2.2
      rw [hping] at hne
      have hsecs : secs.toNat ≠ (0 : UInt64).toNat := fun h =>
        hne (congrArg some (UInt64.toNat_inj.mp h))
      simp only [Duration.ofSeconds, UInt64.toNat_zero] at hsecs ⊢
      omega
    have hfirst := isSome_firstPing?_iff.mpr ⟨hpositive, hfits secs hping⟩
    simp [ConnectionConfig.clientConfig, hping, step, hfirst]

theorem step_dialled_of_not_fits (failure : Option String) (hfits : ¬c.FirstPingFits now) :
    step c.clientConfig.pingInterval failure .dialling (.dialled (.ok now)) =
      (.broken, [.notice .opened]) := by
  cases hping : c.pingIntervalSecs with
  | none =>
    refine absurd (fun secs h => ?_) hfits
    rw [hping] at h
    cases h
  | some secs =>
    have hfirst : ¬(firstPing? now (Duration.ofSeconds secs)).isSome := by
      rw [isSome_firstPing?_iff]
      rintro ⟨-, hle⟩
      refine hfits fun secs' h => ?_
      obtain rfl : secs = secs' := Option.some.inj (hping.symm.trans h)
      exact hle
    simp [ConnectionConfig.clientConfig, hping, step, hfirst]

/-- A connection whose keepalive timer cannot be set tells that it is open, and nothing else. -/
theorem runWith_dialled_of_not_fits (failure : Option String) (hfits : ¬c.FirstPingFits now)
    (ss : List (Stimulus × Option String)) :
    runWith c.clientConfig.pingInterval .dialling ((.dialled (.ok now), failure) :: ss) =
      (.broken, [.notice .opened]) := by
  have hgone : runWith c.clientConfig.pingInterval .broken ss = (.broken, []) :=
    runWith_of_step (fun _ => step_broken) ss
  simp only [runWith, step_dialled_of_not_fits failure hfits, hgone, List.append_nil]

/-- With settings that are not refused, a connection that is just open tells so. If the clock can
hold the instant of its first ping, it then stays open until it tells of one close, whatever comes
and whichever writes fail. If not, it is gone: nothing that comes later makes it say another word,
so there is never a close. -/
theorem closing_run (c : ConnectionConfig) (hvalid : c.validate = .ok ()) (now : Instant)
    (failure : Option String) :
    let out := fun ss =>
      runWith c.clientConfig.pingInterval .dialling ((.dialled (.ok now), failure) :: ss)
    (out []).2 = [.notice .opened] ∧
      ((out []).1.isStreaming ↔ c.FirstPingFits now) ∧
      ((∀ ss, Closing (out ss)) ↔ c.FirstPingFits now) ∧
      (¬c.FirstPingFits now → ∀ ss, out ss = (.broken, [.notice .opened])) := by
  intro out
  by_cases hfits : c.FirstPingFits now
  · have hout : ∀ ss, out ss =
        ((runWith c.clientConfig.pingInterval (.streaming false) ss).1,
          [.notice .opened] ++ (runWith c.clientConfig.pingInterval (.streaming false) ss).2) := by
      intro ss
      simp only [out, runWith, step_dialled_of_fits failure hvalid hfits]
    refine ⟨by rw [hout]; rfl, by rw [hout]; exact iff_of_true rfl hfits,
      iff_of_true (fun ss => ?_) hfits, fun h => absurd hfits h⟩
    rw [hout]
    exact (closing_runWith _ false ss).append (by simp [Emission.isClose, Notice.isClose])
  · have hout : ∀ ss, out ss = (.broken, [.notice .opened]) :=
      runWith_dialled_of_not_fits failure hfits
    refine ⟨by rw [hout], iff_of_false ?_ hfits, iff_of_false (fun h => ?_) hfits, fun _ => hout⟩
    · rw [hout]
      simp [Phase.isStreaming]
    · have hclosing := h []
      rw [hout] at hclosing
      cases hclosing

/-- A first ping after twenty seconds is sent and not answered, and the close is told. -/
theorem closing_run_unanswered :
    let c := { ConnectionConfig.standard with pingIntervalSecs := some 20 }
    c.validate = .ok () ∧ c.FirstPingFits 5 ∧
      Closing (runWith c.clientConfig.pingInterval .dialling
        [(.dialled (.ok 5), none), (.tick, none), (.tick, none)]) := by
  intro c
  have hvalid : c.validate = .ok () :=
    ConnectionConfig.validate_eq_ok_iff.mpr ⟨by decide +kernel, by decide, by decide, by decide⟩
  have hfits : c.FirstPingFits 5 := by
    intro secs h
    cases h
    decide
  exact ⟨hvalid, hfits, (closing_run c hvalid 5 none).2.2.1.mpr hfits _⟩

/-- A file asks for the longest interval that it can, and is not refused. One second after the
clock has started, the connection tells that it is open and never tells anything else. -/
theorem closing_run_longest_interval :
    let file := "[connection]\nping_interval_secs = 9223372036854775807\n"
    let c := { ConnectionConfig.standard with pingIntervalSecs := some 9223372036854775807 }
    (Config.load (.ok file.toUTF8.toList)).toOption = some ⟨c, .standard⟩ ∧
      c.validate = .ok () ∧ ¬c.FirstPingFits 1000000000 ∧
      ∀ ss, runWith c.clientConfig.pingInterval .dialling
        ((.dialled (.ok 1000000000), none) :: ss) = (.broken, [.notice .opened]) := by
  intro file c
  have hload : (Config.load (.ok file.toUTF8.toList)).toOption = some ⟨c, .standard⟩ := by
    decide +kernel
  have hvalid : c.validate = .ok () :=
    ConnectionConfig.validate_eq_ok_iff.mpr ⟨by decide +kernel, by decide, by decide, by decide⟩
  have hfits : ¬c.FirstPingFits 1000000000 := fun h => absurd (h _ rfl) (by decide)
  exact ⟨hload, hvalid, hfits, runWith_dialled_of_not_fits none hfits⟩

end Connection

end Lifeline
