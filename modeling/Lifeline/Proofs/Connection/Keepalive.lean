import Mathlib.Data.List.Induction
import Lifeline.Proofs.Connection.Traffic
/-! The keepalive of an open connection. Every tick asks the peer for a pong, unless the last one
that was asked for is still missing: then the connection is given up. Only a pong is an answer,
whatever else comes or goes in the meantime, and without an interval nobody asks. -/
namespace Lifeline

open Connection

def Stimulus.isTick : Stimulus → Bool
  | tick => true
  | _ => false

def Stimulus.isPong : Stimulus → Bool
  | frame (.pong _) => true
  | _ => false

/-- What keepalive is about; all else is other traffic. -/
def Stimulus.isBeat (s : Stimulus) : Bool := s.isTick || s.isPong

theorem Stimulus.isBeat_eq_false {s : Stimulus} (htick : s ≠ .tick) (hpong : s.isPong = false) :
    s.isBeat = false := by
  cases s <;> simp_all [isBeat, isTick]

def Emission.isPing : Emission → Bool
  | wrote (.ping _) => true
  | _ => false

/-- The notice of a connection that waited for a pong in vain. -/
def Emission.pongTimeout : Emission :=
  .notice (.error (ClientError.connectionFailed "Pong timeout").message)

namespace Connection

/-- A tick of the past has written a ping, and no pong has come since. -/
def Unanswered (keepalive : Option Duration) (p : Phase) (past : List Stimulus) : Prop :=
  ∃ before since, past = before ++ .tick :: since ∧
    .wrote (.ping []) ∈ (step keepalive none (run keepalive p before).1 .tick).2 ∧
    ∀ s ∈ since, s.isPong = false

/-- Between any tick and the next comes a pong. -/
def AnsweredInTime (ss : List Stimulus) : Prop :=
  ∀ first between later, ss = first ++ .tick :: between ++ .tick :: later →
    ∃ s ∈ between, s.isPong

variable {keepalive : Option Duration} {p : Phase} {past : List Stimulus} {s : Stimulus}

theorem run_concat (keepalive : Option Duration) (p : Phase) (past : List Stimulus)
    (s : Stimulus) : run keepalive p (past ++ [s]) =
      ((step keepalive none (run keepalive p past).1 s).1,
        (run keepalive p past).2 ++ (step keepalive none (run keepalive p past).1 s).2) := by
  simp [run_append, run]

theorem not_unanswered_nil : ¬Unanswered keepalive p [] := by
  rintro ⟨before, since, h, -⟩
  simp at h

theorem unanswered_concat : Unanswered keepalive p (past ++ [s]) ↔
    s = .tick ∧ .wrote (.ping []) ∈ (step keepalive none (run keepalive p past).1 .tick).2 ∨
      s.isPong = false ∧ Unanswered keepalive p past := by
  constructor
  · rintro ⟨before, since, hpast, hping, hsince⟩
    rcases List.eq_nil_or_concat since with rfl | ⟨since, last, rfl⟩
    · obtain ⟨rfl, hs⟩ := List.append_inj' hpast rfl
      exact .inl ⟨List.singleton_inj.mp hs, hping⟩
    · have hsplit : past ++ [s] = (before ++ .tick :: since) ++ [last] := by simpa using hpast
      obtain ⟨rfl, hs⟩ := List.append_inj' hsplit rfl
      obtain rfl := List.singleton_inj.mp hs
      refine .inr ⟨hsince s (by simp), before, since, rfl, hping, fun t ht => ?_⟩
      exact hsince t (by simp [ht])
  · rintro (⟨rfl, hping⟩ | ⟨hs, before, since, rfl, hping, hsince⟩)
    · exact ⟨past, [], rfl, hping, by simp⟩
    · refine ⟨before, since ++ [s], by simp, hping, ?_⟩
      simpa [or_imp, forall_and] using ⟨hsince, hs⟩

/-- A connection that is just open waits for no pong. -/
theorem dialled_of_isStreaming {now : Instant}
    (h : (step keepalive none .dialling (.dialled (.ok now))).1.isStreaming) :
    (step keepalive none .dialling (.dialled (.ok now))).1 = .streaming false := by
  cases keepalive with
  | none => rfl
  | some interval =>
    simp only [step] at h ⊢
    split at h
    · rename_i hfirst
      rw [if_pos hfirst]
    · cases h

/-! ## One stimulus -/

theorem step_tick_awaiting (interval : Duration) :
    step (some interval) none (.streaming true) .tick =
      fail (.connectionFailed "Pong timeout") := rfl

theorem step_tick_idle (interval : Duration) :
    step (some interval) none (.streaming false) .tick =
      (.streaming true, [.wrote (.ping [])]) := rfl

theorem step_tick_none (awaitingPong : Bool) :
    step none none (.streaming awaitingPong) .tick = (.streaming awaitingPong, []) := rfl

theorem step_pong (awaitingPong : Bool) (hs : s.isPong) :
    step keepalive none (.streaming awaitingPong) s = (.streaming false, []) := by
  cases s with
  | frame f =>
    cases f with
    | pong payload => rfl
    | _ => cases hs
  | _ => cases hs

/-- Other traffic ends an open connection or leaves it as it is, and writes no ping. -/
theorem step_of_not_isBeat (keepalive : Option Duration) (awaitingPong : Bool)
    (hs : s.isBeat = false) :
    ((step keepalive none (.streaming awaitingPong) s).1 = .streaming awaitingPong ∨
      (step keepalive none (.streaming awaitingPong) s).1 = .ended) ∧
      (step keepalive none (.streaming awaitingPong) s).2.countP Emission.isPing = 0 := by
  cases s with
  | frame f =>
    cases f with
    | pong payload => cases hs
    | binary bytes =>
      rw [step, receive_binary]
      cases String.fromUTF8? bytes.toByteArray <;> exact ⟨.inl rfl, rfl⟩
    | close status => cases status <;> exact ⟨.inr rfl, rfl⟩
    | _ => exact ⟨.inl rfl, rfl⟩
  | tick => cases hs
  | readFailed | streamEnded | discarded => exact ⟨.inr rfl, rfl⟩
  | dialled | outbound => exact ⟨.inl rfl, rfl⟩

theorem pongTimeout_mem_fail {e : ClientError} : .pongTimeout ∈ (fail e).2 ↔
    e.message = (ClientError.connectionFailed "Pong timeout").message := by
  simp [fail, Emission.pongTimeout, eq_comm]

/-- Only a tick that waits in vain says so; a failure to read may use the same words. -/
theorem of_pongTimeout_mem {awaitingPong : Bool}
    (h : .pongTimeout ∈ (step keepalive none (.streaming awaitingPong) s).2) :
    s = .tick ∧ awaitingPong = true ∨ ∃ reason, s = .readFailed reason := by
  cases s with
  | frame f =>
    cases f with
    | binary bytes =>
      rw [step, receive_binary] at h
      simp [Emission.pongTimeout] at h
    | close status => cases status <;> simp [step, receive, Emission.pongTimeout] at h
    | _ => simp [step, receive, write, Emission.pongTimeout] at h
  | tick =>
    cases keepalive with
    | none => cases h
    | some interval =>
      cases awaitingPong with
      | true => exact .inl ⟨rfl, rfl⟩
      | false => simp [step_tick_idle, Emission.pongTimeout] at h
  | readFailed reason => exact .inr ⟨reason, rfl⟩
  | streamEnded =>
    have hwords := (String.append_right_inj _).mp (pongTimeout_mem_fail.mp h)
    exact absurd hwords (by decide +kernel)
  | _ => simp [step, write, Emission.pongTimeout] at h

/-! ## All that has come since the connection opened -/

theorem run_streaming (keepalive : Option Duration) (awaitingPong : Bool) (ss : List Stimulus) :
    (∃ awaitingPong', (run keepalive (.streaming awaitingPong) ss).1 = .streaming awaitingPong') ∨
      (run keepalive (.streaming awaitingPong) ss).1 = .ended :=
  (heeds_run keepalive awaitingPong ss).notices.imp (Phase.eq_streaming ·.1) (·.1)

/-- What is open now was open before. -/
theorem eq_streaming_of_concat {awaitingPong awaitingPong' : Bool}
    (h : (run keepalive (.streaming awaitingPong) (past ++ [s])).1 = .streaming awaitingPong') :
    ∃ before, (run keepalive (.streaming awaitingPong) past).1 = .streaming before ∧
      (step keepalive none (.streaming before) s).1 = .streaming awaitingPong' := by
  rw [run_concat] at h
  rcases run_streaming keepalive awaitingPong past with ⟨before, hbefore⟩ | hended
  · exact ⟨before, hbefore, hbefore ▸ h⟩
  · rw [hended, step_ended] at h
    cases h

/-- The connection waits for a pong exactly while a ping is unanswered. -/
theorem awaits_iff {awaitingPong : Bool}
    (h : (run keepalive (.streaming false) past).1 = .streaming awaitingPong) :
    awaitingPong = true ↔ Unanswered keepalive (.streaming false) past := by
  induction past using List.reverseRecOn generalizing awaitingPong with
  | nil =>
    cases h
    simp [not_unanswered_nil]
  | append_singleton past s ih =>
    obtain ⟨before, hbefore, hstep⟩ := eq_streaming_of_concat h
    rw [unanswered_concat, ← ih hbefore, hbefore]
    by_cases htick : s = .tick
    · subst htick
      cases keepalive with
      | none =>
        cases hstep
        simp [step_tick_none, Stimulus.isPong]
      | some interval =>
        cases before with
        | true => cases hstep
        | false =>
          cases hstep
          simp [step_tick_idle]
    · by_cases hpong : s.isPong
      · rw [step_pong before hpong] at hstep
        cases hstep
        simp [htick, hpong]
      · have hother := Stimulus.isBeat_eq_false htick (Bool.eq_false_iff.mpr hpong)
        rcases (step_of_not_isBeat keepalive before hother).1 with hsame | hended
        · rw [hsame] at hstep
          cases hstep
          simp [htick, hpong]
        · rw [hended] at hstep
          cases hstep

theorem Unanswered.isSome (h : Unanswered keepalive (.streaming false) past) :
    keepalive.isSome := by
  obtain ⟨before, since, rfl, hping, -⟩ := h
  cases keepalive with
  | some interval => rfl
  | none =>
    rcases run_streaming none false before with ⟨awaitingPong, hopen⟩ | hended
    · rw [hopen, step_tick_none] at hping
      cases hping
    · rw [hended, step_ended] at hping
      cases hping

/-- A tick that finds a ping unanswered gives the connection up. -/
theorem Unanswered.step_tick {awaitingPong : Bool}
    (hun : Unanswered keepalive (.streaming false) past)
    (h : (run keepalive (.streaming false) past).1 = .streaming awaitingPong) :
    step keepalive none (.streaming awaitingPong) .tick =
      fail (.connectionFailed "Pong timeout") := by
  obtain ⟨interval, rfl⟩ := Option.isSome_iff_exists.mp hun.isSome
  rw [(awaits_iff h).mpr hun, step_tick_awaiting]

/-- Any other tick asks for the next pong. -/
theorem step_tick_of_not_unanswered {awaitingPong : Bool} (hkeepalive : keepalive.isSome)
    (hun : ¬Unanswered keepalive (.streaming false) past)
    (h : (run keepalive (.streaming false) past).1 = .streaming awaitingPong) :
    step keepalive none (.streaming awaitingPong) .tick =
      (.streaming true, [.wrote (.ping [])]) := by
  obtain ⟨interval, rfl⟩ := Option.isSome_iff_exists.mp hkeepalive
  rw [← awaits_iff h, Bool.not_eq_true] at hun
  rw [hun, step_tick_idle]

theorem Unanswered.tick_mem (h : Unanswered keepalive p past) : .tick ∈ past := by
  obtain ⟨before, since, rfl, -, -⟩ := h
  simp

/-- If pongs come in time, none is missing at a tick. -/
theorem AnsweredInTime.not_unanswered {later : List Stimulus}
    (h : AnsweredInTime (past ++ .tick :: later)) : ¬Unanswered keepalive p past := by
  rintro ⟨before, since, rfl, -, hsince⟩
  obtain ⟨s, hs, hpong⟩ := h before since later rfl
  rw [hsince s hs] at hpong
  cases hpong

/-- Until the next pong at most one ping is written, and none while one is missing. -/
theorem countP_isPing_le (awaitingPong : Bool) {since : List Stimulus}
    (hsince : ∀ s ∈ since, s.isPong = false) :
    (run keepalive (.streaming awaitingPong) since).2.countP Emission.isPing ≤
      if awaitingPong then 0 else 1 := by
  induction since generalizing awaitingPong with
  | nil => simp [run]
  | cons s rest ih =>
    have hrest : ∀ s ∈ rest, s.isPong = false := fun t ht => hsince t (.tail _ ht)
    simp only [run, List.countP_append]
    by_cases htick : s = .tick
    · subst htick
      cases keepalive with
      | none =>
        rw [step_tick_none]
        simpa using ih awaitingPong hrest
      | some interval =>
        cases awaitingPong with
        | true =>
          rw [step_tick_awaiting]
          simp [fail, run_ended, Emission.isPing]
        | false =>
          have hnone : (run (some interval) (.streaming true) rest).2.countP Emission.isPing = 0 :=
            Nat.le_zero.mp (ih true hrest)
          rw [step_tick_idle, hnone]
          simp [Emission.isPing]
    · have hother := Stimulus.isBeat_eq_false htick (hsince s (.head _))
      obtain ⟨hphase, hnone⟩ := step_of_not_isBeat keepalive awaitingPong hother
      rw [hnone]
      rcases hphase with hsame | hended
      · rw [hsame]
        simpa using ih awaitingPong hrest
      · rw [hended, run_ended]
        simp

/-- An open connection would be no different without the other traffic. -/
theorem run_filter_isBeat {awaitingPong : Bool}
    (h : (run keepalive (.streaming false) past).1 = .streaming awaitingPong) :
    (run keepalive (.streaming false) (past.filter Stimulus.isBeat)).1 =
      .streaming awaitingPong := by
  induction past using List.reverseRecOn generalizing awaitingPong with
  | nil => exact h
  | append_singleton past s ih =>
    obtain ⟨before, hbefore, hstep⟩ := eq_streaming_of_concat h
    rw [List.filter_append]
    by_cases hbeat : s.isBeat
    · rw [List.filter_cons_of_pos hbeat, List.filter_nil, run_concat, ih hbefore]
      exact hstep
    · rw [List.filter_cons_of_neg hbeat, List.filter_nil, List.append_nil, ih hbefore]
      have hother : s.isBeat = false := by simpa using hbeat
      rcases (step_of_not_isBeat keepalive before hother).1 with hsame | hended
      · exact hsame.symm.trans hstep
      · rw [hended] at hstep
        cases hstep

/-- Without an interval ticks are as good as none. -/
theorem run_none_filter_isTick (p : Phase) (ss : List Stimulus) :
    run none p ss = run none p (ss.filter fun s => !s.isTick) := by
  induction ss generalizing p with
  | nil => rfl
  | cons s rest ih =>
    by_cases htick : s = .tick
    · subst htick
      have hstep : step none none p .tick = (p, []) := by cases p <;> rfl
      simp [run, hstep, ih, Stimulus.isTick]
    · have hkept : (!s.isTick) = true := by cases s <;> simp_all [Stimulus.isTick]
      have hrest := ih (step none none p s).1
      rw [List.filter_cons, if_pos hkept]
      simp only [run, hrest]

/-- Only ticks write pings. -/
theorem countP_isPing_eq_zero (awaitingPong : Bool) {ss : List Stimulus}
    (h : ∀ s ∈ ss, s.isTick = false) :
    (run keepalive (.streaming awaitingPong) ss).2.countP Emission.isPing = 0 := by
  induction ss generalizing awaitingPong with
  | nil => rfl
  | cons s rest ih =>
    have hrest : ∀ s ∈ rest, s.isTick = false := fun t ht => h t (.tail _ ht)
    simp only [run, List.countP_append]
    by_cases hpong : s.isPong
    · rw [step_pong awaitingPong hpong, ih false hrest]
      rfl
    · have hother : s.isBeat = false := by
        have htick := h s (.head _)
        simp_all [Stimulus.isBeat]
      obtain ⟨hphase, hnone⟩ := step_of_not_isBeat keepalive awaitingPong hother
      rw [hnone]
      rcases hphase with hsame | hended
      · rw [hsame, ih awaitingPong hrest]
      · rw [hended, run_ended]
        rfl

/-- A connection says that it waited in vain if and only if a tick found its ping unanswered. -/
theorem pongTimeout_mem_run_iff {ss : List Stimulus} (h : ∀ reason, .readFailed reason ∉ ss) :
    .pongTimeout ∈ (run keepalive (.streaming false) ss).2 ↔
      ∃ past later, ss = past ++ .tick :: later ∧
        (run keepalive (.streaming false) past).1.isStreaming ∧
        Unanswered keepalive (.streaming false) past := by
  constructor
  · intro hmem
    induction ss using List.reverseRecOn with
    | nil => cases hmem
    | append_singleton ss s ih =>
      rw [run_concat, List.mem_append] at hmem
      rcases hmem with hearlier | hnow
      · obtain ⟨past, later, rfl, hopen, hun⟩ :=
          ih (fun reason hr => h reason (List.mem_append_left _ hr)) hearlier
        exact ⟨past, later ++ [s], by simp, hopen, hun⟩
      · rcases run_streaming keepalive false ss with ⟨awaitingPong, hopen⟩ | hended
        · rw [hopen] at hnow
          rcases of_pongTimeout_mem hnow with ⟨rfl, rfl⟩ | ⟨reason, rfl⟩
          · exact ⟨ss, [], rfl, by rw [hopen]; rfl, (awaits_iff hopen).mp rfl⟩
          · exact absurd (by simp) (h reason)
        · rw [hended, step_ended] at hnow
          cases hnow
  · rintro ⟨past, later, rfl, hopen, hun⟩
    obtain ⟨awaitingPong, hp⟩ := Phase.eq_streaming hopen
    have hmem : .pongTimeout ∈ (step keepalive none (.streaming awaitingPong) .tick).2 := by
      rw [hun.step_tick hp, pongTimeout_mem_fail]
    simp [run_append, run, hp, hmem]

/-- On a connection that is just open, whatever has come since: a tick gives it up for a missing
pong if and only if an earlier tick wrote a ping and no pong has come since then, and any other tick
writes one ping and nothing else. So the first tick succeeds, and so does each tick of a peer that
answers in time, and other traffic makes no difference. No pong is missed but at such a tick, and
until the next pong at most one ping is written. Without an interval a tick is as good as none,
nobody asks for a pong and nobody misses one. -/
theorem keepalive_run (keepalive : Option Duration) (now : Instant)
    (hopened : (step keepalive none .dialling (.dialled (.ok now))).1.isStreaming) :
    let opened := (step keepalive none .dialling (.dialled (.ok now))).1
    let timeout := fail (.connectionFailed "Pong timeout")
    let ping := (Phase.streaming true, [Emission.wrote (.ping [])])
    (keepalive.isSome → ∀ past, (run keepalive opened past).1.isStreaming →
      let next := step keepalive none (run keepalive opened past).1 .tick
      (next = timeout ↔ Unanswered keepalive opened past) ∧
        (next ≠ timeout → next = ping) ∧
        (.tick ∉ past → next = ping) ∧
        (∀ later, AnsweredInTime (past ++ .tick :: later) → next = ping) ∧
        step keepalive none (run keepalive opened (past.filter Stimulus.isBeat)).1 .tick = next) ∧
      (∀ ss, (∀ reason, .readFailed reason ∉ ss) →
        (.pongTimeout ∈ (run keepalive opened ss).2 ↔
          ∃ past later, ss = past ++ .tick :: later ∧
            (run keepalive opened past).1.isStreaming ∧ Unanswered keepalive opened past)) ∧
      (∀ past since, (∀ s ∈ since, s.isPong = false) →
        (run keepalive (run keepalive opened past).1 since).2.countP Emission.isPing ≤ 1) ∧
      (keepalive = none → ∀ ss,
        run keepalive opened ss = run keepalive opened (ss.filter fun s => !s.isTick) ∧
          (run keepalive opened ss).2.countP Emission.isPing = 0 ∧
          ((∀ reason, .readFailed reason ∉ ss) → .pongTimeout ∉ (run keepalive opened ss).2)) := by
  rw [dialled_of_isStreaming hopened]
  intro opened timeout ping
  refine ⟨?_, fun ss hread => pongTimeout_mem_run_iff hread, ?_, ?_⟩
  · intro hsome past hopen next
    obtain ⟨awaitingPong, hp⟩ := Phase.eq_streaming hopen
    have hne : timeout ≠ ping := by simp [timeout, ping, fail]
    have hnext : next = step keepalive none (.streaming awaitingPong) .tick := by rw [← hp]
    have htimeout : Unanswered keepalive opened past → next = timeout := fun hun =>
      hnext.trans (hun.step_tick hp)
    have hping : ¬Unanswered keepalive opened past → next = ping := fun hun =>
      hnext.trans (step_tick_of_not_unanswered hsome hun hp)
    refine ⟨⟨fun h => ?_, htimeout⟩, fun h => hping (mt htimeout h),
      fun h => hping (mt Unanswered.tick_mem h), fun later h => hping h.not_unanswered, ?_⟩
    · by_contra hun
      exact hne (h.symm.trans (hping hun))
    · rw [run_filter_isBeat hp, hnext]
  · intro past since hsince
    rcases run_streaming keepalive false past with ⟨awaitingPong, hp⟩ | hended
    · rw [hp]
      refine Nat.le_trans (countP_isPing_le awaitingPong hsince) ?_
      cases awaitingPong <;> simp
    · rw [hended, run_ended]
      simp
  · rintro rfl ss
    refine ⟨run_none_filter_isTick _ ss, ?_, fun hread hmem => ?_⟩
    · rw [run_none_filter_isTick]
      exact countP_isPing_eq_zero false (by simp)
    · obtain ⟨past, later, -, -, hun⟩ := (pongTimeout_mem_run_iff hread).mp hmem
      cases hun.isSome

/-- The first ping is answered in time. After the second one a text and a ping come from the peer and
a message goes out, but no pong comes, and the third tick gives the connection up. -/
theorem keepalive_run_missed :
    let interval : Duration := .ofSeconds 20
    let opened := (step (some interval) none .dialling (.dialled (.ok 5))).1
    let past : List Stimulus := [.tick, .frame (.pong []), .tick, .frame (.text "a"),
      .outbound "b", .frame (.ping [7])]
    opened.isStreaming ∧ (run (some interval) opened past).1.isStreaming ∧
      Unanswered (some interval) opened past ∧
      .pongTimeout ∈ (run (some interval) opened (past ++ [.tick])).2 := by
  intro interval opened past
  have hopened : opened.isStreaming := by decide +kernel
  have hopen : (run (some interval) opened past).1.isStreaming := by decide +kernel
  obtain ⟨htick, hrun, -⟩ := keepalive_run (some interval) 5 hopened
  have hun : Unanswered (some interval) opened past :=
    (htick rfl past hopen).1.mp (by decide +kernel)
  exact ⟨hopened, hopen, hun, (hrun _ (by simp [past])).mpr ⟨past, [], rfl, hopen, hun⟩⟩

end Connection

end Lifeline
