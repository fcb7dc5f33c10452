import Lifeline.Proofs.Manager.Wakeful
/-! No connection and no timer is leaked, doubled or dropped twice. Each operation keeps a small
account of its own: what it takes over, and what it opens, is what it lets go, drops, or hands on.
Added up over a run these accounts give the number of calls of each kind. -/
namespace Lifeline

variable {σ : Type} {g : Gateway σ}

namespace Call

def dialed? : Call → Option ConnectionId
  | dial _ id => some id
  | _ => none

def scheduled? : Call → Option TimerId
  | schedule _ id => some id
  | _ => none

attribute [simp] dialed? scheduled?

/-- What was handed out last. -/
def latest {α : Type} (f : Call → Option α) (cs : List Call) : Option α := (cs.filterMap f).getLast?

theorem latest_append {α : Type} (f : Call → Option α) (cs ds : List Call) :
    latest f (cs ++ ds) = (latest f ds).or (latest f cs) := by
  simp [latest, List.getLast?_append]

theorem latest_append_eq_some {α : Type} {f : Call → Option α} {cs ds : List Call}
    {before : Option α} {a : α} (hnow : (latest f ds).or before = some a)
    (hbefore : before = some a → latest f cs = some a) : latest f (cs ++ ds) = some a := by
  rw [latest_append]
  cases hlatest : latest f ds with
  | some b => rwa [hlatest] at hnow
  | none =>
    rw [hlatest, Option.none_or] at hnow
    exact hbefore hnow

end Call

namespace Manager

variable {m : Manager} {w : σ} {op : Operation} {s : Step σ}

/-- A connection is taken over or dialled, and is lost, hung up or kept. -/
theorem Move.dial_balance (h : Move g m w op s) (hm : m.Sound) :
    m.active.isSome.toNat + Call.tally .dial s.calls =
      (Turn.closes ⟨m, op, s⟩).toNat + Call.tally .hangUp s.calls +
        s.manager.active.isSome.toNat := by
  cases h with
  | quiet h => simp [h.tally_calls, h.closes_eq_false, h.manager_eq]
  | start hi ha hp => simp [Turn.closes, ha]
  | fire id hd hp =>
    have ha : m.active = none := hm.exclusive.resolve_right (by simp [hp])
    simp [Turn.closes, ha]
  | opened id ha => simp [Turn.closes, List.filterMap_cons]
  | retry id code reason timer w' ha | giveUp id code reason ha =>
    simp [Turn.closes, List.filterMap_cons, ha]
  | shutdown hd => simp [Turn.closes, tally_calls_shutdown hd, manager_shutdown hd]

/-- A timer is taken over or set, and runs out, is taken back or kept. -/
theorem Move.schedule_balance (h : Move g m w op s) (hm : m.Sound) :
    m.pending.isSome.toNat + Call.tally .schedule s.calls =
      (Turn.fires ⟨m, op, s⟩).toNat + Call.tally .cancel s.calls +
        s.manager.pending.isSome.toNat := by
  cases h with
  | quiet h => simp [h.tally_calls, h.fires_eq_false, h.manager_eq]
  | start hi ha hp => simp [Turn.fires]
  | fire id hd hp => simp [Turn.fires, hd, hp]
  | opened id ha => simp [Turn.fires, List.filterMap_cons]
  | retry id code reason timer w' ha =>
    simp [Turn.fires, List.filterMap_cons, hm.pending_of_active ha]
  | giveUp id code reason ha => simp [Turn.fires, List.filterMap_cons]
  | shutdown hd => simp [Turn.fires, tally_calls_shutdown hd, manager_shutdown hd]

/-- A timer that runs out dials, and apart from that only a start does. -/
theorem Move.tally_dial (h : Move g m w op s) :
    Call.tally .dial s.calls =
      (Turn.fires ⟨m, op, s⟩).toNat + if op.isStart then Call.tally .dial s.calls else 0 := by
  cases h with
  | quiet h => simp [h.tally_calls, h.fires_eq_false]
  | start hi ha hp => simp [Turn.fires, Operation.isStart]
  | fire id hd hp => simp [Turn.fires, Operation.isStart, hd, hp]
  | opened | retry | giveUp => simp [Turn.fires, Operation.isStart, List.filterMap_cons]
  | shutdown hd => simp [Turn.fires, Operation.isStart, tally_calls_shutdown hd]

/-- Only an idle manager is set going by a start, and it is idle never again. -/
theorem Move.start_le (h : Move g m w op s) :
    (if op.isStart then Call.tally .dial s.calls else 0) + s.manager.isIdle.toNat ≤
      m.isIdle.toNat := by
  cases hs : s.manager.isIdle with
  | true =>
    obtain ⟨hm, hop⟩ := h.isIdle_before hs
    simp [hop, hm]
  | false =>
    cases h with
    | quiet h => simp [h.tally_calls]
    | start hi ha hp => simp [Operation.isStart, isIdle, hi, ha, hp]
    | _ => simp [Operation.isStart]

/-- Only the first shutdown hangs up or takes back, and it has one thing at most to let go. -/
theorem Move.retire_le (h : Move g m w op s) (hm : m.Sound) :
    Call.tally .hangUp s.calls + Call.tally .cancel s.calls + (!s.manager.shutDown).toNat ≤
      (!m.shutDown).toNat := by
  cases h with
  | quiet h => simp [h.tally_calls, h.manager_eq]
  | start | fire => simp
  | opened | retry | giveUp => simp [List.filterMap_cons]
  | shutdown hd =>
    rcases hm.exclusive with ha | hp
    · cases hp : m.pending <;> simp [tally_calls_shutdown hd, manager_shutdown hd, hd, ha, hp]
    · cases ha : m.active <;> simp [tally_calls_shutdown hd, manager_shutdown hd, hd, ha, hp]

theorem Move.of_mem_retire (h : Move g m w op s) {c : Call} (hc : c ∈ s.calls)
    (hkind : c.kind = .hangUp ∨ c.kind = .cancel) :
    op = .shutdown ∧ c ∈ m.pending.toList.map .cancel ++ m.active.toList.map .hangUp := by
  cases h with
  | quiet h =>
    have hne : c.kind ≠ .transmit := by rcases hkind with hk | hk <;> rw [hk] <;> decide
    exact absurd hc (h.not_mem_calls hne)
  | shutdown hd => exact ⟨rfl, calls_shutdown hd ▸ hc⟩
  | start | fire | retry =>
    obtain rfl := by simpa [List.filterMap_cons] using hc
    simp at hkind
  | _ => simp at hc

theorem Move.url_of_mem_dial (h : Move g m w op s) {url : String} {id : ConnectionId}
    (hid : .dial url id ∈ s.calls) : url = m.target.url := by
  cases h with
  | quiet h => exact absurd hid (h.not_mem_calls (by simp))
  | start | fire =>
    obtain ⟨hurl, -⟩ := by simpa using hid
    exact hurl
  | shutdown hd =>
    rw [calls_shutdown hd] at hid
    simp at hid
  | _ => simp at hid

theorem Quiet.latest_calls {α : Type} {f : Call → Option α} (h : Quiet g m w op s)
    (hf : ∀ id text, f (.transmit id text) = none) : Call.latest f s.calls = none := by
  cases h with
  | sent _ text id | unsent _ text id =>
    change ([Call.transmit id text].filterMap f).getLast? = none
    rw [List.filterMap_cons, hf id text]
    rfl
  | _ => rfl

theorem Move.active_eq (h : Move g m w op s) {id : ConnectionId}
    (hid : s.manager.active = some id) :
    (Call.latest Call.dialed? s.calls).or m.active = some id := by
  cases h with
  | quiet h =>
    rw [h.latest_calls (fun _ _ => rfl), Option.none_or, ← h.manager_eq]
    exact hid
  | shutdown hd =>
    rw [manager_shutdown hd] at hid
    cases hid
  | retry | giveUp => cases hid
  | _ => exact hid

theorem Move.pending_eq (h : Move g m w op s) {id : TimerId}
    (hid : s.manager.pending = some id) :
    (Call.latest Call.scheduled? s.calls).or m.pending = some id := by
  cases h with
  | quiet h =>
    rw [h.latest_calls (fun _ _ => rfl), Option.none_or, ← h.manager_eq]
    exact hid
  | shutdown hd =>
    rw [manager_shutdown hd] at hid
    cases hid
  | fire => cases hid
  | _ => exact hid

theorem Move.carries (h : Move g m w op s) : Carries g w s.calls s.world := by
  cases h with
  | quiet h =>
    cases h with
    | sent _ _ _ _ _ _ _ ht | unsent _ _ _ _ _ _ _ _ ht => exact ⟨trivial, congrArg Prod.snd ht⟩
    | _ => rfl
  | start | fire => exact ⟨rfl, rfl⟩
  | opened | giveUp => rfl
  | retry _ _ _ _ _ _ _ ht => exact ⟨congrArg Prod.fst ht, congrArg Prod.snd ht⟩
  | shutdown hd =>
    unfold Manager.shutdown
    rw [if_neg (by simp [hd])]
    cases m.pending <;> cases m.active <;> repeat' constructor

end Manager

namespace Life

variable {target : Target} {policy : ReconnectPolicy} {w : σ}

def startDials (l : Life σ) : Nat :=
  Call.tally .dial ((l.past.filter (·.op.isStart)).flatMap (·.step.calls))

theorem startDials_extend (l : Life σ) (op : Operation) (s : Step σ) :
    (l.extend op s).startDials =
      l.startDials + if op.isStart then Call.tally .dial s.calls else 0 := by
  cases hop : op.isStart <;> simp [startDials, hop]

theorem countP_past_extend (p : Turn σ → Bool) (l : Life σ) (op : Operation) (s : Step σ) :
    (l.extend op s).past.countP p = l.past.countP p + (p ⟨l.manager, op, s⟩).toNat := by
  cases hp : p ⟨l.manager, op, s⟩ <;> simp [List.countP_append, hp]

/-- The accounts of a life whose gateway started out as `w` and whose endpoint is `target`. -/
structure Balanced (g : Gateway σ) (w : σ) (target : Target) (l : Life σ) : Prop where
  carried : Carries g w l.calls l.world
  endpoint : l.manager.target = target
  dialled : Call.tally .dial l.calls =
    l.past.countP Turn.closes + Call.tally .hangUp l.calls + l.manager.active.isSome.toNat
  scheduled : Call.tally .schedule l.calls =
    l.past.countP Turn.fires + Call.tally .cancel l.calls + l.manager.pending.isSome.toNat
  redialled : Call.tally .dial l.calls = l.past.countP Turn.fires + l.startDials
  /-- As long as the manager could be started, no start has dialled. -/
  started : l.startDials + l.manager.isIdle.toNat ≤ 1
  /-- As long as the manager is not shut down, nothing was hung up or taken back. -/
  retired :
    Call.tally .hangUp l.calls + Call.tally .cancel l.calls + (!l.manager.shutDown).toNat ≤ 1
  active_latest : ∀ id, l.manager.active = some id → Call.latest Call.dialed? l.calls = some id
  pending_latest : ∀ id, l.manager.pending = some id →
    Call.latest Call.scheduled? l.calls = some id
  urls : ∀ url id, .dial url id ∈ l.calls → url = target.url

theorem balanced_fresh (policy : ReconnectPolicy) :
    Balanced g w target (fresh target policy w) where
  carried := rfl
  endpoint := rfl
  dialled := rfl
  scheduled := rfl
  redialled := rfl
  started := Nat.le_refl 1
  retired := Nat.le_refl 1
  active_latest := by intro id h; cases h
  pending_latest := by intro id h; cases h
  urls := by intro url id h; cases h

theorem Balanced.extend {l : Life σ} {op : Operation} {s : Step σ} (h : Balanced g w target l)
    (hl : l.manager.Sound) (hmove : Manager.Move g l.manager l.world op s) :
    Balanced g w target (l.extend op s) where
  carried := by
    rw [calls_extend]
    exact h.carried.append hmove.carries
  endpoint := hmove.target_eq.trans h.endpoint
  dialled := by
    have hstep := hmove.dial_balance hl
    have hpast := h.dialled
    simp only [calls_extend, Call.tally_append, countP_past_extend, manager_extend]
    omega
  scheduled := by
    have hstep := hmove.schedule_balance hl
    have hpast := h.scheduled
    simp only [calls_extend, Call.tally_append, countP_past_extend, manager_extend]
    omega
  redialled := by
    have hstep := hmove.tally_dial
    have hpast := h.redialled
    simp only [calls_extend, Call.tally_append, countP_past_extend, startDials_extend]
    omega
  started := by
    have hstep := hmove.start_le
    have hpast := h.started
    rw [startDials_extend, manager_extend]
    omega
  retired := by
    have hstep := hmove.retire_le hl
    have hpast := h.retired
    simp only [calls_extend, Call.tally_append, manager_extend]
    omega
  active_latest := by
    intro id hid
    rw [calls_extend]
    exact Call.latest_append_eq_some (hmove.active_eq hid) (h.active_latest id)
  pending_latest := by
    intro id hid
    rw [calls_extend]
    exact Call.latest_append_eq_some (hmove.pending_eq hid) (h.pending_latest id)
  urls := by
    intro url id hid
    rw [calls_extend, List.mem_append] at hid
    rcases hid with hid | hid
    · exact h.urls url id hid
    · exact h.endpoint ▸ hmove.url_of_mem_dial hid

theorem balanced_run (policy : ReconnectPolicy) (ops : List Operation) :
    Balanced g w target ((fresh target policy w).run g ops) :=
  run_of_move (balanced_fresh policy) (fun _ _ _ hl hmove h => h.extend hl hmove) ops

/-- The gateway was used exactly as the calls say. Every connection dialled was lost, hung up, or is
the active one, and every timer set has run out, was taken back, or is the pending one. Each timer
that ran out dialled once, and starts dialled once at most. One thing at most was ever hung up or
taken back, by a shutdown only, and it was the latest of its kind. Every dial went to the address
of the target. -/
theorem balance_run (g : Gateway σ) (target : Target) (policy : ReconnectPolicy) (w : σ)
    (ops : List Operation) :
    let l := (fresh target policy w).run g ops
    Carries g w l.calls l.world ∧
      Call.tally .dial l.calls =
        l.past.countP Turn.closes + Call.tally .hangUp l.calls + l.manager.active.isSome.toNat ∧
      Call.tally .schedule l.calls =
        l.past.countP Turn.fires + Call.tally .cancel l.calls + l.manager.pending.isSome.toNat ∧
      Call.tally .dial l.calls = l.past.countP Turn.fires + l.startDials ∧ l.startDials ≤ 1 ∧
      Call.tally .hangUp l.calls + Call.tally .cancel l.calls ≤ 1 ∧
      (∀ url id, .dial url id ∈ l.calls → url = target.url) ∧
      ∀ op, let s := l.manager.perform g l.world op
        (Turn.fires ⟨l.manager, op, s⟩ → Call.tally .dial s.calls = 1) ∧
          (∀ id, .hangUp id ∈ s.calls →
            op = .shutdown ∧ Call.latest Call.dialed? l.calls = some id) ∧
          ∀ id, .cancel id ∈ s.calls →
            op = .shutdown ∧ Call.latest Call.scheduled? l.calls = some id := by
  intro l
  have h : Balanced g w target l := balanced_run policy ops
  have hl : l.manager.Sound := sound_run (.fresh target policy) ops
  have hstarted := h.started
  have hretired := h.retired
  refine ⟨h.carried, h.dialled, h.scheduled, h.redialled, by omega, by omega, h.urls, ?_⟩
  intro op s
  have hmove : Manager.Move g l.manager l.world op s := hl.move op
  refine ⟨?_, ?_, ?_⟩
  · intro hfires
    have hdial := hmove.tally_dial
    cases op with
    | elapse id => simpa [hfires, Operation.isStart] using hdial
    | _ => cases hfires
  · intro id hid
    obtain ⟨hop, hmem⟩ := hmove.of_mem_retire hid (.inl rfl)
    exact ⟨hop, h.active_latest id (by simpa using hmem)⟩
  · intro id hid
    obtain ⟨hop, hmem⟩ := hmove.of_mem_retire hid (.inr rfl)
    exact ⟨hop, h.pending_latest id (by simpa using hmem)⟩

/-- A shutdown while waiting takes back the timer that the refusal set. -/
theorem balance_run_waiting :
    let l := (fresh (.ofHost "example.com") .standard (Script.ofLists [] [] [])).run Script.gateway
      [.start, .receive ⟨1⟩ (.closed none "refused")]
    .cancel ⟨1⟩ ∈ (l.manager.perform Script.gateway l.world .shutdown).calls ∧
      Call.latest Call.scheduled? l.calls = some ⟨1⟩ :=
  have hl := balance_run Script.gateway (.ofHost "example.com") .standard (Script.ofLists [] [] [])
    [.start, .receive ⟨1⟩ (.closed none "refused")]
  have hcancel := (hl.2.2.2.2.2.2.2 .shutdown).2.2 ⟨1⟩ (.head _)
  ⟨.head _, hcancel.2⟩

end Life

end Lifeline
