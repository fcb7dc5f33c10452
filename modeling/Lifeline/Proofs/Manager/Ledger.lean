import Lifeline.Proofs.Manager.Balance
/-! Which connections and timers there are, and what became of each. Every identifier that the
gateway handed out is on the books once for each time it was handed out: its connection was lost or
hung up or is the active one, its timer has run out or was taken back or is the pending one. If no
identifier is handed out twice, nothing that is over can be mistaken for what goes on. -/
namespace Lifeline

variable {σ : Type} {g : Gateway σ}

namespace Call

def hungUp? : Call → Option ConnectionId
  | hangUp id => some id
  | _ => none

def cancelled? : Call → Option TimerId
  | cancel id => some id
  | _ => none

attribute [simp] hungUp? cancelled?

end Call

namespace Turn

/-- The connection whose close was heeded. -/
def lost? (t : Turn σ) : Option ConnectionId := if t.closes then t.manager.active else none

/-- The timer that was heeded. -/
def fired? (t : Turn σ) : Option TimerId := if t.fires then t.manager.pending else none

end Turn

namespace Manager

variable {m : Manager} {w : σ} {op : Operation} {s : Step σ}

theorem Quiet.filterMap_calls {α : Type} {f : Call → Option α} (h : Quiet g m w op s)
    (hf : ∀ id text, f (.transmit id text) = none) : s.calls.filterMap f = [] := by
  cases h with
  | sent _ text id | unsent _ text id =>
    change [Call.transmit id text].filterMap f = []
    rw [List.filterMap_cons, hf id text]
    rfl
  | _ => rfl

/-- The connection that was there, or is new, is lost, hung up or kept. -/
theorem Move.active_ledger (h : Move g m w op s) (hm : m.Sound) :
    m.active.toList ++ s.calls.filterMap Call.dialed? =
      (Turn.lost? ⟨m, op, s⟩).toList ++ s.calls.filterMap Call.hungUp? ++
        s.manager.active.toList := by
  cases h with
  | quiet h =>
    rw [h.filterMap_calls (fun _ _ => rfl), h.filterMap_calls (fun _ _ => rfl), h.manager_eq]
    simp [Turn.lost?, h.closes_eq_false]
  | start hi ha hp => simp [Turn.lost?, Turn.closes, ha]
  | fire id hd hp =>
    have ha : m.active = none := hm.exclusive.resolve_right (by simp [hp])
    simp [Turn.lost?, Turn.closes, ha]
  | opened id ha => simp [Turn.lost?, Turn.closes, List.filterMap_cons]
  | retry id code reason timer w' ha | giveUp id code reason ha =>
    simp [Turn.lost?, Turn.closes, List.filterMap_cons, ha]
  | shutdown hd =>
    rw [calls_shutdown hd, manager_shutdown hd]
    cases m.pending <;> cases m.active <;> simp [Turn.lost?, Turn.closes, List.filterMap_cons]

/-- The timer that was there, or is new, runs out, is taken back or is kept. -/
theorem Move.pending_ledger (h : Move g m w op s) (hm : m.Sound) :
    m.pending.toList ++ s.calls.filterMap Call.scheduled? =
      (Turn.fired? ⟨m, op, s⟩).toList ++ s.calls.filterMap Call.cancelled? ++
        s.manager.pending.toList := by
  cases h with
  | quiet h =>
    rw [h.filterMap_calls (fun _ _ => rfl), h.filterMap_calls (fun _ _ => rfl), h.manager_eq]
    simp [Turn.fired?, h.fires_eq_false]
  | start hi ha hp => simp [Turn.fired?, Turn.fires, List.filterMap_cons]
  | fire id hd hp => simp [Turn.fired?, Turn.fires, List.filterMap_cons, hd, hp]
  | opened id ha => simp [Turn.fired?, Turn.fires, List.filterMap_cons]
  | retry id code reason timer w' ha =>
    simp [Turn.fired?, Turn.fires, List.filterMap_cons, hm.pending_of_active ha]
  | giveUp id code reason ha => simp [Turn.fired?, Turn.fires, List.filterMap_cons]
  | shutdown hd =>
    rw [calls_shutdown hd, manager_shutdown hd]
    cases m.pending <;> cases m.active <;> simp [Turn.fired?, Turn.fires, List.filterMap_cons]

end Manager

namespace Life

variable {target : Target} {policy : ReconnectPolicy} {w : σ}

section

variable (l : Life σ)

/-- The connections dialled, in order. -/
def dialed : List ConnectionId := l.calls.filterMap Call.dialed?

def lost : List ConnectionId := l.past.filterMap Turn.lost?

def hungUp : List ConnectionId := l.calls.filterMap Call.hungUp?

/-- The timers set, in order. -/
def scheduled : List TimerId := l.calls.filterMap Call.scheduled?

def fired : List TimerId := l.past.filterMap Turn.fired?

def cancelled : List TimerId := l.calls.filterMap Call.cancelled?

variable (op : Operation) (s : Step σ)

@[simp] theorem dialed_extend :
    (l.extend op s).dialed = l.dialed ++ s.calls.filterMap Call.dialed? := by
  simp [dialed]

@[simp] theorem lost_extend :
    (l.extend op s).lost = l.lost ++ (Turn.lost? ⟨l.manager, op, s⟩).toList := by
  cases h : Turn.lost? ⟨l.manager, op, s⟩ <;> simp [lost, h]

@[simp] theorem hungUp_extend :
    (l.extend op s).hungUp = l.hungUp ++ s.calls.filterMap Call.hungUp? := by
  simp [hungUp]

@[simp] theorem scheduled_extend :
    (l.extend op s).scheduled = l.scheduled ++ s.calls.filterMap Call.scheduled? := by
  simp [scheduled]

@[simp] theorem fired_extend :
    (l.extend op s).fired = l.fired ++ (Turn.fired? ⟨l.manager, op, s⟩).toList := by
  cases h : Turn.fired? ⟨l.manager, op, s⟩ <;> simp [fired, h]

@[simp] theorem cancelled_extend :
    (l.extend op s).cancelled = l.cancelled ++ s.calls.filterMap Call.cancelled? := by
  simp [cancelled]

end

/-- Books that balanced before and balance in themselves still balance. -/
theorem perm_ledger_append {α : Type} [DecidableEq α] {all more left right gone spent before after :
    List α} (hpast : all.Perm (left ++ right ++ before))
    (hnow : before ++ more = gone ++ spent ++ after) :
    (all ++ more).Perm ((left ++ gone) ++ (right ++ spent) ++ after) := by
  rw [List.perm_iff_count] at hpast ⊢
  intro a
  have hall := hpast a
  have hmore := congrArg (List.count a) hnow
  simp only [List.count_append] at hall hmore ⊢
  omega

theorem perm_dialed_run (ops : List Operation) :
    let l := (fresh target policy w).run g ops
    l.dialed.Perm (l.lost ++ l.hungUp ++ l.manager.active.toList) := by
  apply run_of_move (motive := fun l =>
    l.dialed.Perm (l.lost ++ l.hungUp ++ l.manager.active.toList))
  · exact .nil
  · intro l op s hl hmove h
    rw [dialed_extend, lost_extend, hungUp_extend]
    exact perm_ledger_append h (hmove.active_ledger hl)

theorem perm_scheduled_run (ops : List Operation) :
    let l := (fresh target policy w).run g ops
    l.scheduled.Perm (l.fired ++ l.cancelled ++ l.manager.pending.toList) := by
  apply run_of_move (motive := fun l =>
    l.scheduled.Perm (l.fired ++ l.cancelled ++ l.manager.pending.toList))
  · exact .nil
  · intro l op s hl hmove h
    rw [scheduled_extend, fired_extend, cancelled_extend]
    exact perm_ledger_append h (hmove.pending_ledger hl)

/-- What is over is not there any more, if nothing is on the books twice. -/
theorem not_mem_of_over {α : Type} {all left right after : List α}
    (hperm : all.Perm (left ++ right ++ after)) (hnodup : all.Nodup) {a : α}
    (ha : a ∉ all ∨ a ∈ left ∨ a ∈ right) : a ∉ after := by
  intro hafter
  have hdisjoint := (List.nodup_append.mp (hperm.nodup hnodup)).2.2
  rcases ha with ha | ha | ha
  · exact ha (hperm.mem_iff.mpr (List.mem_append_right _ hafter))
  · exact hdisjoint a (List.mem_append_left _ ha) a hafter rfl
  · exact hdisjoint a (List.mem_append_right _ ha) a hafter rfl

/-- There is no such connection any more: it was not dialled so far, or was lost or hung up. -/
def Retired (l : Life σ) (id : ConnectionId) : Prop :=
  id ∉ l.dialed ∨ id ∈ l.lost ∨ id ∈ l.hungUp

/-- There is no such timer any more: it was not set so far, or has run out or was taken back. -/
def Spent (l : Life σ) (id : TimerId) : Prop :=
  id ∉ l.scheduled ∨ id ∈ l.fired ∨ id ∈ l.cancelled

theorem active_ne_of_retired {ops : List Operation} {id : ConnectionId}
    (hnodup : ((fresh target policy w).run g ops).dialed.Nodup)
    (h : ((fresh target policy w).run g ops).Retired id) :
    ((fresh target policy w).run g ops).manager.active ≠ some id := by
  intro hactive
  exact not_mem_of_over (perm_dialed_run ops) hnodup h (Option.mem_toList.mpr hactive)

theorem pending_ne_of_spent {ops : List Operation} {id : TimerId}
    (hnodup : ((fresh target policy w).run g ops).scheduled.Nodup)
    (h : ((fresh target policy w).run g ops).Spent id) :
    ((fresh target policy w).run g ops).manager.pending ≠ some id := by
  intro hpending
  exact not_mem_of_over (perm_scheduled_run ops) hnodup h (Option.mem_toList.mpr hpending)

end Life

end Lifeline
