import Lifeline.Proofs.Manager.Move
/-! The life of a manager: the manager, its gateway, and every operation it has taken, in order. A
life is prolonged by one operation at a time, so whatever each move keeps holds of every life
(`run_of_move`); a property of all lives is a property of every point of every run. -/
namespace Lifeline

variable {σ : Type}

/-- The manager, its gateway, and what happened so far. -/
structure Life (σ : Type) where
  manager : Manager
  world : σ
  past : List (Turn σ)

namespace Life

def fresh (target : Target) (policy : ReconnectPolicy) (w : σ) : Life σ :=
  ⟨.fresh target policy, w, []⟩

def extend (l : Life σ) (op : Operation) (s : Step σ) : Life σ :=
  ⟨s.manager, s.world, l.past ++ [⟨l.manager, op, s⟩]⟩

def next (l : Life σ) (g : Gateway σ) (op : Operation) : Life σ :=
  l.extend op (l.manager.perform g l.world op)

def run (l : Life σ) (g : Gateway σ) (ops : List Operation) : Life σ :=
  ops.foldl (fun l op => l.next g op) l

def calls (l : Life σ) : List Call := l.past.flatMap (·.step.calls)

def callbacks (l : Life σ) : List Callback := l.past.flatMap (·.step.callbacks)

section

variable (l : Life σ) (op : Operation) (s : Step σ)

@[simp] theorem manager_extend : (l.extend op s).manager = s.manager := rfl

@[simp] theorem world_extend : (l.extend op s).world = s.world := rfl

@[simp] theorem past_extend : (l.extend op s).past = l.past ++ [⟨l.manager, op, s⟩] := rfl

@[simp] theorem calls_extend : (l.extend op s).calls = l.calls ++ s.calls := by
  simp [calls]

@[simp] theorem callbacks_extend : (l.extend op s).callbacks = l.callbacks ++ s.callbacks := by
  simp [callbacks]

end

variable {g : Gateway σ} {target : Target} {policy : ReconnectPolicy} {w : σ}

theorem run_concat (l : Life σ) (ops : List Operation) (op : Operation) :
    l.run g (ops ++ [op]) = (l.run g ops).next g op := by
  simp [run]

/-- The past lists the steps of the run. -/
theorem map_step_past_run (l : Life σ) (ops : List Operation) :
    (l.run g ops).past.map Turn.step =
      l.past.map Turn.step ++ Manager.run g l.manager l.world ops := by
  induction ops generalizing l with
  | nil => simp [run, Manager.run]
  | cons op ops ih =>
    change ((l.next g op).run g ops).past.map Turn.step = _
    rw [ih]
    simp [next, Manager.run]

theorem map_op_past_run (l : Life σ) (ops : List Operation) :
    (l.run g ops).past.map Turn.op = l.past.map Turn.op ++ ops := by
  induction ops generalizing l with
  | nil => simp [run]
  | cons op ops ih =>
    change ((l.next g op).run g ops).past.map Turn.op = _
    rw [ih]
    simp [next]

theorem run_of_next {motive : Life σ → Prop} {l : Life σ} (start : motive l)
    (next : ∀ l op, motive l → motive (l.next g op)) (ops : List Operation) :
    motive (l.run g ops) := by
  induction ops generalizing l with
  | nil => exact start
  | cons op ops ih => exact ih (next l op start)

theorem sound_run {l : Life σ} (h : l.manager.Sound) (ops : List Operation) :
    (l.run g ops).manager.Sound :=
  run_of_next (motive := fun l => l.manager.Sound) h (fun _ op h => h.perform op) ops

/-- Every turn of the past is what its manager did about its operation. -/
theorem exists_perform_of_mem_past {ops : List Operation} {t : Turn σ}
    (ht : t ∈ ((fresh target policy w).run g ops).past) :
    ∃ v, t.step = t.manager.perform g v t.op := by
  have hall : ∀ t ∈ ((fresh target policy w).run g ops).past,
      ∃ v, t.step = t.manager.perform g v t.op := by
    refine run_of_next (motive := fun l => ∀ t ∈ l.past, ∃ v, t.step = t.manager.perform g v t.op)
      ?_ ?_ ops
    · intro t ht
      cases ht
    · intro l op h t ht
      rcases List.mem_append.mp ht with ht | ht
      · exact h t ht
      · obtain rfl := List.mem_singleton.mp ht
        exact ⟨l.world, rfl⟩
  exact hall t ht

/-- What holds of a fresh manager and is kept by every move of a sound one holds of every life. -/
theorem run_of_move {motive : Life σ → Prop} (start : motive (fresh target policy w))
    (move : ∀ (l : Life σ) (op : Operation) (s : Step σ), l.manager.Sound →
      Manager.Move g l.manager l.world op s → motive l → motive (l.extend op s))
    (ops : List Operation) : motive ((fresh target policy w).run g ops) := by
  have both : ((fresh target policy w).run g ops).manager.Sound ∧
      motive ((fresh target policy w).run g ops) := by
    refine run_of_next (motive := fun l => l.manager.Sound ∧ motive l) ⟨.fresh target policy, start⟩
      ?_ ops
    rintro l op ⟨hl, h⟩
    exact ⟨hl.perform op, move l op _ hl (hl.move op) h⟩
  exact both.2

end Life

end Lifeline
