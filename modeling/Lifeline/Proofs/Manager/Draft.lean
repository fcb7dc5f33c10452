import Mathlib.Data.List.Induction
import Lifeline.Proofs.Manager.Life
/-! Two runs of a manager that differ in some operations. A draft lists the operations of the one
run and strikes out those that the other goes without, so a statement about all drafts speaks of all
places at which operations can be put in or left out. -/
namespace Lifeline

structure Entry where
  op : Operation
  struck : Bool

/-- The operations of a run, some of them struck out. -/
abbrev Draft := List Entry

namespace Draft

/-- What is struck out is read as well. -/
def full (d : Draft) : List Operation := d.map Entry.op

/-- What is struck out is passed over. -/
def fair (d : Draft) : List Operation := (d.filter (!·.struck)).map Entry.op

def keep (d : Draft) (op : Operation) : Draft := d ++ [⟨op, false⟩]

def strike (d : Draft) (op : Operation) : Draft := d ++ [⟨op, true⟩]

/-- A draft is written from its beginning to its end. -/
@[elab_as_elim] theorem write_induction {motive : Draft → Prop} (d : Draft) (nil : motive [])
    (keep : ∀ (d : Draft) (op : Operation), motive d → motive (d.keep op))
    (strike : ∀ (d : Draft) (op : Operation), motive d → motive (d.strike op)) : motive d := by
  induction d using List.reverseRecOn with
  | nil => exact nil
  | append_singleton d e ih =>
    obtain ⟨op, struck⟩ := e
    cases struck with
    | false => exact keep d op ih
    | true => exact strike d op ih

variable {α : Type}

/-- Of a list with an item for each entry, the items of the entries that are left. -/
def kept (d : Draft) (items : List α) : List α := ((d.zip items).filter (!·.1.struck)).map Prod.snd

def dropped (d : Draft) (items : List α) : List α :=
  ((d.zip items).filter (·.1.struck)).map Prod.snd

section

variable (d : Draft) (op : Operation)

@[simp] theorem full_keep : (d.keep op).full = d.full ++ [op] := by simp [keep, full]

@[simp] theorem full_strike : (d.strike op).full = d.full ++ [op] := by simp [strike, full]

@[simp] theorem fair_keep : (d.keep op).fair = d.fair ++ [op] := by simp [keep, fair]

@[simp] theorem fair_strike : (d.strike op).fair = d.fair := by simp [strike, fair]

variable {d} {items : List α} (h : d.length = items.length) (a : α)

include h

theorem kept_keep : (d.keep op).kept (items ++ [a]) = d.kept items ++ [a] := by
  rw [keep, kept, List.zip_append h]
  simp [kept]

theorem kept_strike : (d.strike op).kept (items ++ [a]) = d.kept items := by
  rw [strike, kept, List.zip_append h]
  simp [kept]

end

theorem mem_of_mem_dropped {d : Draft} {items : List α} {a : α} (h : a ∈ d.dropped items) :
    a ∈ items := by
  obtain ⟨p, hp, rfl⟩ := List.mem_map.mp h
  exact (List.of_mem_zip (List.mem_filter.mp hp).1).2

end Draft

namespace Life

variable {σ : Type} {g : Gateway σ} {target : Target} {policy : ReconnectPolicy} {w : σ}

theorem length_past_run_full (d : Draft) :
    d.length = ((fresh target policy w).run g d.full).past.length := by
  have hops := map_op_past_run (g := g) (fresh target policy w) d.full
  have hlength := congrArg List.length hops
  simpa [fresh, Draft.full] using hlength.symm

end Life

end Lifeline
