/-! Facts about outcomes and about lists of entries that more than one part needs. -/

namespace Except

variable {ε α β : Type}

theorem bind_eq_ok_iff {x : Except ε α} {f : α → Except ε β} {b : β} :
    x.bind f = .ok b ↔ ∃ a, x = .ok a ∧ f a = .ok b := by
  cases x with
  | error e => simp [Except.bind]
  | ok a => simp [Except.bind]

theorem map_eq_ok_iff {x : Except ε α} {f : α → β} {b : β} :
    x.map f = .ok b ↔ ∃ a, x = .ok a ∧ f a = b := by
  cases x with
  | error e => simp [Except.map]
  | ok a => simp [Except.map]

theorem mapError_eq_ok_iff {ε' : Type} {x : Except ε α} {f : ε → ε'} {a : α} :
    x.mapError f = .ok a ↔ x = .ok a := by
  cases x with
  | error e => exact ⟨nofun, nofun⟩
  | ok b => exact ⟨fun h => by cases h; rfl, fun h => by cases h; rfl⟩

end Except

namespace List

variable {α β : Type} [DecidableEq α] {ps qs : List (α × β)}

theorem mem_of_lookup {k : α} {x : β} (h : ps.lookup k = some x) : (k, x) ∈ ps := by
  obtain ⟨front, behind, rfl, -⟩ := lookup_eq_some_iff.mp h
  simp

theorem not_mem_of_lookup {k : α} (h : ps.lookup k = none) : k ∉ ps.map Prod.fst := by
  intro hmem
  obtain ⟨p, hp, rfl⟩ := mem_map.mp hmem
  exact bne_iff_ne.mp (lookup_eq_none_iff.mp h p hp) rfl

/-- Under distinct keys a list of pairs is a table. -/
theorem lookup_eq_some_iff_mem (hnodup : (ps.map Prod.fst).Nodup) {k : α} {x : β} :
    ps.lookup k = some x ↔ (k, x) ∈ ps := by
  refine ⟨mem_of_lookup, fun hmem => ?_⟩
  obtain ⟨front, behind, rfl⟩ := append_of_mem hmem
  rw [map_append, map_cons, nodup_append] at hnodup
  refine lookup_eq_some_iff.mpr ⟨front, behind, rfl, fun p hp => bne_iff_ne.mpr fun heq => ?_⟩
  exact hnodup.2.2 p.1 (mem_map_of_mem hp) k (.head _) heq.symm

theorem lookup_eq_of_perm (h : ps.Perm qs) (hnodup : (ps.map Prod.fst).Nodup) (k : α) :
    ps.lookup k = qs.lookup k :=
  Option.ext fun x => by
    rw [lookup_eq_some_iff_mem hnodup, lookup_eq_some_iff_mem ((h.map _).nodup hnodup), h.mem_iff]

/-- What each step keeps, a fold that comes out well keeps. -/
theorem of_foldlM_eq_some {α β : Type} {P : β → Prop} {f : β → α → Option β} {as : List α}
    (step : ∀ a ∈ as, ∀ ⦃b b'⦄, P b → f b a = some b' → P b') {b b' : β} (hb : P b)
    (h : as.foldlM f b = some b') : P b' := by
  induction as generalizing b with
  | nil =>
    cases h
    exact hb
  | cons a as ih =>
    obtain ⟨hone, hrest⟩ := forall_mem_cons.mp step
    obtain ⟨c, hc, h⟩ := Option.bind_eq_some_iff.mp h
    exact ih hrest (hone hb hc) h

end List
