import Mathlib.Tactic.MkIffOfInductiveProp
import Lifeline.Config.Decode
import Lifeline.Proofs.Basic
/-! A record that is filled from the entries of a table. Each field stands under a key of its own,
an entry sets the field of its key and leaves the others alone, and an entry that is not declared
does nothing, so what comes out can be said field by field: what is written under the key, or if
nothing is, what the record had before. -/
namespace Lifeline

open Toml (Value)

/-- A field of a record: its key, what a value under that key says, and how the value is read and
put in its place. -/
structure Field (γ : Type) where
  {α : Type}
  key : String
  Means : Value → α → Prop
  decode : Value → Except SchemaError α
  get : γ → α
  put : γ → α → γ
  get_put : ∀ c x, get (put c x) = x

namespace Field

variable {γ : Type}

/-- The record has in this field what the entry under its key says, or what `standard` has if there
is no such entry. -/
def Written (f : Field γ) (es : List (String × Value)) (standard c : γ) : Prop :=
  (∀ v, (f.key, v) ∈ es → f.Means v (f.get c)) ∧
    ((∀ v, (f.key, v) ∉ es) → f.get c = f.get standard)

/-- The value under the key says something. -/
def Fits (f : Field γ) (es : List (String × Value)) : Prop :=
  ∀ v, (f.key, v) ∈ es → ∃ x, f.Means v x

/-- What is under the key is read as what it says. -/
def Reads (f : Field γ) (es : List (String × Value)) : Prop :=
  ∀ v, (f.key, v) ∈ es → ∀ x, f.decode v = .ok x ↔ f.Means v x

/-- The same stands under the key. -/
def Same (f : Field γ) (es es' : List (String × Value)) : Prop :=
  ∀ v, (f.key, v) ∈ es ↔ (f.key, v) ∈ es'

/-- An entry sets the field of its key, if there is one. -/
def set : List (Field γ) → γ → String → Value → Except SchemaError γ
  | [], c, _, _ => .ok c
  | f :: fs, c, key, v => if key = f.key then (f.decode v).map (f.put c) else set fs c key v

def fill (fields : List (Field γ)) (c : γ) (es : List (String × Value)) : Except SchemaError γ :=
  es.foldlM (fun c (key, v) => set fields c key v) c

/-- Neither field has a part in the other. -/
@[mk_iff apart_iff]
structure Apart (f g : Field γ) : Prop where
  key_ne : f.key ≠ g.key
  get_put_left : ∀ c x, f.get (g.put c x) = f.get c
  get_put_right : ∀ c x, g.get (f.put c x) = g.get c

/-- These are the fields of the record, all of them. -/
structure Complete (fields : List (Field γ)) : Prop where
  apart : fields.Pairwise Apart
  ext : ∀ {c d : γ}, (∀ f ∈ fields, f.get c = f.get d) → c = d

variable {fields : List (Field γ)} {f g : Field γ} {es : List (String × Value)}

theorem fill_cons {e : String × Value} {c : γ} :
    fill fields c (e :: es) = (set fields c e.1 e.2).bind fun c => fill fields c es :=
  rfl

theorem set_eq_of_forall_ne {key : String} (h : ∀ f ∈ fields, f.key ≠ key) (c : γ) (v : Value) :
    set fields c key v = .ok c := by
  induction fields with
  | nil => rfl
  | cons f fs ih =>
    obtain ⟨hf, hfs⟩ := List.forall_mem_cons.mp h
    rw [set, if_neg hf.symm, ih hfs]

theorem set_key (h : fields.Pairwise Apart) (hf : f ∈ fields) (c : γ) (v : Value) :
    set fields c f.key v = (f.decode v).map (f.put c) := by
  induction fields with
  | nil => cases hf
  | cons g fs ih =>
    obtain ⟨hg, hfs⟩ := List.pairwise_cons.mp h
    rcases List.mem_cons.mp hf with rfl | hf
    · rw [set, if_pos rfl]
    · rw [set, if_neg (hg f hf).key_ne.symm, ih hfs hf]

theorem eq_or_apart (h : fields.Pairwise Apart) (hf : f ∈ fields) (hg : g ∈ fields) :
    g = f ∨ Apart f g := by
  induction fields with
  | nil => cases hf
  | cons k fs ih =>
    obtain ⟨hk, hfs⟩ := List.pairwise_cons.mp h
    rcases List.mem_cons.mp hf with rfl | hf'
    · exact (List.mem_cons.mp hg).imp_right (hk g)
    · rcases List.mem_cons.mp hg with rfl | hg'
      · have hapart := hk f hf'
        exact .inr ⟨hapart.key_ne.symm, hapart.get_put_right, hapart.get_put_left⟩
      · exact ih hfs hf' hg'

theorem written_of_forall_notMem (h : ∀ v, (f.key, v) ∉ es) {start c : γ} :
    f.Written es start c ↔ f.get c = f.get start := by
  simp [Written, h]

theorem written_nil (f : Field γ) {start c : γ} : f.Written [] start c ↔ f.get c = f.get start :=
  written_of_forall_notMem fun _ => List.not_mem_nil

theorem written_cons_of_ne {key : String} (h : f.key ≠ key) {v : Value} {start c : γ} :
    f.Written ((key, v) :: es) start c ↔ f.Written es start c := by
  simp [Written, h]

section

variable (h : fields.Pairwise Apart) (hf : f ∈ fields) (honce : ∀ v, (f.key, v) ∉ es) {start c : γ}

include h hf honce

/-- An entry decides the field of its key, and no other. -/
theorem forall_written_cons {v : Value} :
    (∀ g ∈ fields, g.Written ((f.key, v) :: es) start c) ↔
      f.Means v (f.get c) ∧ ∀ g ∈ fields, Apart f g → g.Written es start c := by
  have hown : f.Written ((f.key, v) :: es) start c ↔ f.Means v (f.get c) := by
    simp [Written, honce]
  constructor
  · intro hall
    exact ⟨hown.mp (hall f hf), fun g hg hapart =>
      (written_cons_of_ne hapart.key_ne.symm).mp (hall g hg)⟩
  · rintro ⟨hmeans, hothers⟩ g hg
    rcases eq_or_apart h hf hg with rfl | hapart
    · exact hown.mpr hmeans
    · exact (written_cons_of_ne hapart.key_ne.symm).mpr (hothers g hg hapart)

/-- So does a value that is put in the place of one. -/
theorem forall_written_put {x : f.α} :
    (∀ g ∈ fields, g.Written es (f.put start x) c) ↔
      f.get c = x ∧ ∀ g ∈ fields, Apart f g → g.Written es start c := by
  have hown : f.Written es (f.put start x) c ↔ f.get c = x := by
    rw [written_of_forall_notMem honce, f.get_put]
  have hother {g : Field γ} (hapart : Apart f g) :
      g.Written es (f.put start x) c ↔ g.Written es start c := by
    rw [Written, Written, hapart.get_put_right]
  constructor
  · intro hall
    exact ⟨hown.mp (hall f hf), fun g hg hapart => (hother hapart).mp (hall g hg)⟩
  · rintro ⟨hx, hothers⟩ g hg
    rcases eq_or_apart h hf hg with rfl | hapart
    · exact hown.mpr hx
    · exact (hother hapart).mpr (hothers g hg hapart)

end

theorem fill_eq_ok_iff (h : Complete fields) (hkeys : (es.map Prod.fst).Nodup)
    (hreads : ∀ f ∈ fields, f.Reads es) {start c : γ} :
    fill fields start es = .ok c ↔ ∀ f ∈ fields, f.Written es start c := by
  induction es generalizing start with
  | nil =>
    simp only [written_nil]
    exact ⟨fun heq => by cases heq; exact fun _ _ => rfl, fun heq => congrArg _ (h.ext heq).symm⟩
  | cons e es ih =>
    obtain ⟨key, v⟩ := e
    obtain ⟨hfresh, hothers⟩ := List.nodup_cons.mp hkeys
    have hrest : ∀ f ∈ fields, f.Reads es := fun f hf w hw => hreads f hf w (.tail _ hw)
    rw [fill_cons]
    by_cases hdeclared : ∃ f ∈ fields, f.key = key
    · obtain ⟨f, hf, rfl⟩ := hdeclared
      have honce : ∀ w, (f.key, w) ∉ es := fun w hw => hfresh (List.mem_map.mpr ⟨_, hw, rfl⟩)
      have hread := hreads f hf v (.head _)
      rw [set_key h.apart hf, Except.bind_eq_ok_iff, forall_written_cons h.apart hf honce]
      simp only [Except.map_eq_ok_iff]
      constructor
      · rintro ⟨_, ⟨x, hx, rfl⟩, hfilled⟩
        obtain ⟨rfl, hall⟩ := (forall_written_put h.apart hf honce).mp
          ((ih hothers hrest).mp hfilled)
        exact ⟨(hread _).mp hx, hall⟩
      · rintro ⟨hmeans, hall⟩
        exact ⟨_, ⟨_, (hread _).mpr hmeans, rfl⟩, (ih hothers hrest).mpr
          ((forall_written_put h.apart hf honce).mpr ⟨rfl, hall⟩)⟩
    · have hne : ∀ f ∈ fields, f.key ≠ key := fun f hf heq => hdeclared ⟨f, hf, heq⟩
      rw [set_eq_of_forall_ne hne]
      refine (ih hothers hrest).trans (forall₂_congr fun f hf => ?_)
      exact (written_cons_of_ne (hne f hf)).symm

theorem Same.written_iff {es' : List (String × Value)} (h : f.Same es es') {standard c : γ} :
    f.Written es standard c ↔ f.Written es' standard c := by
  simp only [Written, h _]

theorem Written.fits {standard c : γ} (h : f.Written es standard c) : f.Fits es :=
  fun v hv => ⟨_, h.1 v hv⟩

/-- Nothing keeps a record from being filled but an entry that says nothing. -/
theorem exists_fill (h : fields.Pairwise Apart) (hreads : ∀ f ∈ fields, f.Reads es)
    (hfits : ∀ f ∈ fields, f.Fits es) (start : γ) : ∃ c, fill fields start es = .ok c := by
  induction es generalizing start with
  | nil => exact ⟨start, rfl⟩
  | cons e es ih =>
    obtain ⟨key, v⟩ := e
    have hrest := ih (fun f hf w hw => hreads f hf w (.tail _ hw))
      fun f hf w hw => hfits f hf w (.tail _ hw)
    rw [fill_cons]
    by_cases hdeclared : ∃ f ∈ fields, f.key = key
    · obtain ⟨f, hf, rfl⟩ := hdeclared
      obtain ⟨x, hx⟩ := hfits f hf v (.head _)
      rw [set_key h hf, (hreads f hf v (.head _) x).mpr hx]
      exact hrest _
    · rw [set_eq_of_forall_ne fun f hf heq => hdeclared ⟨f, hf, heq⟩]
      exact hrest start

end Field

end Lifeline
