import Mathlib.Data.List.Forall2
import Lifeline.CommandLine.Usage
import Lifeline.Proofs.Basic
/-! Words that carry all that their switches need. Such words are read one by one: each adds its
value or is refused, and the words around it have no say in that. All are taken if and only if no
option comes twice and every value passes its check. -/
namespace Lifeline.CommandLine

/-- What a wrong use of the program comes to, unlike asking for help. -/
def Refused {β : Type} (r : Except UsageError β) : Prop := ∃ e, r = .error e ∧ e.exitCode = 2

theorem Refused.bind {β γ : Type} {r : Except UsageError β} (h : Refused r)
    (f : β → Except UsageError γ) : Refused (r.bind f) := by
  obtain ⟨e, rfl, hcode⟩ := h
  exact ⟨e, rfl, hcode⟩

theorem Refused.map {β γ : Type} {r : Except UsageError β} (h : Refused r) (f : β → γ) :
    Refused (r.map f) := by
  obtain ⟨e, rfl, hcode⟩ := h
  exact ⟨e, rfl, hcode⟩

/-- A value for an option, and the check that it has to pass. -/
structure Supplied (α : Type) where
  name : α
  accepts : String → Bool
  value : String

variable {α : Type}

def Supplied.pair (s : Supplied α) : α × String := (s.name, s.value)

namespace Vocabulary

variable (v : Vocabulary α)

/-- The word is a long switch that needs nothing more: its value is attached, or it takes none. -/
inductive Supplies (word : String) : Supplied α → Prop
  | option {long value : String} {name : α} {accepts : String → Bool}
      (hword : Word.ofString word = .long long (some value))
      (hlong : v.long long = some (.option name accepts)) : Supplies word ⟨name, accepts, value⟩
  | flag {long : String} {name : α} (hword : Word.ofString word = .long long none)
      (hlong : v.long long = some (.flag name)) : Supplies word ⟨name, fun _ => true, "true"⟩

/-- The word is a long switch that means nothing here. -/
def Lacks (word : String) : Prop :=
  ∃ long value, Word.ofString word = .long long value ∧ v.long long = none

end Vocabulary

/-- Whatever stands in an attached value, the word is one long switch. -/
theorem Word.ofString_attached (long : String) (hlong : '=' ∉ long.toList) (hsome : long ≠ "")
    (value : String) : ofString ("--" ++ long ++ "=" ++ value) = .long long (some value) := by
  have hstops : ∀ c ∈ long.toList, (c != '=') = true := fun c hc =>
    bne_iff_ne.mpr fun h => hlong (h ▸ hc)
  have hchars : ("--" ++ long ++ "=" ++ value).toList =
      '-' :: '-' :: (long.toList ++ '=' :: value.toList) := by
    simp
  have hname : (long.toList ++ '=' :: value.toList).takeWhile (· != '=') = long.toList := by
    rw [List.takeWhile_append_of_pos hstops]
    simp
  have hrest : (long.toList ++ '=' :: value.toList).dropWhile (· != '=') = '=' :: value.toList := by
    rw [List.dropWhile_append_of_pos hstops]
    simp
  -- The first character of the name keeps the word apart from two dashes that stand alone.
  obtain ⟨c, cs, hcs⟩ := List.exists_cons_of_ne_nil (mt String.toList_eq_nil_iff.mp hsome)
  have hback : String.ofList (c :: cs) = long := by rw [← hcs, String.ofList_toList]
  rw [hcs, List.cons_append] at hchars hname hrest
  simp only [ofString, hchars, hname, hrest, hback, String.ofList_toList]

variable [DecidableEq α] {v : Vocabulary α}

namespace Taken

def addAll (t : Taken α) : List (Supplied α) → Except UsageError (Taken α)
  | [] => .ok t
  | s :: ss => (t.add s.name s.accepts s.value).bind fun t => t.addAll ss

theorem add_eq_ok_iff {t t' : Taken α} {name : α} {accepts : String → Bool} {value : String} :
    t.add name accepts value = .ok t' ↔
      name ∉ t.settled.map Prod.fst ∧ accepts value ∧
        t' = { t with settled := t.settled ++ [(name, value)] } := by
  have hany : t.settled.any (·.1 = name) = true ↔ name ∈ t.settled.map Prod.fst := by
    simp
  unfold add
  split
  · rename_i h
    simp [hany.mp h]
  · rename_i h
    split
    · rename_i haccepts
      simp [mt hany.mpr h, haccepts, eq_comm]
    · rename_i haccepts
      simp [haccepts]

theorem addAll_eq_ok_iff {t t' : Taken α} {ss : List (Supplied α)} :
    t.addAll ss = .ok t' ↔
      (∀ s ∈ ss, s.name ∉ t.settled.map Prod.fst) ∧ (ss.map Supplied.name).Nodup ∧
        (∀ s ∈ ss, s.accepts s.value) ∧
          t' = { t with settled := t.settled ++ ss.map Supplied.pair } := by
  induction ss generalizing t with
  | nil => simp [addAll, @eq_comm _ t']
  | cons s ss ih =>
    rw [addAll, Except.bind_eq_ok_iff]
    constructor
    · rintro ⟨u, hadd, hrest⟩
      obtain ⟨hfresh, haccepts, rfl⟩ := add_eq_ok_iff.mp hadd
      obtain ⟨hothers, hnodup, hall, rfl⟩ := ih.mp hrest
      simp only [List.map_append, List.map_singleton, List.mem_append, List.mem_singleton, not_or]
        at hothers
      refine ⟨List.forall_mem_cons.mpr ⟨hfresh, fun s' hs' => (hothers s' hs').1⟩, ?_,
        List.forall_mem_cons.mpr ⟨haccepts, hall⟩, by simp [Supplied.pair]⟩
      refine List.nodup_cons.mpr ⟨fun hmem => ?_, hnodup⟩
      obtain ⟨s', hs', hname⟩ := List.mem_map.mp hmem
      exact (hothers s' hs').2 hname
    · rintro ⟨hfresh, hnodup, hall, rfl⟩
      obtain ⟨hfresh, hothers⟩ := List.forall_mem_cons.mp hfresh
      obtain ⟨haccepts, hall⟩ := List.forall_mem_cons.mp hall
      obtain ⟨hnew, hnodup⟩ := List.nodup_cons.mp hnodup
      refine ⟨_, add_eq_ok_iff.mpr ⟨hfresh, haccepts, rfl⟩,
        ih.mpr ⟨fun s' hs' => ?_, hnodup, hall, by simp [Supplied.pair]⟩⟩
      simp only [List.map_append, List.map_singleton, List.mem_append, List.mem_singleton, not_or]
      exact ⟨hothers s' hs', fun hname => hnew (hname ▸ List.mem_map_of_mem hs')⟩

theorem addAll_taken_or_refused (t : Taken α) (ss : List (Supplied α)) :
    (∃ t', t.addAll ss = .ok t') ∨ Refused (t.addAll ss) := by
  induction ss generalizing t with
  | nil => exact .inl ⟨t, rfl⟩
  | cons s ss ih =>
    rw [addAll, add]
    split
    · exact .inr ⟨.repeatedArgument, rfl, rfl⟩
    · split
      · exact ih _
      · exact .inr ⟨.badValue, rfl, rfl⟩

end Taken

theorem scan_cons {t : Taken α} (ht : t.waiting = none) {word : String} {s : Supplied α}
    (h : v.Supplies word s) (rest : List String) :
    scan v t (word :: rest) = (t.add s.name s.accepts s.value).bind fun t => scan v t rest := by
  cases h with
  | option hword hlong =>
    simp only [scan, hword, hlong, Taken.switch, Taken.settle, ht]
    rfl
  | flag hword hlong =>
    simp only [scan, hword, hlong, Taken.switch, Taken.settle, ht]
    rfl

/-- What such words lead to does not depend on the words behind them. -/
theorem scan_append {words : List String} {ss : List (Supplied α)}
    (h : List.Forall₂ v.Supplies words ss) {t : Taken α} (ht : t.waiting = none)
    (rest : List String) :
    scan v t (words ++ rest) = (t.addAll ss).bind fun t => scan v t rest := by
  induction h generalizing t with
  | nil => rfl
  | @cons word s words ss hword _ ih =>
    rw [List.cons_append, scan_cons ht hword, Taken.addAll]
    cases hadd : t.add s.name s.accepts s.value with
    | error e => rfl
    | ok t' =>
      obtain ⟨-, -, rfl⟩ := Taken.add_eq_ok_iff.mp hadd
      exact ih ht

theorem refused_scan_of_lacks {word : String} (h : v.Lacks word) (t : Taken α)
    (rest : List String) : Refused (scan v t (word :: rest)) := by
  obtain ⟨long, value, hword, hlong⟩ := h
  refine ⟨.unknownArgument, ?_, rfl⟩
  simp only [scan, hword, hlong]

section

variable {words : List String} {ss : List (Supplied α)} (h : List.Forall₂ v.Supplies words ss)
  {t : Taken α} (ht : t.waiting = none) {rest : List String}

include h ht

theorem refused_scan_append (hrest : ∀ t : Taken α, Refused (scan v t rest)) :
    Refused (scan v t (words ++ rest)) := by
  rw [scan_append h ht]
  obtain ⟨t', htaken⟩ | hrefused := t.addAll_taken_or_refused ss
  · rw [htaken]
    exact hrest t'
  · exact hrefused.bind _

/-- An option that comes twice is refused, if nothing before it is. -/
theorem refused_scan_of_repeated (hrepeated : ¬(ss.map Supplied.name).Nodup) :
    Refused (scan v t (words ++ rest)) := by
  rw [scan_append h ht]
  obtain ⟨t', htaken⟩ | hrefused := t.addAll_taken_or_refused ss
  · exact absurd (Taken.addAll_eq_ok_iff.mp htaken).2.1 hrepeated
  · exact hrefused.bind _

end

end Lifeline.CommandLine
