import Lifeline.Proofs.Json.Literal
import Lifeline.Proofs.Json.Orderly
/-! The characters of a printed value without doubles. It begins with a mark, and holds no control
characters since these are escaped. -/
namespace Lifeline.Json

mutual
/-- Whether a value has no doubles in it. -/
def Value.isFloatless : Value → Bool
  | .null | .boolean _ | .integer _ | .text _ => true
  | .float _ => false
  | .array items => itemsFloatless items
  | .object members => membersFloatless members

def itemsFloatless : List Value → Bool
  | [] => true
  | v :: rest => v.isFloatless && itemsFloatless rest

def membersFloatless : List (String × Value) → Bool
  | [] => true
  | (_, v) :: rest => v.isFloatless && membersFloatless rest
end

theorem isFloatless_of_mem_items {items : List Value} (h : itemsFloatless items) :
    ∀ v ∈ items, v.isFloatless := by
  induction items with
  | nil => exact List.forall_mem_nil _
  | cons v rest ih =>
    obtain ⟨hv, hrest⟩ := Bool.and_eq_true_iff.mp h
    exact List.forall_mem_cons.mpr ⟨hv, ih hrest⟩

theorem isFloatless_of_mem_members {members : List (String × Value)} (h : membersFloatless members) :
    ∀ m ∈ members, m.2.isFloatless := by
  induction members with
  | nil => exact List.forall_mem_nil _
  | cons m rest ih =>
    obtain ⟨hm, hrest⟩ := Bool.and_eq_true_iff.mp h
    exact List.forall_mem_cons.mpr ⟨hm, ih hrest⟩

/-! ## First characters -/

/-- A character of ASCII that leaves a mark on the paper. -/
def IsMark (c : Char) : Prop := 32 < c.toNat ∧ c.toNat < 127

instance (c : Char) : Decidable (IsMark c) := inferInstanceAs (Decidable (_ ∧ _))

theorem isMark_of_isDigit {c : Char} (h : c.isDigit) : IsMark c := by
  simp only [Char.isDigit, Bool.and_eq_true, decide_eq_true_eq] at h
  have hc : 48 ≤ c.toNat ∧ c.toNat ≤ 57 := h
  exact ⟨by omega, by omega⟩

theorem skipBlank_of_isMark {c : Char} (h : IsMark c) (cs : List Char) :
    skipBlank (c :: cs) = c :: cs := by
  have hblank : isBlank c = false := by
    have hne (d : Char) (hd : d.toNat ≤ 32) : c ≠ d := by
      rintro rfl
      exact absurd h.1 (Nat.not_lt.mpr hd)
    simp [isBlank, hne]
  simp [skipBlank, hblank]

/-- An integer begins with a minus sign or a digit. -/
theorem exists_integerChars_eq_cons (n : Int) :
    ∃ c cs, integerChars n = c :: cs ∧ IsMark c ∧
      ∀ d : Char, d.isDigit = false → d ≠ '-' → c ≠ d := by
  unfold integerChars
  split
  · exact ⟨_, _, rfl, by decide, fun d _ hminus => hminus.symm⟩
  · obtain ⟨c, cs, hcs, hc⟩ := exists_toDigits_eq_cons n.natAbs
    refine ⟨c, cs, hcs, isMark_of_isDigit hc, fun d hd _ heq => ?_⟩
    rw [heq, hd] at hc
    cases hc

/-- A value begins with a mark that is not the end of an array. -/
theorem exists_chars_eq_cons {v : Value} (h : v.isFloatless) :
    ∃ c cs, v.chars = c :: cs ∧ IsMark c ∧ c ≠ ']' := by
  cases v with
  | boolean b => cases b <;> exact ⟨_, _, rfl, by decide, by decide⟩
  | integer n =>
    obtain ⟨c, cs, hcs, hmark, hc⟩ := exists_integerChars_eq_cons n
    exact ⟨c, cs, hcs, hmark, hc ']' (by decide) (by decide)⟩
  | float => cases h
  | null | text | array | object => exact ⟨_, _, rfl, by decide, by decide⟩

/-! ## All characters -/

/-- No character of the text is below the space. -/
def Clean (cs : List Char) : Prop := ∀ c ∈ cs, 32 ≤ c.toNat

instance (cs : List Char) : Decidable (Clean cs) :=
  List.decidableBAll (fun c : Char => 32 ≤ c.toNat) cs

theorem clean_append {cs ds : List Char} : Clean (cs ++ ds) ↔ Clean cs ∧ Clean ds :=
  List.forall_mem_append

theorem clean_cons {c : Char} {cs : List Char} : Clean (c :: cs) ↔ 32 ≤ c.toNat ∧ Clean cs :=
  List.forall_mem_cons

theorem clean_escape (c : Char) : Clean (escape c) := by
  have hhex : ∀ n < 32, Clean [hexDigit (n / 16), hexDigit (n % 16)] := by decide +kernel
  unfold escape
  iterate 7
    split
    · decide
  split
  · rename_i hcontrol
    have hcode : Clean ['\\', 'u', '0', '0'] := by decide
    exact clean_append.mpr ⟨hcode, hhex c.toNat hcontrol⟩
  · rename_i hprinted
    exact List.forall_mem_singleton.mpr (Nat.not_lt.mp hprinted)

theorem clean_literal (s : String) : Clean (literal s) := by
  unfold literal
  refine clean_append.mpr ⟨clean_cons.mpr ⟨by decide, fun c hc => ?_⟩, by decide⟩
  obtain ⟨d, -, hc⟩ := List.mem_flatMap.mp hc
  exact clean_escape d c hc

theorem clean_integerChars (n : Int) : Clean (integerChars n) := by
  have hdigits : Clean (Nat.toDigits 10 n.natAbs) := fun c hc =>
    Nat.le_of_lt (isMark_of_isDigit (forall_isDigit_toDigits _ c hc)).1
  unfold integerChars
  split
  · exact clean_cons.mpr ⟨by decide, hdigits⟩
  · exact hdigits

theorem clean_itemsChars {vs : List Value} (h : ∀ v ∈ vs, Clean v.chars) :
    Clean (itemsChars vs) ∧ Clean (moreItemsChars vs) := by
  induction vs with
  | nil => exact ⟨List.forall_mem_nil _, List.forall_mem_nil _⟩
  | cons v vs ih =>
    obtain ⟨hv, hvs⟩ := List.forall_mem_cons.mp h
    have hmore := clean_append.mpr ⟨hv, (ih hvs).2⟩
    exact ⟨hmore, clean_cons.mpr ⟨by decide, hmore⟩⟩

theorem clean_membersChars {ms : List (String × Value)} (h : ∀ m ∈ ms, Clean m.2.chars) :
    Clean (membersChars ms) ∧ Clean (moreMembersChars ms) := by
  induction ms with
  | nil => exact ⟨List.forall_mem_nil _, List.forall_mem_nil _⟩
  | cons m ms ih =>
    obtain ⟨hm, hms⟩ := List.forall_mem_cons.mp h
    have hmember : Clean (literal m.1 ++ ':' :: m.2.chars) :=
      clean_append.mpr ⟨clean_literal m.1, clean_cons.mpr ⟨by decide, hm⟩⟩
    have hmore := clean_append.mpr ⟨hmember, (ih hms).2⟩
    exact ⟨hmore, clean_cons.mpr ⟨by decide, hmore⟩⟩

theorem clean_chars {depth : Nat} {v : Value} (h : Orderly depth v) (hfloat : v.isFloatless) :
    Clean v.chars := by
  induction h with
  | null => decide
  | boolean =>
    rename_i b
    cases b <;> decide
  | integer => exact clean_integerChars _
  | float => cases hfloat
  | text => exact clean_literal _
  | array _ ih =>
    have hitems := clean_itemsChars fun v hv => ih v hv (isFloatless_of_mem_items hfloat v hv)
    exact clean_cons.mpr ⟨by decide, clean_append.mpr ⟨hitems.1, by decide⟩⟩
  | object _ _ ih =>
    have hmembers := clean_membersChars fun m hm =>
      ih m hm (isFloatless_of_mem_members hfloat m hm)
    exact clean_cons.mpr ⟨by decide, clean_append.mpr ⟨hmembers.1, by decide⟩⟩

end Lifeline.Json
