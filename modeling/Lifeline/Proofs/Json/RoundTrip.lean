import Lifeline.Proofs.Json.Characters
/-! Reading what was printed. The compact text of a value without doubles is read back to the
value, so long as it is one that the reader could have made. -/
namespace Lifeline.Json

/-! ## Single values -/

theorem valueWith_integer (inner : Option (Text.Reader Value)) {n : Int} (hn : IsWord n)
    {rest : List Char} (hrest : Stops rest) :
    valueWith inner (integerChars n ++ rest) = some (.integer n, rest) := by
  have hread := readNumeral_integerChars n hrest
  obtain ⟨c, cs, hcs, hmark, hc⟩ := exists_integerChars_eq_cons n
  rw [hcs, List.cons_append] at hread ⊢
  unfold valueWith
  rw [skipBlank_of_isMark hmark]
  split
  -- whatever begins in no other way is read as a numeral
  case h_7 =>
    rw [hread, Option.bind_some]
    dsimp only
    rw [value?_toDigits hn, Option.map_some]
  all_goals
    rename_i heq
    exact absurd (List.cons.inj heq).1 (hc _ (by decide) (by decide))

theorem valueWith_text (inner : Option (Text.Reader Value)) (s : String) (rest : List Char) :
    valueWith inner (literal s ++ rest) = some (.text s, rest) := by
  have hread : valueWith inner (literal s ++ rest) =
      (stringBody (s.toList.flatMap escape ++ ['"'] ++ rest)).map
        fun p => (.text (String.ofList p.1), p.2) := rfl
  rw [hread, stringBody_literal, Option.map_some, String.ofList_toList]

/-! ## Items and members -/

section
variable {read : Text.Reader Value}

/-- The printed value is read, whatever may follow a value. -/
def ReadsBack (read : Text.Reader Value) (v : Value) : Prop :=
  ∀ rest, Stops rest → read (v.chars ++ rest) = some (v, rest)

theorem length_le_moreItemsChars (vs : List Value) : vs.length ≤ (moreItemsChars vs).length := by
  induction vs with
  | nil => exact Nat.zero_le _
  | cons v vs ih => simp only [moreItemsChars, List.length_cons, List.length_append]; omega

theorem length_le_moreMembersChars (ms : List (String × Value)) :
    ms.length ≤ (moreMembersChars ms).length := by
  induction ms with
  | nil => exact Nat.zero_le _
  | cons m ms ih => simp only [moreMembersChars, List.length_cons, List.length_append]; omega

/-- Items are read one by one. The fuel lasts if it is no less than the number of commas. -/
theorem items_itemsChars {v : Value} {vs : List Value} (hread : ∀ w ∈ v :: vs, ReadsBack read w)
    {fuel : Nat} (hfuel : vs.length ≤ fuel) (rest : List Char) :
    items read (fuel + 1) (itemsChars (v :: vs) ++ ']' :: rest) = some (v :: vs, rest) := by
  induction vs generalizing v fuel with
  | nil =>
    rw [itemsChars, moreItemsChars, List.append_nil, items,
      hread v (.head _) _ (stops_cons (by decide) rest)]
    rfl
  | cons w ws ih =>
    obtain ⟨fuel, rfl⟩ := Nat.exists_eq_add_one.mpr (Nat.lt_of_lt_of_le (Nat.succ_pos _) hfuel)
    have hlater := ih (fun w hw => hread w (.tail _ hw)) (Nat.le_of_succ_le_succ hfuel)
    have hchars : itemsChars (v :: w :: ws) ++ ']' :: rest =
        v.chars ++ ',' :: (itemsChars (w :: ws) ++ ']' :: rest) := by
      simp [itemsChars, moreItemsChars]
    have hfirst : items read (fuel + 2) (itemsChars (v :: w :: ws) ++ ']' :: rest) =
        (items read (fuel + 1) (itemsChars (w :: ws) ++ ']' :: rest)).map
          fun p => (v :: p.1, p.2) := by
      rw [hchars, items, hread v (.head _) _ (stops_cons (by decide) _)]
      rfl
    rw [hfirst, hlater, Option.map_some]

/-- A member is read, and then what follows it decides. -/
theorem members_cons {k : String} {v : Value} (hread : ReadsBack read v) (fuel : Nat)
    {c : Char} (hc : c ∈ [',', ']', '\x7d']) (rest : List Char) :
    members read (fuel + 1) (literal k ++ ':' :: (v.chars ++ c :: rest)) =
      if c = ',' then (members read fuel rest).map fun p => ((k, v) :: p.1, p.2)
      else if c = '\x7d' then some ([(k, v)], rest)
      else none := by
  have hkey : skipBlank (literal k ++ ':' :: (v.chars ++ c :: rest)) =
      '"' :: (k.toList.flatMap escape ++ ['"'] ++ ':' :: (v.chars ++ c :: rest)) := rfl
  rw [members, hkey]
  split
  · rename_i heq
    cases heq
    rw [stringBody_literal, Option.bind_some]
    dsimp only
    rw [skipBlank_of_isMark (by decide), String.ofList_toList]
    split
    · rename_i heq
      cases heq
      rw [hread _ (stops_cons hc rest), Option.bind_some]
      simp only [List.mem_cons, List.not_mem_nil, or_false] at hc
      rcases hc with rfl | rfl | rfl <;> rfl
    · rename_i hcolon
      exact absurd rfl (hcolon _)
  · rename_i hquote
    exact absurd rfl (hquote _)

theorem members_membersChars {m : String × Value} {ms : List (String × Value)}
    (hread : ∀ m' ∈ m :: ms, ReadsBack read m'.2) {fuel : Nat} (hfuel : ms.length ≤ fuel)
    (rest : List Char) :
    members read (fuel + 1) (membersChars (m :: ms) ++ '\x7d' :: rest) = some (m :: ms, rest) := by
  induction ms generalizing m fuel with
  | nil =>
    have hchars : membersChars [m] ++ '\x7d' :: rest =
        literal m.1 ++ ':' :: (m.2.chars ++ '\x7d' :: rest) := by
      simp [membersChars, moreMembersChars]
    rw [hchars, members_cons (hread m (.head _)) fuel (by decide)]
    rfl
  | cons m' ms ih =>
    obtain ⟨fuel, rfl⟩ := Nat.exists_eq_add_one.mpr (Nat.lt_of_lt_of_le (Nat.succ_pos _) hfuel)
    have hlater := ih (fun w hw => hread w (.tail _ hw)) (Nat.le_of_succ_le_succ hfuel)
    have hchars : membersChars (m :: m' :: ms) ++ '\x7d' :: rest =
        literal m.1 ++ ':' :: (m.2.chars ++ ',' :: (membersChars (m' :: ms) ++ '\x7d' :: rest)) := by
      simp [membersChars, moreMembersChars]
    rw [hchars, members_cons (hread m (.head _)) _ (by decide), if_pos rfl, hlater,
      Option.map_some]

end

/-! ## Arrays and objects -/

theorem valueWith_bracket (read : Text.Reader Value) {c : Char} (hmark : IsMark c)
    (hclose : c ≠ ']') (cs : List Char) :
    valueWith (some read) ('[' :: c :: cs) =
      (items read (cs.length + 1) (c :: cs)).map fun p => (.array p.1, p.2) := by
  rw [valueWith, skipBlank_of_isMark (by decide)]
  split <;> rename_i heq
  case h_5 =>
    cases heq
    rw [Option.bind_some, skipBlank_of_isMark hmark]
    split
    · rename_i heq
      exact absurd (List.cons.inj heq).1 hclose
    · rfl
  case h_7 => exact absurd rfl (‹∀ r, '[' :: c :: cs = '[' :: r → False› _)
  all_goals cases heq

theorem valueWith_brace (read : Text.Reader Value) {c : Char} (hmark : IsMark c)
    (hclose : c ≠ '\x7d') (cs : List Char) :
    valueWith (some read) ('\x7b' :: c :: cs) =
      (members read (cs.length + 1) (c :: cs)).map fun p => (.ofMembers p.1, p.2) := by
  rw [valueWith, skipBlank_of_isMark (by decide)]
  split <;> rename_i heq
  case h_6 =>
    cases heq
    rw [Option.bind_some, skipBlank_of_isMark hmark]
    split
    · rename_i heq
      exact absurd (List.cons.inj heq).1 hclose
    · rfl
  case h_7 => exact absurd rfl (‹∀ r, '\x7b' :: c :: cs = '\x7b' :: r → False› _)
  all_goals cases heq

theorem valueWith_array {read : Text.Reader Value} {vs : List Value}
    (hfloat : ∀ v ∈ vs, v.isFloatless) (hread : ∀ v ∈ vs, ReadsBack read v) (rest : List Char) :
    valueWith (some read) ((Value.array vs).chars ++ rest) = some (.array vs, rest) := by
  cases vs with
  | nil => rfl
  | cons v vs =>
    obtain ⟨c, cs, hcs, hmark, hclose⟩ := exists_chars_eq_cons (hfloat v (.head _))
    have hitems : itemsChars (v :: vs) ++ ']' :: rest =
        c :: (cs ++ moreItemsChars vs ++ ']' :: rest) := by
      simp [itemsChars, hcs]
    have hchars : (Value.array (v :: vs)).chars ++ rest =
        '[' :: (itemsChars (v :: vs) ++ ']' :: rest) := by
      simp [Value.chars]
    have hlength := length_le_moreItemsChars vs
    rw [hchars, hitems, valueWith_bracket read hmark hclose, ← hitems,
      items_itemsChars hread (by simp only [List.length_append]; omega), Option.map_some]

theorem valueWith_object {read : Text.Reader Value} {ms : List (String × Value)}
    (hsorted : Sorted ms) (hread : ∀ m ∈ ms, ReadsBack read m.2) (rest : List Char) :
    valueWith (some read) ((Value.object ms).chars ++ rest) = some (.object ms, rest) := by
  cases ms with
  | nil => rfl
  | cons m ms =>
    -- a key comes first, so the object is not taken for an empty one
    have hmembers : membersChars (m :: ms) ++ '\x7d' :: rest =
        '"' :: (m.1.toList.flatMap escape ++ '"' :: ':' :: m.2.chars ++
          moreMembersChars ms ++ '\x7d' :: rest) := by
      simp [membersChars, literal]
    have hchars : (Value.object (m :: ms)).chars ++ rest =
        '\x7b' :: (membersChars (m :: ms) ++ '\x7d' :: rest) := by
      simp [Value.chars]
    have hlength := length_le_moreMembersChars ms
    rw [hchars, hmembers, valueWith_brace read (by decide) (by decide), ← hmembers,
      members_membersChars hread (by simp only [List.length_append]; omega), Option.map_some,
      ofMembers_of_sorted hsorted]

/-! ## The round trip -/

/-- What is no array and no object is read alike at every depth. -/
theorem exists_value_eq (depth : Nat) : ∃ inner, value depth = valueWith inner := by
  cases depth <;> exact ⟨_, rfl⟩

/-- The depth that a value was read at is enough to read its print. -/
theorem readsBack_value {depth : Nat} {v : Value} (h : Orderly depth v) (hfloat : v.isFloatless) :
    ReadsBack (value depth) v := by
  induction h with
  | null =>
    rename_i depth
    intro rest _
    cases depth <;> rfl
  | boolean =>
    rename_i depth b
    intro rest _
    cases depth <;> cases b <;> rfl
  | integer hword =>
    rename_i depth n
    intro rest hrest
    obtain ⟨inner, hvalue⟩ := exists_value_eq depth
    rw [hvalue]
    exact valueWith_integer inner hword hrest
  | float => cases hfloat
  | text =>
    rename_i depth s
    intro rest _
    obtain ⟨inner, hvalue⟩ := exists_value_eq depth
    rw [hvalue]
    exact valueWith_text inner s rest
  | array _ ih =>
    have hitems := isFloatless_of_mem_items hfloat
    exact fun rest _ => valueWith_array hitems (fun v hv => ih v hv (hitems v hv)) rest
  | object hsorted _ ih =>
    have hmembers := isFloatless_of_mem_members hfloat
    exact fun rest _ => valueWith_object hsorted (fun m hm => ih m hm (hmembers m hm)) rest

/-- A value without doubles that was read is read again from its print. -/
theorem parse_print {v : Value} (h : Orderly maxDepth v) (hfloat : v.isFloatless) :
    parse v.print = some v := by
  have hread := readsBack_value h hfloat [] stops_nil
  rw [List.append_nil] at hread
  rw [parse, Value.print, String.toList_ofList, parseChars, hread, Option.bind_some]
  rfl

end Lifeline.Json
