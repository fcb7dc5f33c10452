import Lifeline.Text.Utf8
/-! Decoding undoes encoding. The bytes that are read as a text are those that the text is written
as, and no others are read as any text. The encoder is the one of the standard library. -/
namespace Lifeline.Text.Utf8

open String (utf8EncodeChar)

/-- The least byte that may come second. A smaller one would make the form overlong. -/
def lowest (a : UInt8) : UInt8 := if a = 0xe0 then 0xa0 else if a = 0xf0 then 0x90 else 0x80

/-- The greatest byte that may come second. A greater one would lead to surrogates, or beyond the
last character. -/
def highest (a : UInt8) : UInt8 := if a = 0xed then 0x9f else if a = 0xf4 then 0x8f else 0xbf

theorem lead?_eq_some_iff {a low high : UInt8} {count : Nat} :
    lead? a = some (count, low, high) ↔ low = lowest a ∧ high = highest a ∧
      (count = 1 ∧ 0xc2 ≤ a ∧ a ≤ 0xdf ∨ count = 2 ∧ 0xe0 ≤ a ∧ a ≤ 0xef ∨
        count = 3 ∧ 0xf0 ≤ a ∧ a ≤ 0xf4) := by
  unfold lead? lowest highest
  simp only [UInt8.le_iff_toNat_le, ← UInt8.toNat_inj (a := a), UInt8.reduceToNat]
  grind

/-- The forms that characters take, from one byte to four. -/
inductive Form : List UInt8 → Char → Prop
  | one (a : UInt8) (ha : a < 0x80) : Form [a] (Char.ofNat a.toNat)
  | two (a b : UInt8) (ha : 0xc2 ≤ a ∧ a ≤ 0xdf) (hb : lowest a ≤ b ∧ b ≤ highest a) :
      Form [a, b] (assemble 1 a [b])
  | three (a b c : UInt8) (ha : 0xe0 ≤ a ∧ a ≤ 0xef) (hb : lowest a ≤ b ∧ b ≤ highest a)
      (hc : isTail c) : Form [a, b, c] (assemble 2 a [b, c])
  | four (a b c d : UInt8) (ha : 0xf0 ≤ a ∧ a ≤ 0xf4) (hb : lowest a ≤ b ∧ b ≤ highest a)
      (hc : isTail c) (hd : isTail d) : Form [a, b, c, d] (assemble 3 a [b, c, d])

theorem toNat_ofNat {n : Nat} (h : n.isValidChar) : (Char.ofNat n).toNat = n := by
  unfold Char.ofNat
  rw [dif_pos h]
  rfl

/-- A byte of a form, from its code. -/
theorem ofNat_eq {n : Nat} {a : UInt8} (h : n = a.toNat) : UInt8.ofNat n = a := by
  rw [h, UInt8.ofNat_toNat]

section

variable {a b c d : UInt8}

theorem isTail_iff : isTail c ↔ 0x80 ≤ c.toNat ∧ c.toNat ≤ 0xbf := by
  simp [isTail, UInt8.le_iff_toNat_le]

theorem second_iff : lowest a ≤ b ∧ b ≤ highest a ↔
    0x80 ≤ b.toNat ∧ b.toNat ≤ 0xbf ∧ (a.toNat = 0xe0 → 0xa0 ≤ b.toNat) ∧
      (a.toNat = 0xed → b.toNat ≤ 0x9f) ∧ (a.toNat = 0xf0 → 0x90 ≤ b.toNat) ∧
      (a.toNat = 0xf4 → b.toNat ≤ 0x8f) := by
  have hlow : (lowest a).toNat =
      if a.toNat = 0xe0 then 0xa0 else if a.toNat = 0xf0 then 0x90 else 0x80 := by
    simp only [lowest, ← UInt8.toNat_inj, UInt8.reduceToNat, apply_ite UInt8.toNat]
  have hhigh : (highest a).toNat =
      if a.toNat = 0xed then 0x9f else if a.toNat = 0xf4 then 0x8f else 0xbf := by
    simp only [highest, ← UInt8.toNat_inj, UInt8.reduceToNat, apply_ite UInt8.toNat]
  rw [UInt8.le_iff_toNat_le, UInt8.le_iff_toNat_le, hlow, hhigh]
  grind

theorem toNat_assemble_one (ha : 0xc2 ≤ a ∧ a ≤ 0xdf) (hb : lowest a ≤ b ∧ b ≤ highest a) :
    (assemble 1 a [b]).toNat = (a.toNat - 0xc0) * 64 + (b.toNat - 0x80) ∧
      0x80 ≤ (assemble 1 a [b]).toNat ∧ (assemble 1 a [b]).toNat ≤ 0x7ff := by
  have ha : 0xc2 ≤ a.toNat ∧ a.toNat ≤ 0xdf := ha
  rw [second_iff] at hb
  have hvalid : Nat.isValidChar (a.toNat % 32 * 64 + b.toNat % 64) := .inl (by omega)
  have hcode : (assemble 1 a [b]).toNat = a.toNat % 32 * 64 + b.toNat % 64 := toNat_ofNat hvalid
  omega

theorem toNat_assemble_two (ha : 0xe0 ≤ a ∧ a ≤ 0xef) (hb : lowest a ≤ b ∧ b ≤ highest a)
    (hc : isTail c) :
    (assemble 2 a [b, c]).toNat =
        ((a.toNat - 0xe0) * 64 + (b.toNat - 0x80)) * 64 + (c.toNat - 0x80) ∧
      0x800 ≤ (assemble 2 a [b, c]).toNat ∧ (assemble 2 a [b, c]).toNat ≤ 0xffff := by
  have ha : 0xe0 ≤ a.toNat ∧ a.toNat ≤ 0xef := ha
  rw [second_iff] at hb
  rw [isTail_iff] at hc
  have hvalid : Nat.isValidChar ((a.toNat % 16 * 64 + b.toNat % 64) * 64 + c.toNat % 64) := by
    by_cases h : a.toNat ≤ 0xed
    · exact .inl (by omega)
    · exact .inr (by omega)
  have hcode : (assemble 2 a [b, c]).toNat =
      (a.toNat % 16 * 64 + b.toNat % 64) * 64 + c.toNat % 64 := toNat_ofNat hvalid
  omega

theorem toNat_assemble_three (ha : 0xf0 ≤ a ∧ a ≤ 0xf4) (hb : lowest a ≤ b ∧ b ≤ highest a)
    (hc : isTail c) (hd : isTail d) :
    (assemble 3 a [b, c, d]).toNat =
        (((a.toNat - 0xf0) * 64 + (b.toNat - 0x80)) * 64 + (c.toNat - 0x80)) * 64 +
          (d.toNat - 0x80) ∧
      0x10000 ≤ (assemble 3 a [b, c, d]).toNat := by
  have ha : 0xf0 ≤ a.toNat ∧ a.toNat ≤ 0xf4 := ha
  rw [second_iff] at hb
  rw [isTail_iff] at hc hd
  have hvalid : Nat.isValidChar
      (((a.toNat % 8 * 64 + b.toNat % 64) * 64 + c.toNat % 64) * 64 + d.toNat % 64) :=
    .inr (by omega)
  have hcode : (assemble 3 a [b, c, d]).toNat =
      ((a.toNat % 8 * 64 + b.toNat % 64) * 64 + c.toNat % 64) * 64 + d.toNat % 64 :=
    toNat_ofNat hvalid
  omega

end

/-- A character is encoded in its form. -/
theorem Form.encode {bytes : List UInt8} {x : Char} (h : Form bytes x) :
    utf8EncodeChar x = bytes := by
  have hval : x.val.toNat = x.toNat := rfl
  unfold utf8EncodeChar
  rw [hval]
  cases h with
  | one a ha =>
    have hlt : a.toNat < 128 := UInt8.lt_iff_toNat_lt.mp ha
    have hcode : (Char.ofNat a.toNat).toNat = a.toNat := toNat_ofNat (.inl (by omega))
    rw [if_pos (by omega), ofNat_eq hcode]
  | two a b ha hb =>
    obtain ⟨hcode, hlow, hhigh⟩ := toNat_assemble_one ha hb
    have ha : 0xc2 ≤ a.toNat ∧ a.toNat ≤ 0xdf := ha
    rw [second_iff] at hb
    rw [if_neg (by omega), if_pos hhigh, ofNat_eq (a := a) (by omega),
      ofNat_eq (a := b) (by omega)]
  | three a b c ha hb hc =>
    obtain ⟨hcode, hlow, hhigh⟩ := toNat_assemble_two ha hb hc
    have ha : 0xe0 ≤ a.toNat ∧ a.toNat ≤ 0xef := ha
    rw [second_iff] at hb
    rw [isTail_iff] at hc
    rw [if_neg (by omega), if_neg (by omega), if_pos hhigh, ofNat_eq (a := a) (by omega),
      ofNat_eq (a := b) (by omega), ofNat_eq (a := c) (by omega)]
  | four a b c d ha hb hc hd =>
    obtain ⟨hcode, hlow⟩ := toNat_assemble_three ha hb hc hd
    have ha : 0xf0 ≤ a.toNat ∧ a.toNat ≤ 0xf4 := ha
    rw [second_iff] at hb
    rw [isTail_iff] at hc hd
    rw [if_neg (by omega), if_neg (by omega), if_neg (by omega), ofNat_eq (a := a) (by omega),
      ofNat_eq (a := b) (by omega), ofNat_eq (a := c) (by omega), ofNat_eq (a := d) (by omega)]

/-- A small enough number is the code of the byte it is written as. -/
theorem exists_byte {n : Nat} (h : n < 256) : ∃ a : UInt8, UInt8.ofNat n = a ∧ a.toNat = n :=
  ⟨_, rfl, UInt8.toNat_ofNat_of_lt' h⟩

theorem eq_of_toNat_eq {x y : Char} (h : x.toNat = y.toNat) : x = y := by
  rw [← Char.ofNat_toNat x, h, Char.ofNat_toNat]

/-- Every character has a form: the one it is encoded in. -/
theorem form_encode (x : Char) : Form (utf8EncodeChar x) x := by
  have hvalid : x.toNat < 0xd800 ∨ 0xdfff < x.toNat ∧ x.toNat < 0x110000 := x.valid
  have hval : x.val.toNat = x.toNat := rfl
  unfold utf8EncodeChar
  rw [hval]
  dsimp only
  split
  case isTrue hone =>
    obtain ⟨a, hax, ha⟩ := exists_byte (n := x.toNat) (by omega)
    have hform := Form.one a (UInt8.lt_iff_toNat_lt.mpr (by rw [ha]; exact Nat.lt_succ_of_le hone))
    rwa [ha, Char.ofNat_toNat, ← hax] at hform
  split
  case isTrue htwo =>
    obtain ⟨a, hax, ha⟩ := exists_byte (n := x.toNat / 64 % 32 + 192) (by omega)
    obtain ⟨b, hbx, hb⟩ := exists_byte (n := x.toNat % 64 + 128) (by omega)
    have hfirst : 0xc2 ≤ a.toNat ∧ a.toNat ≤ 0xdf := by omega
    have hsecond : lowest a ≤ b ∧ b ≤ highest a := second_iff.mpr (by omega)
    have hcode := (toNat_assemble_one hfirst hsecond).1
    have hchar : assemble 1 a [b] = x := eq_of_toNat_eq (by omega)
    rw [hax, hbx, ← hchar]
    exact .two a b hfirst hsecond
  split
  case isTrue hthree =>
    obtain ⟨a, hax, ha⟩ := exists_byte (n := x.toNat / 4096 % 16 + 224) (by omega)
    obtain ⟨b, hbx, hb⟩ := exists_byte (n := x.toNat / 64 % 64 + 128) (by omega)
    obtain ⟨c, hcx, hc⟩ := exists_byte (n := x.toNat % 64 + 128) (by omega)
    have hfirst : 0xe0 ≤ a.toNat ∧ a.toNat ≤ 0xef := by omega
    have hsecond : lowest a ≤ b ∧ b ≤ highest a := second_iff.mpr (by omega)
    have hthird : isTail c := isTail_iff.mpr (by omega)
    have hcode := (toNat_assemble_two hfirst hsecond hthird).1
    have hchar : assemble 2 a [b, c] = x := eq_of_toNat_eq (by omega)
    rw [hax, hbx, hcx, ← hchar]
    exact .three a b c hfirst hsecond hthird
  case isFalse hlarge =>
    obtain ⟨a, hax, ha⟩ := exists_byte (n := x.toNat / 262144 % 8 + 240) (by omega)
    obtain ⟨b, hbx, hb⟩ := exists_byte (n := x.toNat / 4096 % 64 + 128) (by omega)
    obtain ⟨c, hcx, hc⟩ := exists_byte (n := x.toNat / 64 % 64 + 128) (by omega)
    obtain ⟨d, hdx, hd⟩ := exists_byte (n := x.toNat % 64 + 128) (by omega)
    have hfirst : 0xf0 ≤ a.toNat ∧ a.toNat ≤ 0xf4 := by omega
    have hsecond : lowest a ≤ b ∧ b ≤ highest a := second_iff.mpr (by omega)
    have hthird : isTail c := isTail_iff.mpr (by omega)
    have hfourth : isTail d := isTail_iff.mpr (by omega)
    have hcode := (toNat_assemble_three hfirst hsecond hthird hfourth).1
    have hchar : assemble 3 a [b, c, d] = x := eq_of_toNat_eq (by omega)
    rw [hax, hbx, hcx, hdx, ← hchar]
    exact .four a b c d hfirst hsecond hthird hfourth

/-- A byte of ASCII is a character of its own. -/
theorem Form.toNat_eq {bytes : List UInt8} {x : Char} {i : UInt8} (h : Form bytes x)
    (hi : i ∈ bytes) (hascii : i < 0x80) : x.toNat = i.toNat := by
  have hascii : i.toNat < 0x80 := hascii
  cases h with
  | one a ha =>
    obtain rfl := List.mem_singleton.mp hi
    exact toNat_ofNat (.inl (by omega))
  | two a b ha hb =>
    have ha : 0xc2 ≤ a.toNat := ha.1
    have hb := (second_iff.mp hb).1
    simp only [List.mem_cons, List.not_mem_nil, or_false] at hi
    rcases hi with rfl | rfl <;> omega
  | three a b c ha hb hc =>
    have ha : 0xe0 ≤ a.toNat := ha.1
    have hb := (second_iff.mp hb).1
    have hc := (isTail_iff.mp hc).1
    simp only [List.mem_cons, List.not_mem_nil, or_false] at hi
    rcases hi with rfl | rfl | rfl <;> omega
  | four a b c d ha hb hc hd =>
    have ha : 0xf0 ≤ a.toNat := ha.1
    have hb := (second_iff.mp hb).1
    have hc := (isTail_iff.mp hc).1
    have hd := (isTail_iff.mp hd).1
    simp only [List.mem_cons, List.not_mem_nil, or_false] at hi
    rcases hi with rfl | rfl | rfl | rfl <;> omega

/-- A form at the front of a text is read as its character, and reading goes on after it. -/
theorem Form.decodeFrom {bytes : List UInt8} {x : Char} (h : Form bytes x) (index : Nat)
    (rest : List UInt8) : decodeFrom index (bytes ++ rest) =
      (decodeFrom (index + bytes.length) rest).map (x :: ·) := by
  cases h with
  | one a ha => simp [Utf8.decodeFrom, ha]
  | two a b ha hb =>
    have hlead := lead?_eq_some_iff.mpr ⟨rfl, rfl, .inl ⟨rfl, ha⟩⟩
    have hlong : ¬a < 0x80 := UInt8.not_lt.mpr (UInt8.le_trans (by decide) ha.1)
    simp [Utf8.decodeFrom, hlong, hlead, hb]
  | three a b c ha hb hc =>
    have hlead := lead?_eq_some_iff.mpr ⟨rfl, rfl, .inr (.inl ⟨rfl, ha⟩)⟩
    have hlong : ¬a < 0x80 := UInt8.not_lt.mpr (UInt8.le_trans (by decide) ha.1)
    simp [Utf8.decodeFrom, hlong, hlead, hb, hc]
  | four a b c d ha hb hc hd =>
    have hlead := lead?_eq_some_iff.mpr ⟨rfl, rfl, .inr (.inr ⟨rfl, ha⟩)⟩
    have hlong : ¬a < 0x80 := UInt8.not_lt.mpr (UInt8.le_trans (by decide) ha.1)
    simp [Utf8.decodeFrom, hlong, hlead, hb, hc, hd]

/-- What a text is encoded in is read as the text. -/
theorem decodeFrom_flatMap_encode (cs : List Char) (index : Nat) :
    decodeFrom index (cs.flatMap utf8EncodeChar) = .ok cs := by
  induction cs generalizing index with
  | nil => rfl
  | cons x cs ih => rw [List.flatMap_cons, (form_encode x).decodeFrom, ih]; rfl

theorem eq_cons_of_map_eq_ok {x : Char} {outcome : Except Fault (List Char)} {cs : List Char}
    (h : outcome.map (x :: ·) = .ok cs) : ∃ rest, outcome = .ok rest ∧ cs = x :: rest := by
  cases outcome with
  | error f => cases h
  | ok rest => exact ⟨rest, rfl, (Except.ok.inj h).symm⟩

/-- Whatever can be read is what the text read from it is encoded in. -/
theorem flatMap_encode_of_decodeFrom {index : Nat} {bytes : List UInt8} {cs : List Char}
    (h : decodeFrom index bytes = .ok cs) : cs.flatMap utf8EncodeChar = bytes := by
  fun_induction decodeFrom index bytes generalizing cs with
  | case1 => cases h; rfl
  | case2 index a rest ha ih =>
    obtain ⟨cs, hrest, rfl⟩ := eq_cons_of_map_eq_ok h
    rw [List.flatMap_cons, (Form.one a ha).encode, ih hrest]
    rfl
  | case6 index a hlong low high b rest hb hlead ih =>
    obtain ⟨cs, hrest, rfl⟩ := eq_cons_of_map_eq_ok h
    obtain ⟨rfl, rfl, ha⟩ := lead?_eq_some_iff.mp hlead
    have ha : 0xc2 ≤ a ∧ a ≤ 0xdf := by simpa using ha
    rw [List.flatMap_cons, (Form.two a b ha (Decidable.not_not.mp hb)).encode, ih hrest]
    rfl
  | case9 index a hlong low high b hb c rest hc hlead hcount ih =>
    obtain ⟨cs, hrest, rfl⟩ := eq_cons_of_map_eq_ok h
    obtain ⟨rfl, rfl, ha⟩ := lead?_eq_some_iff.mp hlead
    have ha : 0xe0 ≤ a ∧ a ≤ 0xef := by simpa using ha
    rw [List.flatMap_cons, (Form.three a b c ha (Decidable.not_not.mp hb)
      (Decidable.not_not.mp hc)).encode, ih hrest]
    rfl
  | case12 index a hlong count low high hlead b hb hcount c hc hcount' d rest hd ih =>
    obtain ⟨cs, hrest, rfl⟩ := eq_cons_of_map_eq_ok h
    obtain ⟨rfl, rfl, ha⟩ := lead?_eq_some_iff.mp hlead
    have ha : 0xf0 ≤ a ∧ a ≤ 0xf4 := ((ha.resolve_left (hcount ·.1)).resolve_left (hcount' ·.1)).2
    rw [List.flatMap_cons, (Form.four a b c d ha (Decidable.not_not.mp hb)
      (Decidable.not_not.mp hc) (Decidable.not_not.mp hd)).encode, ih hrest]
    rfl
  | _ => cases h

/-- Exactly the encoding of a text is read as the text. -/
theorem decode_eq_ok_iff {bytes : List UInt8} {s : String} :
    decode bytes = .ok s ↔ s.toList.flatMap utf8EncodeChar = bytes := by
  constructor
  · intro h
    cases hread : decodeFrom 0 bytes with
    | error f => simp [decode, hread, Except.map] at h
    | ok cs =>
      have hs : s = .ofList cs := by simpa [decode, hread, Except.map, eq_comm] using h
      rw [hs, String.toList_ofList, flatMap_encode_of_decodeFrom hread]
  · rintro rfl
    simp [decode, decodeFrom_flatMap_encode, Except.map]

/-- Decoding agrees with the standard library: on what can be read, and on what cannot. -/
theorem toOption_decode (bytes : List UInt8) :
    (decode bytes).toOption = String.fromUTF8? bytes.toByteArray := by
  cases hread : decode bytes with
  | ok s =>
    have hs : s.toByteArray = bytes.toByteArray := by
      rw [← String.utf8Encode_toList, List.utf8Encode, decode_eq_ok_iff.mp hread]
    have hvalid : bytes.toByteArray.IsValidUTF8 := hs ▸ s.isValidUTF8
    rw [String.fromUTF8?, dif_pos hvalid]
    exact congrArg some (String.toByteArray_inj.mp hs)
  | error f =>
    have hinvalid : ¬bytes.toByteArray.IsValidUTF8 := by
      rintro ⟨cs, hcs⟩
      have hok := decodeFrom_flatMap_encode cs 0
      rw [← List.toByteArray_inj.mp hcs] at hok
      simp [decode, hok, Except.map] at hread
    rw [String.fromUTF8?, dif_neg hinvalid]
    rfl

end Lifeline.Text.Utf8
