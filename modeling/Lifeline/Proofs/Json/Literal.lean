import Mathlib.Data.List.Forall2
import Lifeline.Json.Printer
import Lifeline.Json.Reader
/-! String literals. A character may be spelled in several ways: as it is, with a short escape, or
with its code in four hexadecimal digits. The printer chooses one of these spellings for each
character, and the reader takes any spelling back to its character. -/
namespace Lifeline.Json

/-- The letters of the short escapes and the characters that they stand for. -/
def shortEscapes : List (Char × Char) :=
  [('"', '"'), ('\\', '\\'), ('/', '/'), ('b', '\x08'), ('f', '\x0c'), ('n', '\n'), ('r', '\r'),
    ('t', '\t')]

/-- A way to write a character inside a string literal. -/
inductive Spelling : Char → List Char → Prop
  | plain {c : Char} (hcontrol : 32 ≤ c.toNat) (hquote : c ≠ '"') (hescape : c ≠ '\\') :
      Spelling c [c]
  | short {letter c : Char} (h : (letter, c) ∈ shortEscapes) : Spelling c ['\\', letter]
  | code {w x y z c : Char} (h : unit? w x y z = some c.toNat) :
      Spelling c ['\\', 'u', w, x, y, z]

/-- A text in quotation marks, with each character spelled in some way. -/
def IsLiteral (s : String) (cs : List Char) : Prop :=
  ∃ spellings, List.Forall₂ Spelling s.toList spellings ∧
    cs = '"' :: spellings.flatten ++ ['"']

theorem unit?_hexDigit : ∀ n < 32,
    unit? '0' '0' (hexDigit (n / 16)) (hexDigit (n % 16)) = some n := by
  decide +kernel

theorem spelling_escape (c : Char) : Spelling c (escape c) := by
  unfold escape
  -- the seven characters with a short escape
  iterate 7
    split
    · subst_vars
      exact .short (by decide)
  split
  · rename_i h
    exact .code (unit?_hexDigit c.toNat h)
  · rename_i hquote hescape _ _ _ _ _ hcontrol
    exact .plain (Nat.not_lt.mp hcontrol) hquote hescape

theorem forall₂_spelling_escape (cs : List Char) : List.Forall₂ Spelling cs (cs.map escape) := by
  rw [List.forall₂_map_right_iff, List.forall₂_same]
  exact fun c _ => spelling_escape c

/-- The printer writes string literals. -/
theorem isLiteral_literal (s : String) : IsLiteral s (literal s) :=
  ⟨s.toList.map escape, forall₂_spelling_escape s.toList, by rw [literal, List.flatMap_def]⟩

theorem simpleEscape?_of_mem {letter c : Char} (h : (letter, c) ∈ shortEscapes) :
    letter ≠ 'u' ∧ simpleEscape? letter = some c := by
  simp only [shortEscapes, List.mem_cons, Prod.mk.injEq, List.not_mem_nil, or_false] at h
  rcases h with ⟨rfl, rfl⟩ | ⟨rfl, rfl⟩ | ⟨rfl, rfl⟩ | ⟨rfl, rfl⟩ | ⟨rfl, rfl⟩ | ⟨rfl, rfl⟩ |
    ⟨rfl, rfl⟩ | ⟨rfl, rfl⟩ <;> decide

/-- The reader takes a spelling back to its character. -/
theorem stringBody_spelling {c : Char} {spelling : List Char} (h : Spelling c spelling)
    (rest : List Char) :
    stringBody (spelling ++ rest) = (stringBody rest).map fun (s, r) => (c :: s, r) := by
  cases h with
  | plain hcontrol hquote hescape =>
    have hprinted : ¬c.toNat < 32 := Nat.not_lt.mpr hcontrol
    rw [List.singleton_append, stringBody, if_neg hprinted]
    all_goals simp_all
  | short h =>
    obtain ⟨hu, hsimple⟩ := simpleEscape?_of_mem h
    rw [List.cons_append, List.singleton_append, stringBody, hsimple, Option.bind_some]
    exact fun _ _ _ _ _ hletter => absurd hletter hu
  | code h =>
    simp only [List.cons_append, List.nil_append]
    rw [stringBody, h, Option.bind_some, Text.scalar?_toNat]

theorem stringBody_spellings {cs : List Char} {spellings : List (List Char)}
    (h : List.Forall₂ Spelling cs spellings) (rest : List Char) :
    stringBody (spellings.flatten ++ '"' :: rest) = some (cs, rest) := by
  induction h with
  | nil => simp [stringBody]
  | cons hc _ ih =>
    rw [List.flatten_cons, List.append_assoc, stringBody_spelling hc, ih]
    rfl

/-- What the printer puts between quotation marks is read back. -/
theorem stringBody_literal (s : String) (rest : List Char) :
    stringBody (s.toList.flatMap escape ++ ['"'] ++ rest) = some (s.toList, rest) := by
  rw [List.append_assoc, List.singleton_append, List.flatMap_def]
  exact stringBody_spellings (forall₂_spelling_escape s.toList) rest

end Lifeline.Json
