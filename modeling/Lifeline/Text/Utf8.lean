import Lifeline.Text.Reader
/-! Decoding UTF-8. A fault names the first byte that belongs to no character, and how many bytes
there cannot start one; the count is missing when the text just ends too early. -/
namespace Lifeline.Text.Utf8

structure Fault where
  index : Nat
  length : Option Nat
deriving DecidableEq, Repr

def Fault.message (f : Fault) : String :=
  match f.length with
  | some n => "invalid utf-8 sequence of " ++ n.repr ++ " bytes from index " ++ f.index.repr
  | none => "incomplete utf-8 byte sequence from index " ++ f.index.repr

/-- For the first byte of a longer character: how many bytes follow, and the range of the first of
these. The ranges leave out overlong forms, surrogates and codes beyond the last character. -/
def lead? (b : UInt8) : Option (Nat × UInt8 × UInt8) :=
  if 0xc2 ≤ b ∧ b ≤ 0xdf then some (1, 0x80, 0xbf)
  else if b = 0xe0 then some (2, 0xa0, 0xbf)
  else if b = 0xed then some (2, 0x80, 0x9f)
  else if 0xe1 ≤ b ∧ b ≤ 0xef then some (2, 0x80, 0xbf)
  else if b = 0xf0 then some (3, 0x90, 0xbf)
  else if 0xf1 ≤ b ∧ b ≤ 0xf3 then some (3, 0x80, 0xbf)
  else if b = 0xf4 then some (3, 0x80, 0x8f)
  else none

def isTail (b : UInt8) : Bool := 0x80 ≤ b && b ≤ 0xbf

/-- The character made of a first byte's low bits and six bits of each further byte. -/
def assemble (count : Nat) (first : UInt8) (tails : List UInt8) : Char :=
  Char.ofNat (tails.foldl (fun n b => n * 64 + b.toNat % 64) (first.toNat % Nat.pow 2 (6 - count)))

/-- The characters of a text whose first byte has the given index. -/
def decodeFrom (index : Nat) : List UInt8 → Except Fault (List Char)
  | [] => .ok []
  | a :: rest =>
    if a < 0x80 then (decodeFrom (index + 1) rest).map (Char.ofNat a.toNat :: ·)
    else
      match lead? a with
      | none => .error ⟨index, some 1⟩
      | some (count, low, high) =>
        match rest with
        | [] => .error ⟨index, none⟩
        | b :: rest =>
          if ¬(low ≤ b ∧ b ≤ high) then .error ⟨index, some 1⟩
          else if count = 1 then
            (decodeFrom (index + 2) rest).map (assemble 1 a [b] :: ·)
          else
            match rest with
            | [] => .error ⟨index, none⟩
            | c :: rest =>
              if ¬isTail c then .error ⟨index, some 2⟩
              else if count = 2 then
                (decodeFrom (index + 3) rest).map (assemble 2 a [b, c] :: ·)
              else
                match rest with
                | [] => .error ⟨index, none⟩
                | d :: rest =>
                  if ¬isTail d then .error ⟨index, some 3⟩
                  else (decodeFrom (index + 4) rest).map (assemble 3 a [b, c, d] :: ·)

def decode (bytes : List UInt8) : Except Fault String := (decodeFrom 0 bytes).map String.ofList

example : decode [0xc3, 0xa9] = .ok "é" := by rfl
example : decode [0x61, 0xed, 0xa0, 0x80] = .error ⟨1, some 1⟩ := by rfl
example : decode [0xf0, 0x9f] = .error ⟨0, none⟩ := by rfl

end Lifeline.Text.Utf8
