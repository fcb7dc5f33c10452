import Lifeline.Proofs.Json.RoundTrip
import Lifeline.Proofs.Text.Utf8
import Lifeline.Terminal.Basic
/-! What was sent can be sent again. A line that is not JSON goes out as a string literal of itself,
and one that is JSON without doubles as its value. Either way the text that goes out is a line of
its own, and goes out unchanged when it comes in. -/
namespace Lifeline

open Json (Clean IsLiteral IsMark Orderly)
open String (utf8EncodeChar)

theorem Text.isBlank_of_isMark {c : Char} (h : IsMark c) : isBlank c = false := by
  have hranges : ∀ range ∈ blankRanges, range.2 ≤ 32 ∨ 127 ≤ range.1 := by decide
  refine List.any_eq_false.mpr fun range hrange => ?_
  obtain ⟨hlow, hhigh⟩ := h
  have houtside := hranges range hrange
  simp only [Bool.and_eq_true, decide_eq_true_eq]
  omega

namespace Terminal

/-! ## Lines -/

theorem lines_concat {bytes : List UInt8} (h : 0x0a ∉ bytes) :
    lines (bytes ++ [0x0a]) = [bytes ++ [0x0a]] := by
  induction bytes with
  | nil => rfl
  | cons b rest ih =>
    have hb : b ≠ 0x0a := fun heq => h (heq ▸ .head _)
    rw [List.cons_append, lines, if_neg hb, ih fun hrest => h (.tail _ hrest)]

theorem not_mem_flatMap_of_clean {cs : List Char} (h : Clean cs) :
    0x0a ∉ cs.flatMap utf8EncodeChar := by
  intro hmem
  obtain ⟨c, hc, hmem⟩ := List.mem_flatMap.mp hmem
  have hcode : c.toNat = 0x0a := (Text.Utf8.form_encode c).toNat_eq hmem (by decide)
  exact absurd (h c hc) (by rw [hcode]; decide)

theorem chomp_concat {cs : List Char} (h : Clean cs) :
    chomp (String.ofList (cs ++ ['\n'])) = String.ofList cs := by
  have hreverse : (String.ofList (cs ++ ['\n'])).toList.reverse = '\n' :: cs.reverse := by simp
  unfold chomp
  rw [hreverse]
  split
  · rename_i r heq
    have hreturn : '\r' ∈ cs := by
      rw [← List.mem_reverse, (List.cons.inj heq).2]
      exact .head _
    exact absurd (h '\r' hreturn) (by decide)
  · rename_i r heq
    rw [← (List.cons.inj heq).2, List.reverse_reverse]
  · rename_i hnone
    exact absurd rfl (hnone _)

/-- The bytes of a line that holds this text. -/
def lineOf (text : String) : List UInt8 := text.toList.flatMap utf8EncodeChar ++ [0x0a]

/-- A printed value makes up one line, and its payload is sent when the line comes in. -/
theorem step_lineOf_print {depth : Nat} {v : Json.Value} (h : Orderly depth v)
    (hfloat : v.isFloatless) :
    (lines (lineOf v.print)).map (fun l => step true (.line l)) =
      [([.send (payload v.print)], .ok true)] := by
  have hclean := Json.clean_chars h hfloat
  have hlines : lines (lineOf v.print) = [lineOf v.print] := by
    rw [lineOf, Json.Value.print, String.toList_ofList]
    exact lines_concat (not_mem_flatMap_of_clean hclean)
  have hdecode : Text.Utf8.decode (lineOf v.print) = .ok (String.ofList (v.chars ++ ['\n'])) := by
    rw [Text.Utf8.decode_eq_ok_iff, String.toList_ofList, List.flatMap_append, lineOf,
      Json.Value.print, String.toList_ofList]
    rfl
  have hchomp : (Text.Utf8.decode (lineOf v.print)).map chomp = .ok v.print := by
    rw [hdecode, Except.map, chomp_concat hclean, Json.Value.print]
  have hblank : Text.isAllBlank v.print = false := by
    obtain ⟨c, cs, hcs, hmark, -⟩ := Json.exists_chars_eq_cons hfloat
    rw [Text.isAllBlank, Json.Value.print, String.toList_ofList, hcs, List.all_cons,
      Text.isBlank_of_isMark hmark, Bool.false_and]
  simp only [hlines, List.map_cons, List.map_nil, step, hchomp, hblank]
  rfl

/-! ## Payloads -/

theorem payload_of_parse_none {line : String} (h : Json.parse line = none) :
    payload line = .text line := by
  rw [payload, h, Option.getD_none]

theorem payload_of_parse_some {line : String} {v : Json.Value} (h : Json.parse line = some v) :
    payload line = v := by
  rw [payload, h, Option.getD_some]

theorem orderly_payload (line : String) : Orderly Json.maxDepth (payload line) := by
  cases hline : Json.parse line with
  | none => exact payload_of_parse_none hline ▸ .text
  | some v => exact payload_of_parse_some hline ▸ Json.orderly_of_parse hline

/-- A line that is not JSON is sent as a string literal that is read back to the line, and JSON
without doubles as a text that is read back to its value. Sending such a text again, or typing it
in, sends the same text. -/
theorem payload_print (line : String) :
    (Json.parse line = none →
      payload line = .text line ∧ IsLiteral line (payload line).print.toList ∧
        Json.parse (payload line).print = some (.text line)) ∧
    (∀ v, Json.parse line = some v → v.isFloatless →
      payload line = v ∧ Json.parse (payload line).print = some v) ∧
    (Json.parse line = none ∨ (payload line).isFloatless →
      payload (payload line).print = payload line ∧
        (payload (payload line).print).print = (payload line).print ∧
        (lines (lineOf (payload line).print)).map (fun l => step true (.line l)) =
          [([.send (payload line)], .ok true)]) := by
  have horderly := orderly_payload line
  refine ⟨fun hline => ?_, fun v hline hfloat => ?_, fun h => ?_⟩
  · rw [payload_of_parse_none hline]
    refine ⟨rfl, ?_, Json.parse_print .text rfl⟩
    rw [Json.Value.print, String.toList_ofList]
    exact Json.isLiteral_literal line
  · rw [payload_of_parse_some hline] at horderly ⊢
    exact ⟨rfl, Json.parse_print horderly hfloat⟩
  · have hfloat : (payload line).isFloatless := by
      rcases h with hline | hfloat
      · rw [payload_of_parse_none hline]
        rfl
      · exact hfloat
    have hagain := payload_of_parse_some (Json.parse_print horderly hfloat)
    refine ⟨hagain, congrArg Json.Value.print hagain, ?_⟩
    rw [step_lineOf_print horderly hfloat, hagain]

/-- An object whose members come out of order and one of them twice, and a line that is no JSON. -/
theorem payload_print_reordered :
    ((payload "\x7b\"b\": 1, \"a\": [-2], \"b\": true\x7d").isFloatless ∧
      Json.parse (payload "\x7b\"b\": 1, \"a\": [-2], \"b\": true\x7d").print =
        Json.parse "\x7b\"b\": 1, \"a\": [-2], \"b\": true\x7d" ∧
      (payload "\x7b\"b\": 1, \"a\": [-2], \"b\": true\x7d").print =
        "\x7b\"a\":[-2],\"b\":true\x7d") ∧
      (Json.parse "say \"stop\"" = none ∧
        (payload (payload "say \"stop\"").print).print = "\"say \\\"stop\\\"\"") := by
  have hread : (Json.parse "\x7b\"b\": 1, \"a\": [-2], \"b\": true\x7d").map
      (fun v => (v.isFloatless, v.print)) = some (true, "\x7b\"a\":[-2],\"b\":true\x7d") := by
    decide +kernel
  obtain ⟨v, hv, hpair⟩ := Option.map_eq_some_iff.mp hread
  obtain ⟨hfloat, hprint⟩ := Prod.mk.inj hpair
  have hnone : Json.parse "say \"stop\"" = none :=
    Option.isNone_iff_eq_none.mp (by decide +kernel)
  have hliteral : (payload "say \"stop\"").print = "\"say \\\"stop\\\"\"" := by decide +kernel
  obtain ⟨-, hjson, -⟩ := payload_print "\x7b\"b\": 1, \"a\": [-2], \"b\": true\x7d"
  obtain ⟨-, -, hagain⟩ := payload_print "say \"stop\""
  obtain ⟨hpayload, hback⟩ := hjson v hv hfloat
  exact ⟨⟨hpayload ▸ hfloat, hback.trans hv.symm, hpayload ▸ hprint⟩, hnone,
    (hagain (.inl hnone)).2.1.trans hliteral⟩

end Terminal

end Lifeline
