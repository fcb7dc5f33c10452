import Mathlib.Data.List.Basic
import Lifeline.Proofs.Terminal.Sitting
/-! What a terminal passes on in both directions: the texts of its client's messages to the screen,
and the lines of its input to its client. -/
namespace Lifeline.Terminal

open Text (isAllBlank)

def Deed.text? : Deed → Option String
  | print text => some text
  | send _ => none

theorem screen_eq_unlines (deeds : List Deed) :
    screen deeds = Program.unlines (deeds.filterMap Deed.text?) := by
  induction deeds with
  | nil => rfl
  | cons d deeds ih =>
    cases d with
    | print text => exact congrArg (text ++ "\n" ++ ·) ih
    | send v => exact ih

theorem texts_deedsOf (s : Signal) :
    (deedsOf s).filterMap Deed.text? = (s.event?.bind Event.text?).toList := by
  cases s with
  | event e => cases e <;> rfl
  | line bytes =>
    simp only [deedsOf]
    split
    · rfl
    · split <;> rfl
  | _ => rfl

/-- The text of a line that is sent. -/
def message? (bytes : List UInt8) : Option String :=
  (wording bytes).toOption.filter (!isAllBlank ·)

theorem payloads_deedsOf (s : Signal) :
    (deedsOf s).filterMap Deed.payload? = ((s.line?.bind message?).map payload).toList := by
  cases s with
  | event e => cases e <;> rfl
  | line bytes =>
    simp only [deedsOf, Signal.line?, Option.bind_some, message?]
    cases wording bytes with
    | error fault => rfl
    | ok text =>
      cases hblank : isAllBlank text <;>
        simp [Except.toOption, Option.filter, hblank, Deed.payload?]
  | _ => rfl

theorem exists_texts {ls : List (List UInt8)}
    (h : ∀ bytes ∈ ls, ∃ text, Text.Utf8.decode bytes = .ok text) :
    ∃ texts : List String, ls.map wording = texts.map .ok := by
  induction ls with
  | nil => exact ⟨[], rfl⟩
  | cons bytes ls ih =>
    obtain ⟨hbytes, hls⟩ := List.forall_mem_cons.mp h
    obtain ⟨text, htext⟩ := exists_wording_iff.mpr hbytes
    obtain ⟨texts, htexts⟩ := ih hls
    exact ⟨text :: texts, by simp [htext, htexts]⟩

theorem filterMap_message? {ls : List (List UInt8)} {texts : List String}
    (h : ls.map wording = texts.map .ok) :
    ls.filterMap message? = texts.filter (!isAllBlank ·) := by
  have hmessage : message? = (·.toOption.filter (!isAllBlank ·)) ∘ wording := rfl
  rw [hmessage, ← List.filterMap_map, h, List.filterMap_map, ← List.filterMap_eq_filter]
  rfl

namespace Sitting

variable {v : Sitting} {input : List UInt8}

/-- What a terminal makes of readable input and of the events of its client, which started out as
`c`. -/
structure Relayed (c : Client) (input : List UInt8) (v : Sitting) : Prop where
  /-- Each signal that was heard went through the loop, and what stands below came of that. -/
  loop : Terminal.run true v.heard = (v.stage.deeds, v.stage.ending)
  /-- The texts that were taken are on the screen, each with a line end. -/
  screen : Terminal.screen v.stage.deeds = Program.unlines (v.taken.filterMap Event.text?)
  /-- They are what the client has told, and when there will be no more, all of it. -/
  taken : ∃ unread, v.told = v.taken ++ unread ∧ ((∃ s ∈ v.heard, s.endsEvents) → unread = [])
  lines : ∃ unread, Terminal.lines input = v.linesRead ++ unread
  /-- The client is what was done to it, and it answered each message that it was given. -/
  carried : v.Carried c
  /-- It was given each line that was read once, unless the line is blank, and nothing else. -/
  sent : ∃ texts : List String, v.linesRead.map wording = texts.map .ok ∧
    v.done.filterMap Doing.written? =
      (texts.filter (!isAllBlank ·)).map fun text => .ok (payload text).print
  goesOn : v.stage.ending = none ↔ ∀ s ∈ v.heard, s ≠ .interrupt ∧ ¬s.endsEvents
  /-- Until the end each text that comes is printed at once. -/
  prints : v.stage.ending = none →
    ∀ text rest, v.client.observer.readable = .text text :: rest →
      (v.meet .event).stage.deeds = v.stage.deeds ++ [.print text] ∧
        (v.meet .event).stage.ending = none

theorem prints (hnone : v.stage.ending = none) {text : String}
    {rest : List Event} (hread : v.client.observer.readable = .text text :: rest) :
    (v.meet .event).stage.deeds = v.stage.deeds ++ [.print text] ∧
      (v.meet .event).stage.ending = none := by
  have hsignal : v.stage.signal? .event = some (.event (.text text)) := by
    rw [Stage.signal?, ← client, hread]
    rfl
  simp only [meet, hear, hnone, hsignal]
  exact ⟨rfl, hnone⟩

namespace Kept

theorem texts_deeds (h : v.Kept input) :
    v.stage.deeds.filterMap Deed.text? = v.taken.filterMap Event.text? := by
  rw [h.deeds, List.filterMap_flatMap, Sitting.taken, List.filterMap_filterMap,
    List.filterMap_eq_flatMap_toList]
  exact congrArg v.heard.flatMap (funext texts_deedsOf)

theorem payloads_deeds (h : v.Kept input) :
    v.stage.deeds.filterMap Deed.payload? = (v.linesRead.filterMap message?).map payload := by
  rw [h.deeds, List.filterMap_flatMap, linesRead, List.filterMap_filterMap, List.map_filterMap,
    List.filterMap_eq_flatMap_toList]
  exact congrArg v.heard.flatMap (funext payloads_deedsOf)

/-- Readable lines do not end a sitting. -/
theorem ending_eq_none_iff (h : v.Kept input)
    (hread : ∀ bytes ∈ v.linesRead, ∃ text, Text.Utf8.decode bytes = .ok text) :
    v.stage.ending = none ↔ ∀ s ∈ v.heard, s ≠ .interrupt ∧ ¬s.endsEvents := by
  rw [h.ending, List.findSome?_eq_none_iff]
  refine forall₂_congr fun s hs => ⟨fun hnone => ?_, fun ⟨hinterrupt, hends⟩ => ?_⟩
  · obtain ⟨hinterrupt, hends, -⟩ := endingOf?_eq_none_iff.mp hnone
    exact ⟨hinterrupt, hends⟩
  · refine endingOf?_eq_none_iff.mpr ⟨hinterrupt, hends, ?_⟩
    rintro bytes rfl
    exact hread bytes (List.mem_filterMap.mpr ⟨_, hs, rfl⟩)

/-- So every line that was read stands for a text, and those that are not blank are sent. -/
theorem sent (h : v.Kept input) {c : Client} (hcarried : v.Carried c)
    (hread : ∀ bytes ∈ v.linesRead, ∃ text, Text.Utf8.decode bytes = .ok text) :
    ∃ texts : List String, v.linesRead.map wording = texts.map .ok ∧
      v.done.filterMap Doing.written? =
        (texts.filter (!isAllBlank ·)).map fun text => .ok (payload text).print := by
  obtain ⟨texts, htexts⟩ := exists_texts hread
  refine ⟨texts, htexts, ?_⟩
  rw [hcarried.sends, h.payloads_deeds, filterMap_message? htexts, List.map_map]
  rfl

end Kept

/-- Whatever comes in whatever order, a terminal with readable input prints the texts of the events
that it takes, one by one, and gives its client the lines that it reads, but no blank ones. It goes
on until it is interrupted or there are no more events, and then it has left out none. -/
theorem relayed_run (s : Program.Surroundings) (c : ConnectionConfig)
    (hinput : ∀ bytes ∈ Terminal.lines s.input, ∃ text, Text.Utf8.decode bytes = .ok text)
    (os : List Occasion) :
    ((start s c).run os).Relayed (.start c.clientConfig .subscription) s.input := by
  have h := kept_run s c os
  have hcarried := carried_run s c os
  have hread : ∀ bytes ∈ ((start s c).run os).linesRead,
      ∃ text, Text.Utf8.decode bytes = .ok text := fun bytes hbytes =>
    hinput bytes (h.lines ▸ List.mem_append_left _ hbytes)
  exact
    { loop := h.loop
      screen := by rw [screen_eq_unlines, h.texts_deeds]
      taken := ⟨_, h.told, fun hends => (h.done hends).2⟩
      lines := ⟨_, h.lines.symm⟩
      carried := hcarried
      sent := h.sent hcarried hread
      goesOn := h.ending_eq_none_iff hread
      prints := fun hnone _ _ hevents => prints hnone hevents }

/-- A line that is read before there is a connection is refused, one that is read later is queued,
and then the input ends; a message that comes behind it is printed all the same. -/
theorem relayed_run_deaf :
    let s : Program.Surroundings := ⟨fun _ => .error "no file", fun _ => .error "port in use",
      [0x68, 0x69, 0x0a, 0x6f, 0x6b, 0x0a], ⟨fun _ => true, "refused"⟩, true, none⟩
    let c := Client.start ConnectionConfig.standard.clientConfig .subscription
    let v := (start s .standard).run
      [.input, .move .begin, .move (.connection ⟨1⟩ (.dialled (.ok 0)) none), .move .takePosting,
        .input, .input, .move (.connection ⟨1⟩ (.frame (.text "there")) none),
        .move .takePosting, .event, .event]
    v.stage.takesInput = false ∧ v.stage.ending = none ∧
      v.done.filterMap Doing.written? = [.ok "\"hi\"", .ok "\"ok\""] ∧
      ((c.replay v.done).2.filterMap Occurrence.answer?).map Except.isOk = [false, true] ∧
      (c.replay v.done).1.commands = [.send "\"ok\""] ∧
      Terminal.screen v.stage.deeds = "there\n" := by
  intro s c v
  have hinput : ∀ bytes ∈ Terminal.lines s.input, ∃ text, Text.Utf8.decode bytes = .ok text := by
    intro bytes hbytes
    rcases List.mem_cons.mp hbytes with rfl | hbytes
    · exact ⟨"hi\n", by decide +kernel⟩
    · obtain rfl := List.mem_singleton.mp hbytes
      exact ⟨"ok\n", by decide +kernel⟩
  have h : v.Relayed c s.input := relayed_run s .standard hinput _
  have hheard : v.heard =
      [.line [0x68, 0x69, 0x0a], .line [0x6f, 0x6b, 0x0a], .inputEnded, .event .connected,
        .event (.text "there")] := by
    decide +kernel
  have htaken : v.taken = [.connected, .text "there"] := by
    rw [taken, hheard]
    rfl
  have hsent : (v.stage.deeds.filterMap Deed.payload?).map Json.Value.print =
      ["\"hi\"", "\"ok\""] := by
    decide +kernel
  refine ⟨by decide +kernel, h.goesOn.mpr ?_, ?_, by decide +kernel, ?_, ?_⟩
  · rw [hheard]
    decide
  · rw [h.carried.sends]
    exact (List.map_map ..).symm.trans (congrArg (List.map Except.ok) hsent)
  · rw [← h.carried.client]
    decide +kernel
  · rw [h.screen, htaken]
    decide +kernel

end Sitting

end Lifeline.Terminal
