import Lifeline.Proofs.Terminal.Relay
/-! A rehearsal is a sitting. Its host, its network and its clock only ever make their moves in one
of the orders that are possible, so whatever is true of every sitting is true of what the program
does in given surroundings. -/
namespace Lifeline

/-- What the driver, the network and the clock can make of a client. -/
inductive Client.Evolves (c : Client) : Client → Prop
  | refl : Evolves c c
  | move {d : Client} (h : Evolves c d) (m : Move) (hm : m.party ≠ .handle) :
      Evolves c (d.move m).1
  | clock {d : Client} (h : Evolves c d) (now : Instant) : Evolves c (d.setClock now)

theorem Client.Evolves.trans {c d e : Client} (h : c.Evolves d) (h' : d.Evolves e) :
    c.Evolves e := by
  induction h' with
  | refl => exact h
  | move _ m hm ih => exact ih.move m hm
  | clock _ now ih => exact ih.clock now

namespace Session

theorem mem_of_earliest? {α : Type} {es : List (α × Instant)} {e : α × Instant}
    (h : earliest? es = some e) : e ∈ es := by
  induction es with
  | nil => cases h
  | cons f rest ih =>
    unfold earliest? at h
    split at h
    · rename_i l hl
      split at h
      · cases h
        exact .tail _ (ih hl)
      · cases h
        exact .head _
    · cases h
      exact .head _

/-- Nothing that happens by itself is done to the handle. -/
def Happening.IsFree : Happening → Prop
  | move m => m.party ≠ .handle
  | _ => True

namespace World

variable {w : World} {h : Happening}

theorem isFree_of_driving? (hnext : w.driving? = some h) : h.IsFree := by
  unfold driving? at hnext
  repeat' split at hnext
  all_goals cases hnext
  all_goals simp [Happening.IsFree, Move.party]

theorem isFree_of_dialling? (hnext : w.dialling? = some h) : h.IsFree := by
  unfold dialling? at hnext
  obtain ⟨⟨id, p⟩, -, hid⟩ := Option.bind_eq_some_iff.mp hnext
  dsimp only at hid
  split at hid
  all_goals cases hid
  all_goals simp [Happening.IsFree, Move.party]

theorem isFree_of_collecting? (hnext : w.collecting? = some h) : h.IsFree := by
  unfold collecting? at hnext
  obtain ⟨⟨id, p⟩, -, hid⟩ := Option.bind_eq_some_iff.mp hnext
  cases hid
  simp [Happening.IsFree, Move.party]

theorem isFree_of_due? {due : Instant} (hnext : w.due? = some (h, due)) : h.IsFree := by
  rcases List.mem_append.mp (mem_of_earliest? hnext) with hmem | hmem
  all_goals
    obtain ⟨⟨id, due⟩, -, heq⟩ := List.mem_map.mp hmem
    cases heq
    simp [Happening.IsFree, Move.party]

theorem isFree_of_ready? (hnext : w.ready? = some h) : h.IsFree := by
  unfold ready? at hnext
  simp only [Option.orElse_eq_orElse, Option.orElse_eq_or, Option.or_eq_some_iff] at hnext
  rcases hnext with hnext | ⟨-, hnext | ⟨-, hnext | ⟨-, hnext⟩⟩⟩
  · exact isFree_of_driving? hnext
  · exact isFree_of_dialling? hnext
  · exact isFree_of_collecting? hnext
  · obtain ⟨⟨next, due⟩, hdue, hnext⟩ := Option.bind_eq_some_iff.mp hnext
    simp only [Option.ite_none_right_eq_some, Option.some.injEq] at hnext
    obtain ⟨-, rfl⟩ := hnext
    exact isFree_of_due? hdue

theorem evolves_make (w : World) {m : Move} (hm : m.party ≠ .handle) :
    w.client.Evolves (w.make m).client := by
  rw [Terminal.Sitting.client_make]
  exact Client.Evolves.refl.move m hm

theorem evolves_happen (w : World) (hfree : h.IsFree) : w.client.Evolves (w.happen h).client := by
  cases h with
  | move m => exact w.evolves_make hfree
  | arrival id => exact .refl
  | ping id due =>
    have htick : (Move.connection id .tick none).party ≠ .handle := by simp [Move.party]
    rw [happen]
    refine .trans ?_ (evolves_make _ htick)
    exact .refl

theorem evolves_settle (w : World) (n : Nat) : w.client.Evolves (w.settle n).client := by
  induction n generalizing w with
  | zero => exact .refl
  | succ n ih =>
    unfold settle
    split
    · rename_i h hready
      exact (w.evolves_happen (isFree_of_ready? hready)).trans (ih _)
    · exact .refl

/-- The network does something to a connection, and all that follows from it happens. -/
theorem evolves_connection (w : World) (id : ConnectionId) (s : Stimulus)
    (failure : Option String) (n : Nat) :
    w.client.Evolves ((w.make (.connection id s failure)).settle n).client :=
  (w.evolves_make (by simp [Move.party])).trans (evolves_settle _ n)

theorem evolves_deliver (w : World) (l : Link) (f : Frame) :
    w.client.Evolves (w.deliver l f).client :=
  w.evolves_connection l.id (.frame f) none stamina

theorem client_answerArrival (w : World) : w.answerArrival.1.client = w.client := by
  unfold answerArrival
  split <;> rfl

theorem evolves_accept (w : World) : w.client.Evolves w.accept.client := by
  have hanswer := w.client_answerArrival
  unfold accept
  split
  · rename_i w' heq
    rw [heq] at hanswer
    exact hanswer ▸ .refl
  · rename_i w' id heq
    rw [heq] at hanswer
    rw [← hanswer]
    refine .trans ?_ (evolves_connection ..)
    exact .refl

theorem evolves_breakOff (w : World) : w.client.Evolves w.breakOff.client := by
  unfold breakOff
  split
  · exact .refl
  · exact evolves_connection { w with link := none } ..

theorem evolves_foldl {α : Type} {f : World → α → World}
    (hf : ∀ (w : World) a, w.client.Evolves (f w a).client) (w : World) (as : List α) :
    w.client.Evolves (as.foldl f w).client := by
  induction as generalizing w with
  | nil => exact .refl
  | cons a as ih => exact (hf w a).trans (ih _)

theorem evolves_settleDebts (w : World) : w.client.Evolves w.settleDebts.client := by
  unfold settleDebts
  split
  · exact .refl
  · rename_i l hlink
    refine .trans ?_ (evolves_foldl (fun w f => w.evolves_deliver l f) _ _)
    exact .refl

theorem client_receive (w : World) : w.receive.1.client = w.client := by
  unfold receive
  split
  · rfl
  · split <;> rfl

end World

end Session

namespace Terminal

open Session (World)

namespace Sitting

/-- The sitting has the client and the terminal of the stage, whatever stands around these. -/
structure Shows (v : Sitting) (s : Stage) : Prop where
  client : v.client = s.world.client
  takesInput : v.stage.takesInput = s.takesInput
  input : v.stage.input = s.input
  deeds : v.stage.deeds = s.deeds
  ending : v.stage.ending = s.ending

theorem run_append (v : Sitting) (first second : List Occasion) :
    v.run (first ++ second) = (v.run first).run second :=
  List.foldl_append

theorem exists_run_of_evolves (v : Sitting) {c : Client} (h : v.client.Evolves c) :
    ∃ os world, (v.run os).stage = { v.stage with world } ∧ world.client = c := by
  induction h with
  | refl => exact ⟨[], v.stage.world, rfl, rfl⟩
  | move h m hm ih =>
    obtain ⟨os, world, hstage, rfl⟩ := ih
    refine ⟨os ++ [.move m], world.make m, ?_, client_make world m⟩
    have hmeet : (v.run os).meet (.move m) = (v.run os).make m := if_neg hm
    rw [run_append]
    exact (congrArg stage hmeet).trans (by rw [make, hstage]; rfl)
  | clock h now ih =>
    obtain ⟨os, world, hstage, rfl⟩ := ih
    refine ⟨os ++ [.clock now], world.setClock now, ?_, rfl⟩
    rw [run_append]
    exact congrArg (fun s : Stage => { s with world := s.world.setClock now }) hstage

namespace Shows

variable {v : Sitting} {s t : Stage} {o : Occasion} {signal : Signal}

theorem evolve (h : v.Shows s) (hw : s.world.client.Evolves t.world.client)
    (ht : t.takesInput = s.takesInput ∧ t.input = s.input ∧ t.deeds = s.deeds ∧
      t.ending = s.ending) : ∃ os, (v.run os).Shows t := by
  obtain ⟨htakes, hinput, hdeeds, hending⟩ := ht
  obtain ⟨os, world, hstage, hclient⟩ := v.exists_run_of_evolves (h.client ▸ hw)
  refine ⟨os, ?_⟩
  exact
    { client := by rw [Sitting.client, hstage, hclient]
      takesInput := by rw [hstage, htakes, h.takesInput]
      input := by rw [hstage, hinput, h.input]
      deeds := by rw [hstage, hdeeds, h.deeds]
      ending := by rw [hstage, hending, h.ending] }

theorem signal? (h : v.Shows s) (o : Occasion) : v.stage.signal? o = s.signal? o := by
  have hclient : v.stage.world.client = s.world.client := h.client
  cases o <;> simp only [Stage.signal?, hclient, h.takesInput, h.input]

theorem taking (h : v.Shows s) (o : Occasion) :
    Shows { v with stage := v.stage.taking o } (s.taking o) := by
  cases o with
  | event => exact { h with client := congrArg Client.read h.client }
  | input => exact { h with input := congrArg List.tail h.input }
  | _ => exact { h with }

theorem hear (h : v.Shows s) (hnone : s.ending = none) (hsignal : s.signal? o = some signal) :
    (v.hear o).Shows ((s.taking o).hear signal) := by
  have hquiet := h.ending.trans hnone
  have hsignal' := (h.signal? o).trans hsignal
  have htakes := Stage.takes_of_signal? hsignal
  have htakes' := Stage.takes_of_signal? hsignal'
  have htaking := h.taking o
  have hclient : (v.stage.taking o).world.client = (s.taking o).world.client := htaking.client
  rw [hear_eq hquiet hsignal', htakes'.hear_eq hquiet, htakes.hear_eq hnone]
  exact
    { client := by
        rw [Sitting.client, Stage.client_foldl_act, Stage.client_foldl_act, hclient]
      takesInput := congrArg (· && signal != .inputEnded) h.takesInput
      input := htaking.input
      deeds := congrArg (· ++ deedsOf signal) h.deeds
      ending := rfl }

/-! ## What a stage does next -/

theorem attend (h : v.Shows s) (host : Host) : ∃ os, (v.run os).Shows (s.attend host) := by
  have hdebts := s.world.evolves_settleDebts
  have hreceive := s.world.settleDebts.client_receive
  unfold Stage.attend
  split
  · rename_i w text hw
    rw [hw] at hreceive
    have hevolves : s.world.client.Evolves w.client := hreceive ▸ hdebts
    split
    · exact h.evolve hevolves ⟨rfl, rfl, rfl, rfl⟩
    · split
      · exact h.evolve hevolves ⟨rfl, rfl, rfl, rfl⟩
      · refine h.evolve ?_ ⟨rfl, rfl, rfl, rfl⟩
        exact hevolves.trans ({ w with listening := false }.evolves_breakOff)
  · rename_i w a hother hw
    rw [hw] at hreceive
    exact h.evolve (hreceive ▸ hdebts) ⟨rfl, rfl, rfl, rfl⟩

theorem hosting? (h : v.Shows s) (hnone : s.ending = none) (hnext : s.hosting? = some t) :
    ∃ os, (v.run os).Shows t := by
  unfold Stage.hosting? at hnext
  split at hnext
  · rename_i host hhost
    split at hnext
    · cases hnext
    · cases hnext
      refine h.evolve ?_ ⟨rfl, rfl, rfl, rfl⟩
      refine s.world.evolves_accept.trans (Session.World.evolves_foldl (fun w text => ?_) _ _)
      cases w.link with
      | none => exact .refl
      | some l => exact w.evolves_deliver l (.text text)
  · split at hnext
    · cases hnext
    · cases hnext
      exact h.attend _
  · cases hnext
    have hover : v.Shows { s with host := .over } := { h with }
    exact ⟨[.interrupt], hover.hear (o := .interrupt) hnone rfl⟩
  · cases hnext

theorem hearEvent? (h : v.Shows s) (hnone : s.ending = none) (hnext : s.hearEvent? = some t) :
    ∃ os, (v.run os).Shows t := by
  obtain ⟨e, he, rfl⟩ := Option.map_eq_some_iff.mp hnext
  refine ⟨[.event], h.hear (o := .event) hnone ?_⟩
  rw [Stage.signal?, he]
  rfl

theorem hearInput (h : v.Shows s) (hnone : s.ending = none) (hinput : s.hasInput) :
    ∃ os, (v.run os).Shows s.hearInput := by
  have htakes : s.takesInput := (Bool.and_eq_true_iff.mp hinput).1
  refine ⟨[.input], ?_⟩
  obtain ⟨world, host, heard, takesInput, input, deeds, ending⟩ := s
  cases input with
  | nil => exact h.hear (o := .input) hnone (if_pos htakes)
  | cons bytes rest => exact h.hear (o := .input) hnone (if_pos htakes)

theorem next? (h : v.Shows s) (hnext : s.next? = some t) : ∃ os, (v.run os).Shows t := by
  unfold Stage.next? at hnext
  split at hnext
  · cases hnext
  · rename_i hending
    have hnone : s.ending = none := by simpa using hending
    split at hnext
    · rename_i happening hready
      cases hnext
      refine h.evolve (s.world.evolves_happen ?_) ⟨rfl, rfl, rfl, rfl⟩
      simp only [Option.orElse_eq_orElse, Option.orElse_eq_or, Option.or_eq_some_iff] at hready
      rcases hready with hready | ⟨-, hready⟩
      · exact Session.World.isFree_of_driving? hready
      · exact Session.World.isFree_of_collecting? hready
    · simp only [Option.orElse_eq_orElse, Option.orElse_eq_or, Option.or_eq_some_iff,
        Option.ite_none_right_eq_some, Option.some.injEq] at hnext
      rcases hnext with hnext | ⟨-, hnext | ⟨hread, ⟨hinput, rfl⟩ | ⟨-, hnext⟩⟩⟩
      · exact h.hosting? hnone hnext
      · exact h.hearEvent? hnone hnext
      · exact h.hearInput hnone hinput
      · rcases hnext with hnext | ⟨-, ⟨hdriver, rfl⟩ | ⟨-, hnext⟩⟩
        · obtain ⟨happening, hready, rfl⟩ := Option.map_eq_some_iff.mp hnext
          exact h.evolve (s.world.evolves_happen (Session.World.isFree_of_ready? hready))
            ⟨rfl, rfl, rfl, rfl⟩
        · have hempty : s.world.client.observer.readable = [] :=
            List.head?_eq_none_iff.mp (Option.map_eq_none_iff.mp hread)
          exact ⟨[.eventsEnded], h.hear (o := .eventsEnded) hnone (if_pos ⟨hdriver, hempty⟩)⟩
        · obtain ⟨⟨happening, due⟩, hdue, rfl⟩ := Option.map_eq_some_iff.mp hnext
          exact h.evolve (Client.Evolves.refl.clock due) ⟨rfl, rfl, rfl, rfl⟩

theorem play (h : v.Shows s) (n : Nat) : ∃ os, (v.run os).Shows (s.play n) := by
  induction n generalizing v s with
  | zero => exact ⟨[], h⟩
  | succ n ih =>
    unfold Stage.play
    split
    · rename_i t hnext
      obtain ⟨first, hfirst⟩ := h.next? hnext
      obtain ⟨second, hsecond⟩ := ih hfirst
      exact ⟨first ++ second, by rwa [run_append]⟩
    · exact ⟨[], h⟩

end Shows

end Sitting

end Terminal

end Lifeline
