import Lifeline.Program
import Lifeline.Proofs.Client.Replay
/-! A sitting at the terminal. Its client, its input and whoever interrupts it are free to come in
any order: what happens is a list of occasions, and a statement about all lists of occasions covers
every interleaving. What the terminal heard, what its client told and what was done to the client is
written down, and it is shown that the terminal has done about each signal what it should, missed no
event and no line, and heard nothing more once it had come to an end. -/
namespace Lifeline

open Session (World)
open Text (isAllBlank)

def Event.text? : Event → Option String
  | .text s => some s
  | _ => none

namespace Signal

def event? : Signal → Option Event
  | event e => some e
  | _ => none

def line? : Signal → Option (List UInt8)
  | line bytes => some bytes
  | _ => none

/-- There will be no more events. -/
def endsEvents : Signal → Bool
  | event (.gaveUp _) => true
  | event _ => false
  | eventsEnded => true
  | line _ | inputEnded | interrupt => false

end Signal

namespace Terminal

/-- The text of a line of input, without its line end. -/
def wording (bytes : List UInt8) : Except Text.Utf8.Fault String :=
  (Text.Utf8.decode bytes).map chomp

def Deed.payload? : Deed → Option Json.Value
  | print _ => none
  | send v => some v

/-- What a deed does to the client. -/
def Deed.doing? : Deed → Option Doing
  | print _ => none
  | send v => some (.move (.send (.ok v.print)))

/-- How a signal ends the sitting, if it does. -/
def endingOf? : Signal → Option Ending
  | .event (.gaveUp attempts) => some (.gaveUp attempts)
  | .event _ => none
  | .eventsEnded => some .closing
  | .line bytes =>
    match wording bytes with
    | .error fault => some (.unreadable fault)
    | .ok _ => none
  | .inputEnded => none
  | .interrupt => some .closing

/-- What a signal makes the terminal do: a text is printed, a line that is not blank is sent. -/
def deedsOf : Signal → List Deed
  | .event (.text text) => [.print text]
  | .event _ => []
  | .line bytes =>
    match wording bytes with
    | .error _ => []
    | .ok text => if isAllBlank text then [] else [.send (payload text)]
  | .eventsEnded | .inputEnded | .interrupt => []

/-- How the terminal leaves its client. -/
def Ending.farewell : Ending → Move
  | closing => .shutdown
  | gaveUp _ => .dropHandle
  | unreadable _ => .dropHandle

/-! ## One signal -/

theorem exists_wording_iff {bytes : List UInt8} :
    (∃ text, wording bytes = .ok text) ↔ ∃ text, Text.Utf8.decode bytes = .ok text := by
  cases h : Text.Utf8.decode bytes <;> simp [wording, h, Except.map]

theorem endingOf?_eq_none_iff {s : Signal} :
    endingOf? s = none ↔
      s ≠ .interrupt ∧ ¬s.endsEvents ∧
        ∀ bytes, s = .line bytes → ∃ text, Text.Utf8.decode bytes = .ok text := by
  cases s with
  | event e => cases e <;> simp [endingOf?, Signal.endsEvents]
  | line bytes =>
    simp only [endingOf?, ← exists_wording_iff]
    cases h : wording bytes <;> simp [h, Signal.endsEvents]
  | _ => simp [endingOf?, Signal.endsEvents]

/-- A line is only heard while input is taken. -/
theorem step_eq {takesInput : Bool} {s : Signal} (h : takesInput ∨ s.line? = none) :
    step takesInput s =
      (deedsOf s,
        match endingOf? s with
        | some e => .error e
        | none => .ok (takesInput && s != .inputEnded)) := by
  cases s with
  | event e => cases e <;> simp [step, deedsOf, endingOf?]
  | line bytes =>
    obtain rfl : takesInput = true := h.resolve_right (by simp [Signal.line?])
    simp only [step, deedsOf, endingOf?, wording]
    cases (Text.Utf8.decode bytes).map chomp <;> simp
  | _ => simp [step, deedsOf, endingOf?]

/-- Input is taken until it has ended. -/
theorem takesInput_of_step {takesInput next : Bool} {s : Signal} {deeds : List Deed}
    (h : step takesInput s = (deeds, .ok next)) : next = (takesInput && s != .inputEnded) := by
  cases s with
  | event e => cases e <;> simp_all [step]
  | line bytes =>
    simp only [step] at h
    split at h
    · split at h
      · cases h
      · cases h
        simp_all
    · cases h
      simp_all
  | inputEnded =>
    cases h
    simp
  | _ => cases h

theorem run_concat {takesInput : Bool} {signals : List Signal} {deeds : List Deed}
    (h : run takesInput signals = (deeds, none)) (s : Signal) :
    run takesInput (signals ++ [s]) =
      (deeds ++ (step (takesInput && !signals.contains .inputEnded) s).1,
        match (step (takesInput && !signals.contains .inputEnded) s).2 with
        | .error e => some e
        | .ok _ => none) := by
  induction signals generalizing takesInput deeds with
  | nil =>
    cases h
    simp only [List.nil_append, List.contains_nil, Bool.not_false, Bool.and_true, run]
    split <;> simp [*]
  | cons t signals ih =>
    rw [List.cons_append, run]
    rw [run] at h
    split at h
    · cases h
    · rename_i now next hstep
      obtain ⟨rfl, hlater⟩ := Prod.mk.inj h
      have hrun : run next signals = ((run next signals).1, none) := Prod.ext rfl hlater
      have hstill : (next && !signals.contains .inputEnded) =
          (takesInput && !(t :: signals).contains .inputEnded) := by
        rw [takesInput_of_step hstep, List.contains_cons, Bool.not_or, Bool.and_assoc, bne_comm]
        rfl
      rw [ih hrun, hstill]
      simp only [List.append_assoc]

/-! ## Occasions -/

inductive Occasion
  /-- The driver or the network of the client makes a move. -/
  | move (m : Move)
  | clock (now : Instant)
  | event
  | eventsEnded
  | input
  | interrupt
  /-- A terminal that has come to its end lets go of its client. -/
  | leave

/-- How the reader of the events has a part in it. -/
def Occasion.doing? : Occasion → Option Doing
  | event => some .read
  | _ => none

namespace Stage

/-- What there is to hear. The events end behind the last one of a client that has stopped. -/
def signal? (s : Stage) : Occasion → Option Signal
  | .event => s.world.client.observer.readable.head?.map .event
  | .eventsEnded =>
    if s.world.client.driver = .stopped ∧ s.world.client.observer.readable = [] then
      some .eventsEnded
    else none
  | .input => if s.takesInput then some ((s.input.head?.map .line).getD .inputEnded) else none
  | .interrupt => some .interrupt
  | _ => none

/-- What is heard is taken from where it waited. -/
def taking (s : Stage) : Occasion → Stage
  | .event => { s with world := { s.world with client := s.world.client.read } }
  | .input => { s with input := s.input.tail }
  | _ => s

end Stage

/-- A stage, all events that its client has told, all signals that its terminal has heard, and all
that was done to the client. -/
structure Sitting where
  stage : Stage
  told : List Event
  heard : List Signal
  done : List Doing

namespace Sitting

def start (s : Program.Surroundings) (c : ConnectionConfig) : Sitting :=
  ⟨s.stage (.start c.clientConfig .subscription), [], [], []⟩

def make (v : Sitting) (m : Move) : Sitting :=
  let (world, seen) := v.stage.world.move m
  { v with
    stage := { v.stage with world }
    told := v.told ++ seen.filterMap Occurrence.event?
    done := v.done ++ [.move m] }

/-- Until its end the terminal hears what there is to hear. -/
def hear (v : Sitting) (o : Occasion) : Sitting :=
  match v.stage.ending, v.stage.signal? o with
  | none, some signal =>
    { v with
      stage := (v.stage.taking o).hear signal
      heard := v.heard ++ [signal]
      done := v.done ++ (o.doing?.toList ++ (deedsOf signal).filterMap Deed.doing?) }
  | _, _ => v

def meet (v : Sitting) : Occasion → Sitting
  | .move m => if m.party = .handle then v else v.make m
  | .clock now =>
    { v with
      stage := { v.stage with world := v.stage.world.setClock now }
      done := v.done ++ [.clock now] }
  | .leave =>
    match v.stage.ending with
    | some e => v.make e.farewell
    | none => v
  | o => v.hear o

def run (v : Sitting) (os : List Occasion) : Sitting := os.foldl meet v

def client (v : Sitting) : Client := v.stage.world.client

/-- The events that the terminal has taken. -/
def taken (v : Sitting) : List Event := v.heard.filterMap Signal.event?

/-- The lines that the terminal has read. -/
def linesRead (v : Sitting) : List (List UInt8) := v.heard.filterMap Signal.line?

/-- What a sitting keeps of what it was given and of what has happened. -/
structure Kept (input : List UInt8) (v : Sitting) : Prop where
  /-- The reader stands where the events that it took have led. -/
  course : ∃ i, Juncture.between.after? v.taken = some i ∧ v.client.Chronicled i
  told : v.told = v.taken ++ v.client.observer.readable
  lines : v.linesRead ++ v.stage.input = Terminal.lines input
  takesInput : v.stage.takesInput = !v.heard.contains .inputEnded
  /-- All that was heard went through the loop of the terminal. -/
  loop : Terminal.run true v.heard = (v.stage.deeds, v.stage.ending)
  deeds : v.stage.deeds = v.heard.flatMap deedsOf
  ending : v.stage.ending = v.heard.findSome? endingOf?
  /-- Nothing is heard behind the end. -/
  going : ∀ s ∈ v.heard.dropLast, endingOf? s = none
  done : (∃ s ∈ v.heard, s.endsEvents) →
    v.client.driver = .stopped ∧ v.client.observer.readable = []
  held : v.stage.ending = none → v.client.hasHandle

/-! ## Worlds -/

theorem client_witness (w : World) (o : Occurrence) : (w.witness o).client = w.client := by
  unfold World.witness
  split <;> rfl

theorem client_make (w : World) (m : Move) : (w.make m).client = (w.client.move m).1 := by
  have hseen (w : World) (os : List Occurrence) :
      (os.foldl World.witness w).client = w.client := by
    induction os generalizing w with
    | nil => rfl
    | cons o os ih => rw [List.foldl_cons, ih, client_witness]
  exact hseen _ _

end Sitting

namespace Stage

/-! ## What is heard -/

/-- A signal that can be heard, and the stage from which it has been taken. -/
inductive Takes (s : Stage) : Signal → Stage → Prop
  | event (e : Event) (rest : List Event) (h : s.world.client.observer.readable = e :: rest) :
      Takes s (.event e) { s with world := { s.world with client := s.world.client.read } }
  | eventsEnded (hdriver : s.world.client.driver = .stopped)
      (hread : s.world.client.observer.readable = []) : Takes s .eventsEnded s
  | line (bytes : List UInt8) (rest : List (List UInt8)) (htakes : s.takesInput)
      (h : s.input = bytes :: rest) : Takes s (.line bytes) { s with input := rest }
  | inputEnded (h : s.input = []) : Takes s .inputEnded s
  | interrupt : Takes s .interrupt s

variable {s s' : Stage} {o : Occasion} {signal : Signal}

theorem takes_of_signal? (h : s.signal? o = some signal) : s.Takes signal (s.taking o) := by
  cases o with
  | event =>
    obtain ⟨e, he, rfl⟩ := Option.map_eq_some_iff.mp h
    obtain ⟨rest, hrest⟩ := List.head?_eq_some_iff.mp he
    exact .event e rest hrest
  | eventsEnded =>
    simp only [signal?, Option.ite_none_right_eq_some, Option.some.injEq] at h
    obtain ⟨⟨hdriver, hread⟩, rfl⟩ := h
    exact .eventsEnded hdriver hread
  | input =>
    simp only [signal?, Option.ite_none_right_eq_some, Option.some.injEq] at h
    obtain ⟨htakes, rfl⟩ := h
    obtain ⟨world, host, heard, takesInput, input, deeds, ending⟩ := s
    cases input with
    | nil => exact .inputEnded rfl
    | cons bytes rest => exact .line bytes rest htakes rfl
  | interrupt =>
    cases h
    exact .interrupt
  | _ => cases h

namespace Takes

theorem takesInput (h : s.Takes signal s') :
    s'.takesInput = s.takesInput ∧ (s.takesInput ∨ signal.line? = none) := by
  cases h with
  | line bytes rest htakes h => exact ⟨rfl, .inl htakes⟩
  | _ => exact ⟨rfl, .inr rfl⟩

/-- Nothing is lost between what waits and what is heard. -/
theorem readable (h : s.Takes signal s') :
    s.world.client.observer.readable =
      signal.event?.toList ++ s'.world.client.observer.readable := by
  cases h with
  | event e rest h => simp [Client.read, Observer.readable_skip, h, Signal.event?]
  | _ => rfl

theorem input (h : s.Takes signal s') : s.input = signal.line?.toList ++ s'.input := by
  cases h with
  | line bytes rest htakes h => exact h
  | _ => rfl

theorem unchanged (h : s.Takes signal s') :
    s'.deeds = s.deeds ∧ s'.ending = s.ending ∧
      s'.world.client.hasHandle = s.world.client.hasHandle := by
  cases h <;> exact ⟨rfl, rfl, rfl⟩

theorem chronicled {i : Juncture} (h : s.Takes signal s') (hc : s.world.client.Chronicled i) :
    ∃ k, i.after? signal.event?.toList = some k ∧ s'.world.client.Chronicled k := by
  cases h with
  | event e rest h =>
    obtain ⟨k, hnext, hk⟩ := hc.read (e := e) (by rw [h]; rfl)
    exact ⟨k, by simp [Signal.event?, hnext], hk⟩
  | _ => exact ⟨i, rfl, hc⟩

/-- Behind a signal that there will be no more events, there are none. -/
theorem done {i : Juncture} (h : s.Takes signal s') (hc : s.world.client.Chronicled i)
    (hends : signal.endsEvents) :
    s'.world.client.driver = .stopped ∧ s'.world.client.observer.readable = [] := by
  obtain ⟨k, hafter, hk⟩ := h.chronicled hc
  cases h with
  | event e rest h =>
    cases e with
    | gaveUp attempts =>
      have hmem : .gaveUp attempts ∈ (Signal.event (.gaveUp attempts)).event?.toList := .head _
      obtain rfl := Juncture.eq_finished_of_mem hafter hmem
      exact hk.of_finished
    | _ => cases hends
  | eventsEnded hdriver hread => exact ⟨hdriver, hread⟩
  | _ => cases hends

end Takes

/-! ## What is done about it -/

/-- What the terminal does reaches its client. -/
theorem client_foldl_act (w : World) (deeds : List Deed) :
    (deeds.foldl act w).client = (w.client.replay (deeds.filterMap Deed.doing?)).1 := by
  induction deeds generalizing w with
  | nil => rfl
  | cons d deeds ih =>
    rw [List.foldl_cons, ih]
    cases d with
    | print text => rfl
    | send v =>
      rw [act, Sitting.client_make]
      rfl

theorem client_taking (s : Stage) (o : Occasion) :
    (s.taking o).world.client = (s.world.client.replay o.doing?.toList).1 := by
  cases o <;> rfl

/-- To be given messages changes nothing of a client but what waits for its driver. -/
theorem exists_replay_doings (c : Client) (deeds : List Deed) :
    ∃ commands, (c.replay (deeds.filterMap Deed.doing?)).1 = { c with commands } := by
  induction deeds generalizing c with
  | nil => exact ⟨_, rfl⟩
  | cons d deeds ih =>
    cases d with
    | print text => exact ih c
    | send v =>
      obtain ⟨queued, hnow⟩ := c.exists_enqueue (.ok v.print)
      obtain ⟨commands, hlater⟩ := ih { c with commands := queued }
      refine ⟨commands, ?_⟩
      rw [← hlater, ← hnow]
      rfl

theorem exists_client_act (w : World) (deeds : List Deed) :
    ∃ commands, (deeds.foldl act w).client = { w.client with commands } := by
  rw [client_foldl_act]
  exact exists_replay_doings ..

/-- A signal that ends the sitting leaves it open whether input is taken, for nothing more is
heard. -/
theorem Takes.hear_eq (h : s.Takes signal s') (hnone : s.ending = none) :
    s'.hear signal =
      { s' with
        world := (deedsOf signal).foldl act s'.world
        takesInput := s.takesInput && signal != .inputEnded
        deeds := s.deeds ++ deedsOf signal
        ending := endingOf? signal } := by
  obtain ⟨hdeeds, hending, -⟩ := h.unchanged
  obtain ⟨htakesInput, hline⟩ := h.takesInput
  simp only [hear, htakesInput, hdeeds, step_eq hline]
  cases hends : endingOf? signal with
  | none => simp [hending, hnone]
  | some e =>
    have hgoing : (signal != .inputEnded) = true := by
      rw [bne_iff_ne]
      rintro rfl
      cases hends
    simp [hgoing]

end Stage

namespace Sitting

/-! ## What is kept -/

variable {v : Sitting} {input : List UInt8}

theorem hear_eq {o : Occasion} {signal : Signal} (hnone : v.stage.ending = none)
    (hsignal : v.stage.signal? o = some signal) :
    v.hear o =
      { v with
        stage := (v.stage.taking o).hear signal
        heard := v.heard ++ [signal]
        done := v.done ++ (o.doing?.toList ++ (deedsOf signal).filterMap Deed.doing?) } := by
  simp only [hear, hnone, hsignal]

theorem kept_start (s : Program.Surroundings) (c : ConnectionConfig) :
    (start s c).Kept s.input where
  course := ⟨.between, rfl, Client.chronicled_start _⟩
  told := rfl
  lines := rfl
  takesInput := rfl
  loop := rfl
  deeds := rfl
  ending := rfl
  going := by simp [start]
  done := by simp [start]
  held := fun _ => rfl

namespace Kept

/-- What the client does by itself, and what is done to its handle behind the end, leaves all as it
is but what the client tells. -/
theorem make (h : v.Kept input) {m : Move} (hm : m.party ≠ .handle ∨ v.stage.ending ≠ none) :
    (v.make m).Kept input := by
  have hclient : (v.make m).client = (v.client.move m).1 := client_make v.stage.world m
  obtain ⟨i, hafter, hc⟩ := h.course
  obtain ⟨es, hes⟩ := hc.exists_channel
  have hread : (v.make m).client.observer.readable =
      v.client.observer.readable ++ (v.client.move m).2.filterMap Occurrence.event? := by
    rw [hclient, Client.observer_move hes, hes]
    rfl
  exact
    { h with
      course := ⟨i, hafter, hclient ▸ hc.move m⟩
      told := by
        rw [hread, ← List.append_assoc]
        exact congrArg (· ++ _) h.told
      done := fun hends => by
        obtain ⟨hstopped, hnone⟩ := h.done hends
        obtain ⟨_, _, _, _, _, heq⟩ := Client.exists_move_of_stopped hstopped m
        rw [hclient, heq]
        exact ⟨hstopped, hnone⟩
      held := fun hnone => by
        rw [hclient, Client.hasHandle_move (hm.resolve_right fun hne => hne hnone)]
        exact h.held hnone }

theorem clock (h : v.Kept input) (now : Instant) : (v.meet (.clock now)).Kept input :=
  { h with }

theorem endingOf?_eq_none (h : v.Kept input) (hnone : v.stage.ending = none) {s : Signal}
    (hs : s ∈ v.heard) : endingOf? s = none :=
  List.findSome?_eq_none_iff.mp (h.ending.symm.trans hnone) s hs

/-- Before the end each signal is taken from where it waited, and that is done about it which is to
be done. -/
theorem heed (h : v.Kept input) (hnone : v.stage.ending = none) {signal : Signal} {s : Stage}
    (htakes : v.stage.Takes signal s) (done : List Doing) :
    Kept input { v with stage := s.hear signal, heard := v.heard ++ [signal], done } := by
  obtain ⟨-, -, hhandle⟩ := htakes.unchanged
  obtain ⟨-, hline⟩ := htakes.takesInput
  rw [htakes.hear_eq hnone]
  obtain ⟨commands, hclient⟩ := Stage.exists_client_act s.world (deedsOf signal)
  obtain ⟨i, hafter, hc⟩ := h.course
  have hconcat {α : Type} (f : Signal → Option α) :
      (v.heard ++ [signal]).filterMap f = v.heard.filterMap f ++ (f signal).toList := by
    cases hf : f signal <;> simp [hf]
  exact
    { course := by
        obtain ⟨k, hnext, hk⟩ := htakes.chronicled hc
        refine ⟨k, ?_, ?_⟩
        · rw [taken, hconcat]
          exact Juncture.after?_append_of_eq hafter hnext
        · rw [client, hclient]
          exact hk
      told := by
        rw [taken, hconcat, client, hclient, List.append_assoc, ← htakes.readable]
        exact h.told
      lines := by
        rw [linesRead, hconcat, List.append_assoc, ← htakes.input]
        exact h.lines
      takesInput := by
        simp only [h.takesInput, List.contains_append, Bool.not_or,
          List.contains_cons, List.contains_nil, Bool.or_false]
        rw [bne_comm]
        rfl
      loop := by
        rw [run_concat (h.loop.trans (by rw [hnone])), Bool.true_and, ← h.takesInput,
          step_eq hline]
        cases endingOf? signal <;> rfl
      deeds := by simp [h.deeds]
      ending := by
        rw [List.findSome?_append, ← h.ending, hnone]
        simp
      going := by
        rw [List.dropLast_concat]
        exact fun s hs => h.endingOf?_eq_none hnone hs
      done := by
        rintro ⟨t, ht, hends⟩
        rw [client, hclient]
        rcases List.mem_append.mp ht with ht | ht
        · exact absurd hends (endingOf?_eq_none_iff.mp (h.endingOf?_eq_none hnone ht)).2.1
        · obtain rfl := List.mem_singleton.mp ht
          exact htakes.done hc hends
      held := fun _ => by
        rw [client, hclient]
        exact hhandle.trans (h.held hnone) }

theorem hear (h : v.Kept input) (o : Occasion) : (v.hear o).Kept input := by
  unfold Sitting.hear
  split
  · rename_i hnone hsignal
    exact h.heed hnone (Stage.takes_of_signal? hsignal) _
  · exact h

theorem meet (h : v.Kept input) (o : Occasion) : (v.meet o).Kept input := by
  cases o with
  | move m =>
    simp only [Sitting.meet]
    split
    · exact h
    · rename_i hm
      exact h.make (.inl hm)
  | clock now => exact h.clock now
  | leave =>
    simp only [Sitting.meet]
    split
    · rename_i e hending
      exact h.make (.inr (by simp [hending]))
    · exact h
  | event => exact h.hear .event
  | eventsEnded => exact h.hear .eventsEnded
  | input => exact h.hear .input
  | interrupt => exact h.hear .interrupt

theorem run (h : v.Kept input) (os : List Occasion) : (v.run os).Kept input := by
  induction os generalizing v with
  | nil => exact h
  | cons o os ih => exact ih (h.meet o)

end Kept

/-! ## What is done to the client -/

/-- The client is what was done to the one with which the sitting began. The only messages that its
handle was given are those that the terminal sends, each of them once, and each got one answer. -/
structure Carried (c : Client) (v : Sitting) : Prop where
  client : v.client = (c.replay v.done).1
  told : v.told = (c.replay v.done).2.filterMap Occurrence.event?
  sends : v.done.filterMap Doing.written? =
    (v.stage.deeds.filterMap Deed.payload?).map fun value => .ok value.print
  answers : ((c.replay v.done).2.filterMap Occurrence.answer?).length =
    (v.done.filterMap Doing.written?).length

theorem written_doings (deeds : List Deed) :
    (deeds.filterMap Deed.doing?).filterMap Doing.written? =
      (deeds.filterMap Deed.payload?).map fun value => .ok value.print := by
  induction deeds with
  | nil => rfl
  | cons d deeds ih =>
    cases d with
    | print text => exact ih
    | send v => exact congrArg (.ok v.print :: ·) ih

/-- Nothing is told because of what the terminal sends. -/
theorem events_doings (c : Client) (deeds : List Deed) :
    (c.replay (deeds.filterMap Deed.doing?)).2.filterMap Occurrence.event? = [] := by
  induction deeds generalizing c with
  | nil => rfl
  | cons d deeds ih =>
    cases d with
    | print text => exact ih c
    | send v =>
      simp only [List.filterMap_cons, Deed.doing?, Client.replay_cons, List.filterMap_append, ih,
        List.append_nil]
      exact Client.events_move (by simp [Move.party])

theorem length_answers_doings {c : Client} (h : c.hasHandle) (deeds : List Deed) :
    ((c.replay (deeds.filterMap Deed.doing?)).2.filterMap Occurrence.answer?).length =
      (deeds.filterMap Deed.payload?).length := by
  induction deeds generalizing c with
  | nil => rfl
  | cons d deeds ih =>
    cases d with
    | print text => exact ih h
    | send v =>
      obtain ⟨r, hr⟩ := c.exists_answer_enqueue h (.ok v.print)
      obtain ⟨commands, hnext⟩ := c.exists_enqueue (.ok v.print)
      have hheld : (c.undergo (.move (.send (.ok v.print)))).1.hasHandle := by
        rw [Client.undergo, Client.move, hnext]
        exact h
      have hone : (c.undergo (.move (.send (.ok v.print)))).2.filterMap Occurrence.answer? = [r] :=
        hr
      simp only [List.filterMap_cons, Deed.doing?, Deed.payload?, Client.replay_cons,
        List.filterMap_append, List.length_append, ih hheld, hone, List.length_cons,
        List.length_nil]
      omega

namespace Carried

variable {c : Client} {v' : Sitting}

/-- More is done to the client, and what is told and sent comes of that. -/
theorem extend (h : v.Carried c) (ds : List Doing) (values : List Json.Value)
    (hdone : v'.done = v.done ++ ds) (hclient : v'.client = (v.client.replay ds).1)
    (htold : v'.told = v.told ++ (v.client.replay ds).2.filterMap Occurrence.event?)
    (hdeeds : v'.stage.deeds.filterMap Deed.payload? =
      v.stage.deeds.filterMap Deed.payload? ++ values)
    (hsends : ds.filterMap Doing.written? = values.map fun value => .ok value.print)
    (hanswers : ((v.client.replay ds).2.filterMap Occurrence.answer?).length = values.length) :
    v'.Carried c where
  client := by rw [hclient, hdone, Client.replay_append, h.client]
  told := by
    rw [htold, hdone, Client.replay_append, List.filterMap_append, h.told, h.client]
  sends := by
    rw [hdone, List.filterMap_append, h.sends, hsends, hdeeds, List.map_append]
  answers := by
    rw [hdone, Client.replay_append, List.filterMap_append, List.length_append, h.answers,
      ← h.client, hanswers, List.filterMap_append, List.length_append, hsends, List.length_map]

theorem make (h : v.Carried c) {m : Move} (hm : m.written? = none) : (v.make m).Carried c := by
  have hreplay : v.client.replay [.move m] = v.client.move m := by
    simp [Client.replay, Client.undergo]
  refine h.extend [.move m] [] rfl ?_ ?_ (List.append_nil _).symm ?_ ?_
  · rw [hreplay]
    exact client_make v.stage.world m
  · rw [hreplay]
    rfl
  · simp [Doing.written?, hm]
  · rw [hreplay, Client.answers_move _ hm]
    rfl

theorem hear (h : v.Carried c) (hkept : v.Kept input) (o : Occasion) : (v.hear o).Carried c := by
  unfold Sitting.hear
  split
  · rename_i signal hnone hsignal
    have htakes := Stage.takes_of_signal? hsignal
    have hreads : (v.client.replay o.doing?.toList).2 = [] := by cases o <;> rfl
    have hunwritten : o.doing?.toList.filterMap Doing.written? = [] := by cases o <;> rfl
    have htaking : (v.stage.taking o).world.client = (v.client.replay o.doing?.toList).1 :=
      v.stage.client_taking o
    have hhandle : (v.client.replay o.doing?.toList).1.hasHandle := by
      rw [← htaking, htakes.unchanged.2.2]
      exact hkept.held hnone
    rw [htakes.hear_eq hnone]
    refine h.extend _ ((deedsOf signal).filterMap Deed.payload?) rfl ?_ ?_ ?_ ?_ ?_
    · rw [Client.replay_append, ← htaking]
      exact Stage.client_foldl_act ..
    · rw [Client.replay_append, hreads, List.nil_append, events_doings]
      exact (List.append_nil _).symm
    · exact List.filterMap_append
    · rw [List.filterMap_append, hunwritten, written_doings]
      rfl
    · rw [Client.replay_append, hreads, List.nil_append, length_answers_doings hhandle]
  · exact h

theorem meet (h : v.Carried c) (hkept : v.Kept input) (o : Occasion) : (v.meet o).Carried c := by
  cases o with
  | move m =>
    simp only [Sitting.meet]
    split
    · exact h
    · rename_i hm
      exact h.make (Move.written?_eq_none hm)
  | clock now =>
    exact h.extend [.clock now] [] rfl rfl (List.append_nil _).symm (List.append_nil _).symm rfl
      rfl
  | leave =>
    simp only [Sitting.meet]
    split
    · rename_i e _
      exact h.make (by cases e <;> rfl)
    · exact h
  | event => exact h.hear hkept .event
  | eventsEnded => exact h.hear hkept .eventsEnded
  | input => exact h.hear hkept .input
  | interrupt => exact h.hear hkept .interrupt

end Carried

theorem kept_run (s : Program.Surroundings) (c : ConnectionConfig) (os : List Occasion) :
    ((start s c).run os).Kept s.input :=
  (kept_start s c).run os

theorem carried_run (s : Program.Surroundings) (c : ConnectionConfig) (os : List Occasion) :
    ((start s c).run os).Carried (.start c.clientConfig .subscription) := by
  have hstart : (start s c).Carried (.start c.clientConfig .subscription) := ⟨rfl, rfl, rfl, rfl⟩
  have hkept := kept_start s c
  generalize start s c = v at hstart hkept ⊢
  induction os generalizing v with
  | nil => exact hstart
  | cons o os ih => exact ih (v.meet o) (hstart.meet hkept o) (hkept.meet o)

end Sitting

end Terminal

end Lifeline
