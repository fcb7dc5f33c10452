import Mathlib.Data.List.Forall2
import Lifeline.Manager.Rehearsal
import Lifeline.Proofs.Manager.Life
/-! Who listens to a manager, and what they get. The reader of an observer's events comes and goes
as it likes: between any two effects of an operation it may take what waits, or leave for good. A
subscriber gets the event of each callback that is made before it leaves, a listener for messages
gets their texts, and the manager goes the same way whoever listens. -/
namespace Lifeline

def Callback.text? : Callback → Option String
  | message text => some text
  | _ => none

/-- Which event tells of a callback. All that the callback carries is in it, and nothing is
altered. -/
inductive Callback.Tells : Callback → Event → Prop
  | opened : Tells .opened .connected
  | message (text : String) : Tells (.message text) (.text text)
  | error (text : String) : Tells (.error text) (.error text)
  | closed (code : Option UInt16) (reason : String) :
      Tells (.closed code reason) (.disconnected code reason)
  | reconnecting (attempt : UInt32) (delay : Duration) :
      Tells (.reconnecting attempt delay) (.reconnecting attempt delay)
  | exhausted (attempts : UInt32) : Tells (.exhausted attempts) (.gaveUp attempts)

namespace Callback

theorem tells_iff {c : Callback} {e : Event} : c.Tells e ↔ c.event = e := by
  constructor
  · intro h
    cases h <;> rfl
  · rintro rfl
    cases c <;> constructor

/-- No event tells of two callbacks, and no callback is told in two ways. -/
theorem biUnique_tells : Relator.BiUnique Tells where
  left := fun _ _ _ h h' => event_injective ((tells_iff.mp h).trans (tells_iff.mp h').symm)
  right := fun _ _ _ h h' => (tells_iff.mp h).symm.trans (tells_iff.mp h')

theorem forall₂_tells (cs : List Callback) : List.Forall₂ Tells cs (cs.map event) := by
  rw [List.forall₂_map_right_iff, List.forall₂_same]
  exact fun c _ => tells_iff.mpr rfl

end Callback

/-- What the reader of an observer's events does. -/
inductive Reading
  /-- Takes the first of the events that wait, so many at most. -/
  | take (n : Nat)
  | leave
deriving DecidableEq

/-- The manager does something, or the reader does. -/
inductive Moment
  | effect (e : Effect)
  | reading (r : Reading)
deriving DecidableEq

namespace Moment

def effect? : Moment → Option Effect
  | effect e => some e
  | reading _ => none

def callback? (m : Moment) : Option Callback := m.effect?.bind Effect.callback?

/-- The effects in their order, and before each of them and behind the last one what the reader does
there. -/
def between (readings : Nat → List Reading) : List Effect → List Moment
  | [] => (readings 0).map reading
  | e :: es => (readings 0).map reading ++ effect e :: between (fun i => readings (i + 1)) es

theorem filterMap_effect_between (readings : Nat → List Reading) (es : List Effect) :
    (between readings es).filterMap effect? = es := by
  have hreadings (rs : List Reading) : (rs.map reading).filterMap effect? = [] := by
    simp [List.filterMap_map, Function.comp_def, effect?]
  induction es generalizing readings with
  | nil => exact hreadings _
  | cons e es ih => simp [between, hreadings, effect?, ih]

theorem between_nobody (es : List Effect) : between (fun _ => []) es = es.map effect := by
  induction es with
  | nil => rfl
  | cons e es ih => simp [between, ih]

theorem filterMap_callback (ms : List Moment) :
    ms.filterMap callback? = (ms.filterMap effect?).filterMap Effect.callback? :=
  List.filterMap_filterMap.symm

end Moment

/-- An observer at work: what its reader has got from it, and all that was seen to happen. -/
structure Hearing where
  observer : Observer
  obtained : List Event
  trace : List Effect

namespace Hearing

def start (o : Observer) : Hearing := ⟨o, [], []⟩

def heed (h : Hearing) : Moment → Hearing
  | .effect e => ⟨(h.observer.attend [e]).1, h.obtained, h.trace ++ (h.observer.attend [e]).2⟩
  | .reading (.take n) =>
    ⟨h.observer.skip n, h.obtained ++ h.observer.readable.take n, h.trace⟩
  | .reading .leave => ⟨h.observer.dropReader, h.obtained, h.trace⟩

def run (h : Hearing) (ms : List Moment) : Hearing := ms.foldl heed h

/-- What has come through: taken, or waiting to be taken. -/
def delivered (h : Hearing) : List Event := h.obtained ++ h.observer.readable

theorem run_append (h : Hearing) (ms ns : List Moment) : h.run (ms ++ ns) = (h.run ms).run ns :=
  List.foldl_append

theorem run_cons (h : Hearing) (m : Moment) (ms : List Moment) :
    h.run (m :: ms) = (h.heed m).run ms := rfl

/-- To hear effects one by one is to hear them at once. -/
theorem run_effects (h : Hearing) (es : List Effect) :
    h.run (es.map .effect) =
      ⟨(h.observer.attend es).1, h.obtained, h.trace ++ (h.observer.attend es).2⟩ := by
  induction es generalizing h with
  | nil => simp [run, Observer.attend]
  | cons e es ih =>
    rw [List.map_cons, run_cons, ih, h.observer.attend_cons e es]
    simp [heed]

/-- What is seen of an observer's work is what it hears of, and log lines of its own. -/
theorem filterMap_trace_run {α : Type} {f : Effect → Option α} (hlog : ∀ d, f (.log d) = none)
    (h : Hearing) (ms : List Moment) :
    (h.run ms).trace.filterMap f =
      h.trace.filterMap f ++ (ms.filterMap Moment.effect?).filterMap f := by
  induction ms generalizing h with
  | nil => simp [run]
  | cons m ms ih =>
    rw [run_cons, ih]
    cases m with
    | effect e =>
      have hone := Observer.filterMap_attend hlog h.observer [e]
      rw [heed, List.filterMap_append, hone, List.append_assoc, ← List.filterMap_append]
      rfl
    | reading r => cases r <;> rfl

theorem observer_heed_callback (h : Hearing) (c : Callback) :
    (h.heed (.effect (.callback c))).observer = h.observer.notify c := by
  simp only [heed, Observer.attend]
  split <;> rfl

theorem observer_heed_effect (h : Hearing) {e : Effect} (he : e.callback? = none) :
    (h.heed (.effect e)).observer = h.observer := by
  cases e with
  | callback => cases he
  | _ => rfl

/-- While an observer stays as it should and nothing unusual happens, each callback brings what it
brings, and nothing else brings anything. -/
theorem delivered_run (good : Observer → Prop) (usual : Moment → Prop)
    {f : Callback → Option Event}
    (step : ∀ (h : Hearing) (m : Moment), good h.observer → usual m →
      good (h.heed m).observer ∧
        (h.heed m).delivered = h.delivered ++ (m.callback?.bind f).toList)
    {h : Hearing} (hgood : good h.observer) (ms : List Moment) (hms : ∀ m ∈ ms, usual m) :
    good (h.run ms).observer ∧
      (h.run ms).delivered = h.delivered ++ (ms.filterMap Moment.callback?).filterMap f := by
  induction ms generalizing h with
  | nil => exact ⟨hgood, (List.append_nil _).symm⟩
  | cons m ms ih =>
    obtain ⟨hm, hrest⟩ := List.forall_mem_cons.mp hms
    obtain ⟨hnext, hone⟩ := step h m hgood hm
    obtain ⟨hgood, hothers⟩ := ih hnext hrest
    refine ⟨hgood, ?_⟩
    rw [run_cons, hothers, hone]
    cases hc : m.callback? with
    | none => simp [hc]
    | some c => cases hf : f c <;> simp [hc, hf]

theorem delivered_heed_take (h : Hearing) (n : Nat) :
    (h.heed (.reading (.take n))).delivered = h.delivered := by
  simp [delivered, heed, Observer.readable_skip]

/-- The recorder keeps every callback, whatever readers do. -/
theorem observer_run_recorder (h : Hearing) {seen : List Callback}
    (hobserver : h.observer = .recorder seen) (ms : List Moment) :
    (h.run ms).observer = .recorder (seen ++ ms.filterMap Moment.callback?) := by
  induction ms generalizing h seen with
  | nil => simp [run, hobserver]
  | cons m ms ih =>
    have hone : (h.heed m).observer = .recorder (seen ++ m.callback?.toList) := by
      cases m with
      | effect e =>
        cases e with
        | callback c => rw [observer_heed_callback, hobserver]; rfl
        | _ => rw [observer_heed_effect h rfl, hobserver]; simp [Moment.callback?, Moment.effect?]
      | reading r =>
        cases r <;> simp [heed, hobserver, Observer.skip, Observer.dropReader, Moment.callback?,
          Moment.effect?]
    rw [run_cons, ih _ hone]
    cases hc : m.callback? <;> simp [hc]

theorem observer_run_silent (h : Hearing) (hobserver : h.observer = .silent) (ms : List Moment) :
    (h.run ms).observer = .silent := by
  induction ms generalizing h with
  | nil => exact hobserver
  | cons m ms ih =>
    refine ih _ ?_
    cases m with
    | effect e =>
      cases e with
      | callback c => rw [observer_heed_callback, hobserver]; rfl
      | _ => rw [observer_heed_effect h rfl, hobserver]
    | reading r => cases r <;> simp [heed, hobserver, Observer.skip, Observer.dropReader]

theorem delivered_heed_callback (h : Hearing) (c : Callback) :
    (h.heed (.effect (.callback c))).delivered = h.obtained ++ (h.observer.notify c).readable := by
  rw [delivered, observer_heed_callback]
  rfl

/-- The texts of messages come through, and nobody can leave: there is nobody but the listener. -/
theorem delivered_heed_messages (h : Hearing) (m : Moment)
    (hobserver : ∃ texts, h.observer = .messages texts) :
    (∃ texts, (h.heed m).observer = .messages texts) ∧
      (h.heed m).delivered =
        h.delivered ++ (m.callback?.bind fun c => c.text?.map .text).toList := by
  obtain ⟨texts, htexts⟩ := hobserver
  have hnothing (l : List Event) : l = l ++ (none : Option Event).toList := (List.append_nil l).symm
  cases m with
  | effect e =>
    cases e with
    | callback c =>
      rw [observer_heed_callback, delivered_heed_callback, delivered, htexts]
      cases c with
      | message text =>
        refine ⟨⟨texts ++ [text], rfl⟩, ?_⟩
        simp [Observer.notify, Observer.readable, Moment.callback?, Moment.effect?, Callback.text?]
      | _ => exact ⟨⟨texts, rfl⟩, hnothing _⟩
    | _ => exact ⟨⟨texts, htexts⟩, hnothing _⟩
  | reading r =>
    cases r with
    | take n =>
      rw [delivered_heed_take]
      exact ⟨⟨texts.drop n, by rw [heed, htexts]; rfl⟩, hnothing _⟩
    | leave =>
      have hkept : h.observer.dropReader = .messages texts := by rw [htexts]; rfl
      rw [delivered, delivered, heed, hkept, htexts]
      exact ⟨⟨texts, rfl⟩, hnothing _⟩

/-- Each callback comes through as its event while the reader stays. -/
theorem delivered_heed_channel (h : Hearing) (m : Moment)
    (hobserver : ∃ unread, h.observer = .channel unread true) (hm : m ≠ .reading .leave) :
    (∃ unread, (h.heed m).observer = .channel unread true) ∧
      (h.heed m).delivered = h.delivered ++ (m.callback?.bind fun c => some c.event).toList := by
  obtain ⟨unread, hunread⟩ := hobserver
  have hnothing (l : List Event) : l = l ++ (none : Option Event).toList := (List.append_nil l).symm
  cases m with
  | effect e =>
    cases e with
    | callback c =>
      rw [observer_heed_callback, delivered_heed_callback, delivered, hunread]
      exact ⟨⟨unread ++ [c.event], rfl⟩, (List.append_assoc ..).symm⟩
    | _ => exact ⟨⟨unread, hunread⟩, hnothing _⟩
  | reading r =>
    cases r with
    | take n =>
      rw [delivered_heed_take]
      exact ⟨⟨unread.drop n, by rw [heed, hunread]; rfl⟩, hnothing _⟩
    | leave => exact absurd rfl hm

/-- Once the reader has left it gets nothing more. -/
theorem obtained_run_gone (h : Hearing) (hobserver : h.observer = .channel [] false)
    (ms : List Moment) : (h.run ms).obtained = h.obtained := by
  induction ms generalizing h with
  | nil => rfl
  | cons m ms ih =>
    have hone : (h.heed m).observer = .channel [] false ∧ (h.heed m).obtained = h.obtained := by
      cases m with
      | effect e =>
        cases e with
        | callback c => exact ⟨by rw [observer_heed_callback, hobserver]; rfl, rfl⟩
        | _ => exact ⟨hobserver, rfl⟩
      | reading r =>
        cases r <;> simp [heed, hobserver, Observer.skip, Observer.dropReader, Observer.readable]
    rw [run_cons, ih _ hone.1, hone.2]

/-- The event of every callback comes through to a subscriber until it leaves, and nothing later. -/
theorem run_subscription (ms : List Moment) :
    let listening := ms.takeWhile (· ≠ .reading .leave)
    let h := (start .subscription).run listening
    h.delivered = (listening.filterMap Moment.callback?).map Callback.event ∧
      ((start .subscription).run ms).obtained = h.obtained := by
  intro listening h
  have hstays : ∀ m ∈ listening, m ≠ .reading .leave := fun m hm =>
    of_decide_eq_true (List.all_eq_true.mp List.all_takeWhile m hm)
  obtain ⟨⟨unread, hunread⟩, hdelivered⟩ :=
    delivered_run (fun o => ∃ unread, o = .channel unread true) (· ≠ .reading .leave)
      delivered_heed_channel (h := start .subscription) ⟨[], rfl⟩ listening hstays
  refine ⟨by rw [hdelivered, List.filterMap_eq_map']; rfl, ?_⟩
  have hsplit : ms = listening ++ ms.dropWhile (· ≠ .reading .leave) :=
    List.takeWhile_append_dropWhile.symm
  have hhead := List.head?_dropWhile_not (· ≠ .reading .leave) ms
  cases hrest : ms.dropWhile (· ≠ .reading .leave) with
  | nil => rw [hsplit, hrest, List.append_nil]
  | cons m rest =>
    rw [hrest] at hhead
    obtain rfl : m = .reading .leave := Decidable.not_not.mp (of_decide_eq_false hhead)
    rw [hsplit, hrest, run_append, run_cons, obtained_run_gone]
    · rfl
    · rw [heed, hunread]
      rfl

end Hearing

/-- An operation, and what a reader does before each of its effects and behind the last. -/
structure Accompanied where
  op : Operation
  readings : Nat → List Reading

/-- A manager's life with somebody who listens, and all moments of it in one order. -/
structure Attended (σ : Type) where
  life : Life σ
  hearing : Hearing
  moments : List Moment

namespace Attended

variable {σ : Type} {g : Gateway σ} {target : Target} {policy : ReconnectPolicy} {w : σ}

def fresh (target : Target) (policy : ReconnectPolicy) (w : σ) (o : Observer) : Attended σ :=
  ⟨.fresh target policy w, .start o, []⟩

def next (a : Attended σ) (g : Gateway σ) (act : Accompanied) : Attended σ :=
  let s := a.life.manager.perform g a.life.world act.op
  let ms := Moment.between act.readings s.effects
  ⟨a.life.extend act.op s, a.hearing.run ms, a.moments ++ ms⟩

def run (a : Attended σ) (g : Gateway σ) (acts : List Accompanied) : Attended σ :=
  acts.foldl (fun a act => a.next g act) a

/-- The observer heard all of the moments, and these are the effects of the life. -/
structure Recorded (o : Observer) (a : Attended σ) : Prop where
  hearing : a.hearing = (Hearing.start o).run a.moments
  effects : a.moments.filterMap Moment.effect? = a.life.past.flatMap (·.step.effects)

theorem Recorded.next {o : Observer} {a : Attended σ} (h : a.Recorded o) (act : Accompanied) :
    (a.next g act).Recorded o where
  hearing := by
    rw [Attended.next, Hearing.run_append, ← h.hearing]
  effects := by
    rw [Attended.next, List.filterMap_append, Moment.filterMap_effect_between, h.effects]
    simp

theorem recorded_run (o : Observer) (acts : List Accompanied) :
    ((fresh target policy w o).run g acts).Recorded o := by
  suffices h : ∀ a : Attended σ, a.Recorded o → (a.run g acts).Recorded o from h _ ⟨rfl, rfl⟩
  intro a ha
  induction acts generalizing a with
  | nil => exact ha
  | cons act acts ih => exact ih _ (ha.next act)

/-- The manager goes its way as if nobody listened. -/
theorem life_run (a : Attended σ) (acts : List Accompanied) :
    (a.run g acts).life = a.life.run g (acts.map Accompanied.op) := by
  induction acts generalizing a with
  | nil => rfl
  | cons act acts ih => exact ih (a.next g act)

theorem Recorded.filterMap_trace {o : Observer} {a : Attended σ} (h : a.Recorded o) {α : Type}
    {f : Effect → Option α} (hlog : ∀ d, f (.log d) = none) :
    a.hearing.trace.filterMap f = a.life.past.flatMap (·.step.effects.filterMap f) := by
  rw [h.hearing, Hearing.filterMap_trace_run hlog, h.effects, List.filterMap_flatMap]
  rfl

theorem Recorded.callbacks {o : Observer} {a : Attended σ} (h : a.Recorded o) :
    a.moments.filterMap Moment.callback? = a.life.callbacks := by
  rw [Moment.filterMap_callback, h.effects, List.filterMap_flatMap]
  rfl

/-- Whoever listens, and whatever a reader does in the meantime, the manager lives the same life,
and what it calls and calls back passes unchanged. A recorder keeps every callback, a listener for
messages gets their texts and nothing else. To a subscriber comes one event for each callback, in
order and unaltered, until it leaves: what it has taken by then, and never anything more, with what
it leaves behind makes up all of them. -/
theorem audience_run (g : Gateway σ) (target : Target) (policy : ReconnectPolicy) (w : σ)
    (acts : List Accompanied) :
    let l := (Life.fresh target policy w).run g (acts.map Accompanied.op)
    let attended (o : Observer) := (fresh target policy w o).run g acts
    (∀ o, (attended o).life = l ∧
        (attended o).hearing.trace.filterMap Effect.call? = l.calls ∧
        (attended o).hearing.trace.filterMap Effect.callback? = l.callbacks) ∧
      (attended (.recorder [])).hearing.observer = .recorder l.callbacks ∧
      (attended .silent).hearing.observer = .silent ∧
      (attended (.messages [])).hearing.delivered =
        (l.callbacks.filterMap Callback.text?).map .text ∧
      let ms := (attended .subscription).moments
      let listening := ms.takeWhile (· ≠ .reading .leave)
      let h := (Hearing.start .subscription).run listening
      ms.filterMap Moment.callback? = l.callbacks ∧
        List.Forall₂ Callback.Tells (listening.filterMap Moment.callback?)
          (h.obtained ++ h.observer.readable) ∧
        Relator.BiUnique Callback.Tells ∧
        (attended .subscription).hearing.obtained = h.obtained := by
  intro l attended
  have hlife (o : Observer) : (attended o).life = l := life_run _ acts
  have hrecorded (o : Observer) : (attended o).Recorded o := recorded_run o acts
  have hcallbacks (o : Observer) :
      (attended o).moments.filterMap Moment.callback? = l.callbacks := by
    rw [(hrecorded o).callbacks, hlife]
  refine ⟨fun o => ⟨hlife o, ?_, ?_⟩, ?_, ?_, ?_, hcallbacks _, ?_⟩
  · rw [(hrecorded o).filterMap_trace fun _ => rfl, hlife]
    rfl
  · rw [(hrecorded o).filterMap_trace fun _ => rfl, hlife]
    rfl
  · rw [(hrecorded _).hearing, Hearing.observer_run_recorder _ rfl, hcallbacks, List.nil_append]
  · rw [(hrecorded _).hearing, Hearing.observer_run_silent _ rfl]
  · have hmessages := Hearing.delivered_run (fun o => ∃ texts, o = .messages texts) (fun _ => True)
      (fun h m hgood _ => Hearing.delivered_heed_messages h m hgood)
      (h := .start (.messages [])) ⟨[], rfl⟩ (attended (.messages [])).moments fun _ _ => trivial
    rw [(hrecorded _).hearing, hmessages.2, hcallbacks, List.map_filterMap]
    rfl
  · rw [(hrecorded _).hearing]
    obtain ⟨hdelivered, hobtained⟩ :=
      Hearing.run_subscription (attended .subscription).moments
    refine ⟨?_, Callback.biUnique_tells, hobtained⟩
    exact Eq.subst hdelivered.symm (Callback.forall₂_tells _)

/-- A reader that leaves while a close is dealt with gets word of the close, and not of the attempt
that the same operation announces. -/
example :
    let leaving (i : Nat) : List Reading := if i = 3 then [.take 3, .leave] else []
    let a := (fresh (.ofHost "plant.local") .standard (Script.ofLists [] [] []) .subscription).run
      Script.gateway
      [⟨.start, fun _ => []⟩, ⟨.receive ⟨1⟩ .opened, fun _ => []⟩,
        ⟨.receive ⟨1⟩ (.closed none "reset"), leaving⟩]
    a.hearing.obtained = [.connected, .disconnected none "reset"] ∧
      a.life.callbacks =
        [.opened, .closed none "reset", .reconnecting 1 (.ofSeconds 1)] := by
  decide +kernel

end Attended

/-- A rehearsed operation is heard by the observer with nobody in between, and then all that waits
for a reader is handed out. -/
theorem Rehearsal.Stage.perform_eq (s : Stage) (op : Operation) :
    let step := Manager.perform Script.gateway s.manager s.script op
    let h := (Hearing.start s.observer).run (Moment.between (fun _ => []) step.effects)
    s.perform op =
      (⟨step.manager, step.world, h.observer.drain.1⟩,
        ⟨step.manager, step.answer, h.trace, h.observer.drain.2⟩) := by
  intro step h
  have hheard : h =
      ⟨(s.observer.attend step.effects).1, [], [] ++ (s.observer.attend step.effects).2⟩ :=
    (congrArg _ (Moment.between_nobody _)).trans (Hearing.run_effects _ _)
  rw [hheard]
  rfl

end Lifeline
