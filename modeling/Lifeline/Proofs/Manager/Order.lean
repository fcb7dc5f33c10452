import Mathlib.Data.List.Chain
import Lifeline.Proofs.Manager.Balance
/-! In which order things are done. Calls of the gateway and callbacks are taken together here, as
they follow one another in a run. A close is answered at once, by a timer or by giving up; the next
dial waits for the timer. So dials and closes take turns, whatever comes in between. -/
namespace Lifeline

namespace Effect

/-- The gateway is used or the observer is told. -/
def isDeed : Effect → Bool
  | call _ | callback _ => true
  | metric _ | log _ => false

/-- A close is told, or something is done about one. -/
def isRecovery : Effect → Bool
  | callback (.closed ..) | callback (.reconnecting ..) | callback (.exhausted _) => true
  | call (.schedule ..) => true
  | _ => false

end Effect

/-- Between these two a logical connection goes back and forth. -/
inductive Swing
  | dial
  | close
deriving DecidableEq

def Effect.swing? : Effect → Option Swing
  | call (.dial ..) => some .dial
  | callback (.closed ..) => some .close
  | _ => none

/-- All that is done at a close. It is told, and then a timer is set and announced, or giving up is
told and nothing more. -/
inductive Recovery : List Effect → Prop
  | retry (code : Option UInt16) (reason : String) (delay : Duration) (timer : TimerId)
      (attempt : UInt32) : Recovery [.callback (.closed code reason),
        .call (.schedule delay timer), .callback (.reconnecting attempt delay)]
  | giveUp (code : Option UInt16) (reason : String) (attempts : UInt32) :
      Recovery [.callback (.closed code reason), .callback (.exhausted attempts)]

variable {σ : Type} {g : Gateway σ}

/-- Calls and callbacks, in the order in which they were made. -/
def Step.deeds (s : Step σ) : List Effect := s.effects.filter Effect.isDeed

@[simp] theorem Step.deeds_mk (m : Manager) (w : σ) (a : Except ClientError Unit)
    (es : List Effect) : deeds ⟨m, w, a, es⟩ = es.filter Effect.isDeed := rfl

namespace Manager

variable {m : Manager} {w : σ} {op : Operation} {s : Step σ}

/-- What leaves the manager as it is has one thing at most to do: to transmit a frame, or to pass on
a message or an error. -/
theorem Quiet.deeds (h : Quiet g m w op s) : s.deeds = [] ∨
    (∃ id text, s.deeds = [.call (.transmit id text)]) ∨
    (∃ text, s.deeds = [.callback (.message text)]) ∨
    ∃ text, s.deeds = [.callback (.error text)] := by
  cases h with
  | sent _ text id | unsent _ text id => exact .inr (.inl ⟨id, text, rfl⟩)
  | message _ text => exact .inr (.inr (.inl ⟨text, rfl⟩))
  | error _ text => exact .inr (.inr (.inr ⟨text, rfl⟩))
  | _ => exact .inl rfl

theorem deeds_shutdown (hd : m.shutDown = false) : (shutdown g m w).deeds =
    (m.pending.toList.map Call.cancel ++ m.active.toList.map Call.hangUp).map .call := by
  unfold shutdown
  rw [if_neg (by simp [hd])]
  cases m.pending <;> cases m.active <;> rfl

theorem Quiet.isRecovery_eq_false (h : Quiet g m w op s) {e : Effect} (he : e ∈ s.deeds) :
    e.isRecovery = false := by
  rcases h.deeds with hs | ⟨id, text, hs⟩ | ⟨text, hs⟩ | ⟨text, hs⟩ <;> rw [hs] at he
  · cases he
  all_goals
    obtain rfl := List.mem_singleton.mp he
    rfl

theorem Move.recovers (h : Move g m w op s) :
    Recovery s.deeds ∨ ∀ e ∈ s.deeds, e.isRecovery = false := by
  cases h with
  | quiet h => exact .inr fun e he => h.isRecovery_eq_false he
  | retry id code reason timer => exact .inl (.retry code reason _ timer _)
  | giveUp id code reason => exact .inl (.giveUp code reason _)
  | shutdown hd =>
    right
    rw [deeds_shutdown hd]
    simp [Effect.isRecovery, or_imp, forall_and]
  | _ => exact .inr (by simp [connect, Effect.isDeed, Effect.isRecovery])

@[simp] theorem deeds_connect :
    (connect g m w).deeds = [.call (.dial m.target.url (g.dial w m.target.url).1)] := rfl

theorem Quiet.not_mem_deeds (h : Quiet g m w op s) (url : String) (id : ConnectionId) :
    .call (.dial url id) ∉ s.deeds := by
  rcases h.deeds with hs | ⟨id, text, hs⟩ | ⟨text, hs⟩ | ⟨text, hs⟩ <;> simp [hs]

/-- Only a start and a timer dial, and then that is all they do. -/
theorem Move.of_mem_dial (h : Move g m w op s) {url : String} {id : ConnectionId}
    (hid : .call (.dial url id) ∈ s.deeds) : s.deeds = [.call (.dial url id)] ∧
      (op = .start ∧ m.isIdle ∨ ∃ timer, op = .elapse timer ∧ m.pending = some timer) := by
  cases h with
  | quiet h => exact absurd hid (h.not_mem_deeds url id)
  | start hi ha hp =>
    have hdial := List.mem_singleton.mp hid
    exact ⟨by rw [hdial]; rfl, .inl ⟨rfl, isIdle_iff.mpr ⟨hi, ha, hp⟩⟩⟩
  | fire timer hd hp =>
    have hdial := List.mem_singleton.mp hid
    exact ⟨by rw [hdial]; rfl, .inr ⟨timer, rfl, hp⟩⟩
  | shutdown hd =>
    rw [deeds_shutdown hd] at hid
    simp at hid
  | _ => simp [Effect.isDeed] at hid

/-- A shutdown has one thing at most to let go, and the observer is not told. -/
theorem Sound.deeds_shutdown (hm : m.Sound) :
    (shutdown g m w).deeds.length ≤ 1 ∧ (shutdown g m w).deeds.filterMap Effect.callback? = [] := by
  cases hd : m.shutDown with
  | true => simp [shutdown, hd]
  | false =>
    rw [Manager.deeds_shutdown hd]
    rcases hm.exclusive with ha | hp
    · cases m.pending <;> simp [ha]
    · cases m.active <;> simp [hp]

/-- An operation swings to a dial, to a close, or not at all. -/
theorem Move.swings (h : Move g m w op s) (hm : m.Sound) :
    s.deeds.filterMap Effect.swing? = [] ∧ (s.manager.isInert = false →
        m.isInert = false ∧ s.manager.active.isSome = m.active.isSome) ∨
      s.deeds.filterMap Effect.swing? = [.dial] ∧ m.isInert = false ∧ m.active = none ∧
        s.manager.active.isSome ∨
      s.deeds.filterMap Effect.swing? = [.close] ∧ m.isInert = false ∧ m.active.isSome ∧
        s.manager.active = none := by
  cases h with
  | quiet h =>
    refine .inl ⟨?_, fun hi => by rw [h.manager_eq] at hi ⊢; exact ⟨hi, rfl⟩⟩
    rcases h.deeds with hs | ⟨id, text, hs⟩ | ⟨text, hs⟩ | ⟨text, hs⟩ <;> rw [hs] <;> rfl
  | start hi ha hp => exact .inr (.inl ⟨rfl, hi, ha, rfl⟩)
  | fire id hd hp =>
    have ha : m.active = none := hm.exclusive.resolve_right (by simp [hp])
    exact .inr (.inl ⟨rfl, hm.not_inert_of_pending hp, ha, rfl⟩)
  | opened id ha => exact .inl ⟨rfl, fun hi => ⟨hi, rfl⟩⟩
  | retry id code reason timer w' ha | giveUp id code reason ha =>
    exact .inr (.inr ⟨rfl, hm.not_inert_of_active ha, by simp [ha], rfl⟩)
  | shutdown hd =>
    refine .inl ⟨?_, fun hi => by simp [manager_shutdown hd, isInert] at hi⟩
    rw [Manager.deeds_shutdown hd]
    cases m.pending <;> cases m.active <;> rfl

end Manager

namespace Life

variable {target : Target} {policy : ReconnectPolicy} {w : σ}

/-- Calls and callbacks, in the order in which they were made. -/
def deeds (l : Life σ) : List Effect := l.past.flatMap (·.step.deeds)

def swings (l : Life σ) : List Swing := l.deeds.filterMap Effect.swing?

theorem swings_extend (l : Life σ) (op : Operation) (s : Step σ) :
    (l.extend op s).swings = l.swings ++ s.deeds.filterMap Effect.swing? := by
  simp [swings, deeds]

/-- Dials and closes have taken turns, as if a close had come before the first dial, and as long as
there is more to come the latest tells whether there is a connection. -/
structure Swinging (l : Life σ) : Prop where
  chain : (Swing.close :: l.swings).IsChain (· ≠ ·)
  latest : l.manager.isInert = false →
    (Swing.close :: l.swings).getLast? = some (if l.manager.active.isSome then .dial else .close)

theorem Swinging.extend {l : Life σ} {op : Operation} {s : Step σ} (h : l.Swinging)
    (hl : l.manager.Sound) (hmove : Manager.Move g l.manager l.world op s) :
    (l.extend op s).Swinging := by
  have hcons : Swing.close :: (l.extend op s).swings =
      (Swing.close :: l.swings) ++ s.deeds.filterMap Effect.swing? := by
    rw [swings_extend, List.cons_append]
  rcases hmove.swings hl with ⟨hs, hsame⟩ | ⟨hs, hi, ha, ha'⟩ | ⟨hs, hi, ha, ha'⟩
  · rw [hs, List.append_nil] at hcons
    constructor
    · rw [hcons]
      exact h.chain
    · intro hinert
      obtain ⟨hi, hactive⟩ := hsame hinert
      rw [hcons, manager_extend, hactive]
      exact h.latest hi
  · have hlast := h.latest hi
    rw [hs] at hcons
    constructor
    · rw [hcons]
      exact h.chain.append (.singleton _) (by simp [hlast, ha])
    · intro _
      rw [hcons, List.getLast?_concat, manager_extend, if_pos ha']
  · have hlast := h.latest hi
    rw [hs] at hcons
    constructor
    · rw [hcons]
      exact h.chain.append (.singleton _) (by simp [hlast, ha])
    · intro _
      rw [hcons, List.getLast?_concat, manager_extend, ha']
      rfl

theorem swinging_run (ops : List Operation) : ((fresh target policy w).run g ops).Swinging :=
  run_of_move (motive := Swinging) ⟨.singleton _, fun _ => rfl⟩
    (fun _ _ _ hl hmove h => h.extend hl hmove) ops

/-- A manager that only a start would set going has never dialled. -/
theorem tally_dial_of_isIdle_run {ops : List Operation}
    (h : ((fresh target policy w).run g ops).manager.isIdle) :
    Call.tally .dial ((fresh target policy w).run g ops).calls = 0 := by
  have hpast : ((fresh target policy w).run g ops).manager.isIdle →
      Call.tally .dial ((fresh target policy w).run g ops).calls = 0 := by
    apply run_of_move (motive := fun l => l.manager.isIdle → Call.tally .dial l.calls = 0)
    · intro _
      rfl
    · intro l op s _ hmove ih hidle
      obtain ⟨hbefore, hop⟩ := hmove.isIdle_before hidle
      have hfires : Turn.fires ⟨l.manager, op, s⟩ = false := by
        obtain ⟨-, -, hp⟩ := Manager.isIdle_iff.mp hbefore
        cases op <;> simp [Turn.fires, hp]
      have hdial := hmove.tally_dial
      rw [hfires, hop] at hdial
      rw [calls_extend, Call.tally_append, ih hbefore, hdial]
      rfl
  exact hpast h

/-- In a run dials and closes take turns, and a dial comes first. What the next operation does
contains a close only with all that is done about it, at once and in order, and nothing of that is
done otherwise. When it dials it does nothing else, and it is the start that dials first of all, or
the firing of the timer that was set last; so the operation that handles a close never dials. A
shutdown makes one call at most and no callback. -/
theorem order_run (g : Gateway σ) (target : Target) (policy : ReconnectPolicy) (w : σ)
    (ops : List Operation) :
    let l := (fresh target policy w).run g ops
    (Swing.close :: l.deeds.filterMap Effect.swing?).IsChain (· ≠ ·) ∧
      ∀ op, let s := l.manager.perform g l.world op
        (Recovery s.deeds ∨ ∀ e ∈ s.deeds, e.isRecovery = false) ∧
          (∀ url id, .call (.dial url id) ∈ s.deeds →
            s.deeds = [.call (.dial url id)] ∧
              (op = .start ∧ Call.tally .dial l.calls = 0 ∨
                ∃ timer, op = .elapse timer ∧
                  Call.latest Call.scheduled? l.calls = some timer)) ∧
          (op = .shutdown →
            s.deeds.length ≤ 1 ∧ s.deeds.filterMap Effect.callback? = []) := by
  intro l
  have hl : l.manager.Sound := sound_run (.fresh target policy) ops
  have hbalanced : Balanced g w target l := balanced_run policy ops
  refine ⟨(swinging_run ops).chain, ?_⟩
  intro op s
  have hmove : Manager.Move g l.manager l.world op s := hl.move op
  refine ⟨hmove.recovers, ?_, ?_⟩
  · intro url id hid
    obtain ⟨hdeeds, hcause⟩ := hmove.of_mem_dial hid
    refine ⟨hdeeds, ?_⟩
    rcases hcause with ⟨hop, hidle⟩ | ⟨timer, hop, hp⟩
    · exact .inl ⟨hop, tally_dial_of_isIdle_run hidle⟩
    · exact .inr ⟨timer, hop, hbalanced.pending_latest timer hp⟩
  · rintro rfl
    exact hl.deeds_shutdown

/-- After a refusal the second dial is all that the timer does. -/
theorem order_run_redial :
    let l := (fresh (.ofHost "example.com") .standard (Script.ofLists [] [] [])).run
      Script.gateway [.start, .receive ⟨1⟩ (.closed none "refused")]
    let s := l.manager.perform Script.gateway l.world (.elapse ⟨1⟩)
    let dial := Effect.call (.dial "ws://example.com:8765" ⟨2⟩)
    dial ∈ s.deeds ∧ s.deeds = [dial] ∧ Call.tally .dial l.calls = 1 ∧
      Call.latest Call.scheduled? l.calls = some ⟨1⟩ := by
  intro l s dial
  have hl := order_run Script.gateway (.ofHost "example.com") .standard (Script.ofLists [] [] [])
    [.start, .receive ⟨1⟩ (.closed none "refused")]
  have hdial : dial ∈ s.deeds := by decide +kernel
  obtain ⟨hdeeds, hcause⟩ := (hl.2 (.elapse ⟨1⟩)).2.1 "ws://example.com:8765" ⟨2⟩ hdial
  refine ⟨hdial, hdeeds, rfl, ?_⟩
  rcases hcause with ⟨hop, -⟩ | ⟨timer, hop, hlatest⟩
  · cases hop
  · cases hop
    exact hlatest

end Life

end Lifeline
