import Lifeline.Manager.Rehearsal
import Lifeline.Proofs.Manager.Life
/-! Frames go to a live connection and nowhere else. The active connection comes from the latest
dial, and since then nothing has closed it or shut the manager down; while the state is open, it has
also opened since then. A send that finds the state open hands one frame to that connection, and any
other send is refused and touches nothing. -/
namespace Lifeline

variable {σ : Type} {g : Gateway σ}

namespace Manager

variable {m : Manager} {w : σ} {op : Operation} {s : Step σ} {text : String}

/-- Outside the open state a message is refused, and it does not matter what it is. -/
theorem perform_of_not_established (hop : op.isSend) (h : m.state ≠ .established) :
    perform g m w op = refuse m w := by
  cases op with
  | send written => simp [perform, send, h]
  | sendText text =>
    change sendText g m w text = refuse m w
    unfold sendText
    split
    · rename_i hs _
      exact absurd hs h
    · rfl
  | _ => cases hop

theorem perform_unwritten (h : m.state = .established) (reason : String) :
    perform g m w (.send (.error reason)) = ⟨m, w, .error (.unserializable reason), []⟩ := by
  simp [perform, send, h]

/-- A value that can be written out is sent as its text is. -/
theorem perform_of_text (h : op.text? = some text) :
    perform g m w op = perform g m w (.sendText text) := by
  by_cases hs : m.state = .established
  · cases op with
    | send written =>
      cases written with
      | ok text' =>
        cases h
        simp [perform, send, hs]
      | error reason => cases h
    | sendText text' =>
      cases h
      rfl
    | _ => cases h
  · rw [perform_of_not_established (Operation.isSend_of_text h) hs,
      perform_of_not_established rfl hs]

/-- One frame goes to the active connection, and the gateway answers. -/
theorem perform_sendText_of_established (hs : m.state = .established) {id : ConnectionId}
    (ha : m.active = some id) :
    let s := perform g m w (.sendText text)
    s.calls = [.transmit id text] ∧ (s.answer, s.world) = g.transmit w id text := by
  have hsend : perform g m w (.sendText text) = sendText g m w text := rfl
  rw [hsend]
  unfold sendText
  rw [hs, ha]
  dsimp only
  split
  · rename_i v ht
    exact ⟨rfl, ht.symm⟩
  · rename_i e v ht
    exact ⟨rfl, ht.symm⟩

/-- Only a message that is sent in the open state is transmitted, and only to the active
connection. -/
theorem Move.of_mem_transmit (h : Move g m w op s) {id : ConnectionId}
    (hmem : .transmit id text ∈ s.calls) :
    op.text? = some text ∧ m.state = .established ∧ m.active = some id := by
  cases h with
  | quiet h =>
    cases h with
    | sent _ _ _ _ hop hs ha | unsent _ _ _ _ _ hop hs ha =>
      obtain ⟨rfl, rfl⟩ := by simpa [List.filterMap_cons] using hmem
      exact ⟨hop, hs, ha⟩
    | _ => cases hmem
  | shutdown hd =>
    rw [calls_shutdown hd] at hmem
    simp at hmem
  | _ => simp [List.filterMap_cons] at hmem

theorem Sound.tally_transmit (hm : m.Sound) (op : Operation) :
    Call.tally .transmit (m.perform g w op).calls =
      if m.state = .established ∧ op.text?.isSome then 1 else 0 := by
  split
  · rename_i h
    obtain ⟨hs, hsome⟩ := h
    obtain ⟨text, htext⟩ := Option.isSome_iff_exists.mp hsome
    obtain ⟨id, ha⟩ := hm.active_of_established hs
    rw [perform_of_text htext, (perform_sendText_of_established hs ha).1]
    rfl
  · rename_i h
    rw [Call.tally, List.count_eq_zero]
    intro hmem
    obtain ⟨c, hc, hkind⟩ := List.mem_map.mp hmem
    cases c with
    | transmit id text =>
      obtain ⟨htext, hs, -⟩ := (hm.move op).of_mem_transmit hc
      exact h ⟨hs, by rw [htext]; rfl⟩
    | _ => cases hkind

theorem Quiet.op_ne_shutdown (h : Quiet g m w op s) (hd : m.shutDown = false) :
    op ≠ .shutdown := by
  cases h with
  | shutAgain hdown => simp [hd] at hdown
  | refused op hop | sent op _ _ _ hop | unsent op _ _ _ _ hop =>
    rintro rfl
    cases hop
  | _ => simp

end Manager

/-- The notice of an opened connection came from this one, and was not stale. -/
def Turn.Opens (t : Turn σ) (id : ConnectionId) : Prop :=
  t.op = .receive id .opened ∧ t.manager.active = some id

namespace Life

variable {target : Target} {policy : ReconnectPolicy} {w : σ}

/-- The latest dial handed out the identifier, and in the turns since then nothing has closed and
the manager was not shut down. -/
structure HeldSince (l : Life σ) (id : ConnectionId) (since : List (Turn σ)) : Prop where
  dialled : ∃ before t url, l.past = before ++ t :: since ∧ .dial url id ∈ t.step.calls
  latest : ∀ t ∈ since, Call.tally .dial t.step.calls = 0
  unclosed : ∀ t ∈ since, t.closes = false
  unstopped : ∀ t ∈ since, t.op ≠ .shutdown

section

variable {l : Life σ} {id : ConnectionId} {since : List (Turn σ)} {op : Operation} {s : Step σ}

theorem HeldSince.of_dial {url : String} (h : .dial url id ∈ s.calls) :
    (l.extend op s).HeldSince id [] where
  dialled := ⟨l.past, ⟨l.manager, op, s⟩, url, rfl, h⟩
  latest := by simp
  unclosed := by simp
  unstopped := by simp

theorem HeldSince.extend (h : l.HeldSince id since) (hdial : Call.tally .dial s.calls = 0)
    (hcloses : Turn.closes ⟨l.manager, op, s⟩ = false) (hop : op ≠ .shutdown) :
    (l.extend op s).HeldSince id (since ++ [⟨l.manager, op, s⟩]) where
  dialled := by
    obtain ⟨before, t, url, hpast, hmem⟩ := h.dialled
    exact ⟨before, t, url, by simp [hpast], hmem⟩
  latest := by simpa [or_imp, forall_and] using ⟨h.latest, hdial⟩
  unclosed := by simpa [or_imp, forall_and] using ⟨h.unclosed, hcloses⟩
  unstopped := by simpa [or_imp, forall_and] using ⟨h.unstopped, hop⟩

/-- The active connection is held, and has opened if the state says so. -/
def Live (l : Life σ) : Prop :=
  ∀ id, l.manager.active = some id → ∃ since, l.HeldSince id since ∧
    (l.manager.state = .established → ∃ t ∈ since, t.Opens id)

theorem Live.extend (h : l.Live) (hl : l.manager.Sound)
    (hmove : Manager.Move g l.manager l.world op s) : (l.extend op s).Live := by
  intro id ha
  rw [manager_extend] at ha ⊢
  cases hmove with
  | quiet hquiet =>
    rw [hquiet.manager_eq] at ha ⊢
    obtain ⟨since, hheld, hopened⟩ := h id ha
    have hd : l.manager.shutDown = false := by
      have hinert := hl.not_inert_of_active ha
      simp only [Manager.isInert, Bool.or_eq_false_iff] at hinert
      exact hinert.2
    refine ⟨_, hheld.extend (hquiet.tally_calls (by simp)) hquiet.closes_eq_false
      (hquiet.op_ne_shutdown hd), fun hs => ?_⟩
    obtain ⟨t, ht, hopens⟩ := hopened hs
    exact ⟨t, List.mem_append_left _ ht, hopens⟩
  | start | fire =>
    obtain rfl := Option.some.inj ha
    exact ⟨[], .of_dial (.head _), fun hs => by cases hs⟩
  | opened id' ha' =>
    obtain rfl := Option.some.inj (ha'.symm.trans ha)
    obtain ⟨since, hheld, -⟩ := h id' ha'
    refine ⟨_, hheld.extend rfl rfl (by simp), fun _ => ?_⟩
    exact ⟨_, List.mem_append_right _ (.head _), rfl, ha'⟩
  | retry | giveUp => cases ha
  | shutdown hd =>
    rw [Manager.manager_shutdown hd] at ha
    cases ha

end

theorem live_run (ops : List Operation) : ((fresh target policy w).run g ops).Live := by
  apply run_of_move (motive := Live)
  · intro id ha
    cases ha
  · intro l op s hl hmove h
    exact h.extend hl hmove

/-- After any operations, the next one transmits a frame only if it is a send of that text, and only
to the active connection: the latest dial handed it out, since then it has opened, and nothing has
closed and nobody has shut the manager down. A send transmits once if the state is open and the
value could be written out, and answers what the gateway answers; otherwise it uses the gateway for
nothing, and is refused without a look at the value, or in the open state fails for the reason why
the value could not be written out. No send changes the manager or reaches the observer, and to send
a value is to send its text. -/
theorem frames_run (g : Gateway σ) (target : Target) (policy : ReconnectPolicy) (w : σ)
    (ops : List Operation) (op : Operation) :
    let l := (fresh target policy w).run g ops
    let m := l.manager
    let s := m.perform g l.world op
    (∀ id text, .transmit id text ∈ s.calls →
      op.text? = some text ∧ m.active = some id ∧
        ∃ since, l.HeldSince id since ∧ ∃ t ∈ since, t.Opens id) ∧
      Call.tally .transmit s.calls = (if m.state = .established ∧ op.text?.isSome then 1 else 0) ∧
      (op.isSend → s.manager = m ∧ s.callbacks = []) ∧
      (m.state = .established → ∀ text, op.text? = some text →
        ∃ id, m.active = some id ∧ s.calls = [.transmit id text] ∧
          (s.answer, s.world) = g.transmit l.world id text) ∧
      (m.state = .established → ∀ reason, op = .send (.error reason) →
        s.calls = [] ∧ s.world = l.world ∧ s.answer = .error (.unserializable reason)) ∧
      (m.state ≠ .established → op.isSend →
        s.calls = [] ∧ s.world = l.world ∧ s.answer = .error .notOpen ∧
          ∀ written, m.perform g l.world (.send written) = s) ∧
      ∀ text, m.perform g l.world (.send (.ok text)) = m.perform g l.world (.sendText text) := by
  intro l m s
  have hl : m.Sound := sound_run (.fresh target policy) ops
  refine ⟨?_, hl.tally_transmit op, ?_, ?_, ?_, ?_, fun text => Manager.perform_of_text rfl⟩
  · intro id text hmem
    obtain ⟨htext, hs, ha⟩ := (hl.move op).of_mem_transmit hmem
    obtain ⟨since, hheld, hopened⟩ := live_run ops id ha
    exact ⟨htext, ha, since, hheld, hopened hs⟩
  · intro hop
    have hquiet := (hl.move (g := g) (w := l.world) op).quiet_of_isSend hop
    exact ⟨hquiet.manager_eq, hquiet.callbacks_of_isSend hop⟩
  · intro hs text htext
    obtain ⟨id, ha⟩ := hl.active_of_established hs
    have hstep : s = m.perform g l.world (.sendText text) := Manager.perform_of_text htext
    rw [hstep]
    exact ⟨id, ha, Manager.perform_sendText_of_established hs ha⟩
  · rintro hs reason rfl
    have hstep : s = ⟨m, l.world, .error (.unserializable reason), []⟩ :=
      Manager.perform_unwritten hs reason
    rw [hstep]
    exact ⟨rfl, rfl, rfl⟩
  · intro hs hop
    have hstep : s = m.refuse l.world := Manager.perform_of_not_established hop hs
    rw [hstep]
    exact ⟨rfl, rfl, rfl, fun written => Manager.perform_of_not_established rfl hs⟩

/-- A message goes to the connection that opened after a refusal and a second dial. -/
theorem frames_run_second_connection :
    let l := (fresh (.ofHost "example.com") .standard (Script.ofLists [] [] [])).run Script.gateway
      [.start, .receive ⟨1⟩ (.closed none "refused"), .elapse ⟨1⟩, .receive ⟨2⟩ .opened]
    let s := l.manager.perform Script.gateway l.world (.send (.ok "1"))
    .transmit ⟨2⟩ "1" ∈ s.calls ∧ s.answer = .ok () ∧
      ∃ since, l.HeldSince ⟨2⟩ since ∧ ∃ t ∈ since, t.Opens ⟨2⟩ :=
  have hl := frames_run Script.gateway (.ofHost "example.com") .standard (Script.ofLists [] [] [])
    [.start, .receive ⟨1⟩ (.closed none "refused"), .elapse ⟨1⟩, .receive ⟨2⟩ .opened]
    (.send (.ok "1"))
  ⟨.head _, rfl, (hl.1 ⟨2⟩ "1" (.head _)).2.2⟩

end Life

end Lifeline
