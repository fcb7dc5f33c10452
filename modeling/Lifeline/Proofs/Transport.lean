import Mathlib.Data.List.Induction
import Lifeline.Transport
/-! The queues of connections, whatever is dialled, sent and dropped while connections take from
their queues and end. What a queue is depends only on what has happened to its connection since it
was dialled: whether it was dropped, and whether it has ended. That dialling clears queues away is
noticed by no connection that is still there. -/
namespace Lifeline.Transport

/-- What can happen to the queues. -/
inductive Act
  | dial
  | send (id : ConnectionId) (text : String)
  | close (id : ConnectionId)
  /-- The connection takes the next message from its queue. -/
  | collect (id : ConnectionId)
  | ended (id : ConnectionId)
deriving DecidableEq, Repr

/-- What has happened, with the identifier that was handed out and the answer that was given. -/
inductive Entry
  | dialled (id : ConnectionId)
  | sent (id : ConnectionId) (text : String) (answer : Except ClientError Unit)
  | closed (id : ConnectionId)
  | collected (id : ConnectionId)
  | ended (id : ConnectionId)

def Entry.isDial : Entry → Bool
  | dialled _ => true
  | _ => false

def act (t : Transport) : Act → Entry × Transport
  | .dial => (.dialled t.dial.1, t.dial.2)
  | .send id text => (.sent id text (t.send id text).1, (t.send id text).2)
  | .close id => (.closed id, t.close id)
  | .collect id => (.collected id, (t.collect id).2)
  | .ended id => (.ended id, t.ended id)

/-- A transport and its past. -/
structure Record where
  past : List Entry
  transport : Transport

namespace Record

def fresh : Record := ⟨[], .empty⟩

def extend (r : Record) (a : Act) : Record :=
  ⟨r.past ++ [(r.transport.act a).1], (r.transport.act a).2⟩

def run (r : Record) (acts : List Act) : Record := acts.foldl extend r

end Record

/-- Something has happened, and since the latest time something else has not. -/
def Since (start stop : Entry) (past : List Entry) : Prop :=
  ∃ before since, past = before ++ start :: since ∧ stop ∉ since

/-- The connection was dialled and since then not dropped. -/
def Held (past : List Entry) (id : ConnectionId) : Prop := Since (.dialled id) (.closed id) past

/-- The connection was dialled and has not ended since then. -/
def Served (past : List Entry) (id : ConnectionId) : Prop := Since (.dialled id) (.ended id) past

section

variable {past : List Entry} {start stop e : Entry} {id : ConnectionId}

theorem since_concat :
    Since start stop (past ++ [e]) ↔ e = start ∨ e ≠ stop ∧ Since start stop past := by
  constructor
  · rintro ⟨before, since, hpast, hstop⟩
    rcases List.eq_nil_or_concat since with rfl | ⟨since, last, rfl⟩
    · obtain ⟨-, he⟩ := List.append_inj' hpast rfl
      exact .inl (List.singleton_inj.mp he)
    · have hsplit : past ++ [e] = (before ++ start :: since) ++ [last] := by simpa using hpast
      obtain ⟨rfl, he⟩ := List.append_inj' hsplit rfl
      obtain rfl := List.singleton_inj.mp he
      simp only [List.concat_eq_append, List.mem_append, List.mem_singleton, not_or] at hstop
      exact .inr ⟨Ne.symm hstop.2, before, since, rfl, hstop.1⟩
  · rintro (rfl | ⟨hne, before, since, rfl, hstop⟩)
    · exact ⟨past, [], rfl, by simp⟩
    · exact ⟨before, since ++ [e], by simp, by simpa using ⟨hstop, Ne.symm hne⟩⟩

theorem Since.mem (h : Since start stop past) : start ∈ past := by
  obtain ⟨before, since, rfl, -⟩ := h
  simp

theorem not_since_nil : ¬Since start stop [] := fun h => by cases h.mem

end

/-! ## Looking a queue up -/

section

variable {t : Transport} {id i : ConnectionId} {b : Mailbox} {text : String}

theorem lookup_cons (j : ConnectionId) (b : Mailbox) (rest : List (ConnectionId × Mailbox)) :
    ((j, b) :: rest).lookup i = if i = j then some b else rest.lookup i := by
  by_cases h : i = j
  · simp [h]
  · simp [List.lookup_cons, beq_false_of_ne h, h]

theorem box?_modify (f : Mailbox → Mailbox) :
    (t.modify id f).box? i = if i = id then (t.box? i).map f else t.box? i := by
  simp only [box?, modify]
  induction t.boxes with
  | nil => simp
  | cons entry rest ih =>
    obtain ⟨j, b⟩ := entry
    rw [List.map_cons, lookup_cons]
    by_cases hj : j = id
    · rw [if_pos hj, lookup_cons, ih]
      by_cases hi : i = j <;> simp_all
    · rw [if_neg hj, lookup_cons, ih]
      by_cases hi : i = j
      · subst hi
        simp [hj]
      · simp [hi]

theorem modify_self (t : Transport) (id : ConnectionId) : t.modify id (fun b => b) = t := by
  simp [modify]

theorem keys_modify (f : Mailbox → Mailbox) :
    (t.modify id f).boxes.map Prod.fst = t.boxes.map Prod.fst := by
  simp only [modify, List.map_map]
  refine List.map_congr_left fun entry _ => ?_
  dsimp
  split <;> rfl

/-- Where no key stands twice, an entry that is filtered out leaves nothing behind. -/
theorem lookup_filter {boxes : List (ConnectionId × Mailbox)}
    (hnodup : (boxes.map Prod.fst).Nodup) (keep : ConnectionId × Mailbox → Bool) :
    (boxes.filter keep).lookup i = (boxes.lookup i).filter fun b => keep (i, b) := by
  induction boxes with
  | nil => rfl
  | cons entry rest ih =>
    obtain ⟨j, b⟩ := entry
    obtain ⟨hfresh, hrest⟩ := List.nodup_cons.mp hnodup
    rw [lookup_cons]
    by_cases hi : i = j
    · subst hi
      rw [if_pos rfl]
      by_cases hkeep : keep (i, b)
      · rw [List.filter_cons_of_pos hkeep, lookup_cons, if_pos rfl]
        simp [Option.filter, hkeep]
      · have hnone : rest.lookup i = none := by
          rw [List.lookup_eq_none_iff]
          intro entry hmem
          exact bne_iff_ne.mpr fun heq => hfresh (List.mem_map.mpr ⟨entry, hmem, heq.symm⟩)
        rw [List.filter_cons_of_neg hkeep, ih hrest, hnone]
        simp [Option.filter, hkeep]
    · rw [if_neg hi]
      by_cases hkeep : keep (j, b)
      · rw [List.filter_cons_of_pos hkeep, lookup_cons, if_neg hi, ih hrest]
      · rw [List.filter_cons_of_neg hkeep, ih hrest]

/-- The new queue is empty, and of the others those stay that a connection serves. -/
theorem box?_dial (hnodup : (t.boxes.map Prod.fst).Nodup) :
    t.dial.2.box? i =
      if i = t.dial.1 then some ⟨[], true, true⟩ else (t.box? i).filter (·.served) := by
  simp only [dial, box?, List.lookup_append]
  rw [lookup_filter hnodup, lookup_cons]
  by_cases hi : i = ⟨t.lastId.value + 1⟩
  · cases h : t.boxes.lookup i <;> simp [hi, Option.filter]
  · cases h : t.boxes.lookup i <;> simp [hi]

theorem nodup_dial (hnodup : (t.boxes.map Prod.fst).Nodup) :
    (t.dial.2.boxes.map Prod.fst).Nodup := by
  simp only [dial, List.map_append, List.map_cons, List.map_nil]
  refine List.nodup_append.mpr ⟨hnodup.sublist (List.filter_sublist.map _), by simp, ?_⟩
  rintro i hi j hj rfl
  obtain ⟨entry, hentry, rfl⟩ := List.mem_map.mp hi
  simp_all

end

/-! ## What sending comes to -/

section

variable {t : Transport} {id : ConnectionId} {b : Mailbox} {text : String}

theorem send_of_served (hb : t.box? id = some b) (hheld : b.held) (hserved : b.served) :
    t.send id text =
      (.ok (), t.modify id fun b => { b with unread := b.unread ++ [text] }) := by
  simp [send, hb, hheld, hserved]

theorem send_of_not_held (h : ∀ b, t.box? id = some b → b.held = false) :
    t.send id text = (.error .notOpen, t) := by
  unfold send
  cases hb : t.box? id with
  | none => rfl
  | some b => simp [h b hb]

theorem send_of_not_served (hb : t.box? id = some b) (hheld : b.held) (hserved : b.served = false) :
    t.send id text = (.error (.sendFailed "connection task ended"), t) := by
  simp [send, hb, hheld, hserved]

end

/-- What happens to at most one queue: its sending end is held until it is closed, and the other is
served until its connection ends. -/
structure Touch (e : Entry) (id : ConnectionId) (f : Mailbox → Mailbox) : Prop where
  isDial : e.isDial = false
  closed : ∀ i, e = .closed i → i = id
  ended : ∀ i, e = .ended i → i = id
  held : ∀ b, (f b).held = true ↔ e ≠ .closed id ∧ b.held = true
  served : ∀ b, (f b).served = true ↔ e ≠ .ended id ∧ b.served = true

section

variable {e : Entry} {id : ConnectionId} {f : Mailbox → Mailbox}

theorem Touch.ne_dialled (h : Touch e id f) (i : ConnectionId) : e ≠ .dialled i := by
  rintro rfl
  cases h.isDial

/-- Messages come into a queue and go out of it, and its ends stay. -/
theorem Touch.of_unread (hdial : e.isDial = false) (hclosed : ∀ i, e ≠ .closed i)
    (hended : ∀ i, e ≠ .ended i) (g : List String → List String) :
    Touch e id fun b => { b with unread := g b.unread } where
  isDial := hdial
  closed i hi := absurd hi (hclosed i)
  ended i hi := absurd hi (hended i)
  held _ := (and_iff_right (hclosed id)).symm
  served _ := (and_iff_right (hended id)).symm

theorem send_eq_modify (t : Transport) (id : ConnectionId) (text : String) :
    ∃ g : List String → List String,
      (t.send id text).2 = t.modify id fun b => { b with unread := g b.unread } := by
  unfold send
  split
  · split
    · exact ⟨fun unread => unread, (modify_self t id).symm⟩
    · split
      · exact ⟨fun unread => unread ++ [text], rfl⟩
      · exact ⟨fun unread => unread, (modify_self t id).symm⟩
  · exact ⟨fun unread => unread, (modify_self t id).symm⟩

theorem collect_eq_modify (t : Transport) (id : ConnectionId) :
    ∃ g : List String → List String,
      (t.collect id).2 = t.modify id fun b => { b with unread := g b.unread } := by
  unfold collect
  split
  · split
    · rename_i rest _
      exact ⟨fun _ => rest, rfl⟩
    · exact ⟨fun unread => unread, (modify_self t id).symm⟩
  · exact ⟨fun unread => unread, (modify_self t id).symm⟩

/-- Whatever happens, dials apart, happens to at most one queue. -/
theorem act_of_ne_dial (t : Transport) {a : Act} (ha : a ≠ .dial) :
    ∃ id f, (t.act a).2 = t.modify id f ∧ Touch (t.act a).1 id f := by
  cases a with
  | dial => exact absurd rfl ha
  | send id text =>
    obtain ⟨g, hsend⟩ := t.send_eq_modify id text
    exact ⟨id, _, hsend, .of_unread rfl (by simp [act]) (by simp [act]) g⟩
  | close id =>
    exact ⟨id, fun b => { b with held := false }, rfl, rfl,
      fun i hi => (Entry.closed.inj hi).symm, by simp [act], by simp [act], by simp [act]⟩
  | collect id =>
    obtain ⟨g, hcollect⟩ := t.collect_eq_modify id
    exact ⟨id, _, hcollect, .of_unread rfl (by simp [act]) (by simp [act]) g⟩
  | ended id =>
    exact ⟨id, fun b => { b with unread := [], served := false }, rfl, rfl, by simp [act],
      fun i hi => (Entry.ended.inj hi).symm, by simp [act], by simp [act]⟩

end

/-! ## The queues and their past -/

namespace Record

/-- A mark that each queue bears from the dial until something stops it. -/
def Tracks (mark : Mailbox → Bool) (stop : ConnectionId → Entry) (r : Record) : Prop :=
  ∀ id b, r.transport.box? id = some b →
    (mark b = true ↔ Since (.dialled id) (stop id) r.past)

/-- The queues are what their past makes of them. A connection that has not ended has one. -/
structure Faithful (r : Record) : Prop where
  nodup : (r.transport.boxes.map Prod.fst).Nodup
  held : r.Tracks Mailbox.held .closed
  served : r.Tracks Mailbox.served .ended
  kept : ∀ id, Served r.past id → ∃ b, r.transport.box? id = some b

variable {r : Record} {mark : Mailbox → Bool} {stop : ConnectionId → Entry}

theorem Tracks.dial (h : r.Tracks mark stop) (hnodup : (r.transport.boxes.map Prod.fst).Nodup)
    (hmark : mark ⟨[], true, true⟩ = true) (hstop : ∀ i j, .dialled j ≠ stop i) :
    (r.extend .dial).Tracks mark stop := by
  intro i b hb
  simp only [extend, act, since_concat] at hb ⊢
  rw [box?_dial hnodup] at hb
  split at hb
  · rename_i hi
    cases hb
    simp [hi, hmark]
  · rename_i hi
    rw [h i b (Option.eq_some_of_filter_eq_some hb)]
    simp [Ne.symm hi, hstop]

variable {e : Entry} {id : ConnectionId} {f : Mailbox → Mailbox}

theorem Tracks.modify (h : r.Tracks mark stop) (hdial : ∀ i, e ≠ .dialled i)
    (hother : ∀ i, e = stop i → i = id)
    (hmark : ∀ b, mark (f b) = true ↔ e ≠ stop id ∧ mark b = true) :
    Tracks mark stop ⟨r.past ++ [e], r.transport.modify id f⟩ := by
  intro i b hb
  rw [box?_modify] at hb
  rw [since_concat, or_iff_right (hdial i)]
  split at hb
  · rename_i hi
    subst hi
    obtain ⟨b', hb', rfl⟩ := Option.map_eq_some_iff.mp hb
    rw [hmark, h i b' hb']
  · rename_i hi
    rw [h i b hb]
    exact (and_iff_right (mt (hother i) hi)).symm

theorem Faithful.fresh : Faithful fresh where
  nodup := List.nodup_nil
  held := by rintro id b ⟨⟩
  served := by rintro id b ⟨⟩
  kept id h := absurd h not_since_nil

theorem Faithful.dial (h : r.Faithful) : (r.extend .dial).Faithful where
  nodup := nodup_dial h.nodup
  held := h.held.dial h.nodup rfl (by simp)
  served := h.served.dial h.nodup rfl (by simp)
  kept i hi := by
    simp only [extend, act, Served, since_concat] at hi ⊢
    rw [box?_dial h.nodup]
    rcases hi with hnew | ⟨-, hserved⟩
    · exact ⟨_, if_pos (Entry.dialled.inj hnew).symm⟩
    · split
      · exact ⟨_, rfl⟩
      · obtain ⟨b, hb⟩ := h.kept i hserved
        exact ⟨b, by simp [hb, (h.served i b hb).mpr hserved]⟩

theorem Faithful.touch (h : r.Faithful) (he : Touch e id f) :
    Faithful ⟨r.past ++ [e], r.transport.modify id f⟩ where
  nodup := by
    rw [keys_modify]
    exact h.nodup
  held := h.held.modify he.ne_dialled he.closed he.held
  served := h.served.modify he.ne_dialled he.ended he.served
  kept i hi := by
    rw [Served, since_concat, or_iff_right (he.ne_dialled i)] at hi
    obtain ⟨b, hb⟩ := h.kept i hi.2
    rw [box?_modify, hb]
    split
    · exact ⟨f b, rfl⟩
    · exact ⟨b, rfl⟩

/-- Whatever happens next, the queues are what their past makes of them. -/
theorem Faithful.extend (h : r.Faithful) (a : Act) : (r.extend a).Faithful := by
  by_cases ha : a = .dial
  · subst ha
    exact h.dial
  · obtain ⟨id, f, htransport, htouch⟩ := r.transport.act_of_ne_dial ha
    rw [Record.extend, htransport]
    exact h.touch htouch

theorem run_concat (r : Record) (acts : List Act) (a : Act) :
    r.run (acts ++ [a]) = (r.run acts).extend a := by
  simp [run]

theorem faithful_run (acts : List Act) : (Record.fresh.run acts).Faithful := by
  induction acts using List.reverseRecOn with
  | nil => exact .fresh
  | append_singleton acts a ih =>
    rw [run_concat]
    exact ih.extend a

/-- What a send comes to: it is accepted, it fails for a connection that has ended, or it is
refused for one that is dropped or whose queue is cleared away. -/
theorem Faithful.send_cases (h : r.Faithful) (id : ConnectionId) (text : String) :
    (Held r.past id ∧ Served r.past id ∧ ∃ b, r.transport.box? id = some b ∧
      r.transport.send id text = (.ok (), r.transport.modify id fun b =>
        { b with unread := b.unread ++ [text] })) ∨
    (Held r.past id ∧ ¬Served r.past id ∧ r.transport.send id text =
      (.error (.sendFailed "connection task ended"), r.transport)) ∨
    (¬(Held r.past id ∧ Served r.past id) ∧
      r.transport.send id text = (.error .notOpen, r.transport)) := by
  cases hb : r.transport.box? id with
  | none =>
    have hserved : ¬Served r.past id := fun hserved => by
      obtain ⟨b, hsome⟩ := h.kept id hserved
      rw [hb] at hsome
      cases hsome
    exact .inr (.inr ⟨fun hboth => hserved hboth.2, send_of_not_held (by simp [hb])⟩)
  | some b =>
    have hheld : b.held = true ↔ Held r.past id := h.held id b hb
    have hserved : b.served = true ↔ Served r.past id := h.served id b hb
    cases hbheld : b.held with
    | false =>
      have hdropped : ¬Held r.past id := by simp [← hheld, hbheld]
      refine .inr (.inr ⟨fun hboth => hdropped hboth.1, send_of_not_held fun b' hb' => ?_⟩)
      obtain rfl := Option.some.inj (hb.symm.trans hb')
      exact hbheld
    | true =>
      cases hbserved : b.served with
      | false =>
        exact .inr (.inl ⟨hheld.mp hbheld, by simp [← hserved, hbserved],
          send_of_not_served hb hbheld hbserved⟩)
      | true =>
        exact .inl ⟨hheld.mp hbheld, hserved.mp hbserved, b, rfl,
          send_of_served hb hbheld hbserved⟩

/-! ## Identifiers -/

def dials (r : Record) : Nat := r.past.countP Entry.isDial

/-- The latest identifier is the number of dials, and no earlier one is greater. -/
structure Numbered (r : Record) : Prop where
  lastId : r.transport.lastId.value.toNat = r.dials
  le_dials : ∀ id, .dialled id ∈ r.past → id.value.toNat ≤ r.dials

theorem Numbered.fresh : Numbered fresh := ⟨rfl, by rintro id ⟨⟩⟩

/-- As long as identifiers last, the next one is the next number. -/
theorem Numbered.toNat_dial (h : r.Numbered) (hlast : r.dials + 1 < UInt64.size) :
    r.transport.dial.1.value.toNat = r.dials + 1 := by
  have hone : (1 : UInt64).toNat = 1 := rfl
  rw [dial, UInt64.toNat_add, h.lastId, hone]
  exact Nat.mod_eq_of_lt hlast

theorem Numbered.fresh_dial (h : r.Numbered) (hlast : r.dials + 1 < UInt64.size) :
    .dialled r.transport.dial.1 ∉ r.past := by
  intro hmem
  have hle := h.le_dials _ hmem
  rw [h.toNat_dial hlast] at hle
  omega

theorem dials_extend (r : Record) (a : Act) :
    (r.extend a).dials = r.dials + if a = .dial then 1 else 0 := by
  simp only [dials, Record.extend, List.countP_append]
  congr 1
  by_cases ha : a = .dial
  · subst ha
    rfl
  · obtain ⟨id, f, -, htouch⟩ := r.transport.act_of_ne_dial ha
    simp [ha, htouch.isDial]

theorem Numbered.extend (h : r.Numbered) (a : Act) (hlast : (r.extend a).dials < UInt64.size) :
    (r.extend a).Numbered := by
  by_cases ha : a = .dial
  · subst ha
    rw [dials_extend, if_pos rfl] at hlast
    have hnext := h.toNat_dial hlast
    refine ⟨by rw [dials_extend, if_pos rfl]; exact hnext, fun id hid => ?_⟩
    rw [dials_extend, if_pos rfl]
    rcases List.mem_append.mp hid with hearlier | hnow
    · exact Nat.le_succ_of_le (h.le_dials id hearlier)
    · obtain rfl : id = r.transport.dial.1 := by simpa [act] using hnow
      exact Nat.le_of_eq hnext
  · obtain ⟨id, f, htransport, htouch⟩ := r.transport.act_of_ne_dial ha
    refine ⟨?_, fun i hi => ?_⟩
    · rw [dials_extend, if_neg ha, Record.extend, htransport]
      exact h.lastId
    · rw [dials_extend, if_neg ha]
      rcases List.mem_append.mp hi with hearlier | hnow
      · exact h.le_dials i hearlier
      · exact absurd (List.mem_singleton.mp hnow).symm (htouch.ne_dialled i)

theorem numbered_run (acts : List Act) (hlast : (Record.fresh.run acts).dials < UInt64.size) :
    (Record.fresh.run acts).Numbered := by
  induction acts using List.reverseRecOn with
  | nil => exact .fresh
  | append_singleton acts a ih =>
    rw [run_concat] at hlast ⊢
    have hearlier : (Record.fresh.run acts).dials ≤ ((Record.fresh.run acts).extend a).dials := by
      rw [dials_extend]
      exact Nat.le_add_right _ _
    exact (ih (Nat.lt_of_le_of_lt hearlier hlast)).extend a hlast

end Record

/-! ## What dialling, sending and closing come to -/

/-- After whatever has happened: a dial hands out an identifier that was not handed out before, as
long as identifiers last. A message is accepted if and only if its connection was dialled, and since
then neither dropped nor ended; it is then the last one in the queue of that connection, and every
other queue is as it was. A message for a connection that was never dialled, or dropped since, is
refused as for one that is not open; sending fails only for one that has ended, and a message that
is not accepted changes nothing. A dial begins an empty queue, clears away the queues of connections
that have ended, and leaves every other queue as it was. -/
theorem queues_run (acts : List Act) :
    let r := Record.fresh.run acts
    let t := r.transport
    (r.dials + 1 < UInt64.size → .dialled t.dial.1 ∉ r.past) ∧
      (∀ id text, let sent := t.send id text
        (sent.1 = .ok () ↔ Held r.past id ∧ Served r.past id) ∧
          (sent.1 = .ok () → (∃ b, t.box? id = some b ∧
            sent.2.box? id = some { b with unread := b.unread ++ [text] }) ∧
            ∀ i, i ≠ id → sent.2.box? i = t.box? i) ∧
          (sent.1 ≠ .ok () → sent.2 = t) ∧
          (¬Held r.past id → sent.1 = .error .notOpen) ∧
          ∀ reason, sent.1 = .error (.sendFailed reason) →
            .dialled id ∈ r.past ∧ ¬Served r.past id) ∧
      t.dial.2.box? t.dial.1 = some ⟨[], true, true⟩ ∧
      (∀ i, i ≠ t.dial.1 → Served r.past i →
        ∃ b, t.box? i = some b ∧ t.dial.2.box? i = some b) ∧
      ∀ i, i ≠ t.dial.1 → ¬Served r.past i → t.dial.2.box? i = none := by
  intro r t
  have hfaithful : r.Faithful := Record.faithful_run acts
  refine ⟨fun hlast => ?_, fun id text => ?_, ?_, ?_, ?_⟩
  · exact (Record.numbered_run acts (Nat.lt_of_succ_lt hlast)).fresh_dial hlast
  · rcases hfaithful.send_cases id text with
      ⟨hheld, hserved, b, hb, hsend⟩ | ⟨hheld, hserved, hsend⟩ | ⟨hboth, hsend⟩
    · rw [hsend]
      refine ⟨by simp [hheld, hserved], fun _ => ⟨⟨b, hb, ?_⟩, fun i hi => ?_⟩, by simp, ?_, ?_⟩
      · rw [box?_modify, if_pos rfl, hb]
        rfl
      · rw [box?_modify, if_neg hi]
      · exact fun hdropped => absurd hheld hdropped
      · rintro reason ⟨⟩
    · rw [hsend]
      exact ⟨by simp [hserved], by simp, fun _ => rfl, fun hdropped => absurd hheld hdropped,
        fun _ _ => ⟨hheld.mem, hserved⟩⟩
    · rw [hsend]
      exact ⟨by simpa using hboth, by simp, fun _ => rfl, by simp, by simp⟩
  · rw [box?_dial hfaithful.nodup, if_pos rfl]
  · intro i hi hserved
    obtain ⟨b, hb⟩ := hfaithful.kept i hserved
    have hbserved := (hfaithful.served i b hb).mpr hserved
    exact ⟨b, hb, by rw [box?_dial hfaithful.nodup, if_neg hi, hb]; simp [hbserved]⟩
  · intro i hi hserved
    rw [box?_dial hfaithful.nodup, if_neg hi]
    cases hb : t.box? i with
    | none => rfl
    | some b =>
      have hbserved : ¬b.served = true := mt (hfaithful.served i b hb).mp hserved
      simp [Option.filter, hbserved]

/-- The first connection is dropped, the second one ends, and the third takes a second message. The
next dial clears the second queue away and leaves the third. -/
theorem queues_run_third :
    let r := Record.fresh.run
      [.dial, .close ⟨1⟩, .dial, .dial, .ended ⟨2⟩, .send ⟨3⟩ "a", .collect ⟨3⟩, .send ⟨3⟩ "b"]
    let t := r.transport
    r.dials + 1 < UInt64.size ∧ .dialled t.dial.1 ∉ r.past ∧
      (t.send ⟨3⟩ "c").1 = .ok () ∧ Held r.past ⟨3⟩ ∧ Served r.past ⟨3⟩ ∧
      (t.send ⟨2⟩ "c").1 = .error (.sendFailed "connection task ended") ∧ ¬Served r.past ⟨2⟩ ∧
      t.dial.2.box? ⟨2⟩ = none ∧ ∃ b, t.box? ⟨3⟩ = some b ∧ t.dial.2.box? ⟨3⟩ = some b := by
  intro r t
  obtain ⟨hfresh, hsend, -, hkept, hcleared⟩ := queues_run
    [.dial, .close ⟨1⟩, .dial, .dial, .ended ⟨2⟩, .send ⟨3⟩ "a", .collect ⟨3⟩, .send ⟨3⟩ "b"]
  have hlast : r.dials + 1 < UInt64.size := by decide
  have haccepted : (t.send ⟨3⟩ "c").1 = .ok () := rfl
  have hfailed : (t.send ⟨2⟩ "c").1 = .error (.sendFailed "connection task ended") := rfl
  have hthird := (hsend ⟨3⟩ "c").1.mp haccepted
  have hsecond := ((hsend ⟨2⟩ "c").2.2.2.2 _ hfailed).2
  exact ⟨hlast, hfresh hlast, haccepted, hthird.1, hthird.2, hfailed, hsecond,
    hcleared ⟨2⟩ (by decide) hsecond, hkept ⟨3⟩ (by decide) hthird.2⟩

end Lifeline.Transport
