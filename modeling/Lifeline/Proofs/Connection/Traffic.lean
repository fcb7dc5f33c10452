import Lifeline.Proofs.Client.Notices
import Lifeline.Proofs.Text.Utf8
/-! What passes over an open connection. Whatever comes is heeded in its turn until the connection
ends: texts are told on, pings are answered and outbound messages are written, once each and in the
order they came in. At its end the connection says why it leaves, and nothing after that. -/
namespace Lifeline

open Connection

theorem Phase.eq_streaming {p : Phase} (h : p.isStreaming) :
    ∃ awaitingPong, p = .streaming awaitingPong := by
  cases p with
  | streaming awaitingPong => exact ⟨awaitingPong, rfl⟩
  | _ => cases h

/-- The text that comes from the peer. Bytes bring one if they are its encoding. -/
def Stimulus.message? : Stimulus → Option String
  | frame (.text s) => some s
  | frame (.binary bytes) => String.fromUTF8? bytes.toByteArray
  | _ => none

/-- The payload of a ping from the peer. -/
def Stimulus.ping? : Stimulus → Option (List UInt8)
  | frame (.ping payload) => some payload
  | _ => none

/-- The message from the queue to the peer. -/
def Stimulus.outbound? : Stimulus → Option String
  | outbound text => some text
  | _ => none

/-- What a connection that fails says of it. -/
def ClientError.notices (e : ClientError) : List Notice :=
  [.error e.message, .closed none e.message]

/-- The last words of a connection that the stimulus ends. Most stimuli end none, and a tick only
one that still waits for a pong. -/
def Stimulus.farewell? : Stimulus → Option (List Notice)
  | frame (.close none) => some [.closed none ""]
  | frame (.close (some (code, reason))) => some [.closed (some code) reason]
  | discarded => some [.closed none ""]
  | readFailed reason => some (ClientError.connectionFailed reason).notices
  | streamEnded => some (ClientError.connectionFailed "Stream ended unexpectedly").notices
  | tick => some (ClientError.connectionFailed "Pong timeout").notices
  | _ => none

/-- Frames that bring no text and end nothing. -/
def Frame.isQuiet : Frame → Bool
  | binary bytes => (String.fromUTF8? bytes.toByteArray).isNone
  | ping _ | pong _ | raw => true
  | text _ | close _ => false

/-- A text told to the manager. -/
def Emission.message? : Emission → Option String
  | notice (.message s) => some s
  | _ => none

/-- The payload of a pong written to the peer. -/
def Emission.pong? : Emission → Option (List UInt8)
  | wrote (.pong payload) => some payload
  | _ => none

/-- A text written to the peer. -/
def Emission.text? : Emission → Option String
  | wrote (.text s) => some s
  | _ => none

attribute [simp] Emission.message?

namespace Connection

/-- The stimuli that find the connection open, up to the one that ends it. -/
def heeded (keepalive : Option Duration) (p : Phase) : List Stimulus → List Stimulus
  | [] => []
  | s :: rest =>
    if p.isStreaming then s :: heeded keepalive (step keepalive none p s).1 rest else []

/-- An open connection that heeds the stimuli comes to a phase and emits this on the way. -/
structure Heeds (ss : List Stimulus) (p : Phase) (es : List Emission) : Prop where
  messages : es.filterMap Emission.message? = ss.filterMap Stimulus.message?
  pongs : es.filterMap Emission.pong? = ss.filterMap Stimulus.ping?
  texts : es.filterMap Emission.text? = ss.filterMap Stimulus.outbound?
  notices : p.isStreaming ∧
      es.filterMap Emission.notice? = (ss.filterMap Stimulus.message?).map .message ∨
    p = .ended ∧ ∃ before last lastWords, ss = before ++ [last] ∧
      last.farewell? = some lastWords ∧
      es.filterMap Emission.notice? =
        (before.filterMap Stimulus.message?).map .message ++ lastWords

namespace Heeds

theorem nil (awaitingPong : Bool) : Heeds [] (.streaming awaitingPong) [] :=
  ⟨rfl, rfl, rfl, .inl ⟨rfl, rfl⟩⟩

/-- A connection that stays open has something else come to it. -/
theorem append {first second : List Stimulus} {p q : Phase} {es fs : List Emission}
    (h : Heeds first p es) (hp : p.isStreaming) (hnext : Heeds second q fs) :
    Heeds (first ++ second) q (es ++ fs) := by
  have hfirst := (h.notices.resolve_right (by rintro ⟨rfl, -⟩; cases hp)).2
  refine ⟨?_, ?_, ?_, ?_⟩
  · rw [List.filterMap_append, List.filterMap_append, h.messages, hnext.messages]
  · rw [List.filterMap_append, List.filterMap_append, h.pongs, hnext.pongs]
  · rw [List.filterMap_append, List.filterMap_append, h.texts, hnext.texts]
  · rw [List.filterMap_append, List.filterMap_append, List.map_append, hfirst]
    rcases hnext.notices with ⟨hq, hsecond⟩ | ⟨hq, before, last, lastWords, rfl, hlast, hsecond⟩
    · exact .inl ⟨hq, by rw [hsecond]⟩
    · refine .inr ⟨hq, first ++ before, last, lastWords, by rw [List.append_assoc], hlast, ?_⟩
      rw [hsecond, List.filterMap_append, List.map_append, List.append_assoc]

end Heeds

theorem heeds_fail {s : Stimulus} {e : ClientError} (hmessage : s.message? = none)
    (hping : s.ping? = none) (houtbound : s.outbound? = none)
    (h : s.farewell? = some e.notices) : Heeds [s] (fail e).1 (fail e).2 where
  messages := by rw [List.filterMap_cons_none hmessage]; rfl
  pongs := by rw [List.filterMap_cons_none hping]; rfl
  texts := by rw [List.filterMap_cons_none houtbound]; rfl
  notices := .inr ⟨rfl, [], s, e.notices, rfl, h, rfl⟩

theorem receive_binary (awaitingPong : Bool) (failure : Option String) (bytes : List UInt8) :
    receive awaitingPong failure (.binary bytes) = (.streaming awaitingPong,
      (String.fromUTF8? bytes.toByteArray).toList.map fun s => .notice (.message s)) := by
  rw [← Text.Utf8.toOption_decode, receive]
  cases Text.Utf8.decode bytes <;> rfl

/-- One frame is heeded. -/
theorem heeds_receive (awaitingPong : Bool) (f : Frame) :
    Heeds [.frame f] (receive awaitingPong none f).1 (receive awaitingPong none f).2 := by
  cases f with
  | binary bytes =>
    have hmessage : (Stimulus.frame (.binary bytes)).message? =
        String.fromUTF8? bytes.toByteArray := rfl
    rw [receive_binary]
    cases hread : String.fromUTF8? bytes.toByteArray with
    | none => exact ⟨by simp [hmessage, hread], rfl, rfl, .inl ⟨rfl, by simp [hmessage, hread]⟩⟩
    | some s => exact ⟨by simp [hmessage, hread], rfl, rfl, .inl ⟨rfl, by simp [hmessage, hread]⟩⟩
  | close status =>
    cases status <;> exact ⟨rfl, rfl, rfl, .inr ⟨rfl, [], _, _, rfl, rfl, rfl⟩⟩
  | text | ping | pong | raw => exact ⟨rfl, rfl, rfl, .inl ⟨rfl, rfl⟩⟩

/-- Whatever finds the connection open is heeded. -/
theorem heeds_step (keepalive : Option Duration) (awaitingPong : Bool) (s : Stimulus) :
    Heeds [s] (step keepalive none (.streaming awaitingPong) s).1
      (step keepalive none (.streaming awaitingPong) s).2 := by
  cases s with
  | frame f => exact heeds_receive awaitingPong f
  | readFailed | streamEnded => exact heeds_fail rfl rfl rfl rfl
  | discarded => exact ⟨rfl, rfl, rfl, .inr ⟨rfl, [], _, _, rfl, rfl, rfl⟩⟩
  | tick =>
    cases keepalive with
    | none => exact ⟨rfl, rfl, rfl, .inl ⟨rfl, rfl⟩⟩
    | some interval =>
      cases awaitingPong with
      | true => exact heeds_fail rfl rfl rfl rfl
      | false => exact ⟨rfl, rfl, rfl, .inl ⟨rfl, rfl⟩⟩
  | dialled | outbound => exact ⟨rfl, rfl, rfl, .inl ⟨rfl, rfl⟩⟩

variable (keepalive : Option Duration) (awaitingPong : Bool)

/-- An open connection stays open, or it comes to its end. -/
theorem step_streaming (s : Stimulus) :
    (∃ awaitingPong', (step keepalive none (.streaming awaitingPong) s).1 =
        .streaming awaitingPong') ∨
      (step keepalive none (.streaming awaitingPong) s).1 = .ended :=
  (heeds_step keepalive awaitingPong s).notices.imp (Phase.eq_streaming ·.1) (·.1)

theorem heeded_ended (ss : List Stimulus) : heeded keepalive .ended ss = [] := by
  cases ss <;> rfl

/-- What finds the connection open comes before all that does not. -/
theorem heeded_isPrefix (p : Phase) (ss : List Stimulus) : heeded keepalive p ss <+: ss := by
  induction ss generalizing p with
  | nil => exact List.prefix_rfl
  | cons s rest ih =>
    rw [heeded]
    split
    · exact (List.prefix_cons_inj s).mpr (ih _)
    · exact List.nil_prefix

theorem heeds_run (ss : List Stimulus) :
    Heeds (heeded keepalive (.streaming awaitingPong) ss)
      (run keepalive (.streaming awaitingPong) ss).1
      (run keepalive (.streaming awaitingPong) ss).2 := by
  induction ss generalizing awaitingPong with
  | nil => exact .nil awaitingPong
  | cons s rest ih =>
    have hstep := heeds_step keepalive awaitingPong s
    simp only [heeded, run, Phase.isStreaming, if_true]
    rcases step_streaming keepalive awaitingPong s with ⟨awaitingPong', hp⟩ | hp
    · rw [hp] at hstep ⊢
      exact hstep.append rfl (ih awaitingPong')
    · rw [hp] at hstep ⊢
      rw [heeded_ended, run_ended, List.append_nil]
      exact hstep

/-- As long as the connection is open all that comes is heeded. -/
theorem heeded_eq_self (ss : List Stimulus)
    (h : (run keepalive (.streaming awaitingPong) ss).1.isStreaming) :
    heeded keepalive (.streaming awaitingPong) ss = ss := by
  induction ss generalizing awaitingPong with
  | nil => rfl
  | cons s rest ih =>
    simp only [heeded, run, Phase.isStreaming, if_true] at h ⊢
    rcases step_streaming keepalive awaitingPong s with ⟨awaitingPong', hp⟩ | hp
    · rw [hp] at h ⊢
      rw [ih awaitingPong' h]
    · rw [hp, run_ended] at h
      cases h

/-- A quiet frame leaves an open connection open, and nothing is said of it. -/
theorem receive_of_isQuiet {f : Frame} (h : f.isQuiet) :
    (receive awaitingPong none f).1.isStreaming ∧
      (receive awaitingPong none f).2.filterMap Emission.notice? = [] := by
  cases f with
  | binary bytes =>
    have hread : String.fromUTF8? bytes.toByteArray = none := Option.isNone_iff_eq_none.mp h
    rw [receive_binary, hread]
    exact ⟨rfl, rfl⟩
  | ping | pong | raw => exact ⟨rfl, rfl⟩
  | text | close => cases h

/-- However frames, outbound messages and ticks are mixed, an open connection heeds them in their
order. A frame that is quiet leaves it open and goes untold. A close from the peer ends it with the
code and the reason of the peer, and whatever comes later is in vain. -/
theorem traffic_run (ss : List Stimulus) :
    let out := run keepalive (.streaming awaitingPong) ss
    let taken := heeded keepalive (.streaming awaitingPong) ss
    taken <+: ss ∧ (out.1.isStreaming → taken = ss) ∧ Heeds taken out.1 out.2 ∧
      (out.1.isStreaming → ∀ f : Frame, f.isQuiet →
        let next := run keepalive (.streaming awaitingPong) (ss ++ [.frame f])
        next.1.isStreaming ∧
          next.2.filterMap Emission.notice? = out.2.filterMap Emission.notice?) ∧
      (out.1.isStreaming → ∀ (status : Option (UInt16 × String)) (later : List Stimulus),
        run keepalive (.streaming awaitingPong) (ss ++ .frame (.close status) :: later) =
          (.ended, out.2 ++
            [.notice (.closed (status.map Prod.fst) ((status.map Prod.snd).getD ""))])) := by
  refine ⟨heeded_isPrefix _ _ _, heeded_eq_self _ _ ss, heeds_run _ _ ss, ?_, ?_⟩
  · intro hopen f hquiet
    obtain ⟨awaitingPong', hp⟩ := Phase.eq_streaming hopen
    obtain ⟨hstill, huntold⟩ := receive_of_isQuiet awaitingPong' hquiet
    simp only [run_append, hp, run, step, List.append_nil, List.filterMap_append, huntold, hstill,
      and_self]
  · intro hopen status later
    obtain ⟨awaitingPong', hp⟩ := Phase.eq_streaming hopen
    rw [run_append, hp]
    cases status <;> simp [run, step, receive, run_ended]

/-- A text comes and a ping is answered, a message goes out, and bytes come that are a text and
others that are none, before the peer closes. -/
theorem traffic_run_close :
    let talk : List Stimulus :=
      [.frame (.text "a"), .frame (.ping [7]), .outbound "b", .frame (.binary [0x63])]
    let closing : List Stimulus := .frame (.close (some (1000, "bye"))) :: [.frame (.text "late")]
    (run none (.streaming false) talk).1.isStreaming ∧ (Frame.binary [0xff]).isQuiet ∧
      (run none (.streaming false) (talk ++ [.frame (.binary [0xff])])).1.isStreaming ∧
      run none (.streaming false) (talk ++ closing) =
        (.ended, [.notice (.message "a"), .wrote (.pong [7]), .wrote (.text "b"),
          .notice (.message "c"), .notice (.closed (some 1000) "bye")]) := by
  have hquiet : (Frame.binary [0xff]).isQuiet := by decide
  obtain ⟨-, -, -, hstill, hend⟩ := traffic_run none false
    [.frame (.text "a"), .frame (.ping [7]), .outbound "b", .frame (.binary [0x63])]
  exact ⟨rfl, hquiet, (hstill rfl _ hquiet).1, hend rfl _ _⟩

end Connection

end Lifeline
