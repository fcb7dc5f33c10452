import Lifeline.Manager.Basic
/-! What is there to look at when an operation is done: the calls of the gateway and the callbacks, in
the order in which they were made, each counted by its kind; whether a notice or a timer was heeded;
and what it means that a gateway was called in a given way. -/
namespace Lifeline

attribute [simp] Effect.call? Effect.callback?

namespace Call

inductive Kind
  | dial
  | transmit
  | hangUp
  | schedule
  | cancel
deriving DecidableEq

def kind : Call → Kind
  | dial .. => .dial
  | transmit .. => .transmit
  | hangUp _ => .hangUp
  | schedule .. => .schedule
  | cancel _ => .cancel

def tally (k : Kind) (cs : List Call) : Nat := (cs.map kind).count k

@[simp] theorem tally_nil (k : Kind) : tally k [] = 0 := rfl

@[simp] theorem tally_cons (k : Kind) (c : Call) (cs : List Call) :
    tally k (c :: cs) = (if c.kind = k then 1 else 0) + tally k cs := by
  simp [tally, List.count_cons, Nat.add_comm]

@[simp] theorem tally_append (k : Kind) (cs ds : List Call) :
    tally k (cs ++ ds) = tally k cs + tally k ds := by
  simp [tally]

theorem not_mem_of_tally_eq_zero {c : Call} {cs : List Call} (h : tally c.kind cs = 0) :
    c ∉ cs := by
  intro hc
  rw [tally, List.count_eq_zero] at h
  exact h (List.mem_map_of_mem hc)

attribute [simp] kind

end Call

namespace Callback

inductive Kind
  | opened
  | message
  | error
  | closed
  | reconnecting
  | exhausted
deriving DecidableEq

def kind : Callback → Kind
  | opened => .opened
  | message _ => .message
  | error _ => .error
  | closed .. => .closed
  | reconnecting .. => .reconnecting
  | exhausted _ => .exhausted

def tally (k : Kind) (cs : List Callback) : Nat := (cs.map kind).count k

@[simp] theorem tally_nil (k : Kind) : tally k [] = 0 := rfl

@[simp] theorem tally_cons (k : Kind) (c : Callback) (cs : List Callback) :
    tally k (c :: cs) = (if c.kind = k then 1 else 0) + tally k cs := by
  simp [tally, List.count_cons, Nat.add_comm]

@[simp] theorem tally_append (k : Kind) (cs ds : List Callback) :
    tally k (cs ++ ds) = tally k cs + tally k ds := by
  simp [tally]

theorem tally_eq_zero {k : Kind} {cs : List Callback} (h : ∀ c ∈ cs, c.kind ≠ k) :
    tally k cs = 0 := by
  simpa [tally, List.count_eq_zero] using h

theorem tally_le_one {k : Kind} {cs : List Callback} (h : tally k cs.dropLast = 0) :
    tally k cs ≤ 1 := by
  by_cases hcs : cs = []
  · simp [hcs]
  · rw [← List.dropLast_concat_getLast hcs, tally_append, h, tally_cons]
    split <;> simp

theorem not_mem_of_tally_eq_zero {c : Callback} {cs : List Callback} (h : tally c.kind cs = 0) :
    c ∉ cs := by
  intro hc
  rw [tally, List.count_eq_zero] at h
  exact h (List.mem_map_of_mem hc)

attribute [simp] kind

end Callback

namespace Operation

def text? : Operation → Option String
  | send (.ok text) => some text
  | sendText text => some text
  | _ => none

def isSend : Operation → Bool
  | send _ | sendText _ => true
  | _ => false

def isStart : Operation → Bool
  | start => true
  | _ => false

theorem isSend_of_text {op : Operation} {text : String} (h : op.text? = some text) :
    op.isSend := by
  cases op with
  | send | sendText => rfl
  | _ => cases h

end Operation

variable {σ : Type}

namespace Step

def calls (s : Step σ) : List Call := s.effects.filterMap Effect.call?

def callbacks (s : Step σ) : List Callback := s.effects.filterMap Effect.callback?

@[simp] theorem calls_mk (m : Manager) (w : σ) (a : Except ClientError Unit) (es : List Effect) :
    calls ⟨m, w, a, es⟩ = es.filterMap Effect.call? := rfl

@[simp] theorem callbacks_mk (m : Manager) (w : σ) (a : Except ClientError Unit)
    (es : List Effect) : callbacks ⟨m, w, a, es⟩ = es.filterMap Effect.callback? := rfl

end Step

/-- An operation, the manager that took it, and what it led to. -/
structure Turn (σ : Type) where
  manager : Manager
  op : Operation
  step : Step σ

namespace Turn

/-- The notice of an opened connection was not stale. -/
def opens (t : Turn σ) : Bool :=
  match t.op with
  | .receive id .opened => t.manager.active = some id
  | _ => false

/-- The notice of a close was not stale. -/
def closes (t : Turn σ) : Bool :=
  match t.op with
  | .receive id (.closed ..) => t.manager.active = some id
  | _ => false

/-- The timer was the one waited for. -/
def fires (t : Turn σ) : Bool :=
  match t.op with
  | .elapse id => !t.manager.shutDown && t.manager.pending = some id
  | _ => false

end Turn

variable {g : Gateway σ}

/-- The gateway gives the identifier that the call records. -/
def Call.AnsweredBy (g : Gateway σ) (w : σ) : Call → Prop
  | .dial url id => (g.dial w url).1 = id
  | .schedule delay id => (g.schedule w delay).1 = id
  | _ => True

def Call.carryOut (g : Gateway σ) (w : σ) : Call → σ
  | .dial url _ => (g.dial w url).2
  | .transmit id text => (g.transmit w id text).2
  | .hangUp id => g.hangUp w id
  | .schedule delay _ => (g.schedule w delay).2
  | .cancel id => g.cancel w id

/-- The calls, carried out one after the other with the answers that they record, lead the gateway
from one state to another. -/
def Carries (g : Gateway σ) : σ → List Call → σ → Prop
  | w, [], w' => w = w'
  | w, c :: cs, w' => c.AnsweredBy g w ∧ Carries g (c.carryOut g w) cs w'

theorem Carries.append {w w' w'' : σ} {cs ds : List Call} (h : Carries g w cs w')
    (k : Carries g w' ds w'') : Carries g w (cs ++ ds) w'' := by
  induction cs generalizing w with
  | nil =>
    cases h
    exact k
  | cons c cs ih => exact ⟨h.1, ih h.2⟩

end Lifeline
