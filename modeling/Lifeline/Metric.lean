import Lifeline.Binary64.Basic
import Lifeline.Duration
/-! What is counted and measured, and the figures that are reported. -/
namespace Lifeline

inductive Counter
  | connectAttempts
  | connectionsOpened
  | connectionsClosed
  | transportErrors
  | messagesReceived
  | messagesSent
  | messagesDropped
  | reconnectsScheduled
  | reconnectsExhausted
deriving DecidableEq, Repr

namespace Counter

def name : Counter → String
  | connectAttempts => "wsclient_connect_attempts_total"
  | connectionsOpened => "wsclient_connections_opened_total"
  | connectionsClosed => "wsclient_connections_closed_total"
  | transportErrors => "wsclient_transport_errors_total"
  | messagesReceived => "wsclient_messages_received_total"
  | messagesSent => "wsclient_messages_sent_total"
  | messagesDropped => "wsclient_messages_dropped_total"
  | reconnectsScheduled => "wsclient_reconnects_scheduled_total"
  | reconnectsExhausted => "wsclient_reconnects_exhausted_total"

def all : List Counter :=
  [connectAttempts, connectionsOpened, connectionsClosed, transportErrors, messagesReceived,
    messagesSent, messagesDropped, reconnectsScheduled, reconnectsExhausted]

theorem mem_all (c : Counter) : c ∈ all := by cases c <;> decide

end Counter

def retryGaugeName : String := "wsclient_retry_count"

def delayHistogramName : String := "wsclient_reconnect_delay_ms"

/-- One measurement: a counter goes up by one, the gauge takes a value, or a delay is recorded. -/
inductive Metric
  | count (c : Counter)
  | retries (n : UInt32)
  | delay (d : Duration)
deriving DecidableEq, Repr

/-- A delay in milliseconds: seconds and fraction are rounded apart, then their sum, then the
thousandfold. -/
def Duration.millisFigure (d : Duration) : Binary64 :=
  ((Binary64.ofNat d.wholeSeconds).add
    ((Binary64.ofNat d.subsecond).div (Binary64.ofNat 1000000000))).mul (Binary64.ofNat 1000)

/-- What was measured in all: how often each counter was counted, and for the gauge and the
histogram what was handed in, next to the figures that are kept of it. Of the gauge only the last
one counts. -/
structure Totals where
  counts : Counter → Nat
  retries : Option UInt32
  delays : List Duration
  gauge : Option Binary64
  histogram : List Binary64

namespace Totals

def empty : Totals := ⟨fun _ => 0, none, [], none, []⟩

def add (t : Totals) : Metric → Totals
  | .count c => { t with counts := fun x => if x = c then t.counts x + 1 else t.counts x }
  | .retries n => { t with retries := some n, gauge := some (.ofNat n.toNat) }
  | .delay d => { t with delays := t.delays ++ [d], histogram := t.histogram ++ [d.millisFigure] }

def ofList (ms : List Metric) : Totals := ms.foldl add empty

end Totals

end Lifeline
