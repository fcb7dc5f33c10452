import Lifeline.Diagnostic
import Lifeline.Metric
/-! What a manager needs from its surroundings, and the trace that it leaves. A gateway opens,
feeds and drops connections and sets timers; it is given as functions on a state of its own, so
that any behaviour of a network and a clock is one of its values. -/
namespace Lifeline

structure Gateway (σ : Type) where
  /-- Starts dialling an address; notices of the new connection carry the identifier returned. -/
  dial : σ → String → ConnectionId × σ
  transmit : σ → ConnectionId → String → Except ClientError Unit × σ
  hangUp : σ → ConnectionId → σ
  schedule : σ → Duration → TimerId × σ
  cancel : σ → TimerId → σ

/-- One use of the gateway, with the identifier that it returned or was given. -/
inductive Call
  | dial (url : String) (id : ConnectionId)
  | transmit (id : ConnectionId) (text : String)
  | hangUp (id : ConnectionId)
  | schedule (delay : Duration) (id : TimerId)
  | cancel (id : TimerId)
deriving DecidableEq, Repr

inductive Effect
  | call (c : Call)
  | callback (c : Callback)
  | metric (m : Metric)
  | log (d : Diagnostic)
deriving DecidableEq, Repr

namespace Effect

def call? : Effect → Option Call
  | call c => some c
  | _ => none

def callback? : Effect → Option Callback
  | callback c => some c
  | _ => none

def metric? : Effect → Option Metric
  | metric m => some m
  | _ => none

def log? : Effect → Option Diagnostic
  | log d => some d
  | _ => none

end Effect

end Lifeline
