import Lifeline.Error
import Lifeline.Event
/-! The outbound queues of connections. A queue has two ends: the transport holds the sending end
until the connection is dropped, the connection serves the other until it ends. -/
namespace Lifeline

structure Mailbox where
  unread : List String
  held : Bool
  served : Bool
deriving DecidableEq, Repr

structure Transport where
  lastId : ConnectionId
  boxes : List (ConnectionId × Mailbox)
deriving DecidableEq, Repr

namespace Transport

def empty : Transport := ⟨⟨0⟩, []⟩

def box? (t : Transport) (id : ConnectionId) : Option Mailbox := t.boxes.lookup id

def modify (t : Transport) (id : ConnectionId) (f : Mailbox → Mailbox) : Transport :=
  { t with boxes := t.boxes.map fun (i, b) => if i = id then (i, f b) else (i, b) }

/-- A new connection under the next identifier. Queues that no connection serves any more are
cleared away. -/
def dial (t : Transport) : ConnectionId × Transport :=
  let id : ConnectionId := ⟨t.lastId.value + 1⟩
  let kept := t.boxes.filter fun (i, b) => b.served && i ≠ id
  (id, ⟨id, kept ++ [(id, ⟨[], true, true⟩)]⟩)

/-- Queues a message for a connection that is not dropped and has not ended. -/
def send (t : Transport) (id : ConnectionId) (text : String) :
    Except ClientError Unit × Transport :=
  match t.box? id with
  | some b =>
    if ¬b.held then (.error .notOpen, t)
    else if b.served then
      (.ok (), t.modify id fun b => { b with unread := b.unread ++ [text] })
    else (.error (.sendFailed "connection task ended"), t)
  | none => (.error .notOpen, t)

/-- Gives up the sending end; what is queued can still be served. -/
def close (t : Transport) (id : ConnectionId) : Transport :=
  t.modify id fun b => { b with held := false }

def closeAll (t : Transport) : Transport :=
  { t with boxes := t.boxes.map fun (i, b) => (i, { b with held := false }) }

def ended (t : Transport) (id : ConnectionId) : Transport :=
  t.modify id fun b => { b with unread := [], served := false }

inductive Collected
  | message (text : String)
  | nothing
  | discarded
deriving DecidableEq, Repr

def collect (t : Transport) (id : ConnectionId) : Collected × Transport :=
  match t.box? id with
  | some b =>
    match b.unread with
    | text :: rest => (.message text, t.modify id fun b => { b with unread := rest })
    | [] => (if b.held then .nothing else .discarded, t)
  | none => (.discarded, t)

end Transport

end Lifeline
