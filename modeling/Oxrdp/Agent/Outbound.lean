import Oxrdp.Proto.Message

/-!
# The outbound queue

The bounded channel between the agent's driver loop and its writer task.  The
writer takes chunks off the front at its own pace and may stop at any time; the
driver only ever sees whether a slot is free.

What the driver has put on the queue since the session began is `accepted`, and
`told` is the same list as the client decodes it.  Neither depends on how far
the writer has come.
-/

namespace Oxrdp

/-- Capacity of the queue, in protocol messages. -/
def outboundQueueCapacity : Nat := 64

/-- One message on its way to the writer. -/
structure OutboundChunk where
  msgType : UInt8
  channel : UInt16
  body : List UInt8
  deriving DecidableEq, Repr

/-- What the writer task does between two looks of the driver at the queue. -/
inductive WriterMove where
  | take (n : Nat)
  | close
  deriving DecidableEq, Repr

/-- The queue, with the chunks the writer has taken kept for reference. -/
structure Outbound where
  written : List OutboundChunk
  queued : List OutboundChunk
  closed : Bool
  deriving DecidableEq, Repr

/-- A message as it was sent: the channel it rides and what it says. -/
structure Sent where
  channel : UInt16
  message : Message
  deriving DecidableEq, Repr

/-- The message a chunk carries, as the receiving end decodes it. -/
def OutboundChunk.carried (k : OutboundChunk) : Option Sent :=
  match Message.decodeKnown k.msgType k.body with
  | .ok (some message) => some { channel := k.channel, message }
  | _ => none

namespace Outbound

/-- An open queue with nothing on it. -/
def empty : Outbound := { written := [], queued := [], closed := false }

/-- Everything put on the queue so far, the oldest first. -/
def accepted (o : Outbound) : List OutboundChunk := o.written ++ o.queued

/-- Everything put on the queue so far, as the client reads it. -/
def told (o : Outbound) : List Sent := o.accepted.filterMap OutboundChunk.carried

def move (o : Outbound) : WriterMove → Outbound
  | .take n =>
      if o.closed then o
      else { o with written := o.written ++ o.queued.take n, queued := o.queued.drop n }
  | .close => { o with closed := true }

/-- Append a chunk; whether there is room is the caller's to check. -/
def push (o : Outbound) (k : OutboundChunk) : Outbound :=
  { o with queued := o.queued ++ [k] }

theorem accepted_move (o : Outbound) (w : WriterMove) : (o.move w).accepted = o.accepted := by
  cases w with
  | take n =>
      by_cases h : o.closed = true
      · simp [move, h]
      · simp [move, h, accepted]
  | close => rfl

theorem told_move (o : Outbound) (w : WriterMove) : (o.move w).told = o.told := by
  rw [told, told, accepted_move]

theorem accepted_push (o : Outbound) (k : OutboundChunk) :
    (o.push k).accepted = o.accepted ++ [k] := by
  simp [push, accepted]

/-- A chunk that carries a message adds that message to what the client is
told. -/
theorem told_push {o : Outbound} {k : OutboundChunk} {sent : Sent}
    (h : k.carried = some sent) : (o.push k).told = o.told ++ [sent] := by
  simp [told, accepted_push, h]

end Outbound

/-- An encoded message whose lists can be counted is carried by its chunk. -/
theorem carried_of_encodeBody {m : Message} {ch : UInt16} {body : List UInt8}
    (hfit : m.CountsFit) (hbody : m.encodeBody = .ok body) :
    OutboundChunk.carried ⟨m.msgType, ch, body⟩ = some ⟨ch, m⟩ := by
  rw [OutboundChunk.carried, (Message.readBack hfit body hbody).2]

end Oxrdp
