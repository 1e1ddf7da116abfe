/-
# The receiving side

The receiving side of a transfer takes the blocks of a file in order, writes each once and
acknowledges it.  The repetition of an earlier block is acknowledged again and not written;
a block with the last number and another content shows that a number was falsified.  The
first block that is not full ends the file, which is then published.
-/
import Lockstep.Packet.Basic
import Lockstep.Store.Basic

namespace Lockstep

/-- What a block calls for. -/
inductive DataOutcome where
  /-- The block was taken, and this acknowledgment is to be sent; `last` tells whether the
  file ended with the block. -/
  | accepted (ack : Bytes) (last : Bool)
  /-- An earlier block came again, and this acknowledgment is to be sent once more. -/
  | duplicate (ack : Bytes)
  /-- The number of the block does not go with what came before. -/
  | corrupt
  /-- The number of the block is beyond the one that is due. -/
  | ahead
deriving DecidableEq, Repr

/-- The receiving side of a transfer. -/
structure Sink (σ : Type) [FileStore σ] where
  /-- The file, open for writing until it is published or discarded. -/
  writer : Option (FileStore.Writer σ)
  /-- The number of the block that is due. -/
  expected : BlockNumber
  /-- The number that was acknowledged last. -/
  lastAck : Option BlockNumber
  /-- The content of the block that was accepted last. -/
  lastPayload : Bytes := []

namespace Sink

variable {σ : Type} [FileStore σ]

/-- A receiving side that starts; `acked` is the number that has been acknowledged before
any block came, if one has. -/
def start (writer : FileStore.Writer σ) (acked : Option BlockNumber) : Sink σ where
  writer := some writer
  expected := match acked with
    | some block => block + 1
    | none => 1
  lastAck := acked

/-- Hands a block to the writer, if the file is still open, and publishes the file behind
the last block. -/
def store (sink : Sink σ) (store : σ) (payload : Bytes) (last : Bool) :
    Except StoreError Unit × Sink σ × σ :=
  match sink.writer with
  | none => (.ok (), sink, store)
  | some writer =>
    match FileStore.write store writer payload with
    | (.error e, writer, store) => (.error e, { sink with writer := some writer }, store)
    | (.ok (), writer, store) =>
      if last then
        let (result, store) := FileStore.finish store writer
        (result, { sink with writer := none }, store)
      else (.ok (), { sink with writer := some writer }, store)

/-- Judges a block that is not the one that is due. -/
def judge (sink : Sink σ) (block : BlockNumber) (payload : Bytes) : DataOutcome :=
  match sink.lastAck with
  | some acked =>
    if block = acked && payload ≠ sink.lastPayload then .corrupt
    else if block.isBehind sink.expected then .duplicate (Packet.encodeAck acked)
    else .ahead
  | none => if block.isBehind sink.expected then .corrupt else .ahead

/-- Takes a block. -/
def onData (sink : Sink σ) (store : σ) (block : BlockNumber) (payload : Bytes) :
    Except StoreError DataOutcome × Sink σ × σ :=
  if block = sink.expected then
    let last := decide (payload.length < blockSize)
    match sink.store store payload last with
    | (.error e, sink, store) => (.error e, sink, store)
    | (.ok (), sink, store) =>
      (.ok (.accepted (Packet.encodeAck block) last),
        { sink with lastAck := some block, lastPayload := payload, expected := block + 1 },
        store)
  else (.ok (sink.judge block payload), sink, store)

/-- Discards what was written. -/
def abort (sink : Sink σ) (store : σ) : Sink σ × σ :=
  match sink.writer with
  | some writer => ({ sink with writer := none }, FileStore.abort store writer)
  | none => (sink, store)

/-- Lets go of a file that is still open. -/
def abandon (sink : Sink σ) (store : σ) : σ :=
  match sink.writer with
  | some writer => FileStore.abandon store writer
  | none => store

end Sink

end Lockstep
