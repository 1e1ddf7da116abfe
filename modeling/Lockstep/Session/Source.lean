/-
# The sending side

The sending side of a transfer reads a file block by block and has at most one block on the
way.  The next block is read only when the one on the way has been acknowledged; an
acknowledgment of an earlier block asks for the one on the way once more.
-/
import Lockstep.Packet.Basic
import Lockstep.Store.Basic

namespace Lockstep

/-- What an acknowledgment calls for. -/
inductive AckOutcome where
  /-- The block on the way has arrived, and this datagram with the next one is to be sent. -/
  | next (datagram : Bytes)
  /-- The last block has arrived. -/
  | complete
  /-- An earlier block was acknowledged again; the datagram on the way, if there is one, is
  to be sent again. -/
  | duplicate (resend : Option Bytes)
  /-- The block acknowledged was never sent. -/
  | ahead
deriving DecidableEq, Repr

/-- The sending side of a transfer. -/
structure Source (σ : Type) [FileStore σ] where
  /-- The file, open for reading. -/
  reader : FileStore.Reader σ
  /-- The number of the block on the way, zero before the first one. -/
  block : BlockNumber := 0
  /-- The datagram with the block on the way. -/
  inFlight : Option Bytes := none
  /-- Whether the block on the way is the last one. -/
  finished : Bool := false

namespace Source

variable {σ : Type} [FileStore σ]

/-- Reads the next block and puts it on the way. -/
def next (source : Source σ) (store : σ) : Except StoreError Bytes × Source σ :=
  match FileStore.read store source.reader with
  | (.error e, reader) => (.error e, { source with reader })
  | (.ok read, reader) =>
    let block := source.block + 1
    let datagram := Packet.encodeData block read.payload
    (.ok datagram, { reader, block, inFlight := some datagram, finished := read.last })

/-- Takes the acknowledgment of a block. -/
def onAck (source : Source σ) (store : σ) (block : BlockNumber) :
    Except StoreError AckOutcome × Source σ :=
  if block = source.block then
    if source.inFlight.isSome && source.finished then (.ok .complete, source)
    else match source.next store with
      | (.ok datagram, source) => (.ok (.next datagram), source)
      | (.error e, source) => (.error e, source)
  else if block.isBehind source.block then (.ok (.duplicate source.inFlight), source)
  else (.ok .ahead, source)

/-- How much file content is on the way. -/
def inFlightLength (source : Source σ) : Nat :=
  match source.inFlight with
  | some datagram => datagram.length - headerLength
  | none => 0

end Source

end Lockstep
