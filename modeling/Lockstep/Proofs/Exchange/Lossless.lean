/-
# Transfers over a link that loses nothing

A client asks for a file or brings one, and from then on every datagram that one of the sessions
sends reaches the other one, once and in the order of sending.  The datagrams that were sent are
kept, and for each direction it is counted how many of them have arrived.

Such a transfer is a march in step.  Either a block is on its way, or an acknowledgment, and each
datagram that arrives is answered with the next one until the acknowledgment of the last block has
arrived.  So where the transfer stands is told by one position and by which of the two is on its
way, and every arrival takes it one stage further, up to the last stage, where both sessions are
complete.
-/
import Lockstep.Proofs.Exchange.Basic
import Lockstep.Proofs.Packet.RoundTrip
import Lockstep.Proofs.Session.Undisturbed

namespace Lockstep

open BlockNumber (ofPosition)

/-! ## Transfers -/

/-- Which way a file goes. -/
inductive Direction where
  /-- The client asks for the file. -/
  | get
  /-- The client brings the file. -/
  | put
deriving DecidableEq, Repr

/-- A transfer that a client is about to open. -/
structure Transfer where
  /-- Which way the file goes. -/
  direction : Direction
  /-- Where the server listens. -/
  server : Endpoint
  /-- Where the two sessions send from. -/
  ends : Ends
  /-- The name of the file on the server. -/
  remote : String
  /-- The name of the file on the side of the client. -/
  loc : String
  /-- The store that the file comes from. -/
  sourceStore : MemoryStore
  /-- The store that the file goes to. -/
  sinkStore : MemoryStore
  /-- The locks of the server. -/
  locks : LockTable

namespace Transfer

/-- The name of the file where it comes from. -/
def sourceName (transfer : Transfer) : String :=
  match transfer.direction with
  | .get => transfer.remote
  | .put => transfer.loc

/-- The name of the file where it goes to. -/
def sinkName (transfer : Transfer) : String :=
  match transfer.direction with
  | .get => transfer.loc
  | .put => transfer.remote

/-- The exchange that begins when the client has sent its request and the server has served it;
none if the client could not begin. -/
def open? (transfer : Transfer) : Option Exchange :=
  match transfer.direction with
  | .get => do
    let asked ← (Session.readRequest transfer.server transfer.remote transfer.loc
      transfer.sinkStore).1.toOption
    let request ← asked.replies.head?
    let served := (Session.serve request.datagram transfer.ends.sink transfer.sourceStore
      transfer.locks).1
    some { source := served.session, sourceStore := served.store
           sink := asked.session, sinkStore := asked.store
           toSink := served.replies, toSource := [] }
  | .put => do
    let asked ← (Session.writeRequest transfer.server transfer.loc transfer.remote
      transfer.sourceStore).toOption
    let request ← asked.replies.head?
    let served := (Session.serve request.datagram transfer.ends.source transfer.sinkStore
      transfer.locks).1
    some { source := asked.session, sourceStore := asked.store
           sink := served.session, sinkStore := served.store
           toSink := [], toSource := served.replies }

/-- The request of the client. -/
def request (transfer : Transfer) : Bytes :=
  match transfer.direction with
  | .get => Packet.encodeRequest 1 transfer.remote octetMode
  | .put => Packet.encodeRequest 2 transfer.remote octetMode

/-- What the sink has when it begins to receive. -/
def reception (transfer : Transfer) : Reception MemoryStore where
  store := transfer.sinkStore
  writer := ({ name := transfer.sinkName, remaining := transfer.sinkStore.freeSpace }
    : MemoryWriter)
  request := match transfer.direction with
    | .get => some transfer.request
    | .put => none

/-- Nothing speaks against the transfer of a file: it is there, its names are admitted on both
sides and can be sent, nobody holds it on the server, and there is room for it. -/
structure Acceptable (transfer : Transfer) (file : Bytes) : Prop where
  stored : transfer.sourceStore.get? transfer.sourceName = some file
  sourceAdmits : transfer.sourceStore.Admits transfer.sourceName
  sinkAdmits : transfer.sinkStore.Admits transfer.sinkName
  sendable : Packet.Sendable transfer.remote
  free : transfer.locks.isLocked transfer.remote = false
  room : ∀ room ∈ transfer.sinkStore.freeSpace, file.length ≤ room
  /-- A server takes no file into a store that is full. -/
  space : transfer.direction = .put → transfer.sinkStore.freeSpace ≠ some 0

end Transfer

/-- An exchange with the number of datagrams that have arrived on each side. -/
structure Passage where
  /-- The sessions, their stores, and everything that they have sent. -/
  exchange : Exchange
  /-- How many datagrams the sink has heard. -/
  heardBySink : Nat := 0
  /-- How many datagrams the source has heard. -/
  heardBySource : Nat := 0

namespace Passage

/-- The next datagram of one side arrives at the other one. -/
inductive Step (ends : Ends) : Passage → Passage → Prop
  | hearSink {passage : Passage} {out : Outgoing}
      (next : passage.exchange.toSink[passage.heardBySink]? = some out)
      (addressed : out.dest = ends.sink) :
      Step ends passage
        { passage with
          exchange := passage.exchange.afterSink
            (passage.exchange.sink.handle passage.exchange.sinkStore out.datagram ends.source)
          heardBySink := passage.heardBySink + 1 }
  | hearSource {passage : Passage} {out : Outgoing}
      (next : passage.exchange.toSource[passage.heardBySource]? = some out)
      (addressed : out.dest = ends.source) :
      Step ends passage
        { passage with
          exchange := passage.exchange.afterSource
            (passage.exchange.source.handle passage.exchange.sourceStore out.datagram ends.sink)
          heardBySource := passage.heardBySource + 1 }

/-- What can come of a passage. -/
def Reaches (ends : Ends) : Passage → Passage → Prop := Relation.ReflTransGen (Step ends)

end Passage

/-- The counters of a session are those of a whole file, and nothing has disturbed it. -/
structure TransferStats.Counts (stats : TransferStats) (file : Bytes) : Prop where
  blocks : stats.blocks.toNat = Bytes.blockCount file
  bytes : stats.bytes.toNat = file.length
  clean : stats.Clean

/-- The transfer of a file has succeeded: everything that was sent has arrived, both sessions are
complete, the source has sent the blocks of the file in order, each once, the file is stored, and
both sessions have counted it. -/
structure Passage.Finished (transfer : Transfer) (file : Bytes) (passage : Passage) : Prop where
  arrivedAtSink : passage.heardBySink = passage.exchange.toSink.length
  arrivedAtSource : passage.heardBySource = passage.exchange.toSource.length
  source : passage.exchange.source.phase = .complete
  sink : passage.exchange.sink.phase = .complete
  emitted : passage.exchange.toSink.map Outgoing.datagram
    = (List.range (Bytes.blockCount file)).map fun k => Bytes.datagram file (k + 1)
  sourceStore : passage.exchange.sourceStore = transfer.sourceStore
  sinkStore : passage.exchange.sinkStore = transfer.sinkStore.insert transfer.sinkName file
  sourceCounts : passage.exchange.source.stats.Counts file
  sinkCounts : passage.exchange.sink.stats.Counts file

/-! ## Stages -/

/-- Where a transfer stands. -/
inductive Stage where
  /-- So many blocks were taken, and the next one is on its way. -/
  | block (taken : Nat)
  /-- So many blocks were taken, and the acknowledgment of the last of them is on its way. -/
  | ack (taken : Nat)
  /-- The acknowledgment of the last block has arrived. -/
  | ended

namespace Stage

variable (total : Nat)

/-- There is such a stage in the transfer of so many blocks. -/
def Exists : Stage → Prop
  | block taken => taken < total
  | ack taken => taken ≤ total
  | ended => True

/-- How many blocks were sent. -/
def sent : Stage → Nat
  | block taken => taken + 1
  | ack taken => taken
  | ended => total

/-- How many blocks were taken. -/
def taken : Stage → Nat
  | block taken => taken
  | ack taken => taken
  | ended => total

/-- The acknowledgments on their way. -/
def acks : Stage → List Nat
  | ack taken => [taken]
  | _ => []

/-- The stage of the session that sends. -/
def sourcePhase : Stage → Phase
  | ended => .complete
  | _ => .transferring

/-- The stage after one more datagram has arrived. -/
def next : Stage → Stage
  | block taken => ack (taken + 1)
  | ack taken => if taken < total then block taken else ended
  | ended => ended

/-- How many datagrams are still to arrive. -/
def left : Stage → Nat
  | block taken => 2 * (total - taken)
  | ack taken => 2 * (total - taken) + 1
  | ended => 0

variable {total} {stage : Stage}

lemma left_next_lt (exist : stage.Exists total) (ne : stage ≠ .ended) :
    (stage.next total).left total < stage.left total := by
  cases stage with
  | block taken =>
    simp only [Exists] at exist
    simp only [next, left]
    omega
  | ack taken =>
    by_cases more : taken < total
    · simp only [next, if_pos more, left]
      omega
    · simp only [next, if_neg more, left]
      omega
  | ended => exact absurd rfl ne

end Stage

/-- A passage stands at a stage of the transfer of a file. -/
structure Passage.Stands (transfer : Transfer) (file : Bytes) (stage : Stage) (passage : Passage) :
    Prop where
  exist : stage.Exists (Bytes.blockCount file)
  sends : Sends file transfer.request (stage.sent (Bytes.blockCount file)) passage.exchange.source
  sourcePhase : passage.exchange.source.phase = stage.sourcePhase
  sourceClean : passage.exchange.source.stats.Clean
  sourceStore : passage.exchange.sourceStore = transfer.sourceStore
  deposits : Deposits file transfer.reception (stage.taken (Bytes.blockCount file))
    passage.exchange.sink passage.exchange.sinkStore
  sourceTalks : passage.exchange.source.TalksTo transfer.ends.sink
  sinkTalks : passage.exchange.sink.TalksTo transfer.ends.source
  toSink : passage.exchange.toSink = (List.range (stage.sent (Bytes.blockCount file))).map
    fun k => ⟨Bytes.datagram file (k + 1), transfer.ends.sink⟩
  heardBySink : passage.heardBySink = stage.taken (Bytes.blockCount file)
  toSource : passage.exchange.toSource.drop passage.heardBySource
    = stage.acks.map fun ack => ⟨Packet.encodeAck (ofPosition ack), transfer.ends.source⟩
  heardBySource : passage.heardBySource ≤ passage.exchange.toSource.length

namespace Passage.Stands

variable {transfer : Transfer} {file : Bytes} {stage : Stage} {passage passage' : Passage}
  {out : Outgoing}

/-- The sink hears something only while a block is on its way, and that is the block. -/
lemma block_of_next (h : Stands transfer file stage passage)
    (next : passage.exchange.toSink[passage.heardBySink]? = some out) :
    ∃ taken, stage = .block taken ∧
      out = ⟨Bytes.datagram file (taken + 1), transfer.ends.sink⟩ := by
  rw [h.toSink, h.heardBySink, List.getElem?_map, Option.map_eq_some_iff] at next
  obtain ⟨k, within, rfl⟩ := next
  obtain ⟨lt, here⟩ := List.getElem?_eq_some_iff.mp within
  rw [List.length_range] at lt
  rw [List.getElem_range] at here
  cases stage with
  | block taken => exact ⟨taken, rfl, by rw [← here]; rfl⟩
  | ack taken => exact absurd lt (Nat.lt_irrefl taken)
  | ended => exact absurd lt (Nat.lt_irrefl _)

/-- The source hears something only while an acknowledgment is on its way, and that is the
acknowledgment. -/
lemma ack_of_next (h : Stands transfer file stage passage)
    (next : passage.exchange.toSource[passage.heardBySource]? = some out) :
    ∃ taken, stage = .ack taken ∧
      out = ⟨Packet.encodeAck (ofPosition taken), transfer.ends.source⟩ ∧
      passage.exchange.toSource.drop (passage.heardBySource + 1) = [] := by
  obtain ⟨lt, here⟩ := List.getElem?_eq_some_iff.mp next
  have pending := h.toSource
  rw [List.drop_eq_getElem_cons lt, here] at pending
  cases stage with
  | ack taken =>
    obtain ⟨rfl, rest⟩ := List.cons.inj pending
    exact ⟨taken, rfl, rfl, rest⟩
  | block taken => cases pending
  | ended => cases pending

/-- The block on its way arrives, and is acknowledged. -/
lemma hearSink {taken : Nat}
    (h : Stands transfer file (.block taken) passage) :
    Stands transfer file (.ack (taken + 1))
      { passage with
        exchange := passage.exchange.afterSink (passage.exchange.sink.handle
          passage.exchange.sinkStore (Bytes.datagram file (taken + 1)) transfer.ends.source)
        heardBySink := passage.heardBySink + 1 } := by
  have lt : taken < Bytes.blockCount file := h.exist
  obtain ⟨deposits, replies⟩ := h.deposits.take lt h.sinkTalks
  obtain ⟨bound, -⟩ := Session.boundTo_handle (h.deposits.active lt) h.sinkTalks
    passage.exchange.sinkStore (Bytes.datagram file (taken + 1))
  refine ⟨lt, h.sends, h.sourcePhase, h.sourceClean, h.sourceStore, deposits, h.sourceTalks,
    bound.talksTo, h.toSink, congrArg (· + 1) h.heardBySink, ?_, ?_⟩
  · -- nothing else was on its way to the source
    have quiet : passage.exchange.toSource.drop passage.heardBySource = [] := h.toSource
    rw [Exchange.afterSink, List.drop_append_of_le_length h.heardBySource, quiet]
    exact replies
  · rw [Exchange.afterSink, List.length_append]
    exact Nat.le_add_right_of_le h.heardBySource

/-- The acknowledgment on its way arrives, and the next block is sent, if there is one. -/
lemma hearSource {taken : Nat}
    (h : Stands transfer file (.ack taken) passage)
    (last : passage.exchange.toSource.drop (passage.heardBySource + 1) = [])
    (within : passage.heardBySource < passage.exchange.toSource.length) :
    Stands transfer file (Stage.next (Bytes.blockCount file) (.ack taken))
      { passage with
        exchange := passage.exchange.afterSource (passage.exchange.source.handle
          passage.exchange.sourceStore (Packet.encodeAck (ofPosition taken)) transfer.ends.sink)
        heardBySource := passage.heardBySource + 1 } := by
  have le : taken ≤ Bytes.blockCount file := h.exist
  have active : passage.exchange.source.phase = .transferring := h.sourcePhase
  have sending : Sends file transfer.request taken passage.exchange.source := h.sends
  have peer : (passage.exchange.source.bind transfer.ends.sink).peer = transfer.ends.sink := by
    rw [h.sourceTalks.bind]
  have active' : (passage.exchange.source.bind transfer.ends.sink).phase = .transferring := by
    rw [h.sourceTalks.bind]
    exact active
  obtain ⟨bound, -⟩ := Session.boundTo_handle active h.sourceTalks passage.exchange.sourceStore
    (Packet.encodeAck (ofPosition taken))
  have clean := Session.clean_onAck (Session.clean_bind h.sourceClean transfer.ends.sink)
    (Source.after file taken) passage.exchange.sourceStore
  have sends := sending.bind transfer.ends.sink
  have turn := sending.handle_ack active h.sourceTalks passage.exchange.sourceStore
    (ofPosition taken)
  rw [turn] at bound ⊢
  by_cases more : taken < Bytes.blockCount file
  · obtain ⟨sends', phase, kept, replies⟩ := sends.onAck_next active' more
    rw [Stage.next, if_pos more]
    refine ⟨more, sends', phase, clean, kept.trans h.sourceStore, h.deposits, bound.talksTo,
      h.sinkTalks, ?_, h.heardBySink, last, within⟩
    have before : passage.exchange.toSink = (List.range taken).map
        fun k => ⟨Bytes.datagram file (k + 1), transfer.ends.sink⟩ := h.toSink
    rw [Exchange.afterSource, before, replies, peer, Stage.sent, List.range_succ, List.map_append,
      List.map_singleton]
  · -- the acknowledgment was that of the last block
    obtain rfl : taken = Bytes.blockCount file := by omega
    obtain ⟨sends', phase, kept, replies⟩ := sends.onAck_last
    rw [Stage.next, if_neg more]
    refine ⟨trivial, sends', phase, clean, kept.trans h.sourceStore, h.deposits, bound.talksTo,
      h.sinkTalks, ?_, h.heardBySink, last, within⟩
    rw [Exchange.afterSource, replies, List.append_nil]
    exact h.toSink

/-- Whatever arrives takes the transfer one stage further. -/
lemma step (h : Stands transfer file stage passage)
    (arrival : Step transfer.ends passage passage') :
    stage ≠ .ended ∧ Stands transfer file (stage.next (Bytes.blockCount file)) passage' := by
  cases arrival with
  | hearSink next =>
    obtain ⟨taken, rfl, rfl⟩ := h.block_of_next next
    exact ⟨nofun, h.hearSink⟩
  | hearSource next =>
    obtain ⟨within, -⟩ := List.getElem?_eq_some_iff.mp next
    obtain ⟨taken, rfl, rfl, last⟩ := h.ack_of_next next
    exact ⟨nofun, h.hearSource last within⟩

/-- Before the transfer is over something is still to arrive. -/
lemma moves (h : Stands transfer file stage passage) (ne : stage ≠ .ended) :
    ∃ passage', Step transfer.ends passage passage' := by
  cases stage with
  | block taken =>
    have next : passage.exchange.toSink[passage.heardBySink]?
        = some ⟨Bytes.datagram file (taken + 1), transfer.ends.sink⟩ := by
      rw [h.toSink, h.heardBySink, List.getElem?_map, Stage.sent, Stage.taken,
        List.getElem?_range (Nat.lt_succ_self taken), Option.map_some]
    exact ⟨_, .hearSink next rfl⟩
  | ack taken =>
    have next : passage.exchange.toSource[passage.heardBySource]?
        = some ⟨Packet.encodeAck (ofPosition taken), transfer.ends.source⟩ := by
      rw [← List.head?_drop, h.toSource]
      rfl
    exact ⟨_, .hearSource next rfl⟩
  | ended => exact absurd rfl ne

/-- Only so many datagrams arrive. -/
lemma acc (h : Stands transfer file stage passage) :
    Acc (flip (Step transfer.ends)) passage := by
  induction left : stage.left (Bytes.blockCount file) using Nat.strongRecOn
    generalizing stage passage with
  | _ left' ih =>
    refine ⟨_, fun passage' arrival => ?_⟩
    obtain ⟨ne, stands⟩ := h.step arrival
    exact ih _ (left ▸ Stage.left_next_lt h.exist ne) stands rfl

lemma reaches (h : Stands transfer file stage passage)
    (reached : Reaches transfer.ends passage passage') :
    ∃ stage', Stands transfer file stage' passage' := by
  induction reached with
  | refl => exact ⟨stage, h⟩
  | tail _ arrival ih =>
    obtain ⟨stage', stands⟩ := ih
    exact ⟨_, (stands.step arrival).2⟩

/-- When the last acknowledgment has arrived, the transfer has succeeded. -/
lemma finished (h : Stands transfer file .ended passage)
    (few : Bytes.blockCount file < 4294967296) : Finished transfer file passage := by
  have measured : (file.take (blockSize * Bytes.blockCount file)).length = file.length := by
    rw [Bytes.take_blockCount]
  have small : file.length < 18446744073709551616 := by
    simp only [Bytes.blockCount, blockSize] at few
    omega
  -- the counters do not run over
  have counts {stats : TransferStats} (blocks : stats.blocks = UInt32.ofNat (Bytes.blockCount file))
      (bytes : stats.bytes
        = UInt64.ofNat (file.take (blockSize * Bytes.blockCount file)).length)
      (clean : stats.Clean) : stats.Counts file := by
    refine ⟨?_, ?_, clean⟩
    · rw [blocks, UInt32.toNat_ofNat']
      exact Nat.mod_eq_of_lt few
    · rw [bytes, measured, UInt64.toNat_ofNat']
      exact Nat.mod_eq_of_lt small
  have drained : passage.exchange.toSource.drop passage.heardBySource = [] := h.toSource
  obtain ⟨blocks, bytes⟩ := h.deposits.stats
  refine ⟨?_, ?_, h.sourcePhase, ?_, ?_, h.sourceStore, h.deposits.stored,
    counts h.sends.counted h.sends.measured h.sourceClean, counts blocks bytes h.deposits.clean⟩
  · rw [h.heardBySink, h.toSink, List.length_map, List.length_range]
    rfl
  · exact Nat.le_antisymm h.heardBySource (List.drop_eq_nil_iff.mp drained)
  · exact h.deposits.phase.trans (if_pos rfl)
  · rw [h.toSink, List.map_map]
    rfl

end Passage.Stands

/-! ## Opening -/

namespace Transfer

variable {transfer : Transfer} {file : Bytes}

/-- A sink that has just opened its file has taken nothing of it yet. -/
lemma deposits_nothing (acceptable : transfer.Acceptable file) {session : Session MemoryStore}
    (receives : Receives transfer.reception [] [] session transfer.sinkStore)
    (active : session.phase = .transferring) (clean : session.stats.Clean) :
    Deposits file transfer.reception 0 session transfer.sinkStore where
  receives := ⟨[], receives⟩
  fresh := rfl
  room := acceptable.room
  phase := by rw [active, if_neg (Nat.ne_of_lt (Bytes.blockCount_pos file))]
  clean := clean

/-- A client that asks for a file has the first block on its way. -/
lemma stands_of_get (acceptable : transfer.Acceptable file) (get : transfer.direction = .get) :
    ∃ opened, transfer.open? = some opened ∧
      Passage.Stands transfer file (.block 0) { exchange := opened } := by
  obtain ⟨direction, server, ends, remote, loc, sourceStore, sinkStore, locks⟩ := transfer
  obtain rfl : direction = .get := get
  have stored : sourceStore.get? remote = some file := acceptable.stored
  have sinkAdmits : sinkStore.Admits loc := acceptable.sinkAdmits
  -- the client has its file open and asks
  obtain ⟨asked, asks, kept, clean⟩ := readRequest_of_admits sinkAdmits server remote
  obtain ⟨writer, opened, receives, active, unbound, request⟩ := receives_of_readRequest asks
  rw [sinkAdmits.openWrite] at opened
  obtain rfl := Except.ok.inj (Prod.mk.inj opened).1
  rw [kept] at receives
  -- the server reads the request and sends the first block
  have decoded := acceptable.sendable.decode_readRequest
  obtain ⟨accepted, servedClean⟩ :=
    accepted_of_readRequest acceptable.sourceAdmits stored decoded acceptable.free ends.sink
  obtain ⟨sends, same, bound, replies⟩ := sends_of_serve
    (Packet.encodeRequest 1 remote octetMode) decoded accepted stored
  refine ⟨_, by simp only [open?, asks, Except.toOption, Option.bind_eq_bind, Option.bind_some,
    request, List.head?_cons]; rfl, ?_⟩
  exact {
    exist := Bytes.blockCount_pos file
    sends
    sourcePhase := accepted
    sourceClean := servedClean
    sourceStore := same
    deposits := by
      rw [kept]
      exact deposits_nothing acceptable receives active clean
    sourceTalks := bound.talksTo
    sinkTalks := Or.inl unbound
    toSink := replies
    heardBySink := rfl
    toSource := rfl
    heardBySource := Nat.le_refl _ }

/-- A client that brings a file has the acknowledgment of its request on its way. -/
lemma stands_of_put (acceptable : transfer.Acceptable file) (put : transfer.direction = .put) :
    ∃ opened, transfer.open? = some opened ∧
      Passage.Stands transfer file (.ack 0) { exchange := opened } := by
  obtain ⟨direction, server, ends, remote, loc, sourceStore, sinkStore, locks⟩ := transfer
  obtain rfl : direction = .put := put
  have stored : sourceStore.get? loc = some file := acceptable.stored
  have sourceAdmits : sourceStore.Admits loc := acceptable.sourceAdmits
  have sinkAdmits : sinkStore.Admits remote := acceptable.sinkAdmits
  -- the client has its file open and announces it
  obtain ⟨asked, asks, clean⟩ := writeRequest_of_admits sourceAdmits stored server remote
  obtain ⟨sends, same, active, unbound, request⟩ := sends_of_writeRequest asks stored
  -- the server reads the request and says that the file may come
  have decoded := acceptable.sendable.decode_writeRequest
  obtain ⟨accepted, servedClean⟩ := accepted_of_writeRequest sinkAdmits (acceptable.space rfl)
    decoded acceptable.free ends.source
  obtain ⟨writer, opened, receives, bound, replies⟩ := receives_of_serve decoded accepted
  rw [sinkAdmits.openWrite] at opened
  obtain ⟨admitted, kept⟩ := Prod.mk.inj opened
  obtain rfl := Except.ok.inj admitted
  rw [← kept] at receives
  refine ⟨_, by simp only [open?, asks, Except.toOption, Option.bind_eq_bind, Option.bind_some,
    request, List.head?_cons]; rfl, ?_⟩
  exact {
    exist := Nat.zero_le _
    sends
    sourcePhase := active
    sourceClean := clean
    sourceStore := same
    deposits := by
      rw [← kept]
      exact deposits_nothing acceptable receives accepted servedClean
    sourceTalks := Or.inl unbound
    sinkTalks := bound.talksTo
    toSink := rfl
    heardBySink := rfl
    toSource := replies
    heardBySource := Nat.zero_le _ }

/-- The stage of a transfer when the request was served. -/
def opening (transfer : Transfer) : Stage :=
  match transfer.direction with
  | .get => .block 0
  | .put => .ack 0

lemma stands_of_acceptable (acceptable : transfer.Acceptable file) :
    ∃ opened, transfer.open? = some opened ∧
      Passage.Stands transfer file transfer.opening { exchange := opened } := by
  rcases way : transfer.direction with _ | _
  · rw [opening, way]
    exact stands_of_get acceptable way
  · rw [opening, way]
    exact stands_of_put acceptable way

/-! ## Any lossless transfer -/

/-- If nothing speaks against a transfer, its request is accepted, and whatever order the datagrams
of the two directions take among one another, there is an end to them.  When nothing is left to
arrive, both sessions are complete, the source has sent each block once, in order, the file is
stored as it was, and both sessions have counted its blocks and bytes and no disturbance.  All
blocks are full but the last one, which takes what is left. -/
theorem finishes_without_loss (transfer : Transfer) (file : Bytes)
    (acceptable : transfer.Acceptable file) (few : Bytes.blockCount file < 4294967296) :
    (∃ opened, transfer.open? = some opened ∧
      Acc (flip (Passage.Step transfer.ends)) { exchange := opened } ∧
      ∀ passage, Passage.Reaches transfer.ends { exchange := opened } passage →
        (∀ passage', ¬ Passage.Step transfer.ends passage passage') →
        Passage.Finished transfer file passage) ∧
      (∀ position, position + 1 < Bytes.blockCount file →
        (Bytes.block file (position + 1)).length = blockSize) ∧
      (Bytes.block file (Bytes.blockCount file)).length = file.length % blockSize := by
  obtain ⟨opened, opens, stands⟩ := stands_of_acceptable acceptable
  refine ⟨⟨opened, opens, stands.acc, ?_⟩, fun position => Bytes.length_block_of_lt file, ?_⟩
  · intro passage reached stuck
    obtain ⟨stage, stands'⟩ := stands.reaches reached
    -- as long as the transfer is not over, something can arrive
    obtain rfl : stage = .ended := by
      by_contra ne
      obtain ⟨passage', arrival⟩ := stands'.moves ne
      exact stuck passage' arrival
    exact stands'.finished few
  · rw [Bytes.blockCount, Bytes.length_block_succ]
    simp only [blockSize]
    omega

/-- A client brings a file of 512 bytes to a store that has room for just as many.  The first
block takes them all, and the second one is empty. -/
theorem full_block_finishes_without_loss :
    let file : Bytes := List.replicate 512 65
    let transfer : Transfer :=
      { direction := .put
        server := { address := .loopback, port := 69 }
        ends := ⟨{ address := .loopback, port := 1000 }, { address := .loopback, port := 2000 }⟩
        remote := "copy"
        loc := "file"
        sourceStore := { files := [("file", file)] }
        sinkStore := { quota := some 512 }
        locks := {} }
    transfer.Acceptable file ∧ Bytes.blockCount file = 2 ∧
      ∃ opened, transfer.open? = some opened ∧
        Acc (flip (Passage.Step transfer.ends)) { exchange := opened } ∧
        ∀ passage, Passage.Reaches transfer.ends { exchange := opened } passage →
          (∀ passage', ¬ Passage.Step transfer.ends passage passage') →
          Passage.Finished transfer file passage := by
  intro file transfer
  have sendable : Packet.Sendable "copy" := ⟨by decide, by simp, by decide +kernel⟩
  have acceptable : transfer.Acceptable file :=
    { stored := rfl
      sourceAdmits := ⟨by decide, by decide +kernel, by decide⟩
      sinkAdmits := ⟨by decide, by decide +kernel, by decide⟩
      sendable
      free := rfl
      room := by
        intro room hroom
        obtain rfl := Option.mem_some.mp hroom
        exact Nat.le_of_eq (List.length_replicate)
      space := fun _ => by decide +kernel }
  have count : Bytes.blockCount file = 2 := by
    rw [Bytes.blockCount, List.length_replicate]
    rfl
  exact ⟨acceptable, count,
    (finishes_without_loss transfer file acceptable (by rw [count]; decide)).1⟩

end Transfer

end Lockstep
