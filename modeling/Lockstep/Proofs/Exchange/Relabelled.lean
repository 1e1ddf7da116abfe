/-
# A transfer that ends one block early

A client brings a file through a relay whose only rule makes the number of the last block smaller by
one.  Block after block goes through as it is, and each acknowledgment comes back.  When the last
block has come by, under the number of the block before, the acknowledgment of that block comes once
more, and the relay takes it for the last one: the transfer is over for the relay, whatever the
file, while the server still waits for the last block.
-/
import Lockstep.Proofs.Exchange.RelayedEnd
import Lockstep.Proofs.Packet.RoundTrip
import Lockstep.Proofs.Session.Undisturbed

namespace Lockstep

open BlockNumber (ofPosition)

namespace Relayed

/-- The client brings the file from port 1000, and the server answers from port 2000. -/
def upload : Setting := onLoopback 1000 2000

/-- The relay of an upload, before it knows more than the port of the server at most. -/
def watcher (tid : Option UInt16) : RelaySession :=
  { client := atPort 1000, server := atPort 69, serverTid := tid }

section Relay

variable {file : Bytes} {tid : Option UInt16} {opcode : UnusedOpcode} {position : Nat}

/-- A rule about a block takes no notice of an acknowledgment. -/
lemma take_ack (file : Bytes) (block : BlockNumber) :
    FaultScript.take ⟨[relabelling file]⟩ (Packet.encodeAck block)
      = (none, ⟨[relabelling file]⟩) := by
  apply FaultScript.take_of_kind
  intro rule only
  rw [List.mem_singleton.mp only, Packet.classify_encodeAck]
  simp [relabelling]

/-- An acknowledgment goes through to the client. -/
lemma arrive_ack (port : ∀ port ∈ tid, port = 2000) (block : BlockNumber) :
    (watcher tid).arrive {} ⟨[relabelling file]⟩ opcode .serverSide (Packet.encodeAck block)
        (atPort 2000)
      = { session := watcher (some 2000)
          script := ⟨[relabelling file]⟩
          sends := [⟨.clientSide, Packet.encodeAck block, atPort 1000⟩] } := by
  have answers : (watcher tid).isServer (atPort 2000) = true := by
    rcases tid with _ | number
    · rfl
    · rw [port number rfl]
      rfl
  have noted : (watcher (some 2000)).noteForwarded (Packet.encodeAck block)
      = watcher (some 2000) := by
    simp [RelaySession.noteForwarded, Packet.classify_encodeAck, watcher]
  exact (RelaySession.arrive_of_server rfl answers ..).trans
    (RelaySession.offer_of_missed (take_ack file block) noted {} opcode .toClient)

/-- A block that is not the last one goes through to the server. -/
lemma arrive_block (few : Bytes.blockCount file ≤ 32768)
    (lt : position + 1 < Bytes.blockCount file) :
    (watcher (some 2000)).arrive {} ⟨[relabelling file]⟩ opcode .clientSide
        (Bytes.datagram file (position + 1)) (atPort 1000)
      = { session := watcher (some 2000)
          script := ⟨[relabelling file]⟩
          sends := [⟨.serverSide, Bytes.datagram file (position + 1), atPort 2000⟩] } := by
  have short := Bytes.length_block_le file (position + 1)
  have full := Bytes.length_block_of_lt file lt
  have kind := Packet.classify_encodeData (ofPosition (position + 1)) short
  -- the rule is about another number
  have missed : FaultScript.take ⟨[relabelling file]⟩ (Bytes.datagram file (position + 1))
      = (none, ⟨[relabelling file]⟩) := by
    refine if_neg fun meant => ?_
    obtain ⟨-, number⟩ := FaultRule.isFor_encodeData short meant
    have := BlockNumber.eq_of_ofPosition_eq number (by omega) (by omega)
    omega
  have noted : (watcher (some 2000)).noteForwarded (Bytes.datagram file (position + 1))
      = watcher (some 2000) := by
    have inner : isFinalData (Bytes.datagram file (position + 1)) = false := by
      simp [isFinalData, Bytes.datagram, Packet.encodeData, headerLength, full]
    rw [RelaySession.noteForwarded, inner, Bytes.datagram, kind]
    rfl
  exact (RelaySession.arrive_of_client rfl ..).trans
    (RelaySession.offer_of_missed missed noted {} opcode .toServer)

/-- The last block goes through with the number of the block before, and the relay remembers that
number. -/
lemma arrive_last (last : position + 1 = Bytes.blockCount file) :
    let step := (watcher (some 2000)).arrive {} ⟨[relabelling file]⟩ opcode .clientSide
      (Bytes.datagram file (position + 1)) (atPort 1000)
    step.session = { watcher (some 2000) with finalBlock := some (ofPosition position) } ∧
      step.script = ⟨[]⟩ := by
  have lt : position < Bytes.blockCount file := by omega
  have short := (Bytes.length_block_lt_iff file lt).mpr last
  have le := Nat.le_of_lt short
  have meant : (relabelling file).isFor (Bytes.datagram file (position + 1)) = true := by
    simp [FaultRule.isFor, relabelling, ← last, Bytes.datagram, Packet.classify_encodeData _ le,
      Packet.blockNumber?_encodeData _ le]
  have hit : FaultScript.take ⟨[relabelling file]⟩ (Bytes.datagram file (position + 1))
      = (some (relabelling file), ⟨[]⟩) := if_pos meant
  have smaller : Mutation.decrementWord (Bytes.datagram file (position + 1))
      = Packet.encodeData (ofPosition position) (Bytes.block file (position + 1)) := by
    rw [Bytes.datagram, Mutation.decrementWord_encodeData, BlockNumber.ofPosition_succ,
      UInt16.add_sub_cancel]
  have final : isFinalData
      (Packet.encodeData (ofPosition position) (Bytes.block file (position + 1))) = true := by
    rw [isFinalData, Packet.classify_encodeData _ le]
    simp [headerLength, short, Packet.encodeData]
  have noted : (watcher (some 2000)).noteForwarded
      (Packet.encodeData (ofPosition position) (Bytes.block file (position + 1)))
        = { watcher (some 2000) with finalBlock := some (ofPosition position) } := by
    rw [RelaySession.noteForwarded, final, Packet.classify_encodeData _ le,
      Packet.blockNumber?_encodeData _ le]
    rfl
  rw [show atPort 1000 = (watcher (some 2000)).client from rfl, RelaySession.arrive_of_client rfl,
    ← noted, ← smaller]
  simp only [RelaySession.offer, hit]
  exact ⟨rfl, rfl⟩

/-- The acknowledgment with that number completes the transfer for the relay. -/
lemma arrive_again (opcode : UnusedOpcode) (block : BlockNumber) :
    ({ watcher (some 2000) with finalBlock := some block }.arrive {} ⟨[]⟩ opcode .serverSide
      (Packet.encodeAck block) (atPort 2000)).session.Completed := by
  have noted : ({ watcher (some 2000) with finalBlock := some block }
      : RelaySession).noteForwarded (Packet.encodeAck block)
        = { watcher (some 2000) with finalBlock := some block }.finish (.ok .completed) := by
    simp [RelaySession.noteForwarded, Packet.classify_encodeAck, Packet.blockNumber?_encodeAck]
  rw [RelaySession.arrive_of_server rfl rfl]
  exact congrArg RelaySession.result? noted

end Relay

/-! ## Block after block -/

/-- So many blocks of the upload were put on the way and so many were taken, and the acknowledgment
of the last of those was sent. -/
structure Marches (file request : Bytes) (reception : Reception MemoryStore) (sent taken : Nat)
    (relayed : Relayed) : Prop where
  sends : Sends file request sent relayed.source
  active : relayed.source.phase = .transferring
  sourceTalks : relayed.source.TalksTo (upload.sockets .clientSide)
  copies : Copies file reception taken relayed.sink relayed.sinkStore
  sinkTalks : relayed.sink.TalksTo (upload.sockets .serverSide)
  relay : ∃ tid, relayed.relay = watcher tid ∧ ∀ port ∈ tid, port = 2000
  script : relayed.script = ⟨[relabelling file]⟩
  acked : ⟨upload.ends.sink, upload.sockets .serverSide, Packet.encodeAck (ofPosition taken)⟩
    ∈ relayed.sent

/-- The relay hears what was sent to one of its sockets. -/
lemma hears {relayed : Relayed} {session : RelaySession} {script : FaultScript}
    {socket : RelaySocket} {datagram : Bytes} {source : Endpoint}
    (relay : relayed.relay = session) (waits : relayed.script = script) (opcode : UnusedOpcode)
    (sent : ⟨source, upload.sockets socket, datagram⟩ ∈ relayed.sent) :
    Step upload relayed (relayed.afterRelay upload
      (session.arrive {} script opcode socket datagram source)) := by
  subst relay waits
  exact .hearRelay socket opcode sent rfl

namespace Marches

variable {file request : Bytes} {reception : Reception MemoryStore} {position : Nat}
  {relayed : Relayed}

/-- The acknowledgment goes through the relay, and the source sends the next block. -/
lemma sendNext (h : Marches file request reception position position relayed)
    (lt : position < Bytes.blockCount file) :
    ∃ relayed', Reaches upload relayed relayed' ∧
      Marches file request reception (position + 1) position relayed' ∧
      relayed'.relay = watcher (some 2000) ∧
      ⟨upload.ends.source, upload.sockets .clientSide, Bytes.datagram file (position + 1)⟩
        ∈ relayed'.sent := by
  obtain ⟨tid, relay, port⟩ := h.relay
  let turn := relayed.source.handle relayed.sourceStore (Packet.encodeAck (ofPosition position))
    (upload.sockets .clientSide)
  obtain ⟨sends, active, talks, -, replies⟩ :=
    h.sends.handle_next h.active lt h.sourceTalks relayed.sourceStore
  let opcode : UnusedOpcode := ⟨255, by decide⟩
  let step := (watcher tid).arrive {} ⟨[relabelling file]⟩ opcode .serverSide
    (Packet.encodeAck (ofPosition position)) (atPort 2000)
  have passes : step = _ := arrive_ack port (ofPosition position)
  have first : Step upload relayed (relayed.afterRelay upload step) :=
    hears relay h.script opcode h.acked
  have second : Step upload (relayed.afterRelay upload step)
      ((relayed.afterRelay upload step).afterSource upload turn) := by
    refine @Step.hearSource upload _ ⟨upload.sockets .clientSide, upload.ends.source,
      Packet.encodeAck (ofPosition position)⟩ (List.mem_append_right _ ?_) rfl
    rw [passes]
    exact List.mem_singleton.mpr rfl
  have knows : step.session = watcher (some 2000) := by rw [passes]
  have left : step.script = ⟨[relabelling file]⟩ := by rw [passes]
  refine ⟨_, .head first (.single second), ?_, knows, ?_⟩
  · exact ⟨sends, active, talks, h.copies, h.sinkTalks, ⟨some 2000, knows, by simp⟩, left,
      List.mem_append_left _ h.acked⟩
  · change _ ∈ relayed.sent ++ turn.replies.map _
    rw [replies]
    exact List.mem_append_right _ (List.mem_singleton.mpr rfl)

/-- A block that is not the last one goes through the relay, and the sink takes it. -/
lemma takeNext (h : Marches file request reception (position + 1) position relayed)
    (few : Bytes.blockCount file ≤ 32768) (lt : position + 1 < Bytes.blockCount file)
    (knows : relayed.relay = watcher (some 2000))
    (sent : ⟨upload.ends.source, upload.sockets .clientSide, Bytes.datagram file (position + 1)⟩
      ∈ relayed.sent) :
    ∃ relayed', Reaches upload relayed relayed' ∧
      Marches file request reception (position + 1) (position + 1) relayed' := by
  let turn := relayed.sink.handle relayed.sinkStore (Bytes.datagram file (position + 1))
    (upload.sockets .serverSide)
  obtain ⟨copies, replies⟩ := h.copies.take (Nat.lt_of_succ_lt lt) h.sinkTalks
  obtain ⟨bound, -⟩ := Session.boundTo_handle (h.copies.active (Nat.lt_of_succ_lt lt)) h.sinkTalks
    relayed.sinkStore (Bytes.datagram file (position + 1))
  let opcode : UnusedOpcode := ⟨255, by decide⟩
  let step := (watcher (some 2000)).arrive {} ⟨[relabelling file]⟩ opcode .clientSide
    (Bytes.datagram file (position + 1)) (atPort 1000)
  have passes : step = _ := arrive_block few lt
  have first : Step upload relayed (relayed.afterRelay upload step) :=
    hears knows h.script opcode sent
  have second : Step upload (relayed.afterRelay upload step)
      ((relayed.afterRelay upload step).afterSink upload turn) := by
    refine @Step.hearSink upload _ ⟨upload.sockets .serverSide, upload.ends.sink,
      Bytes.datagram file (position + 1)⟩ (List.mem_append_right _ ?_) rfl
    rw [passes]
    exact List.mem_singleton.mpr rfl
  have knows' : step.session = watcher (some 2000) := by rw [passes]
  have left : step.script = ⟨[relabelling file]⟩ := by rw [passes]
  refine ⟨_, .head first (.single second), h.sends, h.active, h.sourceTalks, copies,
    bound.talksTo, ⟨some 2000, knows', by simp⟩, left, ?_⟩
  change _ ∈ relayed.sent ++ turn.replies.map _
  rw [replies]
  exact List.mem_append_right _ (List.mem_singleton.mpr rfl)

/-- The last block goes through the relay under the number of the block before, and the
acknowledgment of that block completes the transfer for the relay. -/
lemma endsEarly (h : Marches file request reception (position + 1) position relayed)
    (last : position + 1 = Bytes.blockCount file)
    (knows : relayed.relay = watcher (some 2000))
    (sent : ⟨upload.ends.source, upload.sockets .clientSide, Bytes.datagram file (position + 1)⟩
      ∈ relayed.sent) :
    ∃ relayed', Reaches upload relayed relayed' ∧ relayed'.relay.Completed ∧
      relayed'.sink = relayed.sink := by
  let opcode : UnusedOpcode := ⟨255, by decide⟩
  let step := (watcher (some 2000)).arrive {} ⟨[relabelling file]⟩ opcode .clientSide
    (Bytes.datagram file (position + 1)) (atPort 1000)
  obtain ⟨learnt, left⟩ : step.session = _ ∧ step.script = _ := arrive_last last
  have first : Step upload relayed (relayed.afterRelay upload step) :=
    hears knows h.script opcode sent
  have second : Step upload (relayed.afterRelay upload step) _ := hears learnt left opcode h.acked
  exact ⟨_, .head first (.single second), arrive_again opcode _, rfl⟩

/-- Each block but the last one is taken in its turn. -/
lemma reaches (h : Marches file request reception 0 0 relayed)
    (few : Bytes.blockCount file ≤ 32768) :
    ∀ position < Bytes.blockCount file, ∃ relayed', Reaches upload relayed relayed' ∧
      Marches file request reception position position relayed' := by
  intro position lt
  induction position with
  | zero => exact ⟨relayed, .refl, h⟩
  | succ position ih =>
    obtain ⟨before, reaches, marches⟩ := ih (Nat.lt_of_succ_lt lt)
    obtain ⟨between, sends, marches, knows, sent⟩ := marches.sendNext (Nat.lt_of_succ_lt lt)
    obtain ⟨after, takes, marches⟩ := marches.takeNext few lt knows sent
    exact ⟨after, reaches.trans (sends.trans takes), marches⟩

end Marches

/-! ## Any file -/

/-- The request of the client. -/
def announcement : Bytes := Packet.encodeRequest 2 "copy" octetMode

/-- What the relay does with the request. -/
def passedOn (file : Bytes) : RelaySession.Step where
  session := watcher none
  script := ⟨[relabelling file]⟩
  sends := [⟨.serverSide, announcement, atPort 69⟩]

/-- No rule is about a request, so it goes through to the server. -/
lemma offer_announcement (file : Bytes) :
    (watcher none).offer {} ⟨[relabelling file]⟩ ⟨255, by decide⟩ .toServer announcement
      = passedOn file := by
  have kind : classify announcement = .writeRequest := by decide +kernel
  have missed : FaultScript.take ⟨[relabelling file]⟩ announcement
      = (none, ⟨[relabelling file]⟩) := by
    apply FaultScript.take_of_kind
    intro rule only
    rw [List.mem_singleton.mp only, kind]
    simp [relabelling]
  have noted : (watcher none).noteForwarded announcement = watcher none := by
    rw [RelaySession.noteForwarded, kind]
  exact RelaySession.offer_of_missed missed noted {} _ .toServer

/-- The client announces the file, and the server says that it may come. -/
lemma opens_upload (file : Bytes) :
    ∃ request reception relayed, Opens upload file "copy" relayed ∧
      relayed.script.rules = [relabelling file] ∧ Marches file request reception 0 0 relayed := by
  have stored : MemoryStore.get? { files := [("file", file)] } "file" = some file := rfl
  have sourceAdmits : MemoryStore.Admits { files := [("file", file)] } "file" :=
    ⟨by decide, by decide +kernel, by simp⟩
  have sinkAdmits : MemoryStore.Admits {} "copy" := ⟨by decide, by decide +kernel, by decide⟩
  have sendable : Packet.Sendable "copy" := ⟨by decide, by simp, by decide +kernel⟩
  -- the client has its file open and announces it
  obtain ⟨asked, asks, -⟩ := writeRequest_of_admits sourceAdmits stored (atPort 70) "copy"
  obtain ⟨sends, -, active, unbound, request⟩ := sends_of_writeRequest asks stored
  have faults : ∀ rule ∈ [relabelling file], rule.kind = .data ∨ rule.kind = .ack := by
    intro rule only
    rw [List.mem_singleton.mp only]
    exact Or.inl rfl
  -- the server reads the request and says that the file may come
  have decoded : Packet.decode announcement = .ok (.writeRequest "copy" octetMode) :=
    sendable.decode_writeRequest
  have free : LockTable.isLocked {} "copy" = false := rfl
  obtain ⟨accepted, -⟩ := accepted_of_writeRequest sinkAdmits (by decide) decoded free
    (upload.sockets .serverSide)
  obtain ⟨writer, opened, receives, bound, replies⟩ := receives_of_serve decoded accepted
  rw [sinkAdmits.openWrite] at opened
  obtain rfl := Except.ok.inj (Prod.mk.inj opened).1
  -- what it has served is not computed
  generalize serves : (Session.serve announcement (upload.sockets .serverSide)
    ({} : MemoryStore) {}).1 = served at accepted receives bound replies
  have opens := @Opens.put upload file "copy" (atPort 70) (atPort 69) "file" _ {} {} asked served
    _ ⟨[relabelling file]⟩ ⟨255, by decide⟩ _ ⟨.serverSide, announcement, atPort 69⟩ faults stored
    rfl asks request (offer_announcement file) (List.mem_singleton.mpr rfl) serves accepted
  refine ⟨_, _, _, opens, rfl, sends, active, Or.inl unbound, ⟨⟨[], receives⟩, rfl, rfl, ?_⟩,
    bound.talksTo, ⟨none, rfl, by simp⟩, rfl, ?_⟩
  · rw [accepted, if_neg (Nat.ne_of_lt (Bytes.blockCount_pos file))]
  · rw [replies]
    exact List.mem_singleton.mpr rfl

/-- Whatever the file, there is a transfer that the relay takes for completed while the server still
waits for the last block. -/
theorem completes_early (file : Bytes) (few : Bytes.blockCount file ≤ 32768) :
    ∃ relayed relayed', Opens upload file "copy" relayed ∧
      relayed.script.rules = [relabelling file] ∧ Reaches upload relayed relayed' ∧
      relayed'.relay.Completed ∧ relayed'.sink.phase = .transferring := by
  obtain ⟨request, reception, relayed, opens, rules, marches⟩ := opens_upload file
  obtain ⟨position, count⟩ := Nat.exists_eq_add_one_of_ne_zero
    (Nat.ne_of_gt (Bytes.blockCount_pos file))
  have lt : position < Bytes.blockCount file := by omega
  obtain ⟨before, reaches, marches⟩ := marches.reaches few position lt
  obtain ⟨between, sends, marches, knows, sent⟩ := marches.sendNext lt
  obtain ⟨after, ends, completed, same⟩ := marches.endsEarly count.symm knows sent
  refine ⟨relayed, after, opens, rules, reaches.trans (sends.trans ends), completed, ?_⟩
  rw [same]
  exact marches.copies.active lt

/-- An empty file has one block.  The relay makes its number zero, and the acknowledgment of the
request passes for that of the block. -/
theorem empty_upload_completes_early :
    ∃ relayed relayed', Opens upload [] "copy" relayed ∧ Bytes.blockCount [] ≤ 32768 ∧
      relayed.script.rules = [⟨.data, 1, .invalidBlockNumber⟩] ∧
      Reaches upload relayed relayed' ∧ relayed'.relay.Completed ∧
      relayed'.sink.phase = .transferring := by
  have few : Bytes.blockCount [] ≤ 32768 := by decide
  obtain ⟨relayed, relayed', opens, rules, rest⟩ := completes_early [] few
  exact ⟨relayed, relayed', opens, few, rules, rest⟩

end Relayed

end Lockstep
