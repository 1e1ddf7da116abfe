/-
# No fault passes for a transfer

Whatever the relay makes of the datagrams, the receiving side has the first blocks of the file, and
the sending side is at most one block ahead.  A datagram with a falsified number is about another
position than the one that its number suggests, and that one is never the position that matters:
the number due is that of the block taken last plus one, so a falsified block with this number would
be one that was not sent yet, and likewise for acknowledgments.
-/
import Lockstep.Proofs.Exchange.Relayed

namespace Lockstep.Relayed

open BlockNumber (ofPosition)

/-- The transfer has come so far: the source has put so many blocks on the way, and the sink has
taken so many.  Each side may have failed. -/
structure Keeps (file request : Bytes) (reception : Reception MemoryStore) (sent taken : Nat)
    (relayed : Relayed) : Prop where
  sends : Sends file request sent relayed.source
  receives : ∃ calls, Receives reception (Bytes.blocks file taken) calls relayed.sink
    relayed.sinkStore
  taken_le : taken ≤ sent
  sent_le : sent ≤ taken + 1
  complete : relayed.source.phase = .complete → taken = Bytes.blockCount file
  authentic : ∀ parcel ∈ relayed.sent, Authentic IsNumber file sent taken parcel.datagram
  passed : ∀ parcel ∈ relayed.passed, Authentic IsNumberOrLess file sent taken parcel.datagram

/-- How a transfer began: the requests carry no number, and the writer was fresh. -/
structure Begins (request : Bytes) (reception : Reception MemoryStore) : Prop where
  asked : Numberless request
  expected : ∀ request' ∈ reception.request, Numberless request'
  fresh : reception.writer.blocks = []

namespace Keeps

variable {setting : Setting} {file request : Bytes} {reception : Reception MemoryStore}
  {sent taken : Nat} {relayed relayed' : Relayed} {parcel : Parcel}

/-! ## Datagrams that arrive -/

/-- What the sink answers is authentic. -/
lemma authentic_of_answersSink {datagram : Bytes}
    (h : AnswersSink (Bytes.blocks file taken) datagram) :
    Authentic IsNumber file sent taken datagram := by
  rcases h with rfl | ⟨code, message, rfl⟩
  · rw [Bytes.length_blocks]
    exact .of_ack (Nat.le_refl _)
  · exact .of_numberless (numberless_encodeError code message)

/-- What the source answers is authentic. -/
lemma authentic_of_answersSource {datagram : Bytes} (h : AnswersSource file sent datagram) :
    Authentic IsNumber file sent taken datagram := by
  rcases h with ⟨pos, rfl⟩ | ⟨code, message, rfl⟩
  · exact .of_datagram pos (Nat.le_refl _)
  · exact .of_numberless (numberless_encodeError code message)

/-- Whatever arrives, the sink takes no block but the one that is due. -/
lemma takes (h : Keeps file request reception sent taken relayed) (few : sent ≤ 32768)
    {datagram : Bytes} (authentic : Authentic IsNumberOrLess file sent taken datagram)
    (source : Endpoint) :
    let turn := relayed.sink.handle relayed.sinkStore datagram source
    ∃ taken', (taken' = taken ∨ taken' = taken + 1 ∧ taken' ≤ sent) ∧
      (∃ calls, Receives reception (Bytes.blocks file taken') calls turn.session turn.store) ∧
      ∀ out ∈ turn.replies, AnswersSink (Bytes.blocks file taken') out.datagram := by
  intro turn
  obtain ⟨calls, receives⟩ := h.receives
  obtain ⟨blocks', calls', receives', adds, answers⟩ := receives.handle datagram source
  rcases adds with ⟨rfl, -⟩ | ⟨payload, short, carries, -, -, rfl | rfl⟩
  · exact ⟨taken, Or.inl rfl, ⟨calls', receives'⟩, answers⟩
  · exact ⟨taken, Or.inl rfl, ⟨calls', receives'⟩, answers⟩
  · -- the number is the one that is due, so the content is that of the block that is due
    rw [Bytes.length_blocks] at carries
    have decoded := Packet.decode_eq_data_iff.mpr ⟨short, carries⟩
    obtain ⟨position, -, le, is, same⟩ := authentic.data _ _ decoded
    obtain rfl := is.eq_due le h.taken_le h.sent_le few
    rw [same, ← Bytes.blocks_succ] at receives' answers
    exact ⟨taken + 1, Or.inr ⟨rfl, le⟩, ⟨calls', receives'⟩, answers⟩

lemma hearSink (h : Keeps file request reception sent taken relayed)
    (few : Bytes.blockCount file ≤ 32768) (passed : parcel ∈ relayed.passed) :
    ∃ sent' taken', Keeps file request reception sent' taken' (relayed.afterSink setting
      (relayed.sink.handle relayed.sinkStore parcel.datagram parcel.source)) := by
  have sent_le := h.sent_le
  have total := h.sends.position_le
  obtain ⟨taken', goes, receives, answers⟩ :=
    h.takes (by omega) (h.passed parcel passed) parcel.source
  have le : taken ≤ taken' := by omega
  refine ⟨sent, taken', h.sends, receives, ?_, by omega, ?_, ?_, ?_⟩
  · have := h.taken_le
    omega
  · intro complete
    have := h.complete complete
    omega
  · refine List.forall_mem_append.mpr
      ⟨fun other hother => (h.authentic other hother).mono (Nat.le_refl _) le, ?_⟩
    intro other hother
    obtain ⟨out, hout, rfl⟩ := List.mem_map.mp hother
    exact authentic_of_answersSink (answers out hout)
  · exact fun other hother => (h.passed other hother).mono (Nat.le_refl _) le

lemma hearSource (h : Keeps file request reception sent taken relayed)
    (few : Bytes.blockCount file ≤ 32768) (passed : parcel ∈ relayed.passed) :
    ∃ sent' taken', Keeps file request reception sent' taken' (relayed.afterSource setting
      (relayed.source.handle relayed.sourceStore parcel.datagram parcel.source)) := by
  have taken_le := h.taken_le
  have sent_le := h.sent_le
  have total := h.sends.position_le
  have authentic := h.passed parcel passed
  -- an acknowledgment with the number of the block on the way shows that it was taken
  have arrived : parcel.datagram = Packet.encodeAck (ofPosition sent) → taken = sent := by
    intro carries
    obtain ⟨position, le, is⟩ := authentic.ack _ (Packet.decode_eq_ack_iff.mpr carries)
    exact is.eq_sent le taken_le (by omega)
  obtain ⟨sent', sends, -, moves, completes, answers⟩ :=
    h.sends.handle relayed.sourceStore parcel.datagram parcel.source
  have le : sent ≤ sent' := by omega
  refine ⟨sent', taken, sends, h.receives, by omega, ?_, ?_, ?_, ?_⟩
  · rcases moves with rfl | ⟨rfl, -, carries⟩
    · exact sent_le
    · have := arrived carries
      omega
  · intro complete
    rcases completes complete with before | ⟨last, carries⟩
    · exact h.complete before
    · rw [arrived carries, last]
  · refine List.forall_mem_append.mpr
      ⟨fun other hother => (h.authentic other hother).mono le (Nat.le_refl _), ?_⟩
    intro other hother
    obtain ⟨out, hout, rfl⟩ := List.mem_map.mp hother
    exact authentic_of_answersSource (answers out hout)
  · exact fun other hother => (h.passed other hother).mono le (Nat.le_refl _)

lemma hearRelay (h : Keeps file request reception sent taken relayed) (socket : RelaySocket)
    (opcode : UnusedOpcode) (hparcel : parcel ∈ relayed.sent) :
    Keeps file request reception sent taken (relayed.afterRelay setting
      (relayed.relay.arrive setting.config relayed.script opcode socket parcel.datagram
        parcel.source)) := by
  refine ⟨h.sends, h.receives, h.taken_le, h.sent_le, h.complete, h.authentic, ?_⟩
  refine List.forall_mem_append.mpr ⟨h.passed, ?_⟩
  intro other hother
  obtain ⟨dispatch, hdispatch, rfl⟩ := List.mem_map.mp hother
  exact (h.authentic parcel hparcel).of_passes
    (RelaySession.passes_of_arrive _ _ _ _ _ _ _ dispatch hdispatch)

/-! ## Datagrams that are sent again -/

lemma repeatSink (h : Keeps file request reception sent taken relayed)
    (begins : Begins request reception) {out : Outgoing}
    (again : relayed.sink.again? = some out) :
    Keeps file request reception sent taken { relayed with
      sink := relayed.sink.countRetransmission
      sent := relayed.sent ++ [out.parcel setting.ends.sink] } := by
  obtain ⟨calls, receives⟩ := h.receives
  obtain ⟨-, last, -⟩ := Session.again?_eq_some again
  have authentic : Authentic IsNumber file sent taken out.datagram := by
    rw [receives.lastSent] at last
    split_ifs at last
    rw [← Option.some.inj last, Reception.lastSent, Bytes.length_blocks]
    -- before the first block it is the request that was sent last
    rcases asked : (if Bytes.blocks file taken = [] then reception.request else none)
      with _ | request'
    · exact .of_ack (Nat.le_refl _)
    · split_ifs at asked
      exact .of_numberless (begins.expected request' asked)
  refine ⟨h.sends, ⟨calls, receives.countRetransmission⟩, h.taken_le, h.sent_le, h.complete, ?_,
    h.passed⟩
  exact List.forall_mem_append.mpr ⟨h.authentic, List.forall_mem_singleton.mpr authentic⟩

lemma repeatSource (h : Keeps file request reception sent taken relayed)
    (begins : Begins request reception) {out : Outgoing}
    (again : relayed.source.again? = some out) :
    Keeps file request reception sent taken { relayed with
      source := relayed.source.countRetransmission
      sent := relayed.sent ++ [out.parcel setting.ends.source] } := by
  obtain ⟨-, last, -⟩ := Session.again?_eq_some again
  have authentic : Authentic IsNumber file sent taken out.datagram := by
    rw [h.sends.lastSent] at last
    split_ifs at last with active first
    · rw [← Option.some.inj last]
      exact .of_numberless begins.asked
    · rw [← Option.some.inj last]
      exact .of_datagram (by omega) (Nat.le_refl _)
  refine ⟨h.sends.countRetransmission, h.receives, h.taken_le, h.sent_le, h.complete, ?_,
    h.passed⟩
  exact List.forall_mem_append.mpr ⟨h.authentic, List.forall_mem_singleton.mpr authentic⟩

/-! ## Any step -/

/-- Whatever happens, the sink has the first blocks of the file and the source is at most one block
ahead. -/
theorem step (h : Keeps file request reception sent taken relayed)
    (begins : Begins request reception) (few : Bytes.blockCount file ≤ 32768)
    (step : Step setting relayed relayed') :
    ∃ sent' taken', Keeps file request reception sent' taken' relayed' := by
  cases step with
  | hearSink passed _ => exact h.hearSink few passed
  | hearSource passed _ => exact h.hearSource few passed
  | hearRelay socket opcode hparcel _ => exact ⟨sent, taken, h.hearRelay socket opcode hparcel⟩
  | repeatSink again => exact ⟨sent, taken, h.repeatSink begins again⟩
  | repeatSource again => exact ⟨sent, taken, h.repeatSource begins again⟩
  | expireRelay =>
    exact ⟨sent, taken, h.sends, h.receives, h.taken_le, h.sent_le, h.complete, h.authentic,
      h.passed⟩

theorem of_reaches (h : Keeps file request reception sent taken relayed)
    (begins : Begins request reception) (few : Bytes.blockCount file ≤ 32768)
    (reaches : Reaches setting relayed relayed') :
    ∃ sent' taken', Keeps file request reception sent' taken' relayed' := by
  induction reaches with
  | refl => exact ⟨sent, taken, h⟩
  | tail _ move ih =>
    obtain ⟨sent₁, taken₁, keeps⟩ := ih
    exact keeps.step begins few move

/-! ## How it ends -/

/-- A sink that is complete has stored the file. -/
lemma stored (h : Keeps file request reception sent taken relayed)
    (begins : Begins request reception) (complete : relayed.sink.phase = .complete) :
    relayed.sinkStore.get? reception.writer.name = some file := by
  obtain ⟨calls, receives⟩ := h.receives
  obtain ⟨⟨front, last, ended, -, short⟩, same⟩ :=
    receives.store_eq_insert begins.fresh complete
  obtain ⟨pos, rfl⟩ := Bytes.eq_of_blocks_eq_concat file ended
  -- the last block taken is not full, so it is the last one of the file
  have all : taken = Bytes.blockCount file := by
    have taken_le := h.taken_le
    have total := h.sends.position_le
    obtain ⟨before, rfl⟩ := Nat.exists_eq_succ_of_ne_zero (Nat.ne_of_gt pos)
    exact (Bytes.length_block_lt_iff file (by omega)).mp short
  rw [same, MemoryStore.get?_insert, if_pos rfl, all, Bytes.flatten_blocks,
    Bytes.take_blockCount]

/-- A sink that has taken all blocks is complete. -/
lemma complete_of_all (h : Keeps file request reception sent taken relayed)
    (all : taken = Bytes.blockCount file) : relayed.sink.phase = .complete := by
  obtain ⟨calls, receives⟩ := h.receives
  obtain ⟨before, count⟩ := Nat.exists_eq_succ_of_ne_zero
    (Nat.ne_of_gt (Bytes.blockCount_pos file))
  -- all blocks were taken, and the last one of the file is not full
  apply receives.ledger.complete_of_not_full
  intro full
  have last : Bytes.block file (before + 1) ∈ Bytes.blocks file taken := by
    rw [all, count, Bytes.blocks_succ]
    exact List.mem_append_right _ (List.mem_singleton.mpr rfl)
  have lt : before < Bytes.blockCount file := by omega
  have short := (Bytes.length_block_lt_iff file lt).mpr count.symm
  have := full _ last
  omega

/-- When the source is complete, so is the sink. -/
lemma sink_complete (h : Keeps file request reception sent taken relayed)
    (complete : relayed.source.phase = .complete) : relayed.sink.phase = .complete :=
  h.complete_of_all (h.complete complete)

end Keeps

/-! ## How it begins -/

/-- The request of a client comes to the server as it was sent. -/
lemma datagram_of_forwards {session : RelaySession} {config : RelayConfig} {script : FaultScript}
    {opcode : UnusedOpcode} {leg : Leg} {request : Bytes} {dispatch : Dispatch}
    (faults : ∀ rule ∈ script.rules, rule.kind = .data ∨ rule.kind = .ack)
    (notData : request[1]? ≠ Kind.data.opcode?) (notAck : request[1]? ≠ Kind.ack.opcode?)
    (forwards : dispatch ∈ (session.offer config script opcode leg request).sends) :
    dispatch.datagram = request := by
  have other : classify request ≠ .data ∧ classify request ≠ .ack :=
    ⟨classify_ne_of_opcode (by simp) notData, classify_ne_of_opcode (by simp) notAck⟩
  rw [RelaySession.sends_of_offer session faults other] at forwards
  rw [List.mem_singleton.mp forwards]

lemma Opens.keeps {setting : Setting} {file : Bytes} {target : String} {relayed : Relayed}
    (h : Opens setting file target relayed) :
    ∃ request reception sent taken, Keeps file request reception sent taken relayed ∧
      Begins request reception ∧ MemoryWriter.name reception.writer = target := by
  cases h with
  | @get listener server remote sourceStore sinkStore _ locks asked served request script opcode _
      dispatch faults stored unlimited asks sends begins forwards serves accepted =>
    obtain ⟨writer, opened, receives, -, -, replies⟩ := receives_of_readRequest asks
    obtain ⟨-, named, fresh, -⟩ := MemoryStore.of_openWrite opened
    obtain rfl := List.singleton_inj.mp (sends.symm.trans replies)
    subst begins serves
    have same := datagram_of_forwards faults (by simp [Packet.encodeRequest, Kind.opcode?])
      (by simp [Packet.encodeRequest, Kind.opcode?]) forwards
    rw [same] at accepted ⊢
    obtain ⟨packet, decoded⟩ := Session.decode_of_accepted accepted
    obtain rfl := Packet.eq_of_decode_readRequest decoded
    obtain ⟨sends', -, -, answers⟩ :=
      sends_of_serve (Packet.encodeRequest 1 remote octetMode) decoded accepted stored
    refine ⟨_, _, 1, 0, ⟨sends', ⟨[], receives⟩, Nat.zero_le _, Nat.le_refl _, ?_, ?_, by simp⟩,
      ⟨numberless_readRequest _ _, ?_, fresh⟩, named⟩
    · intro complete
      rw [accepted] at complete
      cases complete
    · rw [answers]
      intro parcel hparcel
      obtain rfl := List.mem_singleton.mp hparcel
      exact .of_datagram Nat.one_pos (Nat.le_refl _)
    · intro request hrequest
      obtain rfl := Option.mem_some.mp hrequest
      exact numberless_readRequest _ _
  | @put listener server name sourceStore sinkStore locks asked served request script opcode _
      dispatch faults stored unlimited asks sends begins forwards serves accepted =>
    obtain ⟨sends', -, phase, -, replies⟩ := sends_of_writeRequest asks stored
    obtain rfl := List.singleton_inj.mp (sends.symm.trans replies)
    subst begins serves
    have same := datagram_of_forwards faults (by simp [Packet.encodeRequest, Kind.opcode?])
      (by simp [Packet.encodeRequest, Kind.opcode?]) forwards
    rw [same] at accepted ⊢
    obtain ⟨packet, decoded⟩ := Session.decode_of_accepted accepted
    obtain rfl := Packet.eq_of_decode_writeRequest decoded
    obtain ⟨writer, opened, receives, -, answers⟩ := receives_of_serve decoded accepted
    obtain ⟨-, named, fresh, -⟩ := MemoryStore.of_openWrite opened
    refine ⟨_, _, 0, 0, ⟨sends', ⟨[], receives⟩, Nat.le_refl _, Nat.zero_le _, ?_, ?_, by simp⟩,
      ⟨numberless_writeRequest _ _, by simp, fresh⟩, named⟩
    · intro complete
      rw [phase] at complete
      cases complete
    · rw [answers]
      intro parcel hparcel
      obtain rfl := List.mem_singleton.mp hparcel
      exact .of_ack (Nat.le_refl _)

/-- Through a relay with any script of faults about blocks and acknowledgments, a file of at most
32768 blocks is stored as it is or not at all, and the side that sends it is complete only if it was
stored. -/
theorem relayed_complete_only_if_stored {setting : Setting} {file : Bytes} {target : String}
    {relayed relayed' : Relayed} (opens : Opens setting file target relayed)
    (few : Bytes.blockCount file ≤ 32768) (reaches : Reaches setting relayed relayed') :
    (relayed'.sink.phase = .complete → relayed'.sinkStore.get? target = some file) ∧
      (relayed'.source.phase = .complete → relayed'.sink.phase = .complete) := by
  obtain ⟨request, reception, sent, taken, keeps, begins, rfl⟩ := opens.keeps
  obtain ⟨sent', taken', keeps'⟩ := keeps.of_reaches begins few reaches
  exact ⟨keeps'.stored begins, keeps'.sink_complete⟩

/-- A file of two bytes is fetched through a relay that doubles the acknowledgment of its block. -/
theorem relayed_two_bytes :
    ∃ setting relayed relayed', Opens setting [65, 66] "copy" relayed ∧
      Bytes.blockCount [65, 66] ≤ 32768 ∧ Reaches setting relayed relayed' ∧
      relayed'.source.phase = .complete ∧ relayed'.sink.phase = .complete ∧
      relayed'.sinkStore.get? "copy" = some [65, 66] := by
  let port (number : UInt16) : Endpoint := { address := .loopback, port := number }
  let sockets (socket : RelaySocket) : Endpoint :=
    if socket = .clientSide then port 3001
    else if socket = .serverSide then port 3002
    else port 3003
  let setting : Setting := { ends := ⟨port 2000, port 1000⟩, sockets, config := {} }
  have opens : Opens setting [65, 66] "copy" _ :=
    @Opens.get setting [65, 66] "copy" (port 70) (port 69) "file"
      { files := [("file", [65, 66])] } {} _ {} _ _ _ ⟨[⟨.ack, 1, .duplicated⟩]⟩ ⟨255, by decide⟩ _
      ⟨.serverSide, Packet.encodeRequest 1 "file" octetMode, port 69⟩
      (by simp) rfl rfl rfl rfl rfl (by decide +kernel) rfl (by decide +kernel)
  obtain ⟨relayed, opens, relayed', reaches, complete⟩ :
      ∃ relayed, Opens setting [65, 66] "copy" relayed ∧
        ∃ relayed', Reaches setting relayed relayed' ∧ relayed'.source.phase = .complete := by
    refine ⟨_, opens, _, Relation.ReflTransGen.head
      (@Step.hearRelay setting _ ⟨port 2000, port 3002, [0, 3, 0, 1, 65, 66]⟩ .serverSide
        ⟨255, by decide⟩ ?_ rfl)
      (.head (@Step.hearSink setting _ ⟨port 3001, port 1000, [0, 3, 0, 1, 65, 66]⟩ ?_ rfl)
      (.head (@Step.hearRelay setting _ ⟨port 1000, port 3001, [0, 4, 0, 1]⟩ .clientSide
        ⟨255, by decide⟩ ?_ rfl)
      (.single (@Step.hearSource setting _ ⟨port 3002, port 2000, [0, 4, 0, 1]⟩ ?_ rfl)))), ?_⟩
    all_goals decide +kernel
  have few : Bytes.blockCount [65, 66] ≤ 32768 := by decide
  obtain ⟨stored, both⟩ := relayed_complete_only_if_stored opens few reaches
  exact ⟨setting, relayed, relayed', opens, few, reaches, complete, both complete,
    stored (both complete)⟩

end Lockstep.Relayed
