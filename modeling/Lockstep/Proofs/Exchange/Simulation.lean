/-
# Transfers keep step

An exchange does what the positions in flight tell, as long as block numbers can be told apart:
every step of it is a step of the positions, or changes nothing that they tell.  So the sides keep
step, and a transfer over a link that reorders is safe up to half as many blocks as there are
numbers, and over a link that does not reorder for files of any length.
-/
import Lockstep.Proofs.Exchange.Basic
import Mathlib.Data.List.InsertIdx

namespace Lockstep.Exchange

open BlockNumber (ofPosition)

/-- The positions tell where an exchange of a file has got to.  The request is what the source has
sent before its first block, if it has asked for the transfer, and the reception is how the sink
began. -/
structure Shows (ends : Ends) (file request : Bytes) (reception : Reception MemoryStore)
    (flow : Flow) (exchange : Exchange) : Prop where
  sends : Sends file request flow.sent exchange.source
  copies : Copies file reception flow.taken exchange.sink exchange.sinkStore
  sourcePhase : exchange.source.phase = .transferring ∨
    (exchange.source.phase = .complete ∧ flow.taken = Bytes.blockCount file)
  sourceTalks : exchange.source.TalksTo ends.sink
  sinkTalks : exchange.sink.TalksTo ends.source
  begun : exchange.source.peerTid.isSome → 0 < flow.sent
  acked : exchange.sink.peerTid.isSome →
    reception.lastSent (Bytes.blocks file flow.taken) = Packet.encodeAck (ofPosition flow.taken)
  toSink : exchange.toSink
    = flow.blocks.map fun block => ⟨Bytes.datagram file block, ends.sink⟩
  toSource : exchange.toSource
    = flow.acks.map fun ack => ⟨Packet.encodeAck (ofPosition ack), ends.source⟩

/-- The positions go on by a step, or stay, and tell where the exchange has got to. -/
def GoesOn (discipline : Discipline) (ends : Ends) (file request : Bytes)
    (reception : Reception MemoryStore) (flow : Flow) (exchange : Exchange) : Prop :=
  ∃ flow', (flow' = flow ∨ Flow.Step discipline (Bytes.blockCount file) flow flow') ∧
    Shows ends file request reception flow' exchange

namespace Shows

variable {discipline : Discipline} {ends : Ends} {file request : Bytes}
  {reception : Reception MemoryStore} {flow : Flow} {exchange exchange' : Exchange} {out : Outgoing}

/-- Once the sink has taken a block, the last datagram that it sent is an acknowledgment. -/
lemma lastSent_of_pos (reception : Reception MemoryStore) (file : Bytes) {position : Nat}
    (pos : 0 < position) :
    reception.lastSent (Bytes.blocks file position) = Packet.encodeAck (ofPosition position) := by
  rw [reception.lastSent_of_ne_nil _ (Bytes.blocks_ne_nil file pos), Bytes.length_blocks]

/-! ## Datagrams that arrive -/

lemma hearSink (h : Shows ends file request reception flow exchange)
    (sound : flow.Sound discipline (Bytes.blockCount file))
    (tellable : Flow.Tellable discipline (Bytes.blockCount file))
    (arrives : discipline.Delivers exchange.toSink out) :
    GoesOn discipline ends file request reception flow (exchange.afterSink
      (exchange.sink.handle exchange.sinkStore out.datagram ends.source)) := by
  rw [h.toSink, Discipline.delivers_map_iff] at arrives
  obtain ⟨block, arrives, rfl⟩ := arrives
  have taken_le := sound.taken_le
  have sent_le := sound.sent_le
  have total := sound.sent_le_total
  obtain ⟨pos, block_le⟩ := sound.blocks block arrives.mem
  rcases Nat.lt_or_ge flow.taken (Bytes.blockCount file) with lt | ge
  · have active := h.copies.active lt
    obtain ⟨bound, -⟩ := Session.boundTo_handle active h.sinkTalks exchange.sinkStore
      (Bytes.datagram file block)
    -- a block that is not due was taken before, since the source is at most one ahead
    by_cases due : block = flow.taken + 1
    · subst due
      obtain ⟨copies, replies⟩ := h.copies.take lt h.sinkTalks
      refine ⟨_, Or.inr (.take arrives), h.sends, copies, ?_, h.sourceTalks, bound.talksTo,
        h.begun, fun _ => lastSent_of_pos _ _ (Nat.succ_pos _), h.toSink, ?_⟩
      · rcases h.sourcePhase with active | ⟨-, all⟩
        · exact Or.inl active
        · omega
      · rw [afterSink, h.toSource, replies, List.map_append]
        rfl
    · have le : block ≤ flow.taken := by omega
      have some' : 0 < flow.taken := by omega
      obtain ⟨copies, replies⟩ :=
        h.copies.repeated lt h.sinkTalks pos le (sound.near_block tellable arrives)
      refine ⟨_, Or.inr .reacknowledge, h.sends, copies, h.sourcePhase, h.sourceTalks,
        bound.talksTo, h.begun, fun _ => lastSent_of_pos _ _ some', h.toSink, ?_⟩
      rw [afterSink, h.toSource, replies, List.map_append]
      rfl
  · -- the sink is complete and does not answer
    obtain all : flow.taken = Bytes.blockCount file := by omega
    have copies := h.copies
    rw [all] at copies
    rw [copies.handle_of_complete]
    refine ⟨flow, Or.inl rfl, h.sends, h.copies, h.sourcePhase, h.sourceTalks, h.sinkTalks,
      h.begun, h.acked, h.toSink, ?_⟩
    rw [afterSink, List.append_nil, h.toSource]

lemma hearSource (h : Shows ends file request reception flow exchange)
    (sound : flow.Sound discipline (Bytes.blockCount file))
    (tellable : Flow.Tellable discipline (Bytes.blockCount file))
    (arrives : discipline.Delivers exchange.toSource out) :
    GoesOn discipline ends file request reception flow (exchange.afterSource
      (exchange.source.handle exchange.sourceStore out.datagram ends.sink)) := by
  rw [h.toSource, Discipline.delivers_map_iff] at arrives
  obtain ⟨ack, arrives, rfl⟩ := arrives
  have taken_le := sound.taken_le
  have ack_le := sound.acks ack arrives.mem
  rcases h.sourcePhase with active | ⟨complete, all⟩
  · obtain ⟨bound, -⟩ := Session.boundTo_handle active h.sourceTalks exchange.sourceStore
      (Packet.encodeAck (ofPosition ack))
    have peer : (exchange.source.bind ends.sink).peer = ends.sink := by rw [h.sourceTalks.bind]
    have sends := h.sends.bind ends.sink
    have active' : (exchange.source.bind ends.sink).phase = .transferring := by
      rw [h.sourceTalks.bind]
      exact active
    rw [h.sends.handle_ack active h.sourceTalks] at bound ⊢
    rcases Nat.lt_or_ge ack flow.sent with lt | ge
    · -- an earlier block, so the one on the way is sent again
      obtain ⟨sends', phase, -, replies⟩ :=
        sends.onAck_earlier active' lt (sound.near_ack tellable arrives)
      refine ⟨_, Or.inr (.resend (by omega)), sends', h.copies, Or.inl phase, bound.talksTo,
        h.sinkTalks, fun _ => by dsimp only; omega, h.acked, ?_, h.toSource⟩
      rw [afterSource, h.toSink, replies, peer, List.map_append]
      rfl
    · obtain rfl : ack = flow.sent := by omega
      rcases Nat.lt_or_eq_of_le sound.sent_le_total with more | last
      · obtain ⟨sends', phase, -, replies⟩ := sends.onAck_next active' more
        refine ⟨_, Or.inr (.advance arrives more), sends', h.copies, Or.inl phase, bound.talksTo,
          h.sinkTalks, fun _ => Nat.succ_pos _, h.acked, ?_, h.toSource⟩
        rw [afterSource, h.toSink, replies, peer, List.map_append]
        rfl
      · rw [last] at sends bound ⊢
        obtain ⟨sends', phase, -, replies⟩ := sends.onAck_last
        refine ⟨flow, Or.inl rfl, last ▸ sends', h.copies, Or.inr ⟨phase, by omega⟩,
          bound.talksTo, h.sinkTalks, fun _ => last ▸ Bytes.blockCount_pos file, h.acked, ?_,
          h.toSource⟩
        rw [afterSource, h.toSink, replies, List.append_nil]
  · -- the source is complete and does not answer
    rw [Session.handle_of_inactive (by simp [complete])]
    refine ⟨flow, Or.inl rfl, h.sends, h.copies, h.sourcePhase, h.sourceTalks, h.sinkTalks,
      h.begun, h.acked, ?_, h.toSource⟩
    rw [afterSource, List.append_nil, h.toSink]

/-! ## Datagrams that are sent again -/

lemma repeatSink (h : Shows ends file request reception flow exchange)
    (again : exchange.sink.again? = some out) :
    GoesOn discipline ends file request reception flow { exchange with
      sink := exchange.sink.countRetransmission
      toSource := exchange.toSource ++ [out] } := by
  obtain ⟨bound, sent, dest⟩ := Session.again?_eq_some again
  obtain peer : exchange.sink.peer = ends.source := h.sinkTalks.peer bound
  rw [h.copies.lastSent, h.acked bound] at sent
  have eq : out = ⟨Packet.encodeAck (ofPosition flow.taken), ends.source⟩ := by
    rw [Option.some.inj sent, ← peer, ← dest]
  refine ⟨_, Or.inr .reacknowledge, h.sends, h.copies.countRetransmission, h.sourcePhase,
    h.sourceTalks, h.sinkTalks, h.begun, h.acked, h.toSink, ?_⟩
  simp only [h.toSource, eq, List.map_append, List.map_singleton]

lemma repeatSource (h : Shows ends file request reception flow exchange)
    (again : exchange.source.again? = some out) :
    GoesOn discipline ends file request reception flow { exchange with
      source := exchange.source.countRetransmission
      toSink := exchange.toSink ++ [out] } := by
  obtain ⟨bound, sent, dest⟩ := Session.again?_eq_some again
  have begun := h.begun bound
  obtain peer : exchange.source.peer = ends.sink := h.sourceTalks.peer bound
  rcases h.sourcePhase with active | ⟨complete, -⟩
  · rw [h.sends.lastSent, if_pos active, if_neg (by omega)] at sent
    have eq : out = ⟨Bytes.datagram file flow.sent, ends.sink⟩ := by
      rw [Option.some.inj sent, ← peer, ← dest]
    refine ⟨_, Or.inr (.resend begun), h.sends.countRetransmission, h.copies, h.sourcePhase,
      h.sourceTalks, h.sinkTalks, h.begun, h.acked, ?_, h.toSource⟩
    simp only [h.toSink, eq, List.map_append, List.map_singleton]
  · -- a source that is complete has nothing to send again
    rw [h.sends.lastSent, if_neg (by simp [complete])] at sent
    cases sent

/-! ## Any step -/

/-- Every step of an exchange is a step of its positions, or changes nothing that they tell. -/
theorem goesOn (h : Shows ends file request reception flow exchange)
    (sound : flow.Sound discipline (Bytes.blockCount file))
    (tellable : Flow.Tellable discipline (Bytes.blockCount file))
    (step : Step discipline ends exchange exchange') :
    GoesOn discipline ends file request reception flow exchange' := by
  cases step with
  | hearSink arrives _ => exact h.hearSink sound tellable arrives
  | hearSource arrives _ => exact h.hearSource sound tellable arrives
  | repeatSink again => exact h.repeatSink again
  | repeatSource again => exact h.repeatSource again
  | loseToSink place =>
    refine ⟨_, Or.inr (.loseBlock place), h.sends, h.copies, h.sourcePhase, h.sourceTalks,
      h.sinkTalks, h.begun, h.acked, ?_, h.toSource⟩
    simp only [h.toSink, List.eraseIdx_map]
  | loseToSource place =>
    refine ⟨_, Or.inr (.loseAck place), h.sends, h.copies, h.sourcePhase, h.sourceTalks,
      h.sinkTalks, h.begun, h.acked, h.toSink, ?_⟩
    simp only [h.toSource, List.eraseIdx_map]

/-- Whatever an exchange comes to, there are positions that tell it, and the sides keep step. -/
theorem of_reaches (h : Shows ends file request reception flow exchange)
    (sound : flow.Sound discipline (Bytes.blockCount file))
    (tellable : Flow.Tellable discipline (Bytes.blockCount file))
    (reaches : Reaches discipline ends exchange exchange') :
    ∃ flow', Shows ends file request reception flow' exchange' ∧
      flow'.Sound discipline (Bytes.blockCount file) := by
  induction reaches with
  | refl => exact ⟨flow, h, sound⟩
  | tail _ step ih =>
    obtain ⟨flow₁, shows₁, sound₁⟩ := ih
    obtain ⟨flow₂, rfl | move, shows₂⟩ := shows₁.goesOn sound₁ tellable step
    · exact ⟨_, shows₂, sound₁⟩
    · exact ⟨_, shows₂, sound₁.step move⟩

/-- As long as the sides keep step nothing goes wrong. -/
lemma safe (h : Shows ends file request reception flow exchange)
    (sound : flow.Sound discipline (Bytes.blockCount file)) :
    Safe file reception.writer.name exchange := by
  have taken_le := sound.taken_le
  have total := sound.sent_le_total
  refine ⟨?_, ?_, ?_⟩
  · rcases h.sourcePhase with active | ⟨complete, -⟩
    · exact Or.inl active
    · exact Or.inr complete
  · rcases Nat.lt_or_ge flow.taken (Bytes.blockCount file) with lt | ge
    · exact Or.inl ⟨h.copies.active lt, h.copies.content lt⟩
    · have copies := h.copies
      rw [show flow.taken = Bytes.blockCount file by omega] at copies
      exact Or.inr ⟨by rw [copies.phase, if_pos rfl], copies.stored⟩
  · intro complete
    rcases h.sourcePhase with active | ⟨-, all⟩
    · rw [active] at complete
      cases complete
    · have same : flow.sent = flow.taken := by omega
      obtain ⟨blocks, bytes⟩ := h.copies.stats
      rw [h.copies.phase, if_pos all, h.sends.counted, h.sends.measured, blocks, bytes, same]
      exact ⟨rfl, rfl, rfl⟩

end Shows

/-! ## How it begins -/

lemma sound_one (discipline : Discipline) {total : Nat} (pos : 0 < total) :
    (⟨1, 0, [1], []⟩ : Flow).Sound discipline total := by
  refine ⟨Nat.zero_le _, Nat.le_refl _, pos, by simp, by simp, ?_⟩
  cases discipline <;> simp [Flow.Ordered]

lemma sound_zero (discipline : Discipline) (total : Nat) :
    (⟨0, 0, [], [0]⟩ : Flow).Sound discipline total := by
  refine ⟨Nat.le_refl _, Nat.zero_le _, Nat.zero_le _, by simp, by simp, ?_⟩
  cases discipline <;> simp [Flow.Ordered]

/-- When a transfer opens, one block is in flight, or the acknowledgment of none. -/
lemma Opens.shows {ends : Ends} {file : Bytes} {target : String} {exchange : Exchange}
    (h : Opens ends file target exchange) (discipline : Discipline) :
    ∃ request reception flow, Shows ends file request reception flow exchange ∧
      flow.Sound discipline (Bytes.blockCount file) ∧
      MemoryWriter.name reception.writer = target := by
  have pos := Bytes.blockCount_pos file
  cases h with
  | get stored unlimited asks sends serves accepted =>
    obtain ⟨writer, opened, receives, phase, unbound, asked⟩ := receives_of_readRequest asks
    obtain ⟨-, named, fresh, room⟩ := MemoryStore.of_openWrite opened
    obtain rfl := List.singleton_inj.mp (sends.symm.trans asked)
    subst serves
    obtain ⟨packet, decoded⟩ := Session.decode_of_accepted accepted
    obtain rfl := Packet.eq_of_decode_readRequest decoded
    obtain ⟨sends', -, bound, replies⟩ := sends_of_serve [] decoded accepted stored
    refine ⟨[], _, ⟨1, 0, [1], []⟩, ⟨sends', ⟨⟨[], receives⟩, fresh, ?_, ?_⟩, Or.inl accepted,
      bound.talksTo, Or.inl unbound, fun _ => Nat.one_pos, ?_, replies, rfl⟩,
      sound_one discipline pos, named⟩
    · rw [room, MemoryStore.freeSpace, unlimited]
      rfl
    · rw [phase, if_neg (Nat.ne_of_lt pos)]
    · intro bound'
      rw [unbound] at bound'
      cases bound'
  | put stored unlimited asks sends serves accepted =>
    obtain ⟨sends', -, phase, unbound, asked⟩ := sends_of_writeRequest asks stored
    obtain rfl := List.singleton_inj.mp (sends.symm.trans asked)
    subst serves
    obtain ⟨packet, decoded⟩ := Session.decode_of_accepted accepted
    obtain rfl := Packet.eq_of_decode_writeRequest decoded
    obtain ⟨writer, opened, receives, bound, replies⟩ := receives_of_serve decoded accepted
    obtain ⟨-, named, fresh, room⟩ := MemoryStore.of_openWrite opened
    refine ⟨_, _, ⟨0, 0, [], [0]⟩, ⟨sends', ⟨⟨[], receives⟩, fresh, ?_, ?_⟩, Or.inl phase,
      Or.inl unbound, bound.talksTo, ?_, fun _ => rfl, rfl, replies⟩, sound_zero discipline _,
      named⟩
    · rw [room, MemoryStore.freeSpace, unlimited]
      rfl
    · rw [accepted, if_neg (Nat.ne_of_lt pos)]
    · intro bound'
      rw [unbound] at bound'
      cases bound'

/-! ## Safety -/

/-- A transfer whose block numbers can be told apart is safe. -/
lemma safe_of_tellable {discipline : Discipline} {ends : Ends} {file : Bytes} {target : String}
    {exchange exchange' : Exchange} (opens : Opens ends file target exchange)
    (tellable : Flow.Tellable discipline (Bytes.blockCount file))
    (reaches : Reaches discipline ends exchange exchange') : Safe file target exchange' := by
  obtain ⟨request, reception, flow, shows', sound, rfl⟩ := opens.shows discipline
  obtain ⟨flow', shows'', sound'⟩ := shows'.of_reaches sound tellable reaches
  exact shows''.safe sound'

/-- A transfer of at most 32768 blocks is safe over a link that may lose and repeat datagrams and
deliver them in any order. -/
theorem safe_of_few_blocks {ends : Ends} {file : Bytes} {target : String}
    {exchange exchange' : Exchange} (opens : Opens ends file target exchange)
    (few : Bytes.blockCount file ≤ 32768)
    (reaches : Reaches .unordered ends exchange exchange') : Safe file target exchange' :=
  safe_of_tellable opens (Or.inr few) reaches

/-- A client fetches a file of two bytes: its block arrives, and the acknowledgment of it. -/
theorem safe_fetching_two_bytes :
    ∃ ends exchange exchange', Opens ends [65, 66] "copy" exchange ∧
      Bytes.blockCount [65, 66] ≤ 32768 ∧ Reaches .unordered ends exchange exchange' ∧
      exchange'.source.phase = .complete ∧ Safe [65, 66] "copy" exchange' := by
  let ends : Ends :=
    ⟨{ address := .loopback, port := 2000 }, { address := .loopback, port := 1000 }⟩
  have opens : Opens ends [65, 66] "copy" _ :=
    @Opens.get ends [65, 66] "copy" { address := .loopback, port := 69 } "file"
      { files := [("file", [65, 66])] } {} _ {} _ _ _ rfl rfl rfl rfl rfl (by decide +kernel)
  obtain ⟨exchange, opens, exchange', reaches, complete⟩ :
      ∃ exchange, Opens ends [65, 66] "copy" exchange ∧
        ∃ exchange', Reaches .unordered ends exchange exchange' ∧
          exchange'.source.phase = .complete := by
    refine ⟨_, opens, _, Relation.ReflTransGen.head
      (@Step.hearSink _ ends _ ⟨[0, 3, 0, 1, 65, 66], ends.sink⟩ ?_ rfl)
      (.single (@Step.hearSource _ ends _ ⟨[0, 4, 0, 1], ends.source⟩ ?_ rfl)), ?_⟩
    all_goals decide +kernel
  have few : Bytes.blockCount [65, 66] ≤ 32768 := by decide
  exact ⟨ends, exchange, exchange', opens, few, reaches, complete,
    safe_of_few_blocks opens few reaches⟩

/-- A transfer of any number of blocks is safe over a link that may lose and repeat datagrams but
delivers them in the order of sending, however often the numbers wrap. -/
theorem safe_of_inOrder {ends : Ends} {file : Bytes} {target : String}
    {exchange exchange' : Exchange} (opens : Opens ends file target exchange)
    (reaches : Reaches .inOrder ends exchange exchange') : Safe file target exchange' :=
  safe_of_tellable opens (Or.inl rfl) reaches

/-- A client brings a file of two bytes: the acknowledgment of the request arrives and makes room
for that of the block. -/
theorem safe_bringing_two_bytes :
    ∃ ends exchange exchange', Opens ends [65, 66] "copy" exchange ∧
      Reaches .inOrder ends exchange exchange' ∧ exchange'.source.phase = .complete ∧
      Safe [65, 66] "copy" exchange' := by
  let ends : Ends :=
    ⟨{ address := .loopback, port := 1000 }, { address := .loopback, port := 2000 }⟩
  have opens : Opens ends [65, 66] "copy" _ :=
    @Opens.put ends [65, 66] "copy" { address := .loopback, port := 69 } "file"
      { files := [("file", [65, 66])] } {} {} _ _ _ rfl rfl rfl rfl rfl (by decide +kernel)
  obtain ⟨exchange, opens, exchange', reaches, complete⟩ :
      ∃ exchange, Opens ends [65, 66] "copy" exchange ∧
        ∃ exchange', Reaches .inOrder ends exchange exchange' ∧
          exchange'.source.phase = .complete := by
    refine ⟨_, opens, _, Relation.ReflTransGen.head
      (@Step.hearSource _ ends _ ⟨[0, 4, 0, 0], ends.source⟩ ?_ rfl) (.head (.loseToSource 0)
      (.head (@Step.hearSink _ ends _ ⟨[0, 3, 0, 1, 65, 66], ends.sink⟩ ?_ rfl)
      (.single (@Step.hearSource _ ends _ ⟨[0, 4, 0, 1], ends.source⟩ ?_ rfl)))), ?_⟩
    all_goals decide +kernel
  exact ⟨ends, exchange, exchange', opens, reaches, complete, safe_of_inOrder opens reaches⟩

end Lockstep.Exchange
