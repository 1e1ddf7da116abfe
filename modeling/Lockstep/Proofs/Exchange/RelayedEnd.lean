/-
# When a relay says that a transfer is over

A relay remembers the number of a block that is not full when it has sent one on, and takes the
transfer for completed when it sends on an acknowledgment with this number.  The number that it
remembers is the one that it sent, not the one that it was given.  So there is one fault that it
does not see through itself: if it has made the number of the last block smaller by one, then the
acknowledgment of the block before, should it come again, passes for the last one.  With any other
fault the receiving side is complete when the relay says so.
-/
import Lockstep.Proofs.Exchange.RelayedSafety

namespace Lockstep

open BlockNumber (ofPosition)

/-! ## What a relay concludes from a datagram -/

/-- The bytes that a datagram may be sent on as: as it is, or as the fault of a rule of the script
that is meant for it makes it. -/
def FaultScript.Makes (script : FaultScript) (datagram bytes : Bytes) : Prop :=
  bytes = datagram ∨ ∃ rule ∈ script.rules, rule.isFor datagram = true ∧
    ∃ opcode, rule.mutation.corrupt? opcode datagram = some bytes

lemma FaultScript.Makes.passes {script : FaultScript} {datagram bytes : Bytes}
    (h : script.Makes datagram bytes) : RelaySession.Passes datagram bytes := by
  rcases h with same | ⟨rule, -, -, opcode, falsified⟩
  · exact Or.inl same
  · exact Or.inr ⟨rule.mutation, opcode, falsified⟩

/-- A rule that hits a block is about its number. -/
lemma FaultRule.isFor_encodeData {rule : FaultRule} {block : BlockNumber} {payload : Bytes}
    (short : payload.length ≤ blockSize)
    (meant : rule.isFor (Packet.encodeData block payload) = true) :
    rule.kind = .data ∧ rule.block = block := by
  simp only [isFor, Packet.classify_encodeData block short,
    Packet.blockNumber?_encodeData block short, Bool.and_eq_true, Bool.or_eq_true,
    decide_eq_true_eq, Option.some.injEq] at meant
  obtain ⟨kind, request | number⟩ := meant
  · rw [← kind] at request
    cases request
  · exact ⟨kind.symm, number.symm⟩

namespace RelaySession

variable {session : RelaySession} {config : RelayConfig} {script : FaultScript}
  {opcode : UnusedOpcode} {leg : Leg} {datagram bytes : Bytes}

/-- The session has ended because the last block was acknowledged. -/
def Completed (session : RelaySession) : Prop := session.result? = some (.ok .completed)

/-- What a session knows of the end of the transfer after a datagram that may be sent on in some
forms: the same as before, or the number of a block that is not full, or that the block was
acknowledged whose number it knew. -/
inductive Concludes (Sent : Bytes → Prop) (session session' : RelaySession) : Prop
  /-- It knows no more than before. -/
  | nothing (same : session'.finalBlock = session.finalBlock)
      (completed : session'.Completed → session.Completed)
  /-- A block that is not full was sent on. -/
  | finalBlock (block : BlockNumber) (payload : Bytes) (short : payload.length < blockSize)
      (sent : Sent (Packet.encodeData block payload)) (learnt : session'.finalBlock = some block)
      (active : ¬ session'.Completed)
  /-- The acknowledgment of the block was sent on whose number is known. -/
  | acknowledged (block : BlockNumber) (known : session.finalBlock = some block)
      (sent : Sent (Packet.encodeAck block)) (same : session'.finalBlock = session.finalBlock)

lemma concludes_of_noteForwarded (active : ¬ session.Completed) {Sent : Bytes → Prop}
    (sent : Sent bytes) : Concludes Sent session (session.noteForwarded bytes) := by
  unfold noteForwarded
  split
  · exact .nothing rfl (fun completed => by cases completed)
  · split_ifs with final
    · obtain ⟨block, payload, short, same, number⟩ := Packet.eq_encodeData_of_isFinalData final
      exact .finalBlock block payload short (same ▸ sent) number active
    · exact .nothing rfl id
  · next kind =>
    split_ifs with acked
    · simp only [Bool.and_eq_true, decide_eq_true_eq] at acked
      obtain ⟨block, known⟩ := Option.isSome_iff_exists.mp acked.1
      have same := Packet.eq_encodeAck_of_blockNumber? kind (acked.2.trans known)
      exact .acknowledged block known (same ▸ sent) rfl
    · exact .nothing rfl id
  · exact .nothing rfl id

lemma concludes_of_offer (active : ¬ session.Completed) (config : RelayConfig)
    (script : FaultScript) (opcode : UnusedOpcode) (leg : Leg) (datagram : Bytes) :
    let step := session.offer config script opcode leg datagram
    Concludes (script.Makes datagram) session step.session ∧
      step.script.rules ⊆ script.rules := by
  dsimp only [offer]
  obtain ⟨hit, rules⟩ := script.take_spec datagram
  rcases taken : script.take datagram with ⟨_ | ⟨kind, block, mutation⟩, left⟩
  · rw [taken] at rules
    refine ⟨concludes_of_noteForwarded active (Or.inl rfl), ?_⟩
    rw [rules]
    exact List.Subset.refl _
  · rw [taken] at hit rules
    have fewer : left.rules ⊆ script.rules := by
      rw [rules]
      exact List.subset_append_right _ _
    have first : (⟨kind, block, mutation⟩ : FaultRule) ∈ script.rules := by
      rw [rules]
      exact List.mem_cons_self
    have meant : FaultRule.isFor ⟨kind, block, mutation⟩ datagram = true :=
      (Option.filter_eq_some_iff.mp hit.symm).2
    refine ⟨?_, by cases mutation <;> exact fewer⟩
    cases mutation
    case unknownTransferId => exact .nothing rfl (fun completed => by cases completed)
    case lost =>
      change Concludes _ session (if config.endOnLoss then session.finish (.ok .lost) else session)
      split_ifs
      · exact .nothing rfl (fun completed => by cases completed)
      · exact .nothing rfl id
    case delayed | duplicated => exact concludes_of_noteForwarded active (Or.inl rfl)
    all_goals
      exact concludes_of_noteForwarded active (Or.inr ⟨_, first, meant, opcode, rfl⟩)

/-- What a relay session concludes from a datagram, it concludes from what it makes of it. -/
lemma concludes_of_arrive (session : RelaySession) (config : RelayConfig) (script : FaultScript)
    (opcode : UnusedOpcode) (socket : RelaySocket) (datagram : Bytes) (source : Endpoint) :
    let step := session.arrive config script opcode socket datagram source
    Concludes (script.Makes datagram) session step.session ∧
      step.script.rules ⊆ script.rules := by
  intro step
  simp only [step, arrive]
  split
  · next stage =>
    split_ifs
    · refine concludes_of_offer ?_ _ _ _ _ _
      simp [Completed, result?, stage]
    · exact ⟨.nothing rfl id, List.Subset.refl _⟩
  · next stage =>
    split_ifs
    · have active : ¬ { session with serverTid := some source.port : RelaySession }.Completed := by
        simp [Completed, result?, stage]
      obtain ⟨concludes, fewer⟩ :=
        concludes_of_offer active config script opcode .toClient datagram
      refine ⟨?_, fewer⟩
      -- the port of the server has no part in it
      cases concludes with
      | nothing same completed => exact .nothing same completed
      | finalBlock block payload short sent learnt active =>
        exact .finalBlock block payload short sent learnt active
      | acknowledged block known sent same => exact .acknowledged block known sent same
    · exact ⟨.nothing rfl id, List.Subset.refl _⟩
  · exact ⟨.nothing rfl (fun completed => by cases completed), List.Subset.refl _⟩
  · exact ⟨.nothing rfl id, List.Subset.refl _⟩

end RelaySession

/-! ## A relayed transfer -/

namespace Relayed

/-- The rule that makes the number of the last block smaller by one. -/
def relabelling (file : Bytes) : FaultRule :=
  ⟨.data, ofPosition (Bytes.blockCount file), .invalidBlockNumber⟩

/-- A number that a relay can take for that of the last block: it is, or the relay has made it
smaller. -/
def PassesForLast (file : Bytes) (rules : List FaultRule) (block : BlockNumber) : Prop :=
  block = ofPosition (Bytes.blockCount file) ∨
    (block + 1 = ofPosition (Bytes.blockCount file) ∧ relabelling file ∈ rules)

/-- What the relay knows of the end of a transfer, under the rules that it began with. -/
structure Watches (file : Bytes) (rules : List FaultRule) (relayed : Relayed) : Prop where
  waiting : relayed.script.rules ⊆ rules
  finalBlock : ∀ block, relayed.relay.finalBlock = some block → PassesForLast file rules block
  completed : relayed.relay.Completed → ∃ block, relayed.relay.finalBlock = some block ∧
    (block = ofPosition (Bytes.blockCount file) →
      relayed.sink.stats.blocks.toNat = Bytes.blockCount file) ∧
    Bytes.blockCount file ≤ relayed.sink.stats.blocks.toNat + 1

variable {setting : Setting} {file request : Bytes} {reception : Reception MemoryStore}
  {sent taken : Nat} {relayed relayed' : Relayed} {parcel : Parcel} {rules : List FaultRule}

/-- The sink has counted the blocks that it has taken. -/
lemma Keeps.counted (h : Keeps file request reception sent taken relayed)
    (few : Bytes.blockCount file ≤ 32768) : relayed.sink.stats.blocks.toNat = taken := by
  obtain ⟨calls, receives⟩ := h.receives
  have taken_le := h.taken_le
  have total := h.sends.position_le
  rw [receives.counted, Bytes.length_blocks, UInt32.toNat_ofNat']
  omega

/-- A short block on its way from the source is the last one of the file, and the relay can only
have made its number smaller. -/
lemma passesForLast {script : FaultScript} {datagram payload : Bytes} {block : BlockNumber}
    (authentic : Authentic IsNumber file sent taken datagram)
    (total : sent ≤ Bytes.blockCount file)
    (made : script.Makes datagram (Packet.encodeData block payload))
    (short : payload.length < blockSize) : PassesForLast file script.rules block := by
  have read := Packet.decode_encodeData block (Nat.le_of_lt short)
  -- the position of a short block is the last one
  have last {number : BlockNumber} (decoded : Packet.decode datagram = .ok (.data number payload)) :
      number = ofPosition (Bytes.blockCount file) := by
    obtain ⟨position, pos, le, rfl, rfl⟩ := authentic.data _ _ decoded
    obtain ⟨before, rfl⟩ := Nat.exists_eq_add_one_of_ne_zero (Nat.ne_of_gt pos)
    rw [(Bytes.length_block_lt_iff file (by omega)).mp short]
  rcases made with same | ⟨rule, waits, meant, opcode, falsified⟩
  · exact Or.inl (last (by rw [← same, read]))
  · have decoded := Mutation.data_of_corrupt falsified read
    have next := last decoded
    obtain ⟨kind, target, mutation⟩ := rule
    obtain ⟨rfl, -⟩ := Mutation.eq_of_corrupt falsified read
    obtain ⟨-, rfl⟩ := Packet.decode_eq_data_iff.mp decoded
    obtain ⟨rfl, rfl⟩ := FaultRule.isFor_encodeData (Nat.le_of_lt short) meant
    refine Or.inr ⟨next, ?_⟩
    rw [relabelling, ← next]
    exact waits

/-- A relay that completes a transfer has sent on an acknowledgment of the last block, or of the
block before. -/
lemma acked_of_passesForLast {block : BlockNumber} {datagram : Bytes}
    (authentic : Authentic IsNumber file sent taken datagram) (le : taken ≤ Bytes.blockCount file)
    (few : Bytes.blockCount file ≤ 32768) (passes : PassesForLast file rules block)
    (made : RelaySession.Passes datagram (Packet.encodeAck block)) :
    (block = ofPosition (Bytes.blockCount file) → taken = Bytes.blockCount file) ∧
      Bytes.blockCount file ≤ taken + 1 := by
  obtain ⟨position, below, number⟩ :=
    (authentic.of_passes made).ack _ (Packet.decode_encodeAck block)
  have all (same : block = ofPosition (Bytes.blockCount file)) : taken = Bytes.blockCount file := by
    rw [same] at number
    exact number.eq_sent below le few
  refine ⟨all, ?_⟩
  rcases passes with same | ⟨next, -⟩
  · have := all same
    omega
  · -- the number that was made smaller is that of the position before the last one
    obtain ⟨before, count⟩ := Nat.exists_eq_add_one_of_ne_zero
      (Nat.ne_of_gt (Bytes.blockCount_pos file))
    have smaller : block = ofPosition before := by
      rw [count, BlockNumber.ofPosition_succ] at next
      exact (UInt16.add_left_inj 1).mp next
    rcases number with same | less
    · have := BlockNumber.eq_of_ofPosition_eq (smaller.symm.trans same) (by omega) (by omega)
      omega
    · have := BlockNumber.eq_of_ofPosition_eq (next.symm.trans less) (by omega) (by omega)
      omega

namespace Watches

/-- A relay that knows no more than before knows nothing wrong. -/
lemma of_nothing (h : Watches file rules relayed)
    (same : relayed'.relay.finalBlock = relayed.relay.finalBlock)
    (completed : relayed'.relay.Completed → relayed.relay.Completed)
    (fewer : relayed'.script.rules ⊆ relayed.script.rules)
    (counted : relayed.sink.stats.blocks.toNat ≤ relayed'.sink.stats.blocks.toNat)
    (bound : relayed'.sink.stats.blocks.toNat ≤ Bytes.blockCount file) :
    Watches file rules relayed' := by
  refine ⟨List.Subset.trans fewer h.waiting, by rw [same]; exact h.finalBlock, fun done => ?_⟩
  obtain ⟨block, known, last, near⟩ := h.completed (completed done)
  refine ⟨block, same.trans known, fun is => ?_, by omega⟩
  have := last is
  omega

lemma hearRelay (h : Watches file rules relayed)
    (keeps : Keeps file request reception sent taken relayed)
    (few : Bytes.blockCount file ≤ 32768) (socket : RelaySocket) (opcode : UnusedOpcode)
    (hparcel : parcel ∈ relayed.sent) :
    Watches file rules (relayed.afterRelay setting
      (relayed.relay.arrive setting.config relayed.script opcode socket parcel.datagram
        parcel.source)) := by
  obtain ⟨concludes, fewer⟩ := RelaySession.concludes_of_arrive relayed.relay setting.config
    relayed.script opcode socket parcel.datagram parcel.source
  have total := keeps.sends.position_le
  have taken_le := keeps.taken_le
  have counted := keeps.counted few
  cases concludes with
  | nothing same completed =>
    exact h.of_nothing same completed fewer (Nat.le_refl _) (by rw [afterRelay, counted]; omega)
  | finalBlock block payload short made learnt active =>
    refine ⟨List.Subset.trans fewer h.waiting, fun block' known => ?_,
      fun done => absurd done active⟩
    obtain rfl := Option.some.inj (learnt.symm.trans known)
    exact (passesForLast (keeps.authentic _ hparcel) total made short).imp_right
      (And.imp_right (@h.waiting _))
  | acknowledged block known made same =>
    refine ⟨List.Subset.trans fewer h.waiting, fun block' known' => ?_,
      fun _ => ⟨block, same.trans known, ?_⟩⟩
    · exact h.finalBlock block' (same.symm.trans known')
    · rw [afterRelay, counted]
      exact acked_of_passesForLast (keeps.authentic _ hparcel) (by omega) few
        (h.finalBlock block known) made.passes

/-- Whatever happens, the relay knows what it knows about the end of the transfer. -/
theorem step (h : Watches file rules relayed)
    (keeps : Keeps file request reception sent taken relayed)
    (begins : Begins request reception) (few : Bytes.blockCount file ≤ 32768)
    (step : Step setting relayed relayed') : Watches file rules relayed' := by
  have counted := keeps.counted few
  have bound {sent' taken' : Nat} (keeps' : Keeps file request reception sent' taken' relayed') :
      relayed'.sink.stats.blocks.toNat ≤ Bytes.blockCount file := by
    have taken_le := keeps'.taken_le
    have total := keeps'.sends.position_le
    have := keeps'.counted few
    omega
  obtain ⟨sent', taken', keeps'⟩ := keeps.step begins few step
  cases step with
  | @hearSink parcel passed _ =>
    have total := keeps.sends.position_le
    have taken_le := keeps.taken_le
    obtain ⟨taken'', goes, ⟨calls, receives⟩, -⟩ :=
      keeps.takes (by omega) (keeps.passed parcel passed) parcel.source
    refine h.of_nothing rfl id (List.Subset.refl _) ?_ (bound keeps')
    rw [afterSink, receives.counted, Bytes.length_blocks, UInt32.toNat_ofNat', counted]
    omega
  | hearRelay socket opcode hparcel _ => exact h.hearRelay keeps few socket opcode hparcel
  | expireRelay =>
    refine h.of_nothing ?_ ?_ (List.Subset.refl _) (Nat.le_refl _) (bound keeps')
    · unfold RelaySession.expire
      split <;> rfl
    · unfold RelaySession.expire
      split
      · exact fun done => by cases done
      · exact fun done => by cases done
      · exact id
  | _ => exact h.of_nothing rfl id (List.Subset.refl _) (Nat.le_refl _) (bound keeps')

theorem of_reaches (h : Watches file rules relayed)
    (keeps : Keeps file request reception sent taken relayed)
    (begins : Begins request reception) (few : Bytes.blockCount file ≤ 32768)
    (reaches : Reaches setting relayed relayed') : Watches file rules relayed' := by
  induction reaches with
  | refl => exact h
  | tail before move ih =>
    obtain ⟨sent', taken', keeps'⟩ := keeps.of_reaches begins few before
    exact ih.step keeps' begins few move

end Watches

/-- A relay that has sent on nothing but a request knows nothing of the end. -/
lemma knows_nothing_of_request {client server : Endpoint} {config : RelayConfig}
    {script : FaultScript} {opcode : UnusedOpcode} {leg : Leg} {datagram : Bytes}
    {step : RelaySession.Step} (numberless : Numberless datagram)
    (begins : RelaySession.offer { client, server } config script opcode leg datagram = step) :
    step.session.finalBlock = none ∧ ¬ step.session.Completed := by
  have fresh : ¬ ({ client, server } : RelaySession).Completed := fun done => by cases done
  obtain ⟨concludes, -⟩ :=
    RelaySession.concludes_of_offer fresh config script opcode leg datagram
  rw [begins] at concludes
  cases concludes with
  | nothing same completed => exact ⟨same, fun done => fresh (completed done)⟩
  | finalBlock block payload short made learnt active =>
    have nothing : Authentic IsNumber [] 0 0 datagram := .of_numberless numberless
    obtain ⟨position, pos, le, -⟩ := (nothing.of_passes made.passes).data _ _
      (Packet.decode_encodeData block (Nat.le_of_lt short))
    omega
  | acknowledged block known => cases known

lemma Opens.watches {target : String} (h : Opens setting file target relayed) :
    Watches file relayed.script.rules relayed := by
  have start {relayed : Relayed} (known : relayed.relay.finalBlock = none ∧
      ¬ relayed.relay.Completed) : Watches file relayed.script.rules relayed := by
    refine ⟨List.Subset.refl _, fun block some => ?_, fun done => absurd done known.2⟩
    rw [known.1] at some
    cases some
  cases h with
  | get faults stored unlimited asks sends begins =>
    obtain ⟨writer, opened, receives, -, -, replies⟩ := receives_of_readRequest asks
    obtain rfl := List.singleton_inj.mp (sends.symm.trans replies)
    exact start (knows_nothing_of_request (numberless_readRequest _ _) begins)
  | put faults stored unlimited asks sends begins =>
    obtain ⟨sends', -, phase, -, replies⟩ := sends_of_writeRequest asks stored
    obtain rfl := List.singleton_inj.mp (sends.symm.trans replies)
    exact start (knows_nothing_of_request (numberless_writeRequest _ _) begins)

/-- Through a relay with any script of faults about blocks and acknowledgments, a transfer of at
most 32768 blocks that the relay takes for completed is complete on the receiving side, unless the
relay has made the number of the last block smaller by one.  Then the last block may be missing,
but no other one. -/
theorem relay_completes_early_only_if_relabelled {target : String}
    (opens : Opens setting file target relayed) (few : Bytes.blockCount file ≤ 32768)
    (reaches : Reaches setting relayed relayed') (completed : relayed'.relay.Completed) :
    relayed'.sink.phase = .complete ∨
      (relabelling file ∈ relayed.script.rules ∧
        (∃ block, relayed'.relay.finalBlock = some block ∧
          block + 1 = ofPosition (Bytes.blockCount file)) ∧
        relayed'.sink.stats.blocks.toNat + 1 = Bytes.blockCount file) := by
  obtain ⟨request, reception, sent, taken, keeps, begins, rfl⟩ := opens.keeps
  have watches := opens.watches.of_reaches keeps begins few reaches
  obtain ⟨sent', taken', keeps'⟩ := keeps.of_reaches begins few reaches
  have counted := keeps'.counted few
  have taken_le := keeps'.taken_le
  have total := keeps'.sends.position_le
  obtain ⟨block, known, last, near⟩ := watches.completed completed
  by_cases all : taken' = Bytes.blockCount file
  · exact Or.inl (keeps'.complete_of_all all)
  · rcases watches.finalBlock block known with same | ⟨next, waits⟩
    · exact absurd (counted.symm.trans (last same)) all
    · exact Or.inr ⟨waits, ⟨block, known, next⟩, by omega⟩

/-- A port of the host itself. -/
def atPort (port : UInt16) : Endpoint := { address := .loopback, port }

/-- Both sessions and the relay on one host, with the sessions at two ports. -/
def onLoopback (source sink : UInt16) : Setting where
  ends := ⟨atPort source, atPort sink⟩
  sockets
    | .clientSide => atPort 3001
    | .serverSide => atPort 3002
    | .throwaway => atPort 3003
  config := {}

/-- A file of two bytes is fetched, and the relay, which doubles the acknowledgment, says so. -/
theorem relay_completes_two_bytes :
    ∃ relayed relayed', Opens (onLoopback 2000 1000) [65, 66] "copy" relayed ∧
      Bytes.blockCount [65, 66] ≤ 32768 ∧ Reaches (onLoopback 2000 1000) relayed relayed' ∧
      relayed'.relay.Completed ∧ relayed'.sink.phase = .complete := by
  have opens : Opens (onLoopback 2000 1000) [65, 66] "copy" _ :=
    @Opens.get (onLoopback 2000 1000) [65, 66] "copy" (atPort 70) (atPort 69) "file"
      { files := [("file", [65, 66])] } {} _ {} _ _ _ ⟨[⟨.ack, 1, .duplicated⟩]⟩ ⟨255, by decide⟩ _
      ⟨.serverSide, Packet.encodeRequest 1 "file" octetMode, atPort 69⟩
      (by simp) rfl rfl rfl rfl rfl (by decide +kernel) rfl (by decide +kernel)
  obtain ⟨relayed, opens, others, relayed', reaches, completed⟩ :
      ∃ relayed, Opens (onLoopback 2000 1000) [65, 66] "copy" relayed ∧
        relabelling [65, 66] ∉ relayed.script.rules ∧
        ∃ relayed', Reaches (onLoopback 2000 1000) relayed relayed' ∧ relayed'.relay.Completed := by
    refine ⟨_, opens, by decide +kernel, _, .head
      (@Step.hearRelay (onLoopback 2000 1000) _ ⟨atPort 2000, atPort 3002, [0, 3, 0, 1, 65, 66]⟩
        .serverSide ⟨255, by decide⟩ ?_ rfl)
      (.head (@Step.hearSink (onLoopback 2000 1000) _
        ⟨atPort 3001, atPort 1000, [0, 3, 0, 1, 65, 66]⟩ ?_ rfl)
      (.single (@Step.hearRelay (onLoopback 2000 1000) _ ⟨atPort 1000, atPort 3001, [0, 4, 0, 1]⟩
        .clientSide ⟨255, by decide⟩ ?_ rfl))), ?_⟩
    · decide +kernel
    · decide +kernel
    · decide +kernel
    · rfl
  have few : Bytes.blockCount [65, 66] ≤ 32768 := by decide
  refine ⟨relayed, relayed', opens, few, reaches, completed, ?_⟩
  rcases relay_completes_early_only_if_relabelled opens few reaches completed with
    complete | ⟨relabels, -⟩
  · exact complete
  · exact absurd relabels others

end Relayed

end Lockstep
