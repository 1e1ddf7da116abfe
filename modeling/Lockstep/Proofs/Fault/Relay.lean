/-
# What a relay sends

A relay passes a datagram on as it was, or falsified as its script says, or not at all.  It sends
nothing of its own.
-/
import Lockstep.Fault.Relay
import Lockstep.Proofs.Packet.Layout

namespace Lockstep

/-- The first rule of a script is taken off if it is meant for the datagram, and the others wait. -/
lemma FaultScript.take_spec (script : FaultScript) (datagram : Bytes) :
    (script.take datagram).1 = script.rules.head?.filter (·.isFor datagram) ∧
      script.rules = (script.take datagram).1.toList ++ (script.take datagram).2.rules := by
  rcases script with ⟨_ | ⟨rule, rest⟩⟩
  · exact ⟨rfl, rfl⟩
  · by_cases meant : rule.isFor datagram
    · simp [FaultScript.take, Option.filter, meant]
    · simp [FaultScript.take, Option.filter, meant]

/-- A script that is not about a kind of datagram does not take a rule for one. -/
lemma FaultScript.take_of_kind {script : FaultScript} {datagram : Bytes}
    (h : ∀ rule ∈ script.rules, rule.kind ≠ classify datagram) :
    script.take datagram = (none, script) := by
  rcases script with ⟨_ | ⟨rule, rest⟩⟩
  · rfl
  · have ne : classify datagram ≠ rule.kind := (h rule (List.mem_cons_self ..)).symm
    simp [FaultScript.take, FaultRule.isFor, ne]

namespace RelaySession

/-- A datagram as a relay may pass it on: as it was, or falsified. -/
def Passes (datagram bytes : Bytes) : Prop :=
  bytes = datagram ∨ ∃ mutation : Mutation, ∃ opcode, mutation.corrupt? opcode datagram = some bytes

/-- Whatever the script, a relay passes on what it was offered, or nothing. -/
lemma passes_of_offer (session : RelaySession) (config : RelayConfig) (script : FaultScript)
    (opcode : UnusedOpcode) (leg : Leg) (datagram : Bytes) :
    let step := session.offer config script opcode leg datagram
    ∀ dispatch ∈ step.sends ++ step.held, Passes datagram dispatch.datagram := by
  intro step dispatch hdispatch
  simp only [step, offer] at hdispatch
  rcases taken : script.take datagram with ⟨_ | rule, script'⟩
  · simp only [taken, List.append_nil, List.mem_singleton] at hdispatch
    exact Or.inl (by rw [hdispatch])
  · rcases kind : rule.mutation
    all_goals simp only [taken, kind, List.nil_append, List.append_nil, List.mem_cons,
      List.not_mem_nil, or_false, or_self] at hdispatch
    -- the three faults that change bytes
    case invalidOpcode | invalidPacketSize | invalidBlockNumber =>
      exact Or.inr ⟨rule.mutation, opcode, by rw [hdispatch, kind]; rfl⟩
    all_goals exact Or.inl (by rw [hdispatch])

/-- What no rule is meant for is sent on as it is. -/
lemma offer_of_missed {session : RelaySession} {script : FaultScript}
    {datagram : Bytes} (missed : script.take datagram = (none, script))
    (noted : session.noteForwarded datagram = session) (config : RelayConfig)
    (opcode : UnusedOpcode) (leg : Leg) :
    session.offer config script opcode leg datagram
      = { session, script, sends := [⟨leg.socket, datagram, session.dest leg⟩] } := by
  simp only [offer, missed, noted]

/-- A script about blocks and acknowledgments lets a datagram with another opcode pass. -/
lemma sends_of_offer {config : RelayConfig} {script : FaultScript} {opcode : UnusedOpcode}
    {leg : Leg} {datagram : Bytes} (session : RelaySession)
    (faults : ∀ rule ∈ script.rules, rule.kind = .data ∨ rule.kind = .ack)
    (other : classify datagram ≠ .data ∧ classify datagram ≠ .ack) :
    (session.offer config script opcode leg datagram).sends
      = [⟨leg.socket, datagram, session.dest leg⟩] := by
  have missed : script.take datagram = (none, script) := by
    apply FaultScript.take_of_kind
    intro rule hrule same
    rcases faults rule hrule with kind | kind
    · exact other.1 (same.symm.trans kind)
    · exact other.2 (same.symm.trans kind)
  simp only [offer, missed]

/-- What comes from the client is offered on its way to the server. -/
lemma arrive_of_client {session : RelaySession} (active : session.stage = .forwarding)
    (config : RelayConfig) (script : FaultScript) (opcode : UnusedOpcode) (datagram : Bytes) :
    session.arrive config script opcode .clientSide datagram session.client
      = session.offer config script opcode .toServer datagram := by
  simp only [arrive, active, if_true]

/-- What comes from the server is offered on its way to the client, and the port that it comes from
is the one of the server. -/
lemma arrive_of_server {session : RelaySession} (active : session.stage = .forwarding)
    {source : Endpoint} (answers : session.isServer source = true) (config : RelayConfig)
    (script : FaultScript) (opcode : UnusedOpcode) (datagram : Bytes) :
    session.arrive config script opcode .serverSide datagram source
      = { session with serverTid := some source.port }.offer config script opcode .toClient
        datagram := by
  simp only [arrive, active, if_pos answers]

/-- Whatever a relay session is doing, it passes on what it was given, or nothing. -/
lemma passes_of_arrive (session : RelaySession) (config : RelayConfig) (script : FaultScript)
    (opcode : UnusedOpcode) (socket : RelaySocket) (datagram : Bytes) (source : Endpoint) :
    let step := session.arrive config script opcode socket datagram source
    ∀ dispatch ∈ step.sends ++ step.held, Passes datagram dispatch.datagram := by
  intro step
  simp only [step, arrive]
  split
  · split_ifs
    · exact passes_of_offer _ _ _ _ _ _
    · simp
  · split_ifs
    · exact passes_of_offer _ _ _ _ _ _
    · simp
  · simp
  · simp

end RelaySession

end Lockstep
