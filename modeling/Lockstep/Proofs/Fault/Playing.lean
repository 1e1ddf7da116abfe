/-
# How a relay plays its script

Datagrams come to a relay session on two sockets, from anywhere, beginning with the request of the
client.  What the session sends is told here without the session: some arrivals belong to the
transfer, the others might as well not have come; the first rule that waits is used up by the first
datagram that it is meant for; and each datagram that belongs to the transfer is sent on, to where
it has to go by then, in the copies that its fault makes of it.
-/
import Lockstep.Proofs.Fault.Relay
import Mathlib.Data.List.Induction
import Mathlib.Data.List.ReduceOption
import Mathlib.Tactic.Common

namespace Lockstep

/-! ## Arrivals -/

/-- A datagram that comes to a relay session. -/
structure Incoming where
  /-- When it comes, in milliseconds. -/
  moment : Nat
  /-- The direction that its socket stands for. -/
  leg : Leg
  /-- Where it comes from. -/
  source : Endpoint
  /-- The bytes. -/
  datagram : Bytes
  /-- The opcode to use if a fault needs one. -/
  opcode : UnusedOpcode

/-- The socket at which the datagrams of a direction come in. -/
def Leg.entrance : Leg → RelaySocket
  | toServer => .clientSide
  | toClient => .serverSide

/-- A datagram comes to the socket for those of the server from the address of the server. -/
def Incoming.fromServer (server : Endpoint) (arrival : Incoming) : Bool :=
  arrival.leg = .toClient && arrival.source.address = server.address

/-- The port that a server answers from, which is that of the first datagram that comes from its
address. -/
def answering? (server : Endpoint) (arrivals : List Incoming) : Option UInt16 :=
  (arrivals.find? (·.fromServer server)).map (·.source.port)

/-- Where the datagrams of a direction have to go, when the server answers from a port. -/
def Leg.target (client server : Endpoint) (tid : Option UInt16) : Leg → Endpoint
  | toClient => client
  | toServer => tid.elim server server.address.atPort

namespace Incoming

/-- An arrival belongs to the transfer: to the server from the client, or to the client from the
port that the server answers from. -/
def belongs (client server : Endpoint) (tid : Option UInt16) (arrival : Incoming) : Bool :=
  match arrival.leg with
  | .toServer => arrival.source = client
  | .toClient => arrival.source.address = server.address && tid = some arrival.source.port

/-- What comes of an arrival under the fault that hits it, if one does: what is sent to where it has
to go, and when. -/
def deliveries (arrival : Incoming) (config : RelayConfig) (dest : Endpoint) :
    Option Mutation → List (Nat × Dispatch)
  | none => [copy arrival.moment arrival.datagram]
  | some .duplicated => [copy arrival.moment arrival.datagram, copy arrival.moment arrival.datagram]
  | some .delayed => [copy (arrival.moment + config.delay) arrival.datagram]
  | some .lost => []
  | some .unknownTransferId => [(arrival.moment, ⟨.throwaway, arrival.datagram, dest⟩)]
  | some .invalidOpcode =>
    [copy arrival.moment (Mutation.replaceOpcode arrival.opcode.val arrival.datagram)]
  | some .invalidPacketSize => [copy arrival.moment (Mutation.enlarge arrival.datagram)]
  | some .invalidBlockNumber => [copy arrival.moment (Mutation.decrementWord arrival.datagram)]
where
  /-- A copy from the socket of the direction. -/
  copy (moment : Nat) (bytes : Bytes) : Nat × Dispatch :=
    (moment, ⟨arrival.leg.socket, bytes, dest⟩)

end Incoming

/-- The rules that hit datagrams, which come one after the other: only the first rule that waits is
looked at, and it waits until a datagram comes that it is meant for. -/
def FaultRule.played : List FaultRule → List Bytes → List (Option FaultRule)
  | _, [] => []
  | [], _ :: datagrams => none :: played [] datagrams
  | rule :: rules, datagram :: datagrams =>
    if rule.isFor datagram then some rule :: played rules datagrams
    else none :: played (rule :: rules) datagrams

/-- What a relay has to send for the arrivals of a transfer, each under the rule that hits it and to
where it has to go by then. -/
def scripted (config : RelayConfig) (client server : Endpoint) (rules : List FaultRule)
    (arrivals : List Incoming) : List (Nat × Dispatch) :=
  (arrivals.zip (FaultRule.played rules (arrivals.map Incoming.datagram))).zipIdx.flatMap
    fun ((arrival, rule), place) =>
      arrival.deliveries config
        (arrival.leg.target client server (answering? server (arrivals.take place)))
        (rule.map FaultRule.mutation)

/-! ## A session at work -/

/-- A relay session at work. -/
structure Relaying where
  /-- The session. -/
  session : RelaySession
  /-- The rules that wait. -/
  script : FaultScript
  /-- What has been sent or is held, in the order in which it came, with the moment at which it is
  sent. -/
  sent : List (Nat × Dispatch) := []

namespace Relaying

/-- Goes on with what a session leaves after an event of a moment. -/
def follow (relaying : Relaying) (config : RelayConfig) (moment : Nat)
    (step : RelaySession.Step) : Relaying where
  session := step.session
  script := step.script
  sent := relaying.sent ++ (step.sends.map (moment, ·) ++ step.held.map (moment + config.delay, ·))

/-- Takes a datagram. -/
def take (config : RelayConfig) (relaying : Relaying) (arrival : Incoming) : Relaying :=
  relaying.follow config arrival.moment
    (relaying.session.arrive config relaying.script arrival.opcode arrival.leg.entrance
      arrival.datagram arrival.source)

/-- Takes datagrams one after the other. -/
def takeAll (config : RelayConfig) (relaying : Relaying) (arrivals : List Incoming) : Relaying :=
  arrivals.foldl (take config) relaying

/-- A session between a client and a server, before anything came. -/
def idle (client server : Endpoint) (script : FaultScript) : Relaying where
  session := { client, server }
  script := script

/-- A session that begins with a request of the client. -/
def launch (config : RelayConfig) (client server : Endpoint) (script : FaultScript)
    (moment : Nat) (opcode : UnusedOpcode) (request : Bytes) : Relaying :=
  (idle client server script).follow config moment
    (RelaySession.offer { client, server } config script opcode .toServer request)

/-- The request is the first arrival. -/
lemma launch_eq_take (config : RelayConfig) (client server : Endpoint) (script : FaultScript)
    (moment : Nat) (opcode : UnusedOpcode) (request : Bytes) :
    launch config client server script moment opcode request
      = (idle client server script).take config ⟨moment, .toServer, client, request, opcode⟩ := by
  simp only [launch, take, idle, RelaySession.arrive, Leg.entrance, if_true]

/-! ## One arrival -/

/-- What the session knows of the two ends does not depend on faults. -/
structure KeepsEnds (session session' : RelaySession) : Prop where
  client : session'.client = session.client
  server : session'.server = session.server
  serverTid : session'.serverTid = session.serverTid

lemma keepsEnds_noteForwarded (session : RelaySession) (datagram : Bytes) :
    KeepsEnds session (session.noteForwarded datagram) := by
  unfold RelaySession.noteForwarded
  split
  · exact ⟨rfl, rfl, rfl⟩
  · split_ifs <;> exact ⟨rfl, rfl, rfl⟩
  · split_ifs <;> exact ⟨rfl, rfl, rfl⟩
  · exact ⟨rfl, rfl, rfl⟩

variable {config : RelayConfig} {client server : Endpoint} {script : FaultScript}
  {relaying : Relaying} {arrival : Incoming} {arrivals front : List Incoming}

/-- A datagram that is offered to the script is sent as the rule says that it hits. -/
lemma offer_eq (session : RelaySession) (config : RelayConfig) (script : FaultScript)
    (arrival : Incoming) :
    let step := session.offer config script arrival.opcode arrival.leg arrival.datagram
    step.script = (script.take arrival.datagram).2 ∧ KeepsEnds session step.session ∧
      step.sends.map (arrival.moment, ·) ++ step.held.map (arrival.moment + config.delay, ·)
        = arrival.deliveries config (session.dest arrival.leg)
          ((script.take arrival.datagram).1.map FaultRule.mutation) := by
  dsimp only [RelaySession.offer]
  rcases script.take arrival.datagram with ⟨_ | ⟨kind, block, mutation⟩, left⟩
  · exact ⟨rfl, keepsEnds_noteForwarded _ _, rfl⟩
  · cases mutation
    case unknownTransferId => exact ⟨rfl, ⟨rfl, rfl, rfl⟩, rfl⟩
    case lost =>
      refine ⟨rfl, ?_, rfl⟩
      show KeepsEnds session (if config.endOnLoss then session.finish (.ok .lost) else session)
      split_ifs <;> exact ⟨rfl, rfl, rfl⟩
    all_goals exact ⟨rfl, keepsEnds_noteForwarded _ _, rfl⟩

/-- An arrival that a session relays. -/
def heeds (session : RelaySession) (arrival : Incoming) : Bool :=
  match arrival.leg with
  | .toServer => arrival.source = session.client
  | .toClient => session.isServer arrival.source

/-- The port that a session takes for that of the server when it has relayed an arrival. -/
def learns (session : RelaySession) (arrival : Incoming) : Option UInt16 :=
  match arrival.leg with
  | .toServer => session.serverTid
  | .toClient => some arrival.source.port

/-- What a session does not relay leaves it as it is. -/
lemma take_of_ignored (active : relaying.session.stage = .forwarding)
    (ignored : heeds relaying.session arrival = false) :
    relaying.take config arrival = relaying := by
  rcases arrival with ⟨moment, leg, source, datagram, opcode⟩
  cases leg with
  | toServer =>
    have ne : source ≠ relaying.session.client := by simpa [heeds] using ignored
    simp [take, follow, RelaySession.arrive, Leg.entrance, active, ne]
  | toClient =>
    have ne : relaying.session.isServer source = false := ignored
    simp [take, follow, RelaySession.arrive, Leg.entrance, active, ne]

/-- What a session relays is offered to the script. -/
lemma take_eq_offer (active : relaying.session.stage = .forwarding)
    (heeded : heeds relaying.session arrival = true) :
    relaying.take config arrival = relaying.follow config arrival.moment
      ({ relaying.session with serverTid := learns relaying.session arrival : RelaySession }.offer
        config relaying.script arrival.opcode arrival.leg arrival.datagram) := by
  rcases arrival with ⟨moment, leg, source, datagram, opcode⟩
  cases leg with
  | toServer =>
    obtain rfl : source = relaying.session.client := by simpa [heeds] using heeded
    exact congrArg (relaying.follow config moment)
      (RelaySession.arrive_of_client active config relaying.script opcode datagram)
  | toClient =>
    exact congrArg (relaying.follow config moment)
      (RelaySession.arrive_of_server active heeded config relaying.script opcode datagram)

lemma target_of_learns (session : RelaySession) (arrival : Incoming) :
    { session with serverTid := learns session arrival : RelaySession }.dest arrival.leg
      = arrival.leg.target session.client session.server session.serverTid := by
  rcases leg : arrival.leg
  · -- what goes to the server says nothing about its port
    simp only [RelaySession.dest, learns, leg, Leg.target]
    cases session.serverTid <;> rfl
  · rfl

/-- What is sent for an arrival is sent as its rule says. -/
lemma take_of_heeded (config : RelayConfig) (active : relaying.session.stage = .forwarding)
    (heeded : heeds relaying.session arrival = true) :
    let after := relaying.take config arrival
    after.session.client = relaying.session.client ∧
      after.session.server = relaying.session.server ∧
      after.session.serverTid = learns relaying.session arrival ∧
      after.script = (relaying.script.take arrival.datagram).2 ∧
      after.sent = relaying.sent ++ arrival.deliveries config
        (arrival.leg.target relaying.session.client relaying.session.server
          relaying.session.serverTid)
        ((relaying.script.take arrival.datagram).1.map FaultRule.mutation) := by
  obtain ⟨left, ends, sends⟩ := offer_eq
    { relaying.session with serverTid := learns relaying.session arrival } config relaying.script
    arrival
  rw [take_eq_offer active heeded, ← target_of_learns]
  refine ⟨ends.client, ends.server, ends.serverTid, left, ?_⟩
  rw [← sends]
  rfl

/-- A session that does not relay any more takes no notice of what comes. -/
lemma take_of_ended (ended : relaying.session.stage ≠ .forwarding) :
    relaying.take config arrival = relaying := by
  have quiet : relaying.session.arrive config relaying.script arrival.opcode arrival.leg.entrance
      arrival.datagram arrival.source
        = { session := relaying.session, script := relaying.script } := by
    unfold RelaySession.arrive
    split
    · next stage _ => exact absurd stage ended
    · next stage _ => exact absurd stage ended
    · next socket => cases leg : arrival.leg <;> rw [leg] at socket <;> cases socket
    · rfl
  simp [take, follow, quiet]

lemma takeAll_of_ended (ended : relaying.session.stage ≠ .forwarding) (arrivals : List Incoming) :
    relaying.takeAll config arrivals = relaying := by
  induction arrivals with
  | nil => rfl
  | cons arrival rest ih => rw [takeAll, List.foldl_cons, take_of_ended ended, ← takeAll, ih]

lemma takeAll_append (relaying : Relaying) (front back : List Incoming) :
    relaying.takeAll config (front ++ back) = (relaying.takeAll config front).takeAll config back :=
  List.foldl_append

lemma takeAll_concat (relaying : Relaying) (front : List Incoming) (arrival : Incoming) :
    relaying.takeAll config (front ++ [arrival])
      = (relaying.takeAll config front).take config arrival :=
  takeAll_append relaying front [arrival]

/-- A session that relays has relayed all along. -/
lemma active_of_append (front back : List Incoming)
    (active : (relaying.takeAll config (front ++ back)).session.stage = .forwarding) :
    (relaying.takeAll config front).session.stage = .forwarding := by
  by_contra ended
  rw [takeAll_append, takeAll_of_ended ended] at active
  exact ended active

end Relaying

/-! ## What belongs to the transfer -/

section Belonging

variable {client server : Endpoint} {front : List Incoming} {arrival : Incoming}

lemma answering?_concat (front : List Incoming) (arrival : Incoming) :
    answering? server (front ++ [arrival])
      = (answering? server front).or
          (if arrival.fromServer server then some arrival.source.port else none) := by
  rw [answering?, List.find?_append, Option.map_or, ← answering?]
  cases from' : arrival.fromServer server <;> simp [from']

/-- Once a server has answered, the port that it answers from is known for good. -/
lemma answering?_append {tid : UInt16} (known : answering? server front = some tid)
    (rest : List Incoming) : answering? server (front ++ rest) = some tid := by
  rw [answering?, List.find?_append, Option.map_or, ← answering?, known]
  rfl

/-- Before a server has answered, nothing came from its address. -/
lemma fromServer_of_answering?_eq_none (unknown : answering? server front = none) :
    ∀ earlier ∈ front, earlier.fromServer server = false := by
  simpa [answering?] using unknown

/-- The arrivals that belong to the transfer, when all are known. -/
def heard (client server : Endpoint) (arrivals : List Incoming) : List Incoming :=
  arrivals.filter (Incoming.belongs client server (answering? server arrivals))

/-- What came earlier belongs to the transfer, or not, whatever comes later. -/
lemma belongs_concat :
    ∀ earlier ∈ front, earlier.belongs client server (answering? server (front ++ [arrival]))
      = earlier.belongs client server (answering? server front) := by
  intro earlier member
  cases known : answering? server front with
  | some tid => rw [answering?_append known]
  | none =>
    have other := fromServer_of_answering?_eq_none known earlier member
    cases leg : earlier.leg with
    | toServer => simp [Incoming.belongs, leg]
    | toClient =>
      have away : earlier.source.address ≠ server.address := by
        simpa [Incoming.fromServer, leg] using other
      simp [Incoming.belongs, leg, away]

lemma heard_concat :
    heard client server (front ++ [arrival]) = heard client server front
      ++ [arrival].filter
        (Incoming.belongs client server (answering? server (front ++ [arrival]))) := by
  rw [heard, List.filter_append, List.filter_congr belongs_concat, ← heard]

/-- The first arrival from the address of the server belongs to the transfer. -/
lemma belongs_of_first (unknown : answering? server front = none)
    (first : arrival.fromServer server = true) :
    arrival.belongs client server (answering? server (front ++ [arrival])) = true := by
  have learnt : answering? server (front ++ [arrival]) = some arrival.source.port := by
    rw [answering?_concat, unknown, if_pos first]
    rfl
  simp only [Incoming.fromServer, Bool.and_eq_true, decide_eq_true_eq] at first
  simp [Incoming.belongs, learnt, first.1, first.2]

/-- The port that the server answers from is known from what belongs to the transfer. -/
lemma answering?_heard (arrivals : List Incoming) :
    answering? server (heard client server arrivals) = answering? server arrivals := by
  induction arrivals using List.reverseRecOn with
  | nil => rfl
  | append_singleton front arrival ih =>
    rw [heard_concat]
    cases known : answering? server front with
    | some tid => rw [answering?_append (ih.trans known), answering?_append known]
    | none =>
      cases first : arrival.fromServer server with
      | true =>
        rw [List.filter_cons_of_pos (belongs_of_first known first), List.filter_nil,
          answering?_concat, answering?_concat, ih]
      | false =>
        have nothing : answering? server (front ++ [arrival]) = none := by
          rw [answering?_concat, known, first]
          rfl
        by_cases mine : arrival.belongs client server (answering? server (front ++ [arrival]))
        · rw [List.filter_cons_of_pos mine, List.filter_nil, answering?_concat, ih,
            ← answering?_concat]
        · rw [List.filter_cons_of_neg mine, List.filter_nil, List.append_nil, ih, known, nothing]

end Belonging

/-! ## The rules that hit -/

lemma FaultRule.length_played (rules : List FaultRule) (datagrams : List Bytes) :
    (played rules datagrams).length = datagrams.length := by
  fun_induction played rules datagrams <;> simp_all

/-- The next datagram is hit by the first rule that is left, if that is meant for it. -/
lemma FaultRule.played_concat {rules left : List FaultRule} {datagrams : List Bytes}
    (used : rules = (played rules datagrams).reduceOption ++ left) (datagram : Bytes) :
    played rules (datagrams ++ [datagram])
      = played rules datagrams ++ [left.head?.filter (·.isFor datagram)] := by
  fun_induction played rules datagrams with
  | case1 rules =>
    obtain rfl : rules = left := used
    rcases rules with _ | ⟨rule, rest⟩
    · rfl
    · cases meant : rule.isFor datagram <;> simp [played, meant, Option.filter]
  | case2 first datagrams ih =>
    rw [List.cons_append, played, ih used]
    rfl
  | case3 rule rules first datagrams meant ih =>
    rw [List.reduceOption_cons_of_some, List.cons_append, List.cons.injEq] at used
    rw [List.cons_append, played, if_pos meant, ih used.2]
    rfl
  | case4 rule rules first datagrams other ih =>
    rw [List.reduceOption_cons_of_none] at used
    rw [List.cons_append, played, if_neg other, ih used]
    rfl

/-- One more arrival is sent under its rule and to where it has to go then. -/
lemma scripted_concat {config : RelayConfig} {client server : Endpoint} {rules : List FaultRule}
    {front : List Incoming} {arrival : Incoming} {rule : Option FaultRule}
    (hit : FaultRule.played rules ((front ++ [arrival]).map Incoming.datagram)
      = FaultRule.played rules (front.map Incoming.datagram) ++ [rule]) :
    scripted config client server rules (front ++ [arrival])
      = scripted config client server rules front ++
        arrival.deliveries config (arrival.leg.target client server (answering? server front))
          (rule.map FaultRule.mutation) := by
  have lengths : front.length = (FaultRule.played rules (front.map Incoming.datagram)).length := by
    rw [FaultRule.length_played, List.length_map]
  rw [scripted, hit, List.zip_append lengths, List.zipIdx_append, List.flatMap_append]
  congr 1
  · refine List.flatMap_congr fun ⟨⟨earlier, rule⟩, place⟩ member => ?_
    have within : place ≤ front.length := by
      have below := List.snd_lt_of_mem_zipIdx member
      rw [List.length_zip, ← lengths, Nat.min_self] at below
      omega
    simp only [List.take_append_of_le_length within]
  · simp [List.length_zip, ← lengths]

/-! ## A whole transfer -/

namespace Relaying

variable {config : RelayConfig} {client server : Endpoint} {script : FaultScript}
  {relaying : Relaying} {arrival : Incoming} {front : List Incoming}

/-- What a session has done when it has taken some arrivals. -/
structure Played (config : RelayConfig) (client server : Endpoint) (script : FaultScript)
    (arrivals : List Incoming) (relaying : Relaying) : Prop where
  client_eq : relaying.session.client = client
  server_eq : relaying.session.server = server
  serverTid : relaying.session.serverTid = answering? server arrivals
  sent : relaying.sent
    = scripted config client server script.rules (heard client server arrivals)
  rules : script.rules
    = (FaultRule.played script.rules
        ((heard client server arrivals).map Incoming.datagram)).reduceOption
      ++ relaying.script.rules

/-- A session relays what belongs to the transfer. -/
lemma Played.heeds_eq (played : Played config client server script front relaying)
    (arrival : Incoming) :
    heeds relaying.session arrival
      = arrival.belongs client server (answering? server (front ++ [arrival])) := by
  cases leg : arrival.leg with
  | toServer => simp only [heeds, Incoming.belongs, leg, played.client_eq]
  | toClient =>
    simp only [heeds, Incoming.belongs, leg, RelaySession.isServer, played.server_eq,
      played.serverTid]
    by_cases near : arrival.source.address = server.address
    · have first : arrival.fromServer server = true := by simp [Incoming.fromServer, leg, near]
      rw [answering?_concat, if_pos first]
      cases answering? server front <;> simp
    · simp [near]

/-- What does not belong to the transfer says nothing of the port of the server. -/
lemma answering?_concat_of_foreign
    (foreign : arrival.belongs client server (answering? server (front ++ [arrival])) = false) :
    answering? server (front ++ [arrival]) = answering? server front := by
  cases known : answering? server front with
  | some tid => exact answering?_append known _
  | none =>
    have other : arrival.fromServer server = false := by
      by_contra first
      rw [belongs_of_first known (by simpa using first)] at foreign
      cases foreign
    rw [answering?_concat, known, other]
    rfl

lemma Played.learns_eq (played : Played config client server script front relaying)
    (heeded : heeds relaying.session arrival = true) :
    learns relaying.session arrival = answering? server (front ++ [arrival]) := by
  have mine := heeded
  rw [played.heeds_eq] at mine
  cases leg : arrival.leg with
  | toServer =>
    have other : arrival.fromServer server = false := by simp [Incoming.fromServer, leg]
    rw [answering?_concat, other, learns, leg, played.serverTid]
    exact Option.or_none.symm
  | toClient =>
    simp only [Incoming.belongs, leg, Bool.and_eq_true, decide_eq_true_eq] at mine
    rw [learns, leg, mine.2]

/-- One more arrival, as long as the session relays. -/
lemma Played.concat (played : Played config client server script front relaying)
    (active : relaying.session.stage = .forwarding) (arrival : Incoming) :
    Played config client server script (front ++ [arrival]) (relaying.take config arrival) := by
  cases heeded : heeds relaying.session arrival with
  | false =>
    have foreign := heeded
    rw [played.heeds_eq] at foreign
    have same : heard client server (front ++ [arrival]) = heard client server front := by
      rw [heard_concat, List.filter_cons_of_neg (by simp [foreign]), List.filter_nil,
        List.append_nil]
    rw [take_of_ignored active heeded]
    refine ⟨played.client_eq, played.server_eq, ?_, ?_, ?_⟩
    · rw [answering?_concat_of_foreign foreign, played.serverTid]
    · rw [same, played.sent]
    · rw [same, ← played.rules]
  | true =>
    have mine := heeded
    rw [played.heeds_eq] at mine
    have more : heard client server (front ++ [arrival])
        = heard client server front ++ [arrival] := by
      rw [heard_concat, List.filter_cons_of_pos mine, List.filter_nil]
    obtain ⟨client', server', tid, left, sends⟩ := take_of_heeded config active heeded
    obtain ⟨hit, used⟩ := relaying.script.take_spec arrival.datagram
    have goesOn : FaultRule.played script.rules
        ((heard client server front ++ [arrival]).map Incoming.datagram)
          = FaultRule.played script.rules ((heard client server front).map Incoming.datagram)
            ++ [(relaying.script.take arrival.datagram).1] := by
      rw [List.map_append, hit]
      exact FaultRule.played_concat played.rules arrival.datagram
    refine ⟨client'.trans played.client_eq, server'.trans played.server_eq, ?_, ?_, ?_⟩
    · rw [tid, played.learns_eq heeded]
    · rw [more, scripted_concat goesOn, answering?_heard, sends, played.sent, played.client_eq,
        played.server_eq, played.serverTid]
    · have single (rule : Option FaultRule) : [rule].reduceOption = rule.toList := by
        cases rule <;> rfl
      rw [more, goesOn, List.reduceOption_append, List.append_assoc, left, single, ← used]
      exact played.rules

lemma played_idle : Played config client server script [] (idle client server script) :=
  ⟨rfl, rfl, rfl, rfl, rfl⟩

/-- What a session has done that still relays. -/
lemma played_of_active (arrivals : List Incoming)
    (active : ((idle client server script).takeAll config arrivals).session.stage = .forwarding) :
    Played config client server script arrivals
      ((idle client server script).takeAll config arrivals) := by
  induction arrivals using List.reverseRecOn with
  | nil => exact played_idle
  | append_singleton front arrival ih =>
    have relayed := active_of_append front [arrival] active
    rw [takeAll_concat]
    exact (ih relayed).concat relayed arrival

/-- What does not belong to the transfer might as well not have come. -/
lemma takeAll_heard (arrivals : List Incoming) :
    (idle client server script).takeAll config (heard client server arrivals)
      = (idle client server script).takeAll config arrivals := by
  induction arrivals using List.reverseRecOn with
  | nil => rfl
  | append_singleton front arrival ih =>
    rw [heard_concat, takeAll_concat, List.filter_singleton]
    by_cases active :
        ((idle client server script).takeAll config front).session.stage = .forwarding
    · have heeds := (played_of_active front active).heeds_eq arrival
      cases mine : arrival.belongs client server (answering? server (front ++ [arrival])) with
      | true => rw [cond_true, takeAll_concat, ih]
      | false =>
        rw [mine] at heeds
        rw [cond_false, List.append_nil, ih, take_of_ignored active heeds]
    · rw [take_of_ended active]
      cases arrival.belongs client server (answering? server (front ++ [arrival])) with
      | true => rw [cond_true, takeAll_concat, ih, take_of_ended active]
      | false => rw [cond_false, List.append_nil, ih]

/-- A relay session plays its script.  After the request of the client come the datagrams of `rest`,
and the session still relays when the last of them comes.  What does not belong to the transfer
changes nothing at all; the port of the server is the one that it first answered from, for good; and
what is sent is what belongs to the transfer, each datagram under the rule that it uses up, if it
uses one up, and to where it had to go when it came. -/
theorem launch_plays_script (config : RelayConfig) (client server : Endpoint)
    (script : FaultScript) (moment : Nat) (opcode : UnusedOpcode) (request : Bytes)
    (rest : List Incoming)
    (lasting : ∀ front last, front ++ [last] = rest →
      ((launch config client server script moment opcode request).takeAll config
        front).session.stage = .forwarding) :
    let run := (launch config client server script moment opcode request).takeAll config
    let mine := ⟨moment, .toServer, client, request, opcode⟩ :: heard client server rest
    (∀ front foreign, front ++ [foreign] <+: rest →
      foreign.belongs client server (answering? server (front ++ [foreign])) = false →
        run (front ++ [foreign]) = run front) ∧
      run (heard client server rest) = run rest ∧
      (∀ front, front <+: rest → (run front).session.serverTid = answering? server front) ∧
      (∀ front tid, front <+: rest → (run front).session.serverTid = some tid →
        (run rest).session.serverTid = some tid) ∧
      (run rest).sent = scripted config client server script.rules mine ∧
      script.rules
        = (FaultRule.played script.rules (mine.map Incoming.datagram)).reduceOption
          ++ (run rest).script.rules := by
  intro run mine
  let first : Incoming := ⟨moment, .toServer, client, request, opcode⟩
  have begun (arrivals : List Incoming) :
      run arrivals = (idle client server script).takeAll config (first :: arrivals) := by
    simp only [run, launch_eq_take]
    rfl
  have ours (arrivals : List Incoming) :
      heard client server (first :: arrivals) = first :: heard client server arrivals :=
    List.filter_cons_of_pos (decide_eq_true rfl)
  have active (front : List Incoming) (last : Incoming) (part : front ++ [last] <+: rest) :
      (run front).session.stage = .forwarding := by
    obtain ⟨back, split⟩ := part
    rcases back.eq_nil_or_concat with rfl | ⟨middle, final, rfl⟩
    · exact lasting front last (by rw [← split, List.append_nil])
    · refine active_of_append front (last :: middle) (lasting (front ++ last :: middle) final ?_)
      rw [← split]
      simp
  have played (front : List Incoming) (part : front <+: rest) :
      Played config client server script (first :: front) (run front) := by
    rw [begun]
    rcases front.eq_nil_or_concat with rfl | ⟨earlier, last, rfl⟩
    · exact played_idle.concat rfl first
    · rw [List.concat_eq_append] at part ⊢
      have relays := active earlier last part
      rw [begun] at relays
      rw [← List.cons_append, takeAll_concat]
      exact (played_of_active _ relays).concat relays last
  have whole := played rest List.prefix_rfl
  refine ⟨fun front foreign part away => ?_, ?_, fun front part => (played front part).serverTid,
    fun front tid part known => ?_, ?_, ?_⟩
  · have past := played front ((List.prefix_append front [foreign]).trans part)
    have ignored : heeds (run front).session foreign = false := (past.heeds_eq foreign).trans away
    exact (takeAll_concat ..).trans (take_of_ignored (active front foreign part) ignored)
  · rw [begun, begun, ← ours, takeAll_heard]
  · obtain ⟨back, rfl⟩ := part
    rw [(played front (List.prefix_append ..)).serverTid] at known
    rw [whole.serverTid]
    change answering? server (first :: front ++ back) = some tid
    exact answering?_append known back
  · rw [whole.sent, ours]
  · have rules := whole.rules
    rw [ours] at rules
    exact rules

/-- A block is doubled on its way to the client and the acknowledgment of it is lost; a stranger and
another port of the server are not listened to. -/
theorem launch_plays_double_then_loss :
    let port (number : UInt16) : Endpoint := { address := .loopback, port := number }
    let rest : List Incoming :=
      [⟨1, .toServer, port 999, [0, 4, 0, 1], ⟨6, by decide⟩⟩,
        ⟨2, .toClient, port 2000, [0, 3, 0, 1, 65], ⟨6, by decide⟩⟩,
        ⟨3, .toClient, port 2001, [0, 3, 0, 1, 66], ⟨6, by decide⟩⟩,
        ⟨4, .toServer, port 1000, [0, 4, 0, 1], ⟨6, by decide⟩⟩]
    let after := (launch {} (port 1000) (port 69)
      ⟨[⟨.data, 1, .duplicated⟩, ⟨.ack, 1, .lost⟩, ⟨.ack, 2, .lost⟩]⟩ 0 ⟨6, by decide⟩
      (Packet.encodeRequest 1 "f" octetMode)).takeAll {} rest
    after.session.serverTid = some 2000 ∧
      after.sent = [(0, ⟨.serverSide, Packet.encodeRequest 1 "f" octetMode, port 69⟩),
        (2, ⟨.clientSide, [0, 3, 0, 1, 65], port 1000⟩),
        (2, ⟨.clientSide, [0, 3, 0, 1, 65], port 1000⟩)] ∧
      after.script.rules = [⟨.ack, 2, .lost⟩] := by
  intro port rest after
  obtain ⟨-, -, tid, -, sent, rules⟩ :=
    launch_plays_script {} (port 1000) (port 69)
      ⟨[⟨.data, 1, .duplicated⟩, ⟨.ack, 1, .lost⟩, ⟨.ack, 2, .lost⟩]⟩ 0 ⟨6, by decide⟩
      (Packet.encodeRequest 1 "f" octetMode) rest (by
        intro front last whole
        obtain rfl : rest.dropLast = front := by rw [← whole, List.dropLast_concat]
        rfl)
  refine ⟨(tid rest List.prefix_rfl).trans (by decide +kernel), sent.trans (by decide +kernel), ?_⟩
  exact (List.append_cancel_left (rules.symm.trans (by decide +kernel)))

end Relaying

end Lockstep
