import Dfis.Network.Step
import Dfis.Server.Decode

/-! What holds of a network at any time: commands keep their ids, and every
reply on its way to a client was computed by an execution of its request. -/

namespace Dfis

open Base Wire Machine

variable {srpc : Srpc} {semantic : InvocationSemantic} {flightsInput : Table Int32 Flight}

/-- The executions of the server so far. -/
def Network.log (semantic : InvocationSemantic) (flightsInput : Table Int32 Flight)
    (network : Network srpc) : List Execution :=
  executions srpc semantic flightsInput network.deliveries

/-- A reply is the answer of an execution. -/
def Sent.Computed (log : List Execution) : Sent → Prop
  | .reply answer => ∃ execution ∈ log, execution.answer = answer
  | .callback _ => True

theorem Sent.Computed.mono {log more : List Execution} {sent : Sent} (computed : sent.Computed log)
    (grows : log ⊆ more) : sent.Computed more := by
  cases sent with
  | reply answer =>
    obtain ⟨execution, member, same⟩ := computed
    exact ⟨execution, grows member, same⟩
  | callback req => trivial

/-- The invariant of the network. -/
structure Network.Sound (semantic : InvocationSemantic) (flightsInput : Table Int32 Flight)
    (network : Network srpc) : Prop where
  server : network.server.initialise flightsInput =
    reached srpc semantic flightsInput network.deliveries
  distinct : (network.issued.map Command.id).Nodup
  calling : ∀ address exchange, (network.clients address).exchange = some exchange →
    exchange.command ∈ network.issued
  requested : ∀ datagram ∈ network.requests, datagram.value ∈ network.issued
  delivered : ∀ delivery ∈ network.deliveries, ∀ call,
    delivery.received? srpc = some call → call.command ∈ network.issued
  responded : ∀ datagram ∈ network.responses,
    datagram.value.Computed (network.log semantic flightsInput)
  queued : ∀ address, ∀ datagram ∈ (network.clients address).queue,
    datagram.value.Computed (network.log semantic flightsInput)

section Server

variable {deliveries : List Delivery} {delivery : Delivery} {call : Call}

/-- Where kind and id tell requests apart, a reply is the answer of an execution of its request. -/
theorem answer_computed (received : delivery.received? srpc = some call)
    (apart : ∀ earlier ∈ deliveries, ∀ other, earlier.received? srpc = some other →
      other.key = call.key → other.command = call.command)
    (replied : (serve srpc semantic flightsInput (reached srpc semantic flightsInput deliveries)
      delivery).2.answer = some answer) :
    ∃ execution ∈ executions srpc semantic flightsInput (deliveries ++ [delivery]),
      execution.answer = answer := by
  by_cases fresh : semantic = .atMostOnce →
      (reached srpc semantic flightsInput deliveries).remembered call.key = none
  · rw [serve_fresh received fresh, reached_seen] at replied
    rw [executions_executed received fresh]
    cases lost : delivery.resLost with
    | true => simp [lost] at replied
    | false =>
      simp only [lost, Bool.false_eq_true, if_false, Option.some.injEq] at replied
      exact ⟨_, List.mem_append_right _ (List.mem_singleton_self _), replied⟩
  · obtain ⟨rfl, known⟩ := Classical.not_imp.mp fresh
    obtain ⟨found, remembered⟩ := Option.ne_none_iff_exists'.mp known
    obtain ⟨saved, recorded, rfl⟩ := State.remembered_some remembered
    have suppresses := serve_suppresses srpc flightsInput
    obtain ⟨earlier, first, isFirst, same, computed⟩ :=
      suppresses.origin (State.start_remembered flightsInput) deliveries remembered
    have logged := suppresses.first_executed (State.start_remembered flightsInput) isFirst
    obtain ⟨own, read, isPrefix⟩ := isFirst.carried
    have command : (⟨call.kind, saved.1⟩ : Command) = ⟨call.kind, call.request⟩ :=
      (congrArg Answer.command computed).trans
        (apart own (isPrefix.subset (by simp)) first read same)
    have request : saved.1 = call.request := eq_of_heq (Command.mk.inj command).2
    rw [serve_repeated received recorded] at replied
    cases lost : delivery.resLost with
    | true => simp [lost] at replied
    | false =>
      simp only [lost, Bool.false_eq_true, if_false, Option.some.injEq] at replied
      rw [executions_snoc]
      refine ⟨_, List.mem_append_left _ logged, computed.symm.trans ?_⟩
      rw [request]
      exact replied

theorem received_command (lawful : srpc.RoundTrips) (sound : srpc.Sound) (counts : srpc.CountsStrings)
    {datagram : Datagram (Command.marshal srpc)} (carries : delivery.reqData = .ok datagram.data)
    (received : delivery.received? srpc = some call) : call.command = datagram.value := by
  have decoded := decode_marshal lawful sound counts datagram.value.request datagram.encoded
  unfold Delivery.received? at received
  split at received
  · cases received
  · simp only [Delivery.call?, carries, decoded, Option.map_some, Option.some.injEq] at received
    subst received
    rfl

theorem answer_received
    (replied : (serve srpc semantic flightsInput (reached srpc semantic flightsInput deliveries)
      delivery).2.answer = some answer) :
    ∃ call, delivery.received? srpc = some call := by
  cases received : delivery.received? srpc with
  | none =>
    rw [serve_ignored received] at replied
    cases replied
  | some call => exact ⟨call, rfl⟩

theorem log_grows :
    executions srpc semantic flightsInput deliveries ⊆
      executions srpc semantic flightsInput (deliveries ++ [delivery]) := by
  rw [executions_snoc]
  exact List.subset_append_left _ _

end Server

namespace Network.Sound

variable {network : Network srpc}

theorem start : Network.Sound semantic flightsInput (.start srpc) where
  server := rfl
  distinct := List.nodup_nil
  calling address exchange calling := by cases calling
  requested datagram member := by cases member
  delivered delivery member := by cases member
  responded datagram member := by cases member
  queued address datagram member := by cases member

theorem same_command (sound : network.Sound semantic flightsInput) {first second : Command}
    (known : first ∈ network.issued) (known' : second ∈ network.issued)
    (same : first.id = second.id) : first = second :=
  List.inj_on_of_nodup_map sound.distinct known known' same

theorem computed_issued (sound : network.Sound semantic flightsInput) {answer : Answer}
    (computed : (Sent.reply answer).Computed (network.log semantic flightsInput)) :
    answer.command ∈ network.issued := by
  obtain ⟨execution, member, rfl⟩ := computed
  obtain ⟨delivery, listed, call, store, received, rfl⟩ :=
    executions_received srpc semantic flightsInput network.deliveries execution member
  exact sound.delivered delivery listed call received

theorem setClient (sound : network.Sound semantic flightsInput) {address : SocketAddress}
    {client : Client srpc}
    (calling : ∀ exchange, client.exchange = some exchange → exchange.command ∈ network.issued)
    (queued : ∀ datagram ∈ client.queue,
      datagram.value.Computed (network.log semantic flightsInput)) :
    (network.setClient address client).Sound semantic flightsInput where
  server := sound.server
  distinct := sound.distinct
  calling other exchange active := by
    by_cases own : other = address
    · subst own
      rw [Network.setClient_self] at active
      exact calling exchange active
    · rw [Network.setClient_other _ own] at active
      exact sound.calling other exchange active
  requested := sound.requested
  delivered := sound.delivered
  responded := sound.responded
  queued other datagram member := by
    by_cases own : other = address
    · subst own
      rw [Network.setClient_self] at member
      exact queued datagram member
    · rw [Network.setClient_other _ own] at member
      exact sound.queued other datagram member

theorem issue (sound : network.Sound semantic flightsInput) {command : Command}
    (fresh : command.id ∉ network.issued.map Command.id) (address : SocketAddress) :
    (network.issue address command).Sound semantic flightsInput := by
  have issued : ({ network with issued := network.issued ++ [command] } :
      Network srpc).Sound semantic flightsInput :=
    { sound with
      distinct := by
        rw [List.map_append]
        exact sound.distinct.append (List.nodup_singleton _) (by simpa using fresh)
      calling := fun other exchange active =>
        List.mem_append_left _ (sound.calling other exchange active)
      requested := fun datagram member => List.mem_append_left _ (sound.requested datagram member)
      delivered := fun delivery member call received =>
        List.mem_append_left _ (sound.delivered delivery member call received) }
  refine issued.setClient ?_ (sound.queued address)
  intro exchange active
  cases active
  exact List.mem_append_right _ (List.mem_singleton_self command)

theorem send (sound : network.Sound semantic flightsInput) {address : SocketAddress}
    {exchange : Exchange} (calling : (network.clients address).exchange = some exchange) :
    (network.send address exchange).Sound semantic flightsInput := by
  have known := sound.calling address exchange calling
  have requested : ({ network with
      requests := network.requests ++
        (Datagram.of? (Command.marshal srpc) address exchange.command).toList } :
      Network srpc).Sound semantic flightsInput :=
    { sound with
      requested := fun datagram member => by
        rcases List.mem_append.mp member with old | new
        · exact sound.requested datagram old
        · rw [(Datagram.of?_value (Option.mem_toList.mp new)).2]
          exact known }
  refine requested.setClient ?_ (sound.queued address)
  intro next active
  cases active
  exact known

theorem timeout (sound : network.Sound semantic flightsInput) {address : SocketAddress}
    {exchange : Exchange} (calling : (network.clients address).exchange = some exchange) :
    (network.timeout address exchange).Sound semantic flightsInput := by
  refine sound.setClient ?_ (sound.queued address)
  intro next retried
  rw [Exchange.retry_command retried]
  exact sound.calling address exchange calling

theorem pending_command (sound : network.Sound semantic flightsInput) {address : SocketAddress}
    (waiting : network.pending address = some (command, datagram, queue)) :
    command ∈ network.issued := by
  unfold Network.pending at waiting
  split at waiting
  · rename_i calling _
    cases waiting
    exact sound.calling address _ calling
  · cases waiting

theorem receive (sound : network.Sound semantic flightsInput) {address : SocketAddress}
    (waiting : network.pending address = some (command, datagram, queue)) :
    (network.receive address command datagram queue).Sound semantic flightsInput := by
  have left : (network.setClient address ⟨none, queue⟩).Sound semantic flightsInput := by
    refine sound.setClient (fun exchange idle => by cases idle) fun behind member => ?_
    refine sound.queued address behind ?_
    rw [Network.pending_queue waiting]
    exact List.mem_cons_of_mem _ member
  exact { left with }

theorem serve_reached (sound : network.Sound semantic flightsInput) (delivery : Delivery) :
    Dfis.serve srpc semantic flightsInput network.server delivery =
      Dfis.serve srpc semantic flightsInput
        (reached srpc semantic flightsInput network.deliveries) delivery := by
  rw [← sound.server, serve_initialise]

theorem serve (lawful : srpc.RoundTrips) (strict : srpc.Sound) (counts : srpc.CountsStrings)
    (sound : network.Sound semantic flightsInput) {delivery : Delivery}
    (requested : ∀ data, delivery.reqData = .ok data →
      ∃ datagram ∈ network.requests, datagram.data = data) :
    (network.serve semantic flightsInput delivery).Sound semantic flightsInput := by
  have same := sound.serve_reached delivery
  have issued : ∀ call, delivery.received? srpc = some call → call.command ∈ network.issued := by
    intro call received
    cases data : delivery.reqData with
    | error message => simp [Delivery.received?, Delivery.call?, data] at received
    | ok reqData =>
      obtain ⟨datagram, member, rfl⟩ := requested reqData data
      rw [received_command lawful strict counts data received]
      exact sound.requested datagram member
  constructor
  case server =>
    change (Dfis.serve srpc semantic flightsInput network.server delivery).1.initialise _ =
      reached srpc semantic flightsInput (network.deliveries ++ [delivery])
    rw [same, ← reached_snoc, reached_initialise]
  case distinct => exact sound.distinct
  case calling => exact sound.calling
  case requested => exact sound.requested
  case delivered =>
    intro earlier member call received
    rcases List.mem_append.mp member with old | new
    · exact sound.delivered earlier old call received
    · obtain rfl := List.mem_singleton.mp new
      exact issued call received
  case responded =>
    intro datagram member
    rw [Network.serve_responses, same] at member
    rcases List.mem_append.mp member with old | new
    · exact (sound.responded datagram old).mono log_grows
    · obtain ⟨answer, replied, made⟩ := Option.bind_eq_some_iff.mp (Option.mem_toList.mp new)
      rw [(Datagram.of?_value made).2]
      obtain ⟨call, received⟩ := answer_received replied
      refine answer_computed received ?_ replied
      intro earlier listed other heard keys
      refine sound.same_command (sound.delivered earlier listed other heard) (issued call received) ?_
      exact congrArg Prod.snd keys
  case queued =>
    intro address datagram member
    exact (sound.queued address datagram member).mono log_grows

theorem callback (sound : network.Sound semantic flightsInput) (launch : Launch) (id : UInt64) :
    (network.callback launch id).Sound semantic flightsInput :=
  { sound with
    responded := fun datagram member => by
      rcases List.mem_append.mp member with old | new
      · exact sound.responded datagram old
      · rw [(Datagram.of?_value (Option.mem_toList.mp new)).2]
        trivial }

theorem arrive (sound : network.Sound semantic flightsInput) {datagram : Datagram (Sent.marshal srpc)}
    (sent : datagram ∈ network.responses) :
    (network.arrive datagram).Sound semantic flightsInput := by
  refine sound.setClient (sound.calling datagram.client) fun queued member => ?_
  rcases List.mem_append.mp member with old | new
  · exact sound.queued datagram.client queued old
  · obtain rfl := List.mem_singleton.mp new
    exact sound.responded queued sent

theorem step (lawful : srpc.RoundTrips) (strict : srpc.Sound) (counts : srpc.CountsStrings)
    (sound : network.Sound semantic flightsInput) (event : Event) :
    (network.step semantic flightsInput event).Sound semantic flightsInput := by
  have stepped := step_stepped semantic flightsInput network event
  generalize network.step semantic flightsInput event = next at stepped ⊢
  cases stepped with
  | still quiet => exact sound
  | issue fresh => exact sound.issue (by simpa [Command.id] using fresh) _
  | send calling => exact sound.send calling
  | timeout calling => exact sound.timeout calling
  | receive waiting => exact sound.receive waiting
  | serve delivery calls requested => exact sound.serve lawful strict counts requested
  | callback launch => exact sound.callback launch _
  | arrive sent => exact sound.arrive sent

end Network.Sound

end Dfis
