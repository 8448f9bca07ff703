import Dfis.System.Views
import Mathlib.Data.List.Perm.Subperm

/-! Where everything in the system comes from: every request executed was typed
at the console of the client it came from, in the order in which it was typed. -/

namespace Dfis

open Base Wire Machine

variable {srpc : Srpc} {semantic : InvocationSemantic} {flightsInput : Table Int32 Flight}

/-- What a client waits for, what it has sent and what has been delivered of it, it has issued. -/
structure Network.Owned (issuedBy : List (SocketAddress × Command)) (network : Network srpc) :
    Prop where
  calling : ∀ address exchange, (network.clients address).exchange = some exchange →
    (address, exchange.command) ∈ issuedBy
  requested : ∀ datagram ∈ network.requests, (datagram.client, datagram.value) ∈ issuedBy
  delivered : ∀ delivery ∈ network.deliveries, ∀ call, delivery.received? srpc = some call →
    (call.fromAddr, call.command) ∈ issuedBy

namespace Network.Owned

variable {network : Network srpc} {issuedBy : List (SocketAddress × Command)}

theorem start : Network.Owned [] (.start srpc) where
  calling address exchange active := by cases active
  requested datagram member := by cases member
  delivered delivery member := by cases member

theorem mono (owned : network.Owned issuedBy) (more : List (SocketAddress × Command)) :
    network.Owned (issuedBy ++ more) where
  calling address exchange active := List.mem_append_left _ (owned.calling address exchange active)
  requested datagram member := List.mem_append_left _ (owned.requested datagram member)
  delivered delivery member call received :=
    List.mem_append_left _ (owned.delivered delivery member call received)

theorem pending (owned : network.Owned issuedBy) {address : SocketAddress} {command : Command}
    {datagram : Datagram (Sent.marshal srpc)} {queue : List (Datagram (Sent.marshal srpc))}
    (waiting : network.pending address = some (command, datagram, queue)) :
    (address, command) ∈ issuedBy := by
  unfold Network.pending at waiting
  split at waiting
  · rename_i active _
    cases waiting
    exact owned.calling address _ active
  · cases waiting

theorem setClient (owned : network.Owned issuedBy) {address : SocketAddress} {client : Client srpc}
    (calling : ∀ exchange, client.exchange = some exchange → (address, exchange.command) ∈ issuedBy) :
    (network.setClient address client).Owned issuedBy :=
  { owned with
    calling := fun other exchange active => by
      by_cases own : other = address
      · subst own
        rw [Network.setClient_self] at active
        exact calling exchange active
      · rw [Network.setClient_other _ own] at active
        exact owned.calling other exchange active }

theorem issue (owned : network.Owned issuedBy) (address : SocketAddress) (command : Command) :
    (network.issue address command).Owned (issuedBy ++ [(address, command)]) := by
  have issued : ({ network with issued := network.issued ++ [command] } :
      Network srpc).Owned (issuedBy ++ [(address, command)]) := { owned.mono _ with }
  refine issued.setClient ?_
  rintro exchange ⟨⟩
  exact List.mem_append_right _ (List.mem_singleton_self _)

theorem send (owned : network.Owned issuedBy) {address : SocketAddress} {exchange : Exchange}
    (active : (network.clients address).exchange = some exchange) :
    (network.send address exchange).Owned issuedBy := by
  have own := owned.calling address exchange active
  have sent : ({ network with
      requests := network.requests ++
        (Datagram.of? (Command.marshal srpc) address exchange.command).toList } :
      Network srpc).Owned issuedBy :=
    { owned with
      requested := fun datagram member => by
        rcases List.mem_append.mp member with old | new
        · exact owned.requested datagram old
        · obtain ⟨client, value⟩ := Datagram.of?_value (Option.mem_toList.mp new)
          rw [client, value]
          exact own }
  refine sent.setClient ?_
  rintro next ⟨⟩
  exact own

theorem serve (owned : network.Owned issuedBy) {delivery : Delivery}
    (own : ∀ call, delivery.received? srpc = some call → (call.fromAddr, call.command) ∈ issuedBy) :
    (network.serve semantic flightsInput delivery).Owned issuedBy :=
  { owned with
    delivered := fun other member call received => by
      rcases List.mem_append.mp member with old | new
      · exact owned.delivered other old call received
      · obtain rfl := List.mem_singleton.mp new
        exact own call received }

theorem received_fromAddr {delivery : Delivery} {call : Call}
    (received : delivery.received? srpc = some call) : call.fromAddr = delivery.fromAddr := by
  unfold Delivery.received? at received
  split at received
  · cases received
  · unfold Delivery.call? at received
    split at received
    · cases received
    · obtain ⟨request, -, rfl⟩ := Option.map_eq_some_iff.mp received
      rfl

/-- Only issuing a command makes another client own one. -/
theorem step (lawful : srpc.RoundTrips) (strict : srpc.Sound) (counts : srpc.CountsStrings)
    (owned : network.Owned issuedBy) {event : Event}
    (noIssue : ∀ address kind req id, event ≠ .issue address kind req id) :
    (network.step semantic flightsInput event).Owned issuedBy := by
  cases event with
  | issue address kind req id => exact absurd rfl (noIssue address kind req id)
  | send address =>
    simp only [Network.step]
    split
    · rename_i active
      exact owned.send active
    · exact owned
  | timeout address =>
    simp only [Network.step]
    split
    · rename_i active
      refine owned.setClient fun next retried => ?_
      rw [Exchange.retry_command retried]
      exact owned.calling address _ active
    · exact owned
  | receive address =>
    simp only [Network.step]
    split
    · refine { owned.setClient ?_ with }
      rintro exchange ⟨⟩
    · exact owned
  | serve position now reqLost resLost =>
    simp only [Network.step]
    split
    · rename_i datagram found
      refine owned.serve fun call received => ?_
      rw [received_fromAddr received, received_command lawful strict counts rfl received]
      exact owned.requested datagram (List.mem_of_getElem? found)
    · exact owned
  | fail fromAddr message now =>
    simp only [Network.step]
    exact owned.serve fun call received => by simp [Delivery.received?, Delivery.call?] at received
  | callback position id =>
    simp only [Network.step]
    split
    · exact { owned with }
    · exact owned
  | arrive position =>
    simp only [Network.step]
    split
    · exact owned.setClient fun exchange active => owned.calling _ exchange active
    · exact owned

end Network.Owned

/-- The command was issued for the request typed. -/
def Issues (typed command : Command) : Prop := ∃ id, command = System.identified typed id

/-- The commands of a client are the requests typed so far. It goes on with the
lines it has left, and has exited only if there is no request on them. -/
def Main.Follows (setting : Setting) (address : SocketAddress) (issued : List Command) (main : Main) :
    Prop :=
  ∃ typed left, requestsOf setting.unset (setting.stdin address) = typed ++ left ∧
    (if main.stage = .exited then left = []
    else left = session setting.unset main.firstLaunch main.lines.length main.lines) ∧
    List.Forall₂ Issues typed issued

namespace Main.Follows

variable {setting : Setting} {address : SocketAddress} {issued : List Command} {main : Main}

theorem start (setting : Setting) (address : SocketAddress) :
    Main.Follows setting address [] ⟨.menu, Input.getlines (setting.stdin address), true⟩ :=
  ⟨[], _, rfl, rfl, .nil⟩

theorem stage (follows : main.Follows setting address issued) (here : main.stage ≠ .exited)
    {stage : Stage} (running : stage ≠ .exited) :
    Main.Follows setting address issued { main with stage := stage } := by
  obtain ⟨typed, left, same, session, issues⟩ := follows
  rw [if_neg here] at session
  exact ⟨typed, left, same, (if_neg running).mpr session, issues⟩

theorem exits (follows : main.Follows setting address issued) (menu : main.stage = .menu)
    {rest : List Text} {written : Text}
    (next : nextRequest setting.unset main.firstLaunch main.lines = (none, rest, written)) :
    Main.Follows setting address issued ⟨.exited, rest, false⟩ := by
  obtain ⟨typed, left, same, session, issues⟩ := follows
  rw [if_neg (by simp [menu]), session_last next] at session
  exact ⟨typed, left, same, session, issues⟩

theorem issue (follows : main.Follows setting address issued) (menu : main.stage = .menu)
    {typed : Command} {rest : List Text} {written : Text}
    (next : nextRequest setting.unset main.firstLaunch main.lines = (some typed, rest, written))
    (id : UInt64) :
    Main.Follows setting address (issued ++ [System.identified typed id]) ⟨.menu, rest, false⟩ := by
  obtain ⟨before, left, same, session, issues⟩ := follows
  rw [if_neg (by simp [menu]), session_next next] at session
  refine ⟨before ++ [typed], _, ?_, rfl, ?_⟩
  · rw [same, session]
    simp
  · exact List.rel_append issues (.cons ⟨id, rfl⟩ .nil)

end Main.Follows

namespace System

/-- A request typed becomes a call of the client, under an id that no other request has. -/
theorem issue_network {system : System srpc} {setting : Setting} {address : SocketAddress}
    {typed : Command} {id : UInt64} {rest : List Text}
    (idle : (system.network.clients address).exchange.isNone = true)
    (fresh : id ∉ system.network.issued.map Command.id) :
    (system.issue setting address typed id rest).network =
      system.network.issue address (identified typed id) :=
  if_pos ⟨idle, fresh⟩

/-- The commands a client has issued. -/
def issuedAt (system : System srpc) (address : SocketAddress) : List Command :=
  (system.issuedBy.filter fun entry => entry.1 = address).map Prod.snd

theorem mem_issuedAt {system : System srpc} {address : SocketAddress} {command : Command} :
    command ∈ system.issuedAt address ↔ (address, command) ∈ system.issuedBy := by
  simp [issuedAt]

/-- The command is issued for a request that is typed at the console of this client. -/
def Requested (setting : Setting) (address : SocketAddress) (command : Command) : Prop :=
  ∃ typed ∈ requestsOf setting.unset (setting.stdin address), Issues typed command

/-- Every client issues what is typed at its console, and nothing else is ever executed. -/
structure Typed (setting : Setting) (system : System srpc) : Prop where
  owned : system.network.Owned system.issuedBy
  follows : ∀ address, (system.mains address).Follows setting address (system.issuedAt address)

namespace Typed

variable {setting : Setting} {system : System srpc}

theorem start : Typed setting (.start srpc setting) where
  owned := .start
  follows address := .start setting address

theorem setMain (typed : system.Typed setting) {address : SocketAddress} {main : Main}
    (follows : main.Follows setting address (system.issuedAt address)) :
    (system.setMain address main).Typed setting where
  owned := typed.owned
  follows other := by
    by_cases own : other = address
    · subst own
      simp only [System.setMain, Function.update_self]
      exact follows
    · simp only [System.setMain, Function.update_of_ne own]
      exact typed.follows other

theorem onNetwork (typed : system.Typed setting) (event : Dfis.Event)
    (owned : (system.network.step setting.semantic setting.flightsInput event).Owned
      system.issuedBy) : (system.onNetwork setting event).Typed setting where
  owned := owned
  follows := typed.follows

theorem onCallbacks (typed : system.Typed setting) (event : Callbacks.Event) :
    (system.onCallbacks setting event).Typed setting where
  owned := typed.owned
  follows := typed.follows

theorem issue (typed : system.Typed setting) {address : SocketAddress} {request : Command}
    {id : UInt64} {rest : List Text} {written : Text}
    (menu : (system.mains address).stage = .menu)
    (idle : (system.network.clients address).exchange.isNone = true)
    (fresh : id ∉ system.network.issued.map Command.id)
    (next : nextRequest setting.unset (system.mains address).firstLaunch
      (system.mains address).lines = (some request, rest, written)) :
    (system.issue setting address request id rest).Typed setting where
  owned := issue_network idle fresh ▸ typed.owned.issue address _
  follows other := by
    by_cases own : other = address
    · subst own
      have appended : (system.issue setting other request id rest).issuedAt other =
          system.issuedAt other ++ [identified request id] := by
        simp [System.issuedAt, System.issue]
      rw [appended]
      simp only [System.issue, System.setMain, Function.update_self]
      exact (typed.follows other).issue menu next id
    · have same : (system.issue setting address request id rest).issuedAt other =
          system.issuedAt other := by
        simp [System.issuedAt, System.issue, Ne.symm own]
      rw [same]
      simp only [System.issue, System.setMain, Function.update_of_ne own]
      exact typed.follows other

theorem step (lawful : srpc.RoundTrips) (strict : srpc.Sound) (counts : srpc.CountsStrings)
    (typed : system.Typed setting) (event : Event) : (system.step setting event).Typed setting := by
  have stepped := step_stepped setting system event
  generalize system.step setting event = next at stepped ⊢
  have network {event : Dfis.Event} (noIssue : ∀ address kind req id, event ≠ .issue address kind req id) :
      (system.onNetwork setting event).Typed setting :=
    typed.onNetwork event (typed.owned.step lawful strict counts noIssue)
  cases stepped with
  | still => exact typed
  | typed menu idle fresh next => exact typed.issue menu idle fresh next
  | exits menu idle next => exact typed.setMain ((typed.follows _).exits menu next)
  | called calls => rcases calls with rfl | rfl <;> exact network (by simp)
  | received waiting menu =>
    refine (network (by simp)).setMain ?_
    exact (typed.follows _).stage (by simp [menu]) (stageAfter_running _ _)
  | @opened address port monitorEnd opening home =>
    have here : (system.mains address).stage ≠ .exited := by simp [opening]
    have moved := typed.setMain ((typed.follows address).stage here
      (show Stage.sleeping monitorEnd ≠ .exited by simp))
    exact ⟨moved.owned, moved.follows⟩
  | returned waited => exact typed.setMain ((typed.follows _).stage waited (by simp))
  | served serves noIssue => exact (network noIssue).onCallbacks _
  | moved moves => exact typed.onCallbacks _
  | gaveUp moves failed => exact ⟨typed.owned, typed.follows⟩
  | acknowledged found replied fits => exact ⟨typed.owned, typed.follows⟩
  | @transmitted index _ _ id _ _ found =>
    exact (typed.onCallbacks (.send index)).onNetwork (.callback index id)
      (typed.owned.step lawful strict counts (by simp))
  | arrived => exact network (by simp)
  | presented found listening => exact typed.onCallbacks _

theorem requested (typed : system.Typed setting)
    {address : SocketAddress} {command : Command} (own : (address, command) ∈ system.issuedBy) :
    Requested setting address command := by
  obtain ⟨before, left, same, -, issues⟩ := typed.follows address
  have issued : command ∈ system.issuedAt address := mem_issuedAt.mpr own
  obtain ⟨index, within, rfl⟩ := List.getElem_of_mem issued
  have typedToo : index < before.length := issues.length_eq ▸ within
  refine ⟨before[index], same ▸ List.mem_append_left _ (List.getElem_mem _), ?_⟩
  exact (List.forall₂_iff_get.mp issues).2 index typedToo within

theorem executed (typed : system.Typed setting)
    (coherent : system.Coherent setting) {execution : Execution}
    (logged : execution ∈ system.callbacks.log) :
    Requested setting execution.fromAddr execution.toCall.command := by
  rw [← coherent.log] at logged
  obtain ⟨delivery, listed, call, store, received, rfl⟩ := executions_received srpc
    setting.semantic setting.flightsInput system.network.deliveries execution logged
  exact typed.requested (typed.owned.delivered delivery listed call received)

end Typed

section Runs

variable (setting : Setting) (events : List Event)

theorem run_typed (lawful : srpc.RoundTrips) (strict : srpc.Sound) (counts : srpc.CountsStrings) :
    (after (machine srpc setting) (.start srpc setting) events).Typed setting :=
  invariant (P := fun system : System srpc => system.Typed setting) .start
    (fun _ event typed => typed.step lawful strict counts event) events

/-- What is executed was typed: the commands a client has issued are the
requests typed at its console so far, in this order; every execution is of a
command issued by the client it came from; and under at-most-once of each one
there is one at most, however often it was sent. -/
structure ExecutesTyped (setting : Setting) (system : System srpc) : Prop where
  issued : ∀ address, ∃ typed, typed <+: requestsOf setting.unset (setting.stdin address) ∧
    List.Forall₂ Issues typed (system.issuedAt address)
  executed : ∀ execution ∈ system.callbacks.log,
    execution.toCall.command ∈ system.issuedAt execution.fromAddr
  once : setting.semantic = .atMostOnce → ∀ address,
    ((system.callbacks.log.filter fun execution => execution.fromAddr = address).map
      fun execution => execution.toCall.command).Subperm (system.issuedAt address)

/-- In every run, what is executed was typed. -/
theorem executed_as_typed (lawful : srpc.RoundTrips) (strict : srpc.Sound)
    (counts : srpc.CountsStrings) :
    (after (machine srpc setting) (.start srpc setting) events).ExecutesTyped setting := by
  have typed := run_typed setting events lawful strict counts
  have coherent := run_coherent lawful strict counts setting events
  generalize after (machine srpc setting) (.start srpc setting) events = system at typed coherent ⊢
  have issued : ∀ execution ∈ system.callbacks.log,
      execution.toCall.command ∈ system.issuedAt execution.fromAddr := by
    intro execution member
    rw [← coherent.log] at member
    obtain ⟨delivery, listed, call, store, received, rfl⟩ := executions_received srpc
      setting.semantic setting.flightsInput system.network.deliveries execution member
    exact mem_issuedAt.mpr (typed.owned.delivered delivery listed call received)
  refine ⟨?_, issued, ?_⟩
  · intro address
    obtain ⟨before, left, same, -, issues⟩ := typed.follows address
    exact ⟨before, ⟨left, same.symm⟩, issues⟩
  · intro once address
    have distinct := executions_distinct srpc setting.flightsInput system.network.deliveries
    have log : system.callbacks.log =
        executions srpc .atMostOnce setting.flightsInput system.network.deliveries := by
      rw [← coherent.log, Network.log, once]
    rw [← log] at distinct
    refine List.subperm_of_subset ?_ ?_
    · rw [List.Nodup, List.pairwise_map]
      exact (distinct.filter _).imp fun differ same => differ (Call.key_command same)
    · intro command member
      obtain ⟨execution, listed, rfl⟩ := List.mem_map.mp member
      obtain ⟨logged, came⟩ := List.mem_filter.mp listed
      obtain rfl : execution.fromAddr = address := by simpa using came
      exact issued execution logged

end Runs

/-- One client watches flight 4003 at port 6000 for a minute, the other reserves two of its seats. -/
def watchedFlight : Setting where
  semantic := .atMostOnce
  clientSemantic := .atMostOnce
  lines := [tenSeats]
  home socket := if socket.port = 6000 then someClient else socket
  stdin address :=
    if address = someClient then .ofString "4\n4003\n6000\n60\n"
    else if address = otherClient then .ofString "3\n4003\n2\n"
    else []
  unset := 0

/-- Both requests are sent and answered, and the callback reaches the client that watches. -/
def watchedReservation : List Event :=
  [.type someClient 1, .send someClient, .serve 0 0 false false, .arrive 0, .receive someClient,
    .listen someClient true, .type otherClient 7, .send otherClient, .serve 1 5 false false,
    .create 0 100, .transmit 0, .present 0 false false]

theorem executed_as_typed_watched :
    (after (machine .reference watchedFlight) (.start .reference watchedFlight)
      watchedReservation).ExecutesTyped watchedFlight :=
  executed_as_typed watchedFlight watchedReservation Srpc.reference_roundTrips
    Srpc.reference_sound Srpc.reference_countsStrings

end System

end Dfis
