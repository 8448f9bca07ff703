import Dfis.System.Provenance

/-! What the screens of the clients show of the seats, traced back to the
requests typed that are behind it. -/

namespace Dfis

open Base Wire Machine

variable {srpc : Srpc} {setting : Setting}

theorem Network.returned_grows (semantic : InvocationSemantic) (flightsInput : Table Int32 Flight)
    (network : Network srpc) (event : Event) :
    network.returned ⊆ (network.step semantic flightsInput event).returned := by
  have stepped := Network.step_stepped semantic flightsInput network event
  generalize network.step semantic flightsInput event = next at stepped ⊢
  cases stepped with
  | receive waiting => exact List.subset_append_left _ _
  | still | issue | send | timeout | serve | callback | arrive => exact List.Subset.refl _

theorem Callbacks.listeners_step (deployment : Deployment SocketAddress)
    (callbacks : Callbacks srpc SocketAddress) {event : Callbacks.Event}
    (noArrival : ∀ position reqLost resLost, event ≠ .arrive position reqLost resLost) :
    (callbacks.step deployment event).listeners = callbacks.listeners ∧
      ∃ more, (callbacks.step deployment event).log = callbacks.log ++ more := by
  have stepped := Callbacks.step_stepped deployment callbacks event
  generalize callbacks.step deployment event = next at stepped ⊢
  cases stepped with
  | arrive found => exact absurd rfl (noArrival _ _ _)
  | serve delivery => exact ⟨rfl, _, rfl⟩
  | still | moved | send => exact ⟨rfl, [], (List.append_nil _).symm⟩

/-- A monitoring request of this client to which a response was returned, for this port. -/
def System.Watches (system : System srpc) (address : SocketAddress) (port : UInt16) : Prop :=
  ∃ (req : SeatAvailabilityMonitoringRequest) (res : SeatAvailabilityMonitoringResponse),
    (address, (⟨.seatAvailabilityMonitoring, req⟩ : Command)) ∈ system.issuedBy ∧
    (⟨.seatAvailabilityMonitoring, req, res⟩ : Answer) ∈ system.network.returned ∧ req.port = port

theorem System.Watches.mono {system next : System srpc} {address : SocketAddress} {port : UInt16}
    (watches : system.Watches address port) (issued : system.issuedBy ⊆ next.issuedBy)
    (returned : system.network.returned ⊆ next.network.returned) : next.Watches address port := by
  obtain ⟨req, res, own, answered, same⟩ := watches
  exact ⟨req, res, issued own, returned answered, same⟩

namespace System

/-- Clients listen where they asked to, and get only what was sent there. -/
structure Heard (setting : Setting) (system : System srpc) : Prop where
  opening : ∀ address port monitorEnd, (system.mains address).stage = .opening port monitorEnd →
    system.Watches address port
  listening : ∀ socket ∈ system.listening,
    ∃ port, system.Watches (setting.home socket) port ∧ socket = socketAt (setting.home socket) port
  arrived : ∀ process, ∀ entry ∈ (system.callbacks.listeners process).arrived,
    ∃ socket ∈ system.listening, setting.home socket = process ∧
      Reports system.callbacks.log socket entry.2.change entry.2.request

namespace Heard

variable {system next : System srpc}

theorem start : Heard setting (.start srpc setting) where
  opening address port monitorEnd stage := by cases stage
  listening socket member := by cases member
  arrived process entry member := by cases member

theorem quiet (heard : system.Heard setting) (issued : system.issuedBy ⊆ next.issuedBy)
    (returned : system.network.returned ⊆ next.network.returned)
    (opening : ∀ address port monitorEnd, (next.mains address).stage = .opening port monitorEnd →
      (system.mains address).stage = .opening port monitorEnd ∨ next.Watches address port)
    (listening : next.listening = system.listening)
    (listeners : next.callbacks.listeners = system.callbacks.listeners)
    (log : ∃ more, next.callbacks.log = system.callbacks.log ++ more) : next.Heard setting where
  opening address port monitorEnd stage := by
    rcases opening address port monitorEnd stage with before | watches
    · exact (heard.opening address port monitorEnd before).mono issued returned
    · exact watches
  listening socket member := by
    rw [listening] at member
    obtain ⟨port, watches, same⟩ := heard.listening socket member
    exact ⟨port, watches.mono issued returned, same⟩
  arrived process entry member := by
    obtain ⟨more, log⟩ := log
    rw [listeners] at member
    obtain ⟨socket, open', home, reports⟩ := heard.arrived process entry member
    rw [listening, log]
    exact ⟨socket, open', home, reports.mono more⟩

/-- Another stage than opening needs no reason. -/
theorem setMain_stage {address : SocketAddress} {main : Main}
    (closed : ∀ port monitorEnd, main.stage ≠ .opening port monitorEnd) (other : SocketAddress)
    (port : UInt16) (monitorEnd : Int64)
    (stage : ((system.setMain address main).mains other).stage = .opening port monitorEnd) :
    (system.mains other).stage = .opening port monitorEnd := by
  by_cases own : other = address
  · subst own
    simp only [System.setMain, Function.update_self] at stage
    exact absurd stage (closed port monitorEnd)
  · simpa only [System.setMain, Function.update_of_ne own] using stage

/-- A client opens a socket only for a monitoring request of its own. -/
theorem stageAfter_opening {command : Command} {res? : Option command.kind.Response} {port : UInt16}
    {monitorEnd : Int64} (opens : stageAfter command res? = .opening port monitorEnd) :
    ∃ (req : SeatAvailabilityMonitoringRequest) (res : SeatAvailabilityMonitoringResponse),
      command = ⟨.seatAvailabilityMonitoring, req⟩ ∧ HEq res? (some res) ∧ req.port = port := by
  obtain ⟨kind, req⟩ := command
  cases kind with
  | seatAvailabilityMonitoring =>
    cases res? with
    | none => cases opens
    | some res =>
      injection opens with same _
      exact ⟨req, res, rfl, .rfl, same⟩
  | flightSearch | flightInfo | seatReservation | priceRangeSearch | seatReservationCancellation =>
    cases opens

theorem receive_watches (owned : system.network.Owned system.issuedBy) {address : SocketAddress}
    {command : Command} {datagram : Datagram (Sent.marshal srpc)}
    {queue : List (Datagram (Sent.marshal srpc))}
    (waiting : system.network.pending address = some (command, datagram, queue)) {port : UInt16}
    {monitorEnd : Int64}
    (opens : stageAfter command (command.unmarshalResponse srpc datagram.data) =
      .opening port monitorEnd) :
    (system.receive setting address command datagram).Watches address port := by
  obtain ⟨req, res, rfl, decoded, same⟩ := stageAfter_opening opens
  refine ⟨req, res, owned.pending waiting, ?_, same⟩
  have answered : Command.unmarshalResponse srpc ⟨.seatAvailabilityMonitoring, req⟩ datagram.data =
      some res := eq_of_heq decoded
  simp [System.receive, System.setMain, System.onNetwork, Network.step, waiting, Network.receive,
    answered]

theorem onNetwork (heard : system.Heard setting) (event : Dfis.Event) :
    (system.onNetwork setting event).Heard setting :=
  heard.quiet (List.Subset.refl _) (Network.returned_grows _ _ system.network event)
    (fun _ _ _ stage => .inl stage) rfl rfl ⟨[], (List.append_nil _).symm⟩

theorem onCallbacks (heard : system.Heard setting) {event : Callbacks.Event}
    (noArrival : ∀ position reqLost resLost, event ≠ .arrive position reqLost resLost) :
    (system.onCallbacks setting event).Heard setting := by
  obtain ⟨listeners, log⟩ := Callbacks.listeners_step setting.toDeployment system.callbacks noArrival
  exact heard.quiet (List.Subset.refl _) (List.Subset.refl _) (fun _ _ _ stage => .inl stage) rfl
    listeners log

theorem setMain (heard : system.Heard setting) {address : SocketAddress} {main : Main}
    (closed : ∀ port monitorEnd, main.stage ≠ .opening port monitorEnd) :
    (system.setMain address main).Heard setting :=
  heard.quiet (List.Subset.refl _) (List.Subset.refl _)
    (fun other port _ stage => .inl (setMain_stage closed other port _ stage)) rfl rfl
    ⟨[], (List.append_nil _).symm⟩

theorem receive (heard : system.Heard setting) (owned : system.network.Owned system.issuedBy)
    {address : SocketAddress} {command : Command} {datagram : Datagram (Sent.marshal srpc)}
    {queue : List (Datagram (Sent.marshal srpc))}
    (waiting : system.network.pending address = some (command, datagram, queue)) :
    (system.receive setting address command datagram).Heard setting := by
  refine heard.quiet (List.Subset.refl _)
    (Network.returned_grows setting.semantic setting.flightsInput system.network (.receive address))
    ?_ rfl rfl ⟨[], (List.append_nil _).symm⟩
  intro other port monitorEnd stage
  by_cases own : other = address
  · subst own
    simp only [System.receive, System.setMain, Function.update_self] at stage
    exact .inr (receive_watches owned waiting stage)
  · simp only [System.receive, System.setMain, Function.update_of_ne own] at stage
    exact .inl stage

theorem opened (heard : system.Heard setting) {address : SocketAddress} {port : UInt16}
    {monitorEnd : Int64} (opening : (system.mains address).stage = .opening port monitorEnd)
    (home : setting.home (socketAt address port) = address) :
    (system.opened address port monitorEnd).Heard setting where
  opening other port' monitorEnd' stage :=
    heard.opening other port' monitorEnd' (setMain_stage (by simp) other port' _ stage)
  listening socket member := by
    rcases List.mem_append.mp member with old | new
    · exact heard.listening socket old
    · obtain rfl := List.mem_singleton.mp new
      rw [home]
      exact ⟨port, heard.opening address port monitorEnd opening, rfl⟩
  arrived process entry member := by
    obtain ⟨socket, listening, rest⟩ := heard.arrived process entry member
    exact ⟨socket, List.mem_append_left _ listening, rest⟩

theorem present (heard : system.Heard setting) (coherent : system.Coherent setting)
    {datagram : Datagram (Update.marshal srpc)} (sent : datagram ∈ system.callbacks.sent)
    (listening : datagram.client ∈ system.listening) (reqLost resLost : Bool) :
    Heard setting { system with
      callbacks := system.callbacks.arrive setting.toDeployment datagram reqLost resLost } where
  opening := heard.opening
  listening := heard.listening
  arrived process entry member := by
    by_cases own : process = setting.home datagram.client
    · subst own
      simp only [Callbacks.arrive, Function.update_self] at member
      rcases List.mem_append.mp member with old | new
      · exact heard.arrived _ entry old
      · obtain rfl := List.mem_singleton.mp new
        exact ⟨datagram.client, listening, rfl, coherent.callbacks.sent datagram sent⟩
    · simp only [Callbacks.arrive, Function.update_of_ne own] at member
      exact heard.arrived process entry member

theorem step (heard : system.Heard setting) (typed : system.Typed setting)
    (coherent : system.Coherent setting) (event : Event) :
    (system.step setting event).Heard setting := by
  have stepped := step_stepped setting system event
  generalize system.step setting event = next at stepped ⊢
  cases stepped with
  | still => exact heard
  | @typed address request id rest _ menu idle fresh next =>
    have moved : ((system.onNetwork setting (.issue address request.kind request.request id)).setMain
        address ⟨.menu, rest, false⟩).Heard setting := (heard.onNetwork _).setMain (by simp)
    exact moved.quiet (List.subset_append_left _ _) (List.Subset.refl _)
      (fun _ _ _ stage => .inl stage) rfl rfl ⟨[], (List.append_nil _).symm⟩
  | exits menu idle next => exact heard.setMain (by simp)
  | called calls => exact heard.onNetwork _
  | received waiting menu => exact heard.receive typed.owned waiting
  | opened opening home => exact heard.opened opening home
  | returned waited => exact heard.setMain (by simp)
  | served serves noIssue => exact (heard.onNetwork _).onCallbacks (by simp)
  | moved moves => rcases moves with ⟨id, rfl⟩ | rfl <;> exact heard.onCallbacks (by simp)
  | @gaveUp event _ _ moves failed =>
    have moved : (system.onCallbacks setting event).Heard setting := by
      rcases moves with rfl | rfl <;> exact heard.onCallbacks (by simp)
    exact ⟨moved.opening, moved.listening, moved.arrived⟩
  | @acknowledged index position _ _ found replied fits =>
    have moved : (system.onCallbacks setting (.receive index position)).Heard setting :=
      heard.onCallbacks (by simp)
    exact ⟨moved.opening, moved.listening, moved.arrived⟩
  | @transmitted index _ _ id _ _ found =>
    have moved : (system.onCallbacks setting (.send index)).Heard setting :=
      heard.onCallbacks (by simp)
    exact moved.onNetwork (.callback index id)
  | arrived => exact heard.onNetwork _
  | presented found listening =>
    simp only [System.onCallbacks, Callbacks.step, found]
    exact heard.present coherent (List.mem_of_getElem? found) listening _ _

end Heard

/-- A monitor is called back at its own host, at the port it asked for. -/
theorem callbackFor_eq_some {change monitor : Execution} {launch : Launch}
    (called : callbackFor change monitor = some launch) :
    ∃ (req : SeatAvailabilityMonitoringRequest) (flight : Flight),
      monitor.monitored? = some req ∧ change.seatsChanged? = some req.identifier ∧
      change.store.flights.lookup req.identifier = some flight ∧
      change.now < monitor.now + seconds req.monitorIntervalSec ∧
      launch = ⟨socketAt monitor.fromAddr req.port,
        ⟨0, req.identifier, flight.seatAvailability⟩, req.id⟩ := by
  simp only [callbackFor, Option.bind_eq_bind, Option.bind_eq_some_iff] at called
  obtain ⟨identifier, changed, flight, found, callback, registered, early⟩ := called
  obtain ⟨req, monitored, own⟩ := Option.bind_eq_some_iff.mp registered
  split at own
  · rename_i same
    subst same
    obtain rfl := Option.some.inj own
    split at early
    · rename_i within
      exact ⟨req, flight, monitored, changed, found, within, (Option.some.inj early).symm⟩
    · cases early
  · cases own

section Runs

variable (setting : Setting) (events : List Event)

theorem run_heard (lawful : srpc.RoundTrips) (strict : srpc.Sound) (counts : srpc.CountsStrings) :
    (after (machine srpc setting) (.start srpc setting) events).Heard setting := by
  refine (invariant (P := fun system : System srpc =>
    system.Heard setting ∧ system.Typed setting ∧ system.Coherent setting)
    ⟨.start, .start, .start⟩ ?_ events).1
  rintro system event ⟨heard, typed, coherent⟩
  exact ⟨heard.step typed coherent event, typed.step lawful strict counts event,
    coherent.step lawful strict counts event⟩

/-- What a client shows is the number of seats of a flight right after a
reservation or cancellation that was typed at some console, made before the
interval of an earlier monitoring request of the flight was over; that one was
typed at some console too, and the client itself has been answered a monitoring
request, typed at its own console, for the same socket. -/
def Traced (setting : Setting) (system : System srpc) (address : SocketAddress) (shown : Shown) :
    Prop :=
  ∃ before change after monitor, system.callbacks.log = before ++ change :: after ∧
    before.length = shown.change ∧ monitor ∈ before ∧
    Requested setting change.fromAddr change.toCall.command ∧
    Requested setting monitor.fromAddr monitor.toCall.command ∧
    ∃ (req own : SeatAvailabilityMonitoringRequest) (res : SeatAvailabilityMonitoringResponse)
      (flight : Flight), monitor.monitored? = some req ∧ req.identifier = shown.request.identifier ∧
      change.seatsChanged? = some req.identifier ∧
      change.store.flights.lookup req.identifier = some flight ∧
      flight.seatAvailability = shown.request.seatAvailability ∧
      change.now < monitor.now + seconds req.monitorIntervalSec ∧
      Requested setting address ⟨.seatAvailabilityMonitoring, own⟩ ∧
      (⟨.seatAvailabilityMonitoring, own, res⟩ : Answer) ∈ system.network.returned ∧
      socketAt address own.port = socketAt monitor.fromAddr req.port

/-- In every run, everything that a client shows can be traced so. -/
theorem shown_as_typed (lawful : srpc.RoundTrips) (strict : srpc.Sound)
    (counts : srpc.CountsStrings) :
    let system := after (machine srpc setting) (.start srpc setting) events
    ∀ address, ∀ shown ∈ (system.callbacks.listeners address).presented,
      system.Traced setting address shown := by
  intro system address shown member
  have typed : system.Typed setting := run_typed setting events lawful strict counts
  have coherent : system.Coherent setting := run_coherent lawful strict counts setting events
  have heard : system.Heard setting := run_heard setting events lawful strict counts
  have callsBack : CallsBack system.callbacks.log :=
    coherent.callbacks.logged ▸ executions_callsBack srpc setting.flightsInput setting.semantic
      (readFlightsFromFile_keyed setting.lines) system.callbacks.deliveries
  rw [(coherent.callbacks.listeners address).presented] at member
  obtain ⟨entry, reached, rfl⟩ := List.mem_map.mp member
  obtain ⟨socket, listening, home, change, launch, id, numbered, launched, sentTo, request⟩ :=
    heard.arrived address entry reached
  obtain ⟨before, after, split, length⟩ := numbered_split numbered
  rw [callsBack before change after split] at launched
  obtain ⟨monitor, registered, called⟩ := List.mem_filterMap.mp launched
  obtain ⟨req, flight, monitored, changed, found, early, rfl⟩ := callbackFor_eq_some called
  obtain ⟨port, ⟨own, res, issued, returned, same⟩, opened⟩ := heard.listening socket listening
  subst same
  rw [home] at opened issued
  refine ⟨before, change, after, monitor, split, length, registered, ?_, ?_, req, own, res, flight,
    monitored, ?_, changed, found, ?_, early, typed.requested issued, returned, ?_⟩
  · exact typed.executed coherent (by simp [split])
  · exact typed.executed coherent (by simp [split, registered])
  · simp [request]
  · simp [request]
  · rw [← opened, ← sentTo]

end Runs

/-- The eight seats that are left are shown to the client that watches. -/
theorem shown_as_typed_watched :
    (after (machine .reference watchedFlight) (.start .reference watchedFlight)
      watchedReservation).Traced watchedFlight someClient ⟨1, 100, 4003, 8⟩ := by
  have shown : ((after (machine .reference watchedFlight) (.start .reference watchedFlight)
      watchedReservation).callbacks.listeners someClient).presented = [⟨1, 100, 4003, 8⟩] := by
    decide +kernel
  refine shown_as_typed watchedFlight watchedReservation Srpc.reference_roundTrips
    Srpc.reference_sound Srpc.reference_countsStrings someClient _ ?_
  rw [shown]
  exact List.mem_singleton_self _

end System

end Dfis
