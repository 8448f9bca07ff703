import Dfis.Booking.Office
import Dfis.Network.Linear
import Dfis.Server.Bounds

/-! The server as a booking office: under at-most-once, and as long as nobody
asks for a negative number of seats, it gives the office's verdicts. -/

namespace Dfis

open Base Machine Booking

/-- What a request asks of the office. -/
def Command.operation : Command → Operation Int32 UInt64
  | ⟨.flightInfo, req⟩ => .ask req.identifier
  | ⟨.seatReservation, req⟩ => .book req.id req.identifier req.seats.toInt.toNat
  | ⟨.seatReservationCancellation, req⟩ =>
    .cancel req.reservationReqId req.identifier req.seats.toInt.toNat
  | ⟨.flightSearch, _⟩ | ⟨.priceRangeSearch, _⟩ | ⟨.seatAvailabilityMonitoring, _⟩ => .other

/-- What a response says for the office. -/
def Answer.verdict : Answer → Verdict Int32
  | ⟨.flightInfo, _, res⟩ =>
    match res.flight with
    | [] => .noSuchFlight
    | flight :: _ => .left flight.seatAvailability.toInt.toNat
  | ⟨.seatReservation, _, res⟩ =>
    if res.statusCode = 0 then .booked res.identifier res.seats.toInt.toNat
    else if res.statusCode = 1 then .noSuchFlight
    else .notEnough
  | ⟨.seatReservationCancellation, _, res⟩ =>
    if res.statusCode = 0 then .cancelled res.identifier res.seats.toInt.toNat
    else if res.statusCode = 1 then .noSuchBooking
    else if res.statusCode = 2 then .otherFlight
    else .tooMany
  | ⟨.flightSearch, _, _⟩ | ⟨.priceRangeSearch, _, _⟩ | ⟨.seatAvailabilityMonitoring, _, _⟩ => .done

/-- No negative number of seats is asked for. -/
def Command.NonNegative : Command → Prop
  | ⟨.seatReservation, req⟩ => 0 ≤ req.seats.toInt
  | ⟨.seatReservationCancellation, req⟩ => 0 ≤ req.seats.toInt
  | ⟨.flightInfo, _⟩ | ⟨.flightSearch, _⟩ | ⟨.priceRangeSearch, _⟩
  | ⟨.seatAvailabilityMonitoring, _⟩ => True

/-- The flights of the file, with all their seats. -/
def capacityOf (flightsInput : Table Int32 Flight) (identifier : Int32) : Option Nat :=
  (flightsInput.lookup identifier).map fun flight => flight.seatAvailability.toInt.toNat

/-- The store of an office: what is free stands in the flights, the bookings are the reservations. -/
structure Represents (store : Store) (office : Office Int32 UInt64) : Prop where
  flights : ∀ identifier,
    (store.flights.lookup identifier).map (fun flight => flight.seatAvailability.toInt) =
      (office.capacity identifier).map fun seats : Nat =>
        (seats : Int) - taken office.bookings identifier
  reservations : ∀ id,
    (store.reservations.lookup id).map (fun reservation =>
      (reservation.identifier, reservation.seats.toInt)) =
      (office.bookings.lookup id).map fun held => (held.flight, (held.seats : Int))
  small : ∀ identifier seats, office.capacity identifier = some seats → seats < 2147483648

namespace Represents

variable {store : Store} {office : Office Int32 UInt64}

theorem flight (represents : Represents store office) {identifier : Int32} {flight : Flight}
    (found : store.flights.lookup identifier = some flight) :
    ∃ seats, office.capacity identifier = some seats ∧
      flight.seatAvailability.toInt = (seats : Int) - taken office.bookings identifier ∧
      taken office.bookings identifier ≤ seats := by
  have same := represents.flights identifier
  rw [found, Option.map_some] at same
  obtain ⟨seats, sold, free⟩ := Option.map_eq_some_iff.mp same.symm
  exact ⟨seats, sold, free.symm, office.fits identifier seats sold⟩

theorem noFlight (represents : Represents store office) {identifier : Int32}
    (missing : store.flights.lookup identifier = none) : office.capacity identifier = none := by
  have same := represents.flights identifier
  rwa [missing, Option.map_none, eq_comm, Option.map_eq_none_iff] at same

theorem reservation (represents : Represents store office) {id : UInt64} {reservation : Reservation}
    (found : store.reservations.lookup id = some reservation) :
    ∃ seats, office.bookings.lookup id = some ⟨reservation.identifier, seats⟩ ∧
      reservation.seats.toInt = seats := by
  have same := represents.reservations id
  rw [found, Option.map_some] at same
  obtain ⟨⟨flight, seats⟩, booked, parts⟩ := Option.map_eq_some_iff.mp same.symm
  obtain ⟨rfl, held⟩ := Prod.mk.inj parts
  exact ⟨seats, booked, held.symm⟩

theorem noReservation (represents : Represents store office) {id : UInt64} :
    store.reservations.lookup id = none ↔ office.bookings.lookup id = none := by
  have same := represents.reservations id
  rw [← Option.map_eq_none_iff, same, Option.map_eq_none_iff]

theorem bookedFlight (represents : Represents store office) {id : UInt64} {held : Held Int32}
    (booked : office.bookings.lookup id = some held) :
    ∃ flight, store.flights.lookup held.flight = some flight := by
  have sold := office.onSale id held booked
  cases found : store.flights.lookup held.flight with
  | none => exact absurd (represents.noFlight found) sold
  | some flight => exact ⟨flight, rfl⟩

/-- Only the flights and the reservations of a store matter to the office. -/
theorem transfer (represents : Represents store office) {next : Store}
    (flights : next.flights = store.flights) (reservations : next.reservations = store.reservations) :
    Represents next office := by
  constructor
  · rw [flights]
    exact represents.flights
  · rw [reservations]
    exact represents.reservations
  · exact represents.small

/-- Seats of one flight are taken for a new reservation. -/
theorem book (represents : Represents store office) {next : Store} {id : UInt64}
    {identifier seats : Int32} {flight : Flight} {capacity : Nat} (nonneg : 0 ≤ seats.toInt)
    (found : store.flights.lookup identifier = some flight)
    (unused : office.bookings.lookup id = none)
    (sold : office.capacity identifier = some capacity)
    (enough : taken office.bookings identifier + seats.toInt.toNat ≤ capacity)
    (flights : next.flights = store.flights.insert identifier
      { flight with seatAvailability := flight.seatAvailability - seats })
    (reservations : next.reservations = store.reservations.emplace id ⟨identifier, seats⟩) :
    Represents next (office.book id identifier seats.toInt.toNat capacity sold enough unused) := by
  obtain ⟨capacity', sold', free, -⟩ := represents.flight found
  obtain rfl := Option.some.inj (sold.symm.trans sold')
  have low := flight.seatAvailability.le_toInt
  have high := flight.seatAvailability.toInt_lt
  have exactly : (flight.seatAvailability - seats).toInt =
      flight.seatAvailability.toInt - seats.toInt := toInt_sub_exact (by omega) (by omega)
  constructor
  · intro other
    have taken' := Office.taken_insert_new unused ⟨identifier, seats.toInt.toNat⟩ other
    simp only [Office.book, flights, Table.lookup_insert, taken', Held.on]
    by_cases same : other = identifier
    · subst same
      simp only [if_true, Option.map_some, sold, exactly, free]
      refine congrArg some ?_
      push_cast
      omega
    · rw [if_neg same, if_neg (Ne.symm same), Nat.zero_add]
      exact represents.flights other
  · intro other
    have missing := represents.noReservation.mpr unused
    rw [reservations, Table.emplace_new missing]
    simp only [Office.book, Table.lookup_insert]
    split
    · simp only [Option.map_some]
      rw [Int.toNat_of_nonneg nonneg]
    · exact represents.reservations other
  · exact represents.small

/-- Seats of one reservation are given back to its flight. -/
theorem cancel (represents : Represents store office) {next : Store} {id : UInt64} {seats : Int32}
    {flight : Flight} {reservation : Reservation} (nonneg : 0 ≤ seats.toInt)
    (found : store.flights.lookup reservation.identifier = some flight)
    (recorded : store.reservations.lookup id = some reservation)
    {held : Held Int32} (booked : office.bookings.lookup id = some held)
    (enough : seats.toInt ≤ reservation.seats.toInt)
    (flights : next.flights = store.flights.insert reservation.identifier
      { flight with seatAvailability := flight.seatAvailability + seats })
    (reservations : next.reservations = store.reservations.insert id
      { reservation with seats := reservation.seats - seats }) :
    Represents next (office.cancel id held seats.toInt.toNat booked) := by
  obtain ⟨capacity, sold, free, fits⟩ := represents.flight found
  obtain ⟨count, booked', counted⟩ := represents.reservation recorded
  obtain rfl := Option.some.inj (booked'.symm.trans booked)
  have low := reservation.seats.le_toInt
  have high := reservation.seats.toInt_lt
  have reduced : (reservation.seats - seats).toInt = reservation.seats.toInt - seats.toInt :=
    toInt_sub_exact (by omega) (by omega)
  have replaced := Office.taken_replace booked
    (⟨reservation.identifier, count - seats.toInt.toNat⟩ : Held Int32)
  constructor
  · intro other
    simp only [Office.cancel, flights, Table.lookup_insert]
    have taken' := replaced other
    unfold Held.on at taken'
    by_cases same : other = reservation.identifier
    · subst same
      have small := represents.small _ capacity sold
      simp only [if_true] at taken'
      have exactly : (flight.seatAvailability + seats).toInt =
          flight.seatAvailability.toInt + seats.toInt := toInt_add_exact (by omega) (by omega)
      simp only [if_true, Option.map_some, sold, exactly, free]
      refine congrArg some ?_
      omega
    · simp only [if_neg (Ne.symm same), Nat.add_zero] at taken'
      rw [if_neg same, taken']
      exact represents.flights other
  · intro other
    rw [reservations]
    simp only [Office.cancel, Table.lookup_insert]
    split
    · simp only [Option.map_some, reduced]
      refine congrArg some (Prod.ext rfl ?_)
      simp only
      omega
    · exact represents.reservations other
  · exact represents.small

end Represents

section Step

variable {store : Store} {office : Office Int32 UInt64} {fromAddr : SocketAddress} {now : TimePoint}

/-- A request executed on a store that represents the office comes to the operation it asks for. -/
def Matches (store : Store) (office : Office Int32 UInt64) (call : Call) : Prop :=
  Represents (call.execute store).store (office.serve call.command.operation).1 ∧
    (office.serve call.command.operation).2 = (call.execute store).answer.verdict

theorem matches_flightInfo (represents : Represents store office) (req : FlightInfoRequest) :
    Matches store office ⟨.flightInfo, req, fromAddr, now⟩ := by
  simp only [Matches, Call.execute, Call.run, executeKind, executeFlightInfo, Call.command,
    Command.operation, Office.serve_ask]
  split
  · rename_i missing
    refine ⟨represents, ?_⟩
    simp only [Office.free, represents.noFlight missing, Option.map_none]
    rfl
  · rename_i flight found
    obtain ⟨seats, sold, free, fits⟩ := represents.flight found
    refine ⟨represents, ?_⟩
    simp only [Office.free, sold, Option.map_some, Execution.answer, Answer.verdict, free]
    refine congrArg Verdict.left ?_
    omega

theorem matches_seatReservation (represents : Represents store office) (req : SeatReservationRequest)
    (nonneg : 0 ≤ req.seats.toInt) (unused : office.bookings.lookup req.id = none) :
    Matches store office ⟨.seatReservation, req, fromAddr, now⟩ := by
  simp only [Matches, Call.execute, Call.run, executeKind, executeSeatReservation, Call.command,
    Command.operation]
  split
  · rename_i missing
    rw [Office.serve_noSuchFlight (represents.noFlight missing)]
    exact ⟨represents, rfl⟩
  · rename_i flight found
    obtain ⟨seats, sold, free, fits⟩ := represents.flight found
    split
    · rename_i short
      rw [Int32.lt_iff_toInt_lt] at short
      rw [Office.serve_notEnough sold (by omega)]
      exact ⟨represents, rfl⟩
    · rename_i enough
      rw [Int32.lt_iff_toInt_lt] at enough
      rw [Office.serve_booked sold (by omega) unused]
      exact ⟨represents.book nonneg found unused sold (by omega) rfl rfl, rfl⟩

theorem matches_seatReservationCancellation (represents : Represents store office)
    (req : SeatReservationCancellationRequest) (nonneg : 0 ≤ req.seats.toInt) :
    Matches store office ⟨.seatReservationCancellation, req, fromAddr, now⟩ := by
  simp only [Matches, Call.execute, Call.run, executeKind, executeSeatReservationCancellation,
    Call.command, Command.operation]
  split
  · rename_i missing
    rw [Office.serve_noSuchBooking (represents.noReservation.mp missing)]
    exact ⟨represents, rfl⟩
  · rename_i reservation recorded
    obtain ⟨count, booked, counted⟩ := represents.reservation recorded
    rw [Office.serve_cancel booked]
    by_cases mismatch : reservation.identifier ≠ req.identifier
    · rw [if_pos mismatch, if_pos mismatch]
      exact ⟨represents, rfl⟩
    · have same : reservation.identifier = req.identifier := not_not.mp mismatch
      obtain ⟨flight, found⟩ := represents.bookedFlight booked
      have found' : store.flights.lookup req.identifier = some flight := same ▸ found
      rw [if_neg mismatch, if_neg mismatch, Table.subscript_found found']
      simp only
      by_cases short : reservation.seats < req.seats
      · have short' : count < req.seats.toInt.toNat := by
          rw [Int32.lt_iff_toInt_lt] at short
          omega
        rw [if_pos short, if_pos short']
        exact ⟨represents, rfl⟩
      · have enough : ¬ count < req.seats.toInt.toNat := by
          rw [Int32.lt_iff_toInt_lt] at short
          omega
        rw [if_neg short, if_neg enough]
        refine ⟨represents.cancel nonneg found recorded booked ?_ ?_ rfl, rfl⟩
        · rw [Int32.lt_iff_toInt_lt] at short
          omega
        · rw [same]

theorem matches_call (represents : Represents store office) {call : Call}
    (nonneg : call.command.NonNegative)
    (unused : ∀ id, call.key = (.seatReservation, id) → office.bookings.lookup id = none) :
    Matches store office call := by
  obtain ⟨kind, req, fromAddr, now⟩ := call
  cases kind with
  | flightSearch =>
    refine ⟨represents.transfer ?_ ?_, rfl⟩ <;>
    · simp only [Call.execute, Call.run, executeKind, executeFlightSearch]
      split <;> rfl
  | flightInfo => exact matches_flightInfo represents req
  | seatReservation => exact matches_seatReservation represents req nonneg (unused _ rfl)
  | seatAvailabilityMonitoring =>
    refine ⟨represents.transfer ?_ ?_, rfl⟩ <;>
    · simp only [Call.execute, Call.run, executeKind, executeSeatAvailabilityMonitoring]
      split <;> rfl
  | priceRangeSearch =>
    refine ⟨represents.transfer ?_ ?_, rfl⟩ <;>
    · simp only [Call.execute, Call.run, executeKind, executePriceRangeSearch]
      split <;> rfl
  | seatReservationCancellation => exact matches_seatReservationCancellation represents req nonneg

end Step

/-- The office, asked by requests. -/
def bookingOffice : Machine (Office Int32 UInt64) Call (Verdict Int32) := fun office call =>
  office.serve call.command.operation

section Runs

variable (srpc : Srpc) (flightsInput : Table Int32 Flight)

/-- The office as the server starts it. -/
def openOffice : Office Int32 UInt64 := .opened (capacityOf flightsInput)

theorem start_represents
    (filed : ∀ identifier flight, flightsInput.lookup identifier = some flight →
      0 ≤ flight.seatAvailability) :
    Represents ⟨flightsInput, ∅, ∅⟩ (openOffice flightsInput) where
  flights identifier := by
    cases found : flightsInput.lookup identifier with
    | none => simp [openOffice, Office.opened, capacityOf, found]
    | some flight =>
      have nonneg : 0 ≤ flight.seatAvailability.toInt :=
        Int32.le_iff_toInt_le.mp (filed identifier flight found)
      have none : taken (∅ : Table UInt64 (Held Int32)) identifier = 0 := Table.total_empty _
      simp only [openOffice, Office.opened, capacityOf, found, Option.map_some, none]
      refine congrArg some ?_
      omega
  reservations id := by simp [openOffice, Office.opened]
  small identifier seats sold := by
    obtain ⟨flight, found, rfl⟩ := Option.map_eq_some_iff.mp sold
    have high := flight.seatAvailability.toInt_lt
    omega

/-- The office that has served the calls of the log: the store represents it,
the responses of the log are its verdicts, and its keys are those of
reservations in the log. -/
structure Simulated (store : Store) (log : List Execution) : Prop where
  represents :
    Represents store (after bookingOffice (openOffice flightsInput) (log.map Execution.toCall))
  verdicts : outputs bookingOffice (openOffice flightsInput) (log.map Execution.toCall) =
    log.map (·.answer.verdict)
  keys : ∀ id, (after bookingOffice (openOffice flightsInput)
      (log.map Execution.toCall)).bookings.lookup id ≠ none →
    ∃ execution ∈ log, execution.key = (.seatReservation, id)

theorem Simulated.step {store : Store} {log : List Execution} {call : Call}
    (simulated : Simulated flightsInput store log) (nonneg : call.command.NonNegative)
    (fresh : ∀ earlier ∈ log, earlier.key ≠ call.key) :
    Simulated flightsInput (call.execute store).store (log ++ [call.execute store]) := by
  have unused : ∀ id, call.key = (.seatReservation, id) →
      (after bookingOffice (openOffice flightsInput)
        (log.map Execution.toCall)).bookings.lookup id = none := by
    intro id same
    by_contra used
    obtain ⟨earlier, member, key⟩ := simulated.keys id used
    exact fresh earlier member (key.trans same.symm)
  obtain ⟨represents, verdict⟩ := matches_call simulated.represents nonneg unused
  constructor
  · rw [List.map_append, List.map_singleton, after_snoc]
    exact represents
  · rw [List.map_append, List.map_singleton, outputs_snoc, simulated.verdicts, List.map_append]
    exact congrArg (log.map _ ++ [·]) verdict
  · intro id used
    rw [List.map_append, List.map_singleton, after_snoc] at used
    rcases Office.serve_key used with old | ⟨flight, seats, booked⟩
    · obtain ⟨earlier, member, key⟩ := simulated.keys id old
      exact ⟨earlier, List.mem_append_left _ member, key⟩
    · refine ⟨call.execute store, List.mem_append_right _ (List.mem_singleton_self _), ?_⟩
      obtain ⟨kind, req, fromAddr, now⟩ := call
      cases kind <;> cases booked
      rfl

theorem reached_simulated
    (filed : ∀ identifier flight, flightsInput.lookup identifier = some flight →
      0 ≤ flight.seatAvailability) (deliveries : List Delivery)
    (nonneg : ∀ delivery ∈ deliveries, ∀ call, delivery.received? srpc = some call →
      call.command.NonNegative) :
    Simulated flightsInput (reached srpc .atMostOnce flightsInput deliveries).store
      (executions srpc .atMostOnce flightsInput deliveries) := by
  have asked : ∀ execution ∈ executions srpc .atMostOnce flightsInput deliveries,
      execution.toCall.command.NonNegative := by
    intro execution member
    obtain ⟨delivery, listed, call, store, received, rfl⟩ :=
      executions_received srpc .atMostOnce flightsInput deliveries execution member
    exact nonneg delivery listed call received
  revert asked
  refine executions_induct srpc .atMostOnce flightsInput (P := fun store log =>
    (∀ execution ∈ log, execution.toCall.command.NonNegative) →
      Simulated flightsInput store log) ?_ ?_ deliveries
  · intro _
    exact ⟨start_represents flightsInput filed, rfl, fun id used => absurd rfl used⟩
  · intro store log call before fresh asked
    have earlier := before fun execution member => asked execution (List.mem_append_left _ member)
    exact earlier.step flightsInput
      (asked (call.execute store) (List.mem_append_right _ (List.mem_singleton_self _))) (fresh rfl)

/-- On a file without negative seat counts, and along every run under
at-most-once whose requests ask for none, the server is the office: its flights
and reservations represent the office's state, and its responses give the
office's verdicts. -/
theorem server_refines_office
    (filed : ∀ identifier flight, flightsInput.lookup identifier = some flight →
      0 ≤ flight.seatAvailability) (deliveries : List Delivery)
    (nonneg : ∀ delivery ∈ deliveries, ∀ call, delivery.received? srpc = some call →
      call.command.NonNegative) :
    Represents (reached srpc .atMostOnce flightsInput deliveries).store
        (after bookingOffice (openOffice flightsInput)
          ((executions srpc .atMostOnce flightsInput deliveries).map Execution.toCall)) ∧
      outputs bookingOffice (openOffice flightsInput)
        ((executions srpc .atMostOnce flightsInput deliveries).map Execution.toCall) =
        (executions srpc .atMostOnce flightsInput deliveries).map (·.answer.verdict) :=
  have simulated := reached_simulated srpc flightsInput filed deliveries nonneg
  ⟨simulated.represents, simulated.verdicts⟩

theorem server_refines_office_twoSeats :
    Represents (reached .reference .atMostOnce oneFlight [twoSeats]).store
        (after bookingOffice (openOffice oneFlight)
          ((executions .reference .atMostOnce oneFlight [twoSeats]).map Execution.toCall)) ∧
      outputs bookingOffice (openOffice oneFlight)
        ((executions .reference .atMostOnce oneFlight [twoSeats]).map Execution.toCall) =
        (executions .reference .atMostOnce oneFlight [twoSeats]).map (·.answer.verdict) := by
  refine server_refines_office .reference oneFlight oneFlight_filed [twoSeats] ?_
  intro delivery member call received
  obtain rfl := List.mem_singleton.mp member
  obtain rfl := Option.some.inj
    ((reservation_received ⟨7, 4003, 2⟩ someClient 0).symm.trans received)
  change (0 : Int) ≤ Int32.toInt 2
  decide

/-- What the clients see is a linearizable booking office that never oversells,
under at-most-once, as long as they read no stale reply and ask for no negative
number of seats. -/
theorem linearizable_office (lawful : srpc.RoundTrips) (strict : srpc.Sound)
    (counts : srpc.CountsStrings)
    (filed : ∀ identifier flight, flightsInput.lookup identifier = some flight →
      0 ≤ flight.seatAvailability) (events : List Event)
    (noStale : Along (Network.machine srpc .atMostOnce flightsInput) Network.ReadsNoStale
      (.start srpc) events)
    (nonneg : ∀ command ∈
      (after (Network.machine srpc .atMostOnce flightsInput) (.start srpc) events).issued,
      command.NonNegative) :
    Linearization bookingOffice (openOffice flightsInput) Call.command
      ((Network.history .atMostOnce flightsInput srpc events).map (Action.map Answer.verdict))
      (((after (Network.machine srpc .atMostOnce flightsInput) (.start srpc) events).log
        .atMostOnce flightsInput).map Execution.toCall) := by
  have explained := network_explained srpc flightsInput lawful strict counts events noStale
  refine explained.linear.view Answer.verdict ?_
  rw [Network.log, (executions_replayed srpc .atMostOnce flightsInput _).2, List.map_map]
  refine (reached_simulated srpc flightsInput filed _ ?_).verdicts
  intro delivery listed call received
  exact nonneg call.command (explained.sound.delivered delivery listed call received)

end Runs

theorem linearizable_office_twoClients :
    Linearization bookingOffice (openOffice oneFlight) Call.command
      ((Network.history .atMostOnce oneFlight .reference twoClients).map
        (Action.map Answer.verdict))
      (((after (Network.machine .reference .atMostOnce oneFlight) (.start .reference)
        twoClients).log .atMostOnce oneFlight).map Execution.toCall) := by
  refine linearizable_office .reference oneFlight Srpc.reference_roundTrips Srpc.reference_sound
    Srpc.reference_countsStrings oneFlight_filed twoClients (by decide +kernel) ?_
  have issued : (after (Network.machine .reference .atMostOnce oneFlight) (.start .reference)
      twoClients).issued = [⟨.seatReservation, ⟨7, 4003, 2⟩⟩, ⟨.seatReservation, ⟨8, 4003, 3⟩⟩,
        ⟨.flightInfo, ⟨9, 4003⟩⟩] := by
    decide +kernel
  rw [issued]
  simp [Command.NonNegative]

end Dfis
