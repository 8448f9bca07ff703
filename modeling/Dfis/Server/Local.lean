import Dfis.Server.Effect
import Mathlib.Data.Set.Insert

/-! A request on a flight keeps to that flight and to the record of its own
id: it changes nothing else of the store, and nothing else decides what it does. -/

namespace Dfis

open Base

/-- The flight that a request names, none for a search. -/
def Call.flight? : Call → Option Int32
  | ⟨.flightInfo, req, _, _⟩ => some req.identifier
  | ⟨.seatReservation, req, _, _⟩ => some req.identifier
  | ⟨.seatAvailabilityMonitoring, req, _, _⟩ => some req.identifier
  | ⟨.seatReservationCancellation, req, _, _⟩ => some req.identifier
  | _ => none

/-- The reservation that a cancellation names. -/
def Call.reservationReqId? : Call → Option UInt64
  | ⟨.seatReservationCancellation, req, _, _⟩ => some req.reservationReqId
  | _ => none

/-- What there is to see of a store: all about one flight, or whether an id is recorded. -/
inductive Place where
  | flight (identifier : Int32)
  | recorded (id : UInt64)
  deriving DecidableEq

/-- All about one flight: the seats reserved on it by reservation. -/
structure FlightView where
  flight : Option Flight
  callbacks : Option (List Callback)
  seats : UInt64 → Option Int32

abbrev Place.View : Place → Type
  | .flight _ => FlightView
  | .recorded _ => Bool

/-- The seats of a reservation that is for this flight. -/
def Store.seatsOn (store : Store) (identifier : Int32) (id : UInt64) : Option Int32 :=
  (store.reservations.lookup id).bind fun reservation =>
    if reservation.identifier = identifier then some reservation.seats else none

def Store.view (store : Store) : (place : Place) → place.View
  | .flight identifier =>
    ⟨store.flights.lookup identifier, store.callbacks.lookup identifier, store.seatsOn identifier⟩
  | .recorded id => (store.reservations.lookup id).isSome

/-- The places that a request with this id on this flight keeps to. -/
def placesOf (identifier : Int32) (id : UInt64) : Set Place := {.flight identifier, .recorded id}

section View

variable {store left : Store}

theorem Store.seatsOn_some {identifier : Int32} {id : UInt64} {seats : Int32} :
    store.seatsOn identifier id = some seats ↔
      store.reservations.lookup id = some ⟨identifier, seats⟩ := by
  cases found : store.reservations.lookup id with
  | none => simp [Store.seatsOn, found]
  | some reservation =>
    obtain ⟨owner, held⟩ := reservation
    by_cases own : owner = identifier
    · simp [Store.seatsOn, found, own]
    · simp [Store.seatsOn, found, own]

theorem Store.seatsOn_insert {identifier : Int32} {id : UInt64} {reservation : Reservation}
    (reservations : left.reservations = store.reservations.insert id reservation)
    (other : reservation.identifier ≠ identifier) (unseen : store.seatsOn identifier id = none) :
    left.seatsOn identifier = store.seatsOn identifier := by
  funext key
  rw [Store.seatsOn, reservations, Table.lookup_insert]
  split
  · rename_i same
    subst same
    simp [other, unseen]
  · rfl

theorem Store.view_injective : Function.Injective Store.view := by
  intro first second same
  have flights (identifier : Int32) := congrFun same (.flight identifier)
  simp only [Store.view, FlightView.mk.injEq] at flights
  have reservations (id : UInt64) (reservation : Reservation) :
      first.reservations.lookup id = some reservation ↔
        second.reservations.lookup id = some reservation := by
    have seats := congrFun (flights reservation.identifier).2.2 id
    exact Store.seatsOn_some.symm.trans (seats ▸ Store.seatsOn_some)
  obtain ⟨_, _, _⟩ := first
  obtain ⟨_, _, _⟩ := second
  simp only [Store.mk.injEq]
  refine ⟨Finmap.ext_lookup fun identifier => (flights identifier).1,
    Finmap.ext_lookup fun identifier => (flights identifier).2.1, ?_⟩
  exact Finmap.ext_lookup fun id => Option.ext (reservations id)

end View

section Elsewhere

variable {store : Store} {execution : Execution}

/-- A request leaves what is seen of another flight alone. -/
private theorem Effect.otherFlight (effect : Effect store execution)
    (names : execution.flight? = some identifier) {other : Int32} (different : other ≠ identifier) :
    execution.store.view (.flight other) = store.view (.flight other) := by
  cases effect with
  | nothing change same silent => rw [same]
  | reserve req flight change found enough left notified =>
    rw [Execution.reserved_call change] at names
    obtain rfl : req.identifier = identifier := Option.some.inj names
    have seats : execution.store.seatsOn other = store.seatsOn other := by
      cases recorded : store.reservations.lookup req.id with
      | none =>
        have inserted : execution.store.reservations =
            store.reservations.insert req.id ⟨req.identifier, req.seats⟩ := by
          rw [left, Table.emplace_new recorded]
        have unseen : store.seatsOn other req.id = none := by simp [Store.seatsOn, recorded]
        exact Store.seatsOn_insert inserted (Ne.symm different) unseen
      | some reservation =>
        have kept : execution.store.reservations = store.reservations := by
          rw [left, Table.emplace_found recorded]
        simp only [funext_iff, Store.seatsOn, kept, implies_true]
    simp only [Store.view, seats]
    simp only [left, Finmap.lookup_insert_of_ne _ different, Table.lookup_subscript, if_neg different]
  | cancel req flight reservation change found booked agrees enough left notified =>
    rw [Execution.cancelled_call change] at names
    obtain rfl : req.identifier = identifier := Option.some.inj names
    have owner : reservation.identifier ≠ other := agrees ▸ Ne.symm different
    have inserted : execution.store.reservations = store.reservations.insert req.reservationReqId
        { reservation with seats := reservation.seats - req.seats } := by
      rw [left]
    have unseen : store.seatsOn other req.reservationReqId = none := by
      simp [Store.seatsOn, booked, owner]
    have seats : execution.store.seatsOn other = store.seatsOn other :=
      Store.seatsOn_insert inserted owner unseen
    simp only [Store.view, seats]
    simp only [left, Finmap.lookup_insert_of_ne _ different, Table.lookup_subscript, if_neg different]
  | monitor req flight change found left silent =>
    rw [Execution.monitored_call change] at names
    obtain rfl : req.identifier = identifier := Option.some.inj names
    simp only [Store.view, left, Finmap.lookup_insert_of_ne _ different, Table.lookup_subscript,
      if_neg different]
    rfl

/-- A request records no id but its own. -/
private theorem Effect.otherRecord (effect : Effect store execution) {id : UInt64}
    (different : id ≠ execution.id) :
    execution.store.view (.recorded id) = store.view (.recorded id) := by
  cases effect with
  | nothing change same silent => rw [same]
  | reserve req flight change found enough left notified =>
    rw [Execution.reserved_call change] at different
    have other : id ≠ req.id := different
    simp only [Store.view, left, Table.lookup_emplace, if_neg other]
  | cancel req flight reservation change found booked agrees enough left notified =>
    simp only [Store.view, left, Table.lookup_insert]
    split
    · rename_i same
      rw [same, booked]
      rfl
    · rfl
  | monitor req flight change found left silent => simp only [Store.view, left]

theorem Effect.elsewhere (effect : Effect store execution)
    (names : execution.flight? = some identifier) (place : Place)
    (outside : place ∉ placesOf identifier execution.id) :
    execution.store.view place = store.view place := by
  cases place with
  | flight other =>
    refine effect.otherFlight names fun same => outside ?_
    simp [placesOf, same]
  | recorded id =>
    refine effect.otherRecord fun same => outside ?_
    simp [placesOf, same]

end Elsewhere

section Here

/-- Two stores that a request with this id on this flight cannot tell apart. -/
structure AlikeAt (identifier : Int32) (id : UInt64) (store store' : Store) : Prop where
  flight : store.flights.lookup identifier = store'.flights.lookup identifier
  callbacks : store.callbacks.lookup identifier = store'.callbacks.lookup identifier
  seats : ∀ key, store.seatsOn identifier key = store'.seatsOn identifier key
  recorded : (store.reservations.lookup id).isSome = (store'.reservations.lookup id).isSome

variable {store store' : Store} {identifier : Int32} {id : UInt64}

theorem alikeAt_iff :
    (∀ place ∈ placesOf identifier id, store.view place = store'.view place) ↔
      AlikeAt identifier id store store' := by
  constructor
  · intro same
    have flight := same (.flight identifier) (by simp [placesOf])
    have recorded := same (.recorded id) (by simp [placesOf])
    simp only [Store.view, FlightView.mk.injEq] at flight
    exact ⟨flight.1, flight.2.1, congrFun flight.2.2, recorded⟩
  · intro alike place member
    rcases member with rfl | rfl
    · simp only [Store.view, FlightView.mk.injEq]
      exact ⟨alike.flight, alike.callbacks, funext alike.seats⟩
    · exact alike.recorded

theorem AlikeAt.watching (alike : AlikeAt identifier id store store') :
    store.watching identifier = store'.watching identifier := by
  rw [Store.watching, Store.watching, alike.callbacks]

private theorem AlikeAt.update (alike : AlikeAt identifier id store store') (flight : Flight)
    {reservations reservations' : Table UInt64 Reservation}
    (seats : ∀ key, Store.seatsOn ⟨∅, ∅, reservations⟩ identifier key =
      Store.seatsOn ⟨∅, ∅, reservations'⟩ identifier key)
    (recorded : (reservations.lookup id).isSome = (reservations'.lookup id).isSome) :
    AlikeAt identifier id
      ⟨store.flights.insert identifier flight, (store.callbacks.subscript identifier).1, reservations⟩
      ⟨store'.flights.insert identifier flight, (store'.callbacks.subscript identifier).1,
        reservations'⟩ where
  flight := by rw [Finmap.lookup_insert, Finmap.lookup_insert]
  callbacks := by
    rw [Table.lookup_subscript, Table.lookup_subscript, if_pos rfl, if_pos rfl, subscript_watching,
      subscript_watching, alike.watching]
  seats := seats
  recorded := recorded

/-- What a request does to two stores it cannot tell apart. -/
structure SameRun (call : Call) (identifier : Int32) (store store' : Store) : Prop where
  alike : AlikeAt identifier call.id (call.run store).store (call.run store').store
  launched : (call.run store).launched = (call.run store').launched
  response : (call.run store).response = (call.run store').response ∨
    call.kind.statusCode (call.run store).response ≠ 0 ∧
      call.kind.statusCode (call.run store').response ≠ 0 ∧
      ∃ id, call.reservationReqId? = some id ∧ store.view (.recorded id) ≠ store'.view (.recorded id)

private theorem SameRun.moved {call : Call} {res : call.kind.Response} {launched : List Launch}
    {left left' : Store} (alike : AlikeAt identifier call.id left left')
    (run : call.run store = ⟨left, res, launched⟩)
    (run' : call.run store' = ⟨left', res, launched⟩) : SameRun call identifier store store' where
  alike := by rwa [run, run']
  launched := by rw [run, run']
  response := .inl (by rw [run, run'])

variable (fromAddr : SocketAddress) (now : TimePoint)

private theorem sameRun_flightInfo (req : FlightInfoRequest)
    (alike : AlikeAt req.identifier req.id store store') :
    SameRun ⟨.flightInfo, req, fromAddr, now⟩ req.identifier store store' := by
  cases found : store'.flights.lookup req.identifier with
  | none =>
    have run (left : Store) (missing : left.flights.lookup req.identifier = none) :
        Call.run ⟨.flightInfo, req, fromAddr, now⟩ left =
          ⟨left, ⟨req.id, 1, .ofString "Flight not found", []⟩, []⟩ := by
      simp [Call.run, executeKind, executeFlightInfo, missing]
    exact .moved alike (run store (alike.flight.trans found)) (run store' found)
  | some flight =>
    have run (left : Store) (known : left.flights.lookup req.identifier = some flight) :
        Call.run ⟨.flightInfo, req, fromAddr, now⟩ left = ⟨left, ⟨req.id, 0, [], [flight]⟩, []⟩ := by
      simp [Call.run, executeKind, executeFlightInfo, known]
    exact .moved alike (run store (alike.flight.trans found)) (run store' found)

private theorem AlikeAt.emplace (alike : AlikeAt identifier id store store') (seats : Int32) :
    (∀ key, Store.seatsOn ⟨∅, ∅, store.reservations.emplace id ⟨identifier, seats⟩⟩ identifier key =
      Store.seatsOn ⟨∅, ∅, store'.reservations.emplace id ⟨identifier, seats⟩⟩ identifier key) ∧
    ((store.reservations.emplace id ⟨identifier, seats⟩).lookup id).isSome =
      ((store'.reservations.emplace id ⟨identifier, seats⟩).lookup id).isSome := by
  have recorded := alike.recorded
  constructor
  · intro key
    have other := alike.seats key
    unfold Store.seatsOn at other ⊢
    rw [Table.lookup_emplace, Table.lookup_emplace]
    split
    · rename_i same
      subst same
      cases found : store.reservations.lookup key with
      | none =>
        cases found' : store'.reservations.lookup key with
        | none => rfl
        | some reservation => simp [found, found'] at recorded
      | some reservation =>
        cases found' : store'.reservations.lookup key with
        | none => simp [found, found'] at recorded
        | some reservation' =>
          rw [found, found'] at other
          exact other
    · exact other
  · rw [Table.lookup_emplace, Table.lookup_emplace, if_pos rfl, if_pos rfl]
    rfl

private theorem sameRun_seatReservation (req : SeatReservationRequest)
    (alike : AlikeAt req.identifier req.id store store') :
    SameRun ⟨.seatReservation, req, fromAddr, now⟩ req.identifier store store' := by
  cases found : store'.flights.lookup req.identifier with
  | none =>
    have run (left : Store) (missing : left.flights.lookup req.identifier = none) :
        Call.run ⟨.seatReservation, req, fromAddr, now⟩ left =
          ⟨left, ⟨req.id, 1, .ofString "Flight not found", req.identifier, 0⟩, []⟩ := by
      simp [Call.run, executeKind, executeSeatReservation, missing]
    exact .moved alike (run store (alike.flight.trans found)) (run store' found)
  | some flight =>
    by_cases short : flight.seatAvailability < req.seats
    · have run (left : Store) (known : left.flights.lookup req.identifier = some flight) :
          Call.run ⟨.seatReservation, req, fromAddr, now⟩ left =
            ⟨left, ⟨req.id, 2, .ofString "No enough seats", req.identifier, 0⟩, []⟩ := by
        simp [Call.run, executeKind, executeSeatReservation, known, short]
      exact .moved alike (run store (alike.flight.trans found)) (run store' found)
    · have run (left : Store) (known : left.flights.lookup req.identifier = some flight)
          (watching : left.watching req.identifier = store'.watching req.identifier) :
          Call.run ⟨.seatReservation, req, fromAddr, now⟩ left =
            ⟨⟨left.flights.insert req.identifier
                { flight with seatAvailability := flight.seatAvailability - req.seats },
              (left.callbacks.subscript req.identifier).1,
              left.reservations.emplace req.id ⟨req.identifier, req.seats⟩⟩,
            ⟨req.id, 0, [], req.identifier, req.seats⟩,
            notify (store'.watching req.identifier) now
              ⟨0, flight.identifier, flight.seatAvailability - req.seats⟩⟩ := by
        simp [Call.run, executeKind, executeSeatReservation, known, short, subscript_watching,
          watching]
      obtain ⟨seats, recorded⟩ := alike.emplace req.seats
      exact .moved (alike.update _ seats recorded)
        (run store (alike.flight.trans found) alike.watching) (run store' found rfl)

private theorem sameRun_seatAvailabilityMonitoring (req : SeatAvailabilityMonitoringRequest)
    (alike : AlikeAt req.identifier req.id store store') :
    SameRun ⟨.seatAvailabilityMonitoring, req, fromAddr, now⟩ req.identifier store store' := by
  cases found : store'.flights.lookup req.identifier with
  | none =>
    have run (left : Store) (missing : left.flights.lookup req.identifier = none) :
        Call.run ⟨.seatAvailabilityMonitoring, req, fromAddr, now⟩ left =
          ⟨left, ⟨req.id, 1, .ofString "Flight not found", req.identifier, 0⟩, []⟩ := by
      simp [Call.run, executeKind, executeSeatAvailabilityMonitoring, missing]
    exact .moved alike (run store (alike.flight.trans found)) (run store' found)
  | some flight =>
    have run (left : Store) (known : left.flights.lookup req.identifier = some flight)
        (watching : left.watching req.identifier = store'.watching req.identifier) :
        Call.run ⟨.seatAvailabilityMonitoring, req, fromAddr, now⟩ left =
          ⟨{ left with
              callbacks := (left.callbacks.subscript req.identifier).1.insert req.identifier
                (store'.watching req.identifier ++
                  [⟨{ fromAddr with port := req.port }, now + seconds req.monitorIntervalSec,
                    req.id⟩]) },
          ⟨req.id, 0, [], req.identifier,
            TimePoint.timestamp (now + seconds req.monitorIntervalSec)⟩, []⟩ := by
      simp [Call.run, executeKind, executeSeatAvailabilityMonitoring, known, subscript_watching,
        watching]
    refine .moved ?_ (run store (alike.flight.trans found) alike.watching) (run store' found rfl)
    refine ⟨alike.flight, ?_, alike.seats, alike.recorded⟩
    rw [Finmap.lookup_insert, Finmap.lookup_insert]

private theorem AlikeAt.insert (alike : AlikeAt identifier id store store') (key : UInt64)
    (reservation : Reservation) :
    (∀ other, Store.seatsOn ⟨∅, ∅, store.reservations.insert key reservation⟩ identifier other =
      Store.seatsOn ⟨∅, ∅, store'.reservations.insert key reservation⟩ identifier other) ∧
    ((store.reservations.insert key reservation).lookup id).isSome =
      ((store'.reservations.insert key reservation).lookup id).isSome := by
  constructor
  · intro other
    have same := alike.seats other
    unfold Store.seatsOn at same ⊢
    rw [Table.lookup_insert, Table.lookup_insert]
    split
    · rfl
    · exact same
  · rw [Table.lookup_insert, Table.lookup_insert]
    split
    · rfl
    · exact alike.recorded

/-- A cancellation that names no reservation of its flight is refused. -/
private theorem run_refused {left : Store} (req : SeatReservationCancellationRequest)
    (unseen : left.seatsOn req.identifier req.reservationReqId = none) :
    Call.run ⟨.seatReservationCancellation, req, fromAddr, now⟩ left =
      ⟨left, if (left.reservations.lookup req.reservationReqId).isSome
        then ⟨req.id, 2, .ofString "Identifier mismatch", 0, 0⟩
        else ⟨req.id, 1, .ofString "Reservation not found", 0, 0⟩, []⟩ := by
  cases found : left.reservations.lookup req.reservationReqId with
  | none => simp [Call.run, executeKind, executeSeatReservationCancellation, found]
  | some reservation =>
    have other : reservation.identifier ≠ req.identifier := by
      simpa [Store.seatsOn, found] using unseen
    simp [Call.run, executeKind, executeSeatReservationCancellation, found, other]

private theorem sameRun_refused (req : SeatReservationCancellationRequest)
    (alike : AlikeAt req.identifier req.id store store')
    (unseen : store'.seatsOn req.identifier req.reservationReqId = none) :
    SameRun ⟨.seatReservationCancellation, req, fromAddr, now⟩ req.identifier store store' := by
  have run := run_refused fromAddr now req ((alike.seats req.reservationReqId).trans unseen)
  have run' := run_refused fromAddr now req unseen
  by_cases same : (store.reservations.lookup req.reservationReqId).isSome =
      (store'.reservations.lookup req.reservationReqId).isSome
  · rw [same] at run
    exact .moved alike run run'
  · refine ⟨by rwa [run, run'], by rw [run, run'], .inr ⟨?_, ?_, req.reservationReqId, rfl, same⟩⟩
    · rw [run]
      split <;> simp [Kind.statusCode]
    · rw [run']
      split <;> simp [Kind.statusCode]

private theorem sameRun_seatReservationCancellation (req : SeatReservationCancellationRequest)
    (alike : AlikeAt req.identifier req.id store store') (booked : store'.Booked) :
    SameRun ⟨.seatReservationCancellation, req, fromAddr, now⟩ req.identifier store store' := by
  cases seen : store'.seatsOn req.identifier req.reservationReqId with
  | none => exact sameRun_refused fromAddr now req alike seen
  | some seats =>
    have recorded' := Store.seatsOn_some.mp seen
    have recorded := Store.seatsOn_some.mp ((alike.seats req.reservationReqId).trans seen)
    obtain ⟨flight, found⟩ := booked req.reservationReqId _ recorded'
    have found' := alike.flight.trans found
    by_cases short : seats < req.seats
    · have run (left : Store) (known : left.flights.lookup req.identifier = some flight)
          (present : left.reservations.lookup req.reservationReqId = some ⟨req.identifier, seats⟩) :
          Call.run ⟨.seatReservationCancellation, req, fromAddr, now⟩ left =
            ⟨left, ⟨req.id, 3, .ofString "Too many seats to cancel", 0, 0⟩, []⟩ := by
        simp [Call.run, executeKind, executeSeatReservationCancellation, present, short,
          Table.subscript_found known]
      exact .moved alike (run store found' recorded) (run store' found recorded')
    · have run (left : Store) (known : left.flights.lookup req.identifier = some flight)
          (present : left.reservations.lookup req.reservationReqId = some ⟨req.identifier, seats⟩)
          (watching : left.watching req.identifier = store'.watching req.identifier) :
          Call.run ⟨.seatReservationCancellation, req, fromAddr, now⟩ left =
            ⟨⟨left.flights.insert req.identifier
                { flight with seatAvailability := flight.seatAvailability + req.seats },
              (left.callbacks.subscript req.identifier).1,
              left.reservations.insert req.reservationReqId ⟨req.identifier, seats - req.seats⟩⟩,
            ⟨req.id, 0, [], req.identifier, req.seats⟩,
            notify (store'.watching req.identifier) now
              ⟨0, flight.identifier, flight.seatAvailability + req.seats⟩⟩ := by
        simp [Call.run, executeKind, executeSeatReservationCancellation, present, short,
          Table.subscript_found known, subscript_watching, watching]
      obtain ⟨kept, known⟩ := alike.insert req.reservationReqId ⟨req.identifier, seats - req.seats⟩
      exact .moved (alike.update _ kept known) (run store found' recorded alike.watching)
        (run store' found recorded' rfl)

/-- A request on a flight does the same to stores that are alike there. -/
theorem Call.sameRun {call : Call} (names : call.flight? = some identifier)
    (alike : AlikeAt identifier call.id store store') (booked : store'.Booked) :
    SameRun call identifier store store' := by
  obtain ⟨kind, req, fromAddr, now⟩ := call
  cases kind with
  | flightSearch => cases names
  | flightInfo =>
    cases names
    exact sameRun_flightInfo fromAddr now req alike
  | seatReservation =>
    cases names
    exact sameRun_seatReservation fromAddr now req alike
  | seatAvailabilityMonitoring =>
    cases names
    exact sameRun_seatAvailabilityMonitoring fromAddr now req alike
  | priceRangeSearch => cases names
  | seatReservationCancellation =>
    cases names
    exact sameRun_seatReservationCancellation fromAddr now req alike booked

end Here

end Dfis
