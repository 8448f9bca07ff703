import Dfis.Server.State
import Mathlib.Data.Multiset.Sort

/-! What `Serve` does with a decoded request that is neither lost nor a
duplicate, one definition for each kind. -/

namespace Dfis

open Base

/-- The store an executed request leaves, its response and the threads it starts. -/
structure Executed (Response : Type) where
  store : Store
  response : Response
  launched : List Launch

/-- The identifiers of the matching flights, sorted. -/
def matching (store : Store) (wanted : Flight → Bool) : List Int32 :=
  ((store.flights.entries.map fun entry => entry.2).filter fun flight => wanted flight).map
    Flight.identifier |>.sort

def executeFlightSearch (store : Store) (req : FlightSearchRequest) :
    Executed FlightSearchResponse :=
  let results := matching store fun flight =>
    flight.source == req.source && flight.destination == req.destination
  if results.isEmpty then ⟨store, ⟨req.id, 1, .ofString "Flights not found", results⟩, []⟩
  else ⟨store, ⟨req.id, 0, [], results⟩, []⟩

def executeFlightInfo (store : Store) (req : FlightInfoRequest) : Executed FlightInfoResponse :=
  match store.flights.lookup req.identifier with
  | none => ⟨store, ⟨req.id, 1, .ofString "Flight not found", []⟩, []⟩
  | some flight => ⟨store, ⟨req.id, 0, [], [flight]⟩, []⟩

/-- The notification loop: a thread for every callback that has not expired. -/
def notify (callbacks : List Callback) (now : TimePoint) (cbReq : SeatAvailabilityCallbackRequest) :
    List Launch :=
  (callbacks.filter fun callback => now < callback.monitorEnd).map fun callback =>
    ⟨callback.toAddr, cbReq, callback.owner⟩

def executeSeatReservation (store : Store) (now : TimePoint) (req : SeatReservationRequest) :
    Executed SeatReservationResponse :=
  match store.flights.lookup req.identifier with
  | none => ⟨store, ⟨req.id, 1, .ofString "Flight not found", req.identifier, 0⟩, []⟩
  | some flight =>
    if flight.seatAvailability < req.seats then
      ⟨store, ⟨req.id, 2, .ofString "No enough seats", req.identifier, 0⟩, []⟩
    else
      let flight := { flight with seatAvailability := flight.seatAvailability - req.seats }
      let (callbacks, watching) := store.callbacks.subscript req.identifier
      { store := {
          flights := store.flights.insert req.identifier flight
          callbacks := callbacks
          reservations := store.reservations.emplace req.id ⟨req.identifier, req.seats⟩ }
        response := ⟨req.id, 0, [], req.identifier, req.seats⟩
        launched := notify watching now ⟨0, flight.identifier, flight.seatAvailability⟩ }

def executeSeatAvailabilityMonitoring (store : Store) (fromAddr : SocketAddress) (now : TimePoint)
    (req : SeatAvailabilityMonitoringRequest) : Executed SeatAvailabilityMonitoringResponse :=
  match store.flights.lookup req.identifier with
  | none => ⟨store, ⟨req.id, 1, .ofString "Flight not found", req.identifier, 0⟩, []⟩
  | some _ =>
    let monitorEnd : TimePoint := now + seconds req.monitorIntervalSec
    let toAddr := { fromAddr with port := req.port }
    -- The insertion of an empty vector and the subscript after it come to one subscript.
    let (callbacks, watching) := store.callbacks.subscript req.identifier
    { store := { store with
        callbacks := callbacks.insert req.identifier (watching ++ [⟨toAddr, monitorEnd, req.id⟩]) }
      response := ⟨req.id, 0, [], req.identifier, monitorEnd.timestamp⟩
      launched := [] }

def executePriceRangeSearch (store : Store) (req : PriceRangeSearchRequest) :
    Executed PriceRangeSearchResponse :=
  let results := matching store fun flight =>
    req.from.le flight.airfare && flight.airfare.le req.to
  if results.isEmpty then ⟨store, ⟨req.id, 1, .ofString "Flights not found", results⟩, []⟩
  else ⟨store, ⟨req.id, 0, [], results⟩, []⟩

def executeSeatReservationCancellation (store : Store) (now : TimePoint)
    (req : SeatReservationCancellationRequest) : Executed SeatReservationCancellationResponse :=
  match store.reservations.lookup req.reservationReqId with
  | none => ⟨store, ⟨req.id, 1, .ofString "Reservation not found", 0, 0⟩, []⟩
  | some reservation =>
    if reservation.identifier ≠ req.identifier then
      ⟨store, ⟨req.id, 2, .ofString "Identifier mismatch", 0, 0⟩, []⟩
    else
      let (flights, flight) := store.flights.subscript req.identifier
      if reservation.seats < req.seats then
        ⟨{ store with flights := flights },
          ⟨req.id, 3, .ofString "Too many seats to cancel", 0, 0⟩, []⟩
      else
        let reservation := { reservation with seats := reservation.seats - req.seats }
        let flight := { flight with seatAvailability := flight.seatAvailability + req.seats }
        let (callbacks, watching) := store.callbacks.subscript req.identifier
        { store := {
            flights := flights.insert req.identifier flight
            callbacks := callbacks
            reservations := store.reservations.insert req.reservationReqId reservation }
          response := ⟨req.id, 0, [], req.identifier, req.seats⟩
          launched := notify watching now ⟨0, flight.identifier, flight.seatAvailability⟩ }

/-- The execution of a request of any kind. -/
def executeKind (store : Store) (fromAddr : SocketAddress) (now : TimePoint) :
    (kind : Kind) → kind.Request → Executed kind.Response
  | .flightSearch, req => executeFlightSearch store req
  | .flightInfo, req => executeFlightInfo store req
  | .seatReservation, req => executeSeatReservation store now req
  | .seatAvailabilityMonitoring, req => executeSeatAvailabilityMonitoring store fromAddr now req
  | .priceRangeSearch, req => executePriceRangeSearch store req
  | .seatReservationCancellation, req => executeSeatReservationCancellation store now req

/-- What executing the call on this store gives. -/
def Call.run (call : Call) (store : Store) : Executed call.kind.Response :=
  executeKind store call.fromAddr call.now call.kind call.request

/-- The same, with the request kept beside its results. -/
def Call.execute (call : Call) (store : Store) : Execution where
  toCall := call
  response := (call.run store).response
  launched := (call.run store).launched
  store := (call.run store).store

end Dfis
