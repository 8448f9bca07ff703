import Dfis.Wire.Reader
import Dfis.Messages.Types

/-! `Marshal` and `Unmarshal` of `Flight` and the message structures, over the
serialisers of the srpc library. -/

namespace Dfis

open Wire

/-- The serialisers the message code calls. srpc is a submodule whose sources
are not part of the repository, so the code is read over any of them. -/
structure Srpc where
  i32 : Int32 ≃ Block 4
  i64 : Int64 ≃ Block 8
  u16 : UInt16 ≃ Block 2
  u64 : UInt64 ≃ Block 8
  f32 : F32 ≃ Block 4
  string : Codec Text
  vectorI32 : Codec (List Int32)
  vector : {α : Type} → Codec α → Codec (List α)

/-- The string and vector decoders undo their encoders before any trailing
bytes; for a vector, when its elements take up bytes at all. -/
structure Srpc.RoundTrips (srpc : Srpc) : Prop where
  string : srpc.string.RoundTrips
  vectorI32 : srpc.vectorI32.RoundTrips
  vector : ∀ {α : Type} {element : Codec α}, element.RoundTrips →
    (∀ value, element.marshal value ≠ []) → (srpc.vector element).RoundTrips

/-- The string and vector decoders accept encodings only, within their span. -/
structure Srpc.Sound (srpc : Srpc) : Prop where
  string : srpc.string.Sound
  vectorI32 : srpc.vectorI32.Sound
  vector : ∀ {α : Type} {element : Codec α}, element.Sound → (srpc.vector element).Sound

/-- A string is its 8-byte size followed by its bytes. -/
def Srpc.CountsStrings (srpc : Srpc) : Prop :=
  ∀ text : Text,
    srpc.string.marshal text = (srpc.i64 (Int64.ofNat text.length)).toList ++ text

/-- The leading `kMessageType` of a message. -/
def marshalTag (srpc : Srpc) (message : Message) : List UInt8 :=
  (srpc.i32 message.kMessageType.code).toList

/-- The check of `kMessageType`. -/
def unmarshalTag (srpc : Srpc) (message : Message) : Reader Unit :=
  .expect srpc.i32 message.kMessageType.code

section Flight

def marshalFlight (srpc : Srpc) (flight : Flight) : List UInt8 :=
  (srpc.i32 flight.identifier).toList ++
  srpc.string.marshal flight.source ++
  srpc.string.marshal flight.destination ++
  (srpc.i64 flight.departureTime).toList ++
  (srpc.f32 flight.airfare).toList ++
  (srpc.i32 flight.seatAvailability).toList

def unmarshalFlight (srpc : Srpc) : Reader Flight := do
  let identifier ← .number srpc.i32
  let source ← .coded srpc.string
  let destination ← .coded srpc.string
  let departureTime ← .number srpc.i64
  let airfare ← .number srpc.f32
  let seatAvailability ← .number srpc.i32
  return { identifier, source, destination, departureTime, airfare, seatAvailability }

def flightCodec (srpc : Srpc) : Codec Flight := ⟨marshalFlight srpc, (unmarshalFlight srpc).run⟩

end Flight

section FlightSearch

def marshalFlightSearchRequest (srpc : Srpc) (request : FlightSearchRequest) : List UInt8 :=
  marshalTag srpc (.request .flightSearch) ++
  (srpc.u64 request.id).toList ++
  srpc.string.marshal request.source ++
  srpc.string.marshal request.destination

def unmarshalFlightSearchRequest (srpc : Srpc) : Reader FlightSearchRequest := do
  unmarshalTag srpc (.request .flightSearch)
  let id ← .number srpc.u64
  let source ← .coded srpc.string
  let destination ← .coded srpc.string
  return { id, source, destination }

def marshalFlightSearchResponse (srpc : Srpc) (response : FlightSearchResponse) : List UInt8 :=
  marshalTag srpc (.response .flightSearch) ++
  (srpc.u64 response.id).toList ++
  (srpc.i32 response.statusCode).toList ++
  srpc.string.marshal response.message ++
  srpc.vectorI32.marshal response.flights

def unmarshalFlightSearchResponse (srpc : Srpc) : Reader FlightSearchResponse := do
  unmarshalTag srpc (.response .flightSearch)
  let id ← .number srpc.u64
  let statusCode ← .number srpc.i32
  let message ← .coded srpc.string
  let flights ← .coded srpc.vectorI32
  return { id, statusCode, message, flights }

def marshalPriceRangeSearchRequest (srpc : Srpc) (request : PriceRangeSearchRequest) : List UInt8 :=
  marshalTag srpc (.request .priceRangeSearch) ++
  (srpc.u64 request.id).toList ++
  (srpc.f32 request.from).toList ++
  (srpc.f32 request.to).toList

def unmarshalPriceRangeSearchRequest (srpc : Srpc) : Reader PriceRangeSearchRequest := do
  unmarshalTag srpc (.request .priceRangeSearch)
  let id ← .number srpc.u64
  let lower ← .number srpc.f32
  let upper ← .number srpc.f32
  return ⟨id, lower, upper⟩

def marshalPriceRangeSearchResponse (srpc : Srpc) (response : PriceRangeSearchResponse) :
    List UInt8 :=
  marshalTag srpc (.response .priceRangeSearch) ++
  (srpc.u64 response.id).toList ++
  (srpc.i32 response.statusCode).toList ++
  srpc.string.marshal response.message ++
  srpc.vectorI32.marshal response.flights

def unmarshalPriceRangeSearchResponse (srpc : Srpc) : Reader PriceRangeSearchResponse := do
  unmarshalTag srpc (.response .priceRangeSearch)
  let id ← .number srpc.u64
  let statusCode ← .number srpc.i32
  let message ← .coded srpc.string
  let flights ← .coded srpc.vectorI32
  return { id, statusCode, message, flights }

end FlightSearch

section FlightInfo

def marshalFlightInfoRequest (srpc : Srpc) (request : FlightInfoRequest) : List UInt8 :=
  marshalTag srpc (.request .flightInfo) ++
  (srpc.u64 request.id).toList ++
  (srpc.i32 request.identifier).toList

def unmarshalFlightInfoRequest (srpc : Srpc) : Reader FlightInfoRequest := do
  unmarshalTag srpc (.request .flightInfo)
  let id ← .number srpc.u64
  let identifier ← .number srpc.i32
  return { id, identifier }

def marshalFlightInfoResponse (srpc : Srpc) (response : FlightInfoResponse) : List UInt8 :=
  marshalTag srpc (.response .flightInfo) ++
  (srpc.u64 response.id).toList ++
  (srpc.i32 response.statusCode).toList ++
  srpc.string.marshal response.message ++
  (srpc.vector (flightCodec srpc)).marshal response.flight

def unmarshalFlightInfoResponse (srpc : Srpc) : Reader FlightInfoResponse := do
  unmarshalTag srpc (.response .flightInfo)
  let id ← .number srpc.u64
  let statusCode ← .number srpc.i32
  let message ← .coded srpc.string
  let flight ← .coded (srpc.vector (flightCodec srpc))
  return { id, statusCode, message, flight }

end FlightInfo

section SeatReservation

def marshalSeatReservationRequest (srpc : Srpc) (request : SeatReservationRequest) : List UInt8 :=
  marshalTag srpc (.request .seatReservation) ++
  (srpc.u64 request.id).toList ++
  (srpc.i32 request.identifier).toList ++
  (srpc.i32 request.seats).toList

def unmarshalSeatReservationRequest (srpc : Srpc) : Reader SeatReservationRequest := do
  unmarshalTag srpc (.request .seatReservation)
  let id ← .number srpc.u64
  let identifier ← .number srpc.i32
  let seats ← .number srpc.i32
  return { id, identifier, seats }

def marshalSeatReservationResponse (srpc : Srpc) (response : SeatReservationResponse) :
    List UInt8 :=
  marshalTag srpc (.response .seatReservation) ++
  (srpc.u64 response.id).toList ++
  (srpc.i32 response.statusCode).toList ++
  srpc.string.marshal response.message ++
  (srpc.i32 response.identifier).toList ++
  (srpc.i32 response.seats).toList

def unmarshalSeatReservationResponse (srpc : Srpc) : Reader SeatReservationResponse := do
  unmarshalTag srpc (.response .seatReservation)
  let id ← .number srpc.u64
  let statusCode ← .number srpc.i32
  let message ← .coded srpc.string
  let identifier ← .number srpc.i32
  let seats ← .number srpc.i32
  return { id, statusCode, message, identifier, seats }

def marshalSeatReservationCancellationRequest (srpc : Srpc)
    (request : SeatReservationCancellationRequest) : List UInt8 :=
  marshalTag srpc (.request .seatReservationCancellation) ++
  (srpc.u64 request.id).toList ++
  (srpc.u64 request.reservationReqId).toList ++
  (srpc.i32 request.identifier).toList ++
  (srpc.i32 request.seats).toList

def unmarshalSeatReservationCancellationRequest (srpc : Srpc) :
    Reader SeatReservationCancellationRequest := do
  unmarshalTag srpc (.request .seatReservationCancellation)
  let id ← .number srpc.u64
  let reservationReqId ← .number srpc.u64
  let identifier ← .number srpc.i32
  let seats ← .number srpc.i32
  return { id, reservationReqId, identifier, seats }

def marshalSeatReservationCancellationResponse (srpc : Srpc)
    (response : SeatReservationCancellationResponse) : List UInt8 :=
  marshalTag srpc (.response .seatReservationCancellation) ++
  (srpc.u64 response.id).toList ++
  (srpc.i32 response.statusCode).toList ++
  srpc.string.marshal response.message ++
  (srpc.i32 response.identifier).toList ++
  (srpc.i32 response.seats).toList

def unmarshalSeatReservationCancellationResponse (srpc : Srpc) :
    Reader SeatReservationCancellationResponse := do
  unmarshalTag srpc (.response .seatReservationCancellation)
  let id ← .number srpc.u64
  let statusCode ← .number srpc.i32
  let message ← .coded srpc.string
  let identifier ← .number srpc.i32
  let seats ← .number srpc.i32
  return { id, statusCode, message, identifier, seats }

end SeatReservation

section SeatAvailability

def marshalSeatAvailabilityMonitoringRequest (srpc : Srpc)
    (request : SeatAvailabilityMonitoringRequest) : List UInt8 :=
  marshalTag srpc (.request .seatAvailabilityMonitoring) ++
  (srpc.u64 request.id).toList ++
  (srpc.i32 request.identifier).toList ++
  (srpc.u16 request.port).toList ++
  (srpc.i32 request.monitorIntervalSec).toList

def unmarshalSeatAvailabilityMonitoringRequest (srpc : Srpc) :
    Reader SeatAvailabilityMonitoringRequest := do
  unmarshalTag srpc (.request .seatAvailabilityMonitoring)
  let id ← .number srpc.u64
  let identifier ← .number srpc.i32
  let port ← .number srpc.u16
  let monitorIntervalSec ← .number srpc.i32
  return { id, identifier, port, monitorIntervalSec }

def marshalSeatAvailabilityMonitoringResponse (srpc : Srpc)
    (response : SeatAvailabilityMonitoringResponse) : List UInt8 :=
  marshalTag srpc (.response .seatAvailabilityMonitoring) ++
  (srpc.u64 response.id).toList ++
  (srpc.i32 response.statusCode).toList ++
  srpc.string.marshal response.message ++
  (srpc.i32 response.identifier).toList ++
  (srpc.i64 response.monitorEnd).toList

def unmarshalSeatAvailabilityMonitoringResponse (srpc : Srpc) :
    Reader SeatAvailabilityMonitoringResponse := do
  unmarshalTag srpc (.response .seatAvailabilityMonitoring)
  let id ← .number srpc.u64
  let statusCode ← .number srpc.i32
  let message ← .coded srpc.string
  let identifier ← .number srpc.i32
  let monitorEnd ← .number srpc.i64
  return { id, statusCode, message, identifier, monitorEnd }

def marshalSeatAvailabilityCallbackRequest (srpc : Srpc)
    (request : SeatAvailabilityCallbackRequest) : List UInt8 :=
  marshalTag srpc .callbackRequest ++
  (srpc.u64 request.id).toList ++
  (srpc.i32 request.identifier).toList ++
  (srpc.i32 request.seatAvailability).toList

def unmarshalSeatAvailabilityCallbackRequest (srpc : Srpc) :
    Reader SeatAvailabilityCallbackRequest := do
  unmarshalTag srpc .callbackRequest
  let id ← .number srpc.u64
  let identifier ← .number srpc.i32
  let seatAvailability ← .number srpc.i32
  return { id, identifier, seatAvailability }

def marshalSeatAvailabilityCallbackResponse (srpc : Srpc)
    (response : SeatAvailabilityCallbackResponse) : List UInt8 :=
  marshalTag srpc .callbackResponse ++
  (srpc.u64 response.id).toList ++
  (srpc.i32 response.statusCode).toList

def unmarshalSeatAvailabilityCallbackResponse (srpc : Srpc) :
    Reader SeatAvailabilityCallbackResponse := do
  unmarshalTag srpc .callbackResponse
  let id ← .number srpc.u64
  let statusCode ← .number srpc.i32
  return { id, statusCode }

end SeatAvailability

/-- `srpc::Marshal<T>`. -/
def Message.marshal (srpc : Srpc) : (message : Message) → message.Value → List UInt8
  | .request .flightSearch => marshalFlightSearchRequest srpc
  | .request .flightInfo => marshalFlightInfoRequest srpc
  | .request .seatReservation => marshalSeatReservationRequest srpc
  | .request .seatAvailabilityMonitoring => marshalSeatAvailabilityMonitoringRequest srpc
  | .request .priceRangeSearch => marshalPriceRangeSearchRequest srpc
  | .request .seatReservationCancellation => marshalSeatReservationCancellationRequest srpc
  | .response .flightSearch => marshalFlightSearchResponse srpc
  | .response .flightInfo => marshalFlightInfoResponse srpc
  | .response .seatReservation => marshalSeatReservationResponse srpc
  | .response .seatAvailabilityMonitoring => marshalSeatAvailabilityMonitoringResponse srpc
  | .response .priceRangeSearch => marshalPriceRangeSearchResponse srpc
  | .response .seatReservationCancellation => marshalSeatReservationCancellationResponse srpc
  | .callbackRequest => marshalSeatAvailabilityCallbackRequest srpc
  | .callbackResponse => marshalSeatAvailabilityCallbackResponse srpc

/-- The body of `srpc::Unmarshal<T>`. -/
def Message.reader (srpc : Srpc) : (message : Message) → Reader message.Value
  | .request .flightSearch => unmarshalFlightSearchRequest srpc
  | .request .flightInfo => unmarshalFlightInfoRequest srpc
  | .request .seatReservation => unmarshalSeatReservationRequest srpc
  | .request .seatAvailabilityMonitoring => unmarshalSeatAvailabilityMonitoringRequest srpc
  | .request .priceRangeSearch => unmarshalPriceRangeSearchRequest srpc
  | .request .seatReservationCancellation => unmarshalSeatReservationCancellationRequest srpc
  | .response .flightSearch => unmarshalFlightSearchResponse srpc
  | .response .flightInfo => unmarshalFlightInfoResponse srpc
  | .response .seatReservation => unmarshalSeatReservationResponse srpc
  | .response .seatAvailabilityMonitoring => unmarshalSeatAvailabilityMonitoringResponse srpc
  | .response .priceRangeSearch => unmarshalPriceRangeSearchResponse srpc
  | .response .seatReservationCancellation => unmarshalSeatReservationCancellationResponse srpc
  | .callbackRequest => unmarshalSeatAvailabilityCallbackRequest srpc
  | .callbackResponse => unmarshalSeatAvailabilityCallbackResponse srpc

/-- `srpc::Unmarshal<T>`. -/
def Message.unmarshal (srpc : Srpc) (message : Message) : Span → Unmarshalled message.Value :=
  (message.reader srpc).run

def Message.codec (srpc : Srpc) (message : Message) : Codec message.Value :=
  ⟨message.marshal srpc, message.unmarshal srpc⟩

end Dfis
