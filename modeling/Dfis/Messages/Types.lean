/-! The message structures and their tags, as the headers under `messages`
declare them. -/

namespace Dfis

/-- `std::string`: any sequence of bytes. -/
abbrev Text : Type := List UInt8

/-- A string literal of the source. All of them are ASCII. -/
def Text.ofString (literal : String) : Text := literal.toList.map fun c => UInt8.ofNat c.toNat

/-- `srpc::f32`, carried as its bit pattern. -/
structure F32 where
  bits : UInt32
  deriving DecidableEq, Repr

/-- Everything but the sign bit. -/
def F32.magnitude (value : F32) : Nat := (value.bits &&& 0x7fffffff).toNat

def F32.isNaN (value : F32) : Bool := decide (0x7f800000 < value.magnitude)

/-- The sign and magnitude read as one integer; both zeros have rank zero. -/
def F32.rank (value : F32) : Int :=
  if value.bits < 0x80000000 then value.magnitude else -value.magnitude

/-- `lower <= upper` of IEEE binary32: false as soon as one side is a NaN. -/
def F32.le (lower upper : F32) : Bool :=
  !lower.isNaN && !upper.isNaN && decide (lower.rank ≤ upper.rank)

structure Flight where
  identifier : Int32
  source : Text
  destination : Text
  departureTime : Int64
  airfare : F32
  seatAvailability : Int32
  deriving DecidableEq, Repr

/-- The value-initialised flight that `operator[]` inserts. -/
instance : Inhabited Flight where
  default := ⟨0, [], [], 0, ⟨0⟩, 0⟩

inductive MessageType where
  | flightSearchRequest
  | flightSearchResponse
  | flightInfoRequest
  | flightInfoResponse
  | seatReservationRequest
  | seatReservationResponse
  | seatAvailabilityMonitoringRequest
  | seatAvailabilityMonitoringResponse
  | seatAvailabilityCallbackRequest
  | seatAvailabilityCallbackResponse
  | priceRangeSearchRequest
  | priceRangeSearchResponse
  | seatReservationCancellationRequest
  | seatReservationCancellationResponse
  deriving DecidableEq, Repr

/-- The enumerators' values. -/
def MessageType.code : MessageType → Int32
  | .flightSearchRequest => 1
  | .flightSearchResponse => 2
  | .flightInfoRequest => 3
  | .flightInfoResponse => 4
  | .seatReservationRequest => 5
  | .seatReservationResponse => 6
  | .seatAvailabilityMonitoringRequest => 7
  | .seatAvailabilityMonitoringResponse => 8
  | .seatAvailabilityCallbackRequest => 9
  | .seatAvailabilityCallbackResponse => 10
  | .priceRangeSearchRequest => 11
  | .priceRangeSearchResponse => 12
  | .seatReservationCancellationRequest => 13
  | .seatReservationCancellationResponse => 14

inductive InvocationSemantic where
  | atLeastOnce
  | atMostOnce
  deriving DecidableEq, Repr

structure FlightSearchRequest where
  id : UInt64
  source : Text
  destination : Text
  deriving DecidableEq, Repr

structure FlightSearchResponse where
  id : UInt64
  statusCode : Int32
  message : Text
  flights : List Int32
  deriving DecidableEq, Repr

structure PriceRangeSearchRequest where
  id : UInt64
  «from» : F32
  «to» : F32
  deriving DecidableEq, Repr

structure PriceRangeSearchResponse where
  id : UInt64
  statusCode : Int32
  message : Text
  flights : List Int32
  deriving DecidableEq, Repr

structure FlightInfoRequest where
  id : UInt64
  identifier : Int32
  deriving DecidableEq, Repr

structure FlightInfoResponse where
  id : UInt64
  statusCode : Int32
  message : Text
  flight : List Flight
  deriving DecidableEq, Repr

structure SeatReservationRequest where
  id : UInt64
  identifier : Int32
  seats : Int32
  deriving DecidableEq, Repr

structure SeatReservationResponse where
  id : UInt64
  statusCode : Int32
  message : Text
  identifier : Int32
  seats : Int32
  deriving DecidableEq, Repr

structure SeatReservationCancellationRequest where
  id : UInt64
  reservationReqId : UInt64
  identifier : Int32
  seats : Int32
  deriving DecidableEq, Repr

structure SeatReservationCancellationResponse where
  id : UInt64
  statusCode : Int32
  message : Text
  identifier : Int32
  seats : Int32
  deriving DecidableEq, Repr

structure SeatAvailabilityMonitoringRequest where
  id : UInt64
  identifier : Int32
  port : UInt16
  monitorIntervalSec : Int32
  deriving DecidableEq, Repr

structure SeatAvailabilityMonitoringResponse where
  id : UInt64
  statusCode : Int32
  message : Text
  identifier : Int32
  monitorEnd : Int64
  deriving DecidableEq, Repr

structure SeatAvailabilityCallbackRequest where
  id : UInt64
  identifier : Int32
  seatAvailability : Int32
  deriving DecidableEq, Repr

structure SeatAvailabilityCallbackResponse where
  id : UInt64
  statusCode : Int32
  deriving DecidableEq, Repr

/-- The six requests a client can make. -/
inductive Kind where
  | flightSearch
  | flightInfo
  | seatReservation
  | seatAvailabilityMonitoring
  | priceRangeSearch
  | seatReservationCancellation
  deriving DecidableEq, Repr

/-- The request structure of a kind. -/
abbrev Kind.Request : Kind → Type
  | .flightSearch => FlightSearchRequest
  | .flightInfo => FlightInfoRequest
  | .seatReservation => SeatReservationRequest
  | .seatAvailabilityMonitoring => SeatAvailabilityMonitoringRequest
  | .priceRangeSearch => PriceRangeSearchRequest
  | .seatReservationCancellation => SeatReservationCancellationRequest

/-- The response structure of a kind. -/
abbrev Kind.Response : Kind → Type
  | .flightSearch => FlightSearchResponse
  | .flightInfo => FlightInfoResponse
  | .seatReservation => SeatReservationResponse
  | .seatAvailabilityMonitoring => SeatAvailabilityMonitoringResponse
  | .priceRangeSearch => PriceRangeSearchResponse
  | .seatReservationCancellation => SeatReservationCancellationResponse

/-- `req.id`. -/
def Kind.requestId : (kind : Kind) → kind.Request → UInt64
  | .flightSearch, req => req.id
  | .flightInfo, req => req.id
  | .seatReservation, req => req.id
  | .seatAvailabilityMonitoring, req => req.id
  | .priceRangeSearch, req => req.id
  | .seatReservationCancellation, req => req.id

/-- `res.id`. -/
def Kind.responseId : (kind : Kind) → kind.Response → UInt64
  | .flightSearch, res => res.id
  | .flightInfo, res => res.id
  | .seatReservation, res => res.id
  | .seatAvailabilityMonitoring, res => res.id
  | .priceRangeSearch, res => res.id
  | .seatReservationCancellation, res => res.id

/-- `res.status_code`. -/
def Kind.statusCode : (kind : Kind) → kind.Response → Int32
  | .flightSearch, res => res.statusCode
  | .flightInfo, res => res.statusCode
  | .seatReservation, res => res.statusCode
  | .seatAvailabilityMonitoring, res => res.statusCode
  | .priceRangeSearch, res => res.statusCode
  | .seatReservationCancellation, res => res.statusCode

/-- The fourteen message structures. -/
inductive Message where
  | request (kind : Kind)
  | response (kind : Kind)
  | callbackRequest
  | callbackResponse
  deriving DecidableEq, Repr

/-- The structure's values. -/
abbrev Message.Value : Message → Type
  | .request kind => kind.Request
  | .response kind => kind.Response
  | .callbackRequest => SeatAvailabilityCallbackRequest
  | .callbackResponse => SeatAvailabilityCallbackResponse

/-- The `kMessageType` each structure declares. Both price range structures
declare the tag of the flight search structures. -/
def Message.kMessageType : Message → MessageType
  | .request .flightSearch => .flightSearchRequest
  | .request .flightInfo => .flightInfoRequest
  | .request .seatReservation => .seatReservationRequest
  | .request .seatAvailabilityMonitoring => .seatAvailabilityMonitoringRequest
  | .request .priceRangeSearch => .flightSearchRequest
  | .request .seatReservationCancellation => .seatReservationCancellationRequest
  | .response .flightSearch => .flightSearchResponse
  | .response .flightInfo => .flightInfoResponse
  | .response .seatReservation => .seatReservationResponse
  | .response .seatAvailabilityMonitoring => .seatAvailabilityMonitoringResponse
  | .response .priceRangeSearch => .flightSearchResponse
  | .response .seatReservationCancellation => .seatReservationCancellationResponse
  | .callbackRequest => .seatAvailabilityCallbackRequest
  | .callbackResponse => .seatAvailabilityCallbackResponse

theorem MessageType.code_injective : Function.Injective MessageType.code := by
  intro first second same
  cases first <;> cases second <;> first | rfl | exact absurd same (by decide)

end Dfis
