import Dfis.Base.Table
import Dfis.Messages.Codec

/-! The variables of `Serve`, what reaches it and what it does. -/

namespace Dfis

open Base Wire

inductive Protocol where
  | ipv4
  | ipv6
  deriving DecidableEq, Repr

/-- `srpc::SocketAddress`. -/
structure SocketAddress where
  protocol : Protocol
  address : Text
  port : UInt16
  deriving DecidableEq, Repr

/-- Ticks of `std::chrono::system_clock`, in nanoseconds since the epoch. -/
abbrev TimePoint : Type := Int

/-- `std::chrono::seconds` as a duration of the clock. -/
def seconds (count : Int32) : Int := count.toInt * 1000000000

/-- A time point's `duration_cast` to seconds, which truncates. -/
def TimePoint.timestamp (time : TimePoint) : Int64 := Int64.ofInt (Int.tdiv time 1000000000)

/-- A registered monitor. The owner is a ghost: the id of the request that registered it. -/
structure Callback where
  toAddr : SocketAddress
  monitorEnd : TimePoint
  owner : UInt64
  deriving DecidableEq, Repr

structure Reservation where
  identifier : Int32
  seats : Int32
  deriving DecidableEq, Repr

instance : Inhabited Reservation where
  default := ⟨0, 0⟩

/-- `ReadFlightsFromFile`, from the flights that the lines are parsed to. -/
def readFlightsFromFile (lines : List Flight) : Table Int32 Flight :=
  lines.foldl (fun flights flight => flights.emplace flight.identifier flight) ∅

/-- The variables that outlive one call and are not histories. -/
structure Store where
  flights : Table Int32 Flight
  callbacks : Table Int32 (List Callback)
  reservations : Table UInt64 Reservation
  deriving DecidableEq

/-- All static variables of `Serve`; every kind has a history of its own. -/
structure State where
  initialised : Bool
  store : Store
  history : (kind : Kind) → Table UInt64 (kind.Request × kind.Response)

/-- The static variables before the first call. -/
def State.zero : State where
  initialised := false
  store := ⟨∅, ∅, ∅⟩
  history _ := ∅

/-- `if (!initialised)`. -/
def State.initialise (state : State) (flightsInput : Table Int32 Flight) : State :=
  if state.initialised then state
  else { state with initialised := true, store := { state.store with flights := flightsInput } }

/-- The variables as the first call finds them after initialising. -/
def State.start (flightsInput : Table Int32 Flight) : State := State.zero.initialise flightsInput

/-- `history[req.id] = {req, res}`. -/
def State.record (state : State) (kind : Kind) (req : kind.Request) (res : kind.Response) : State :=
  { state with
    history := Function.update state.history kind
      ((state.history kind).insert (kind.requestId req) (req, res)) }

/-- The arguments of one call, its clock reading, and its two `RandomLoss` coins. -/
structure Delivery where
  fromAddr : SocketAddress
  reqData : Except Text Span
  now : TimePoint
  reqLost : Bool
  resLost : Bool

/-- A detached `SendSeatAvailabilityCallbackRequest` thread. The owner is a
ghost: the owner of the callback it was started for. -/
structure Launch where
  toAddr : SocketAddress
  request : SeatAvailabilityCallbackRequest
  owner : UInt64
  deriving DecidableEq, Repr

/-- A request as `Serve` has decoded it, with what else its handling reads. -/
structure Call where
  kind : Kind
  request : kind.Request
  fromAddr : SocketAddress
  now : TimePoint

/-- The id of the request. -/
def Call.id (call : Call) : UInt64 := call.kind.requestId call.request

/-- One execution of a request: the response, the threads started, the store it left. -/
structure Execution extends Call where
  response : kind.Response
  launched : List Launch
  store : Store

/-- A request and the response sent back for it. -/
structure Answer where
  kind : Kind
  request : kind.Request
  response : kind.Response

/-- What one call did: the reply it returned, the threads it started, and, as
a ghost, the execution it made. -/
structure Outcome where
  answer : Option Answer
  launched : List Launch
  executed : Option Execution

/-- A call that returns `{}` and does nothing else. -/
def Outcome.none : Outcome := ⟨.none, [], .none⟩

/-- `srpc::Marshal<Res>{}(res)`. -/
def Answer.marshal (srpc : Srpc) (answer : Answer) : List UInt8 :=
  (Message.response answer.kind).marshal srpc answer.response

/-- The bytes the call returned. -/
def Outcome.reply (srpc : Srpc) (outcome : Outcome) : Option (List UInt8) :=
  outcome.answer.map (Answer.marshal srpc)

end Dfis
