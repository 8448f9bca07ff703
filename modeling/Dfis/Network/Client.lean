import Dfis.Server.AtMostOnce

/-! The client's side of a call: commands with their ids, the datagrams on the
way, and the retry loop of `SendAndReceive`. -/

namespace Dfis

open Base Wire

/-- `req.id = MakeMessageIdentifier()`, for the identifier drawn. -/
def Kind.identify : (kind : Kind) → kind.Request → UInt64 → kind.Request
  | .flightSearch, req, id => { req with id := id }
  | .flightInfo, req, id => { req with id := id }
  | .seatReservation, req, id => { req with id := id }
  | .seatAvailabilityMonitoring, req, id => { req with id := id }
  | .priceRangeSearch, req, id => { req with id := id }
  | .seatReservationCancellation, req, id => { req with id := id }

@[simp] theorem Kind.requestId_identify (kind : Kind) (req : kind.Request) (id : UInt64) :
    kind.requestId (kind.identify req id) = id := by
  cases kind <;> rfl

instance decidableEqRequest : (kind : Kind) → DecidableEq kind.Request
  | .flightSearch => inferInstanceAs (DecidableEq FlightSearchRequest)
  | .flightInfo => inferInstanceAs (DecidableEq FlightInfoRequest)
  | .seatReservation => inferInstanceAs (DecidableEq SeatReservationRequest)
  | .seatAvailabilityMonitoring => inferInstanceAs (DecidableEq SeatAvailabilityMonitoringRequest)
  | .priceRangeSearch => inferInstanceAs (DecidableEq PriceRangeSearchRequest)
  | .seatReservationCancellation => inferInstanceAs (DecidableEq SeatReservationCancellationRequest)

/-- One call of `SendAndReceive`: the request, with its id. -/
structure Command where
  kind : Kind
  request : kind.Request
  deriving DecidableEq

def Command.id (command : Command) : UInt64 := command.kind.requestId command.request

/-- `srpc::Marshal<Req>{}(req)`. -/
def Command.marshal (srpc : Srpc) (command : Command) : List UInt8 :=
  (Message.request command.kind).marshal srpc command.request

/-- `srpc::Unmarshal<Res>{}(resp_bytes)`. -/
def Command.unmarshalResponse (srpc : Srpc) (command : Command) (respBytes : Span) :
    Option command.kind.Response :=
  value? ((Message.response command.kind).unmarshal srpc respBytes)

/-- The command whose request this is. -/
def Call.command (call : Call) : Command := ⟨call.kind, call.request⟩

def Answer.command (answer : Answer) : Command := ⟨answer.kind, answer.request⟩

theorem Call.key_command {first second : Call} (same : first.command = second.command) :
    first.key = second.key :=
  congrArg (fun command : Command => (command.kind, command.id)) same

/-- A datagram between the server and the client at this address. What its
bytes encode is a ghost. -/
structure Datagram {α : Type} (marshal : α → List UInt8) where
  client : SocketAddress
  data : Span
  value : α
  encoded : data.bytes = marshal value

/-- The datagram of a value, none for an encoding that no memory holds. -/
def Datagram.of? {α : Type} (marshal : α → List UInt8) (client : SocketAddress) (value : α) :
    Option (Datagram marshal) :=
  if fits : (marshal value).length < 2 ^ 63 then some ⟨client, ⟨marshal value, fits⟩, value, rfl⟩
  else none

theorem Datagram.of?_value {α : Type} {marshal : α → List UInt8} {client : SocketAddress} {value : α}
    {datagram : Datagram marshal} (made : datagram ∈ of? marshal client value) :
    datagram.client = client ∧ datagram.value = value := by
  unfold of? at made
  split at made
  · cases made
    exact ⟨rfl, rfl⟩
  · cases made

/-- What is sent to clients: replies of `Serve` and seat availability callbacks. -/
inductive Sent where
  | reply (answer : Answer)
  | callback (req : SeatAvailabilityCallbackRequest)

def Sent.marshal (srpc : Srpc) : Sent → List UInt8
  | .reply answer => answer.marshal srpc
  | .callback req => Message.callbackRequest.marshal srpc req

/-- `constexpr int retry_times = 3`. -/
def retryTimes : Nat := 3

/-- The loop of `SendAndReceive`: the attempt it is at, and whether this
attempt has sent its datagram and waits. -/
structure Exchange where
  command : Command
  attempt : Nat
  within : attempt ≤ retryTimes
  sent : Bool

/-- The loop as it is entered. -/
def Exchange.start (command : Command) : Exchange := ⟨command, 0, Nat.zero_le retryTimes, false⟩

/-- `++attempt <= retry_times`, or else the loop ends with no response. -/
def Exchange.retry (exchange : Exchange) : Option Exchange :=
  if within : exchange.attempt + 1 ≤ retryTimes then
    some ⟨exchange.command, exchange.attempt + 1, within, false⟩
  else none

theorem Exchange.retry_command {exchange next : Exchange} (retried : exchange.retry = some next) :
    next.command = exchange.command := by
  unfold Exchange.retry at retried
  split at retried
  · cases retried
    rfl
  · cases retried

/-- A client: the `SendAndReceive` it is in, and the datagrams its socket has queued. -/
structure Client (srpc : Srpc) where
  exchange : Option Exchange
  queue : List (Datagram (Sent.marshal srpc))

def Client.idle (srpc : Srpc) : Client srpc := ⟨none, []⟩

end Dfis
