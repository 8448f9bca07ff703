import Dfis.Messages.Reference
import Dfis.Messages.Tags
import Dfis.Server.Effect

/-! The chain of decoders finds the request a client has encoded, when strings
carry their size: only then is no price range search taken for a flight search. -/

namespace Dfis

open Base Wire

variable {srpc : Srpc}

/-- The eight bytes of two floats are too few for two strings with their sizes. -/
theorem priceRange_not_flightSearch (lawful : srpc.RoundTrips) (sound : srpc.Sound)
    (counts : srpc.CountsStrings) (req : PriceRangeSearchRequest) {data : Span}
    (encoded : data.bytes = marshalPriceRangeSearchRequest srpc req) :
    value? ((Message.request .flightSearch).unmarshal srpc data) = none := by
  rw [priceRange_as_flightSearch lawful sound req encoded]
  rintro ⟨source, destination, after, strings⟩
  have sizes := congrArg List.length strings
  simp only [counts source, counts destination, List.length_append, List.Vector.toList_length] at sizes
  omega

private theorem decoder_other {kind other : Kind} (req : kind.Request) {data : Span}
    (encoded : data.bytes = (Message.request kind).marshal srpc req)
    (differ : (Message.request kind).kMessageType ≠ (Message.request other).kMessageType) :
    value? ((Message.request other).unmarshal srpc data) = none := by
  rw [Message.unmarshal_other differ req encoded]
  rfl

/-- `Serve` reads the encoding of a request as that request. -/
theorem decode_marshal (lawful : srpc.RoundTrips) (sound : srpc.Sound) (counts : srpc.CountsStrings)
    {kind : Kind} (req : kind.Request) {data : Span}
    (encoded : data.bytes = (Message.request kind).marshal srpc req) :
    decode srpc data = some ⟨kind, req⟩ := by
  have own : value? ((Message.request kind).unmarshal srpc data) = some req := by
    refine ((Message.request kind).codec_roundTrips lawful).value? (?_ : _ = _ ++ [])
    rw [encoded, List.append_nil]
    rfl
  have other (kind' : Kind)
      (differ : (Message.request kind).kMessageType ≠ (Message.request kind').kMessageType) :=
    decoder_other req encoded differ
  unfold decode decoders
  cases kind with
  | flightSearch => simp only [List.findSome?_cons, own, Option.map_some]
  | flightInfo =>
    simp only [List.findSome?_cons, own, other .flightSearch (by decide), Option.map_none,
      Option.map_some]
  | seatReservation =>
    simp only [List.findSome?_cons, own, other .flightSearch (by decide),
      other .flightInfo (by decide), Option.map_none, Option.map_some]
  | seatAvailabilityMonitoring =>
    simp only [List.findSome?_cons, own, other .flightSearch (by decide),
      other .flightInfo (by decide), other .seatReservation (by decide), Option.map_none,
      Option.map_some]
  | priceRangeSearch =>
    simp only [List.findSome?_cons, own,
      priceRange_not_flightSearch lawful sound counts req encoded, other .flightInfo (by decide),
      other .seatReservation (by decide), other .seatAvailabilityMonitoring (by decide),
      Option.map_none, Option.map_some]
  | seatReservationCancellation =>
    simp only [List.findSome?_cons, own, other .flightSearch (by decide),
      other .flightInfo (by decide), other .seatReservation (by decide),
      other .seatAvailabilityMonitoring (by decide), other .priceRangeSearch (by decide),
      Option.map_none, Option.map_some]

theorem Delivery.received?_call {delivery : Delivery} {call : Call}
    (received : delivery.received? srpc = some call) :
    delivery.reqLost = false ∧ delivery.call? srpc = some call := by
  unfold Delivery.received? at received
  split at received
  · cases received
  · rename_i kept
    exact ⟨by simpa using kept, received⟩

/-- A datagram that arrives with no simulated loss. -/
def Delivery.carrying (data : Span) (fromAddr : SocketAddress) (now : TimePoint) : Delivery :=
  ⟨fromAddr, .ok data, now, false, false⟩

theorem Delivery.carrying_received (lawful : srpc.RoundTrips) (sound : srpc.Sound)
    (counts : srpc.CountsStrings) {kind : Kind} {req : kind.Request} {data : Span}
    (encoded : data.bytes = (Message.request kind).marshal srpc req) (fromAddr : SocketAddress)
    (now : TimePoint) :
    (Delivery.carrying data fromAddr now).received? srpc = some ⟨kind, req, fromAddr, now⟩ := by
  simp [Delivery.received?, Delivery.call?, Delivery.carrying,
    decode_marshal lawful sound counts req encoded]

/-- A reservation request on the wire. -/
def reservationData (req : SeatReservationRequest) : Span where
  bytes := (Message.request .seatReservation).marshal .reference req
  fits := by simp [Message.marshal, marshalSeatReservationRequest, marshalTag]

/-- A cancellation request on the wire. -/
def cancellationData (req : SeatReservationCancellationRequest) : Span where
  bytes := (Message.request .seatReservationCancellation).marshal .reference req
  fits := by simp [Message.marshal, marshalSeatReservationCancellationRequest, marshalTag]

/-- A monitoring request on the wire. -/
def monitoringData (req : SeatAvailabilityMonitoringRequest) : Span where
  bytes := (Message.request .seatAvailabilityMonitoring).marshal .reference req
  fits := by simp [Message.marshal, marshalSeatAvailabilityMonitoringRequest, marshalTag]

theorem monitoring_received (req : SeatAvailabilityMonitoringRequest) (fromAddr : SocketAddress)
    (now : TimePoint) :
    (Delivery.carrying (monitoringData req) fromAddr now).received? .reference =
      some ⟨.seatAvailabilityMonitoring, req, fromAddr, now⟩ :=
  Delivery.carrying_received Srpc.reference_roundTrips Srpc.reference_sound
    Srpc.reference_countsStrings rfl fromAddr now

theorem reservation_received (req : SeatReservationRequest) (fromAddr : SocketAddress)
    (now : TimePoint) :
    (Delivery.carrying (reservationData req) fromAddr now).received? .reference =
      some ⟨.seatReservation, req, fromAddr, now⟩ :=
  Delivery.carrying_received Srpc.reference_roundTrips Srpc.reference_sound
    Srpc.reference_countsStrings rfl fromAddr now

theorem cancellation_received (req : SeatReservationCancellationRequest) (fromAddr : SocketAddress)
    (now : TimePoint) :
    (Delivery.carrying (cancellationData req) fromAddr now).received? .reference =
      some ⟨.seatReservationCancellation, req, fromAddr, now⟩ :=
  Delivery.carrying_received Srpc.reference_roundTrips Srpc.reference_sound
    Srpc.reference_countsStrings rfl fromAddr now

/-- A flight of ten seats, for runs on one flight. -/
def tenSeats : Flight :=
  ⟨4003, .ofString "Singapore", .ofString "Tokyo", 1684098000, ⟨0x43c78000⟩, 10⟩

def oneFlight : Table Int32 Flight := readFlightsFromFile [tenSeats]

theorem oneFlight_lookup (identifier : Int32) :
    oneFlight.lookup identifier = if identifier = 4003 then some tenSeats else none := by
  change (Table.emplace (∅ : Table Int32 Flight) 4003 tenSeats).lookup identifier = _
  rw [Table.lookup_emplace, Finmap.lookup_empty, Finmap.lookup_empty]
  rfl

theorem oneFlight_keyed : Keyed oneFlight := readFlightsFromFile_keyed [tenSeats]

def someClient : SocketAddress := ⟨.ipv4, .ofString "192.0.2.1", 50000⟩

/-- Another client on the same host. -/
def otherClient : SocketAddress := { someClient with port := 50001 }

end Dfis
