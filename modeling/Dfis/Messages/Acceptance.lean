import Dfis.Wire.Laws
import Dfis.Messages.Reference

/-! Every `Unmarshal` accepts encodings only and stays inside its input. -/

namespace Dfis

open Wire Wire.Reader

variable {srpc : Srpc}

theorem invertsFlight (lawful : srpc.Sound) :
    Inverts (unmarshalFlight srpc) [] (marshalFlight srpc) := by
  refine .bind .number fun identifier => .bind (.coded lawful.string) fun source =>
    .bind (.coded lawful.string) fun destination => .bind .number fun departureTime =>
    .bind .number fun airfare => .bind .number fun seatAvailability => .pure ?_
  simp [marshalFlight]

theorem flightCodec_strict (lawful : srpc.Sound) : (flightCodec srpc).Strict :=
  (invertsFlight lawful).strict

theorem invertsFlightSearchRequest (lawful : srpc.Sound) :
    Inverts (unmarshalFlightSearchRequest srpc) [] (marshalFlightSearchRequest srpc) := by
  refine .bind .expect fun _ => .bind .number fun id => .bind (.coded lawful.string) fun source =>
    .bind (.coded lawful.string) fun destination => .pure ?_
  simp [marshalFlightSearchRequest, marshalTag]

theorem invertsFlightSearchResponse (lawful : srpc.Sound) :
    Inverts (unmarshalFlightSearchResponse srpc) [] (marshalFlightSearchResponse srpc) := by
  refine .bind .expect fun _ => .bind .number fun id => .bind .number fun statusCode =>
    .bind (.coded lawful.string) fun message => .bind (.coded lawful.vectorI32) fun flights =>
    .pure ?_
  simp [marshalFlightSearchResponse, marshalTag]

theorem invertsPriceRangeSearchRequest :
    Inverts (unmarshalPriceRangeSearchRequest srpc) [] (marshalPriceRangeSearchRequest srpc) := by
  refine .bind .expect fun _ => .bind .number fun id => .bind .number fun lower =>
    .bind .number fun upper => .pure ?_
  simp [marshalPriceRangeSearchRequest, marshalTag]

theorem invertsPriceRangeSearchResponse (lawful : srpc.Sound) :
    Inverts (unmarshalPriceRangeSearchResponse srpc) []
      (marshalPriceRangeSearchResponse srpc) := by
  refine .bind .expect fun _ => .bind .number fun id => .bind .number fun statusCode =>
    .bind (.coded lawful.string) fun message => .bind (.coded lawful.vectorI32) fun flights =>
    .pure ?_
  simp [marshalPriceRangeSearchResponse, marshalTag]

theorem invertsFlightInfoRequest :
    Inverts (unmarshalFlightInfoRequest srpc) [] (marshalFlightInfoRequest srpc) := by
  refine .bind .expect fun _ => .bind .number fun id => .bind .number fun identifier => .pure ?_
  simp [marshalFlightInfoRequest, marshalTag]

theorem invertsFlightInfoResponse (lawful : srpc.Sound) :
    Inverts (unmarshalFlightInfoResponse srpc) [] (marshalFlightInfoResponse srpc) := by
  refine .bind .expect fun _ => .bind .number fun id => .bind .number fun statusCode =>
    .bind (.coded lawful.string) fun message =>
    .bind (.coded (lawful.vector (flightCodec_strict lawful).sound)) fun flight => .pure ?_
  simp [marshalFlightInfoResponse, marshalTag]

theorem invertsSeatReservationRequest :
    Inverts (unmarshalSeatReservationRequest srpc) [] (marshalSeatReservationRequest srpc) := by
  refine .bind .expect fun _ => .bind .number fun id => .bind .number fun identifier =>
    .bind .number fun seats => .pure ?_
  simp [marshalSeatReservationRequest, marshalTag]

theorem invertsSeatReservationResponse (lawful : srpc.Sound) :
    Inverts (unmarshalSeatReservationResponse srpc) [] (marshalSeatReservationResponse srpc) := by
  refine .bind .expect fun _ => .bind .number fun id => .bind .number fun statusCode =>
    .bind (.coded lawful.string) fun message => .bind .number fun identifier =>
    .bind .number fun seats => .pure ?_
  simp [marshalSeatReservationResponse, marshalTag]

theorem invertsSeatReservationCancellationRequest :
    Inverts (unmarshalSeatReservationCancellationRequest srpc) []
      (marshalSeatReservationCancellationRequest srpc) := by
  refine .bind .expect fun _ => .bind .number fun id => .bind .number fun reservationReqId =>
    .bind .number fun identifier => .bind .number fun seats => .pure ?_
  simp [marshalSeatReservationCancellationRequest, marshalTag]

theorem invertsSeatReservationCancellationResponse (lawful : srpc.Sound) :
    Inverts (unmarshalSeatReservationCancellationResponse srpc) []
      (marshalSeatReservationCancellationResponse srpc) := by
  refine .bind .expect fun _ => .bind .number fun id => .bind .number fun statusCode =>
    .bind (.coded lawful.string) fun message => .bind .number fun identifier =>
    .bind .number fun seats => .pure ?_
  simp [marshalSeatReservationCancellationResponse, marshalTag]

theorem invertsSeatAvailabilityMonitoringRequest :
    Inverts (unmarshalSeatAvailabilityMonitoringRequest srpc) []
      (marshalSeatAvailabilityMonitoringRequest srpc) := by
  refine .bind .expect fun _ => .bind .number fun id => .bind .number fun identifier =>
    .bind .number fun port => .bind .number fun monitorIntervalSec => .pure ?_
  simp [marshalSeatAvailabilityMonitoringRequest, marshalTag]

theorem invertsSeatAvailabilityMonitoringResponse (lawful : srpc.Sound) :
    Inverts (unmarshalSeatAvailabilityMonitoringResponse srpc) []
      (marshalSeatAvailabilityMonitoringResponse srpc) := by
  refine .bind .expect fun _ => .bind .number fun id => .bind .number fun statusCode =>
    .bind (.coded lawful.string) fun message => .bind .number fun identifier =>
    .bind .number fun monitorEnd => .pure ?_
  simp [marshalSeatAvailabilityMonitoringResponse, marshalTag]

theorem invertsSeatAvailabilityCallbackRequest :
    Inverts (unmarshalSeatAvailabilityCallbackRequest srpc) []
      (marshalSeatAvailabilityCallbackRequest srpc) := by
  refine .bind .expect fun _ => .bind .number fun id => .bind .number fun identifier =>
    .bind .number fun seatAvailability => .pure ?_
  simp [marshalSeatAvailabilityCallbackRequest, marshalTag]

theorem invertsSeatAvailabilityCallbackResponse :
    Inverts (unmarshalSeatAvailabilityCallbackResponse srpc) []
      (marshalSeatAvailabilityCallbackResponse srpc) := by
  refine .bind .expect fun _ => .bind .number fun id => .bind .number fun statusCode => .pure ?_
  simp [marshalSeatAvailabilityCallbackResponse, marshalTag]

theorem Message.inverts (lawful : srpc.Sound) : (message : Message) →
    Inverts (message.reader srpc) [] (message.marshal srpc)
  | .request .flightSearch => invertsFlightSearchRequest lawful
  | .request .flightInfo => invertsFlightInfoRequest
  | .request .seatReservation => invertsSeatReservationRequest
  | .request .seatAvailabilityMonitoring => invertsSeatAvailabilityMonitoringRequest
  | .request .priceRangeSearch => invertsPriceRangeSearchRequest
  | .request .seatReservationCancellation => invertsSeatReservationCancellationRequest
  | .response .flightSearch => invertsFlightSearchResponse lawful
  | .response .flightInfo => invertsFlightInfoResponse lawful
  | .response .seatReservation => invertsSeatReservationResponse lawful
  | .response .seatAvailabilityMonitoring => invertsSeatAvailabilityMonitoringResponse lawful
  | .response .priceRangeSearch => invertsPriceRangeSearchResponse lawful
  | .response .seatReservationCancellation => invertsSeatReservationCancellationResponse lawful
  | .callbackRequest => invertsSeatAvailabilityCallbackRequest
  | .callbackResponse => invertsSeatAvailabilityCallbackResponse

theorem Message.codec_strict (lawful : srpc.Sound) (message : Message) :
    (message.codec srpc).Strict :=
  (message.inverts lawful).strict

/-- For `Flight` and every message structure, `Unmarshal` never reads outside
its input, and returns `(0, none)` or a count within the input and a value
whose `Marshal` is exactly that many of its first bytes. -/
theorem unmarshal_encodings_only (lawful : srpc.Sound) :
    (∀ data : Span, (unmarshalFlight srpc).run data = .ok (0, none) ∨
      ∃ (n : Nat) (flight : Flight), n ≤ data.bytes.length ∧
        (unmarshalFlight srpc).run data = .ok (Int64.ofNat n, some flight) ∧
        marshalFlight srpc flight = data.bytes.take n) ∧
    ∀ (message : Message) (data : Span), message.unmarshal srpc data = .ok (0, none) ∨
      ∃ (n : Nat) (value : message.Value), n ≤ data.bytes.length ∧
        message.unmarshal srpc data = .ok (Int64.ofNat n, some value) ∧
        message.marshal srpc value = data.bytes.take n :=
  ⟨flightCodec_strict lawful, fun message => message.codec_strict lawful⟩

/-- A truncated flight info request. -/
def truncatedData : Span := ⟨[0, 0, 0, 3, 0, 0, 0, 0, 0, 0, 0, 7, 0, 0, 15], by decide⟩

theorem unmarshal_encodings_only_truncated :
    (Message.request .flightInfo).unmarshal .reference truncatedData = .ok (0, none) ∨
      ∃ (n : Nat) (value : FlightInfoRequest), n ≤ truncatedData.bytes.length ∧
        (Message.request .flightInfo).unmarshal .reference truncatedData =
          .ok (Int64.ofNat n, some value) ∧
        marshalFlightInfoRequest .reference value = truncatedData.bytes.take n :=
  (unmarshal_encodings_only Srpc.reference_sound).2 (.request .flightInfo) truncatedData

end Dfis
