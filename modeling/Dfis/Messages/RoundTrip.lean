import Dfis.Wire.Laws
import Dfis.Messages.Reference

/-! Every `Unmarshal` undoes its `Marshal`, whatever bytes follow. -/

namespace Dfis

open Wire Wire.Reader

variable {srpc : Srpc}

theorem yieldsFlight (lawful : srpc.RoundTrips) (flight : Flight) :
    Yields (unmarshalFlight srpc) (marshalFlight srpc flight) flight :=
  .of_eq (by simp [marshalFlight])
    (.bind .number <| .bind (.coded lawful.string) <| .bind (.coded lawful.string) <|
      .bind .number <| .bind .number <| .bind .number <| .pure flight)

theorem flightCodec_roundTrips (lawful : srpc.RoundTrips) : (flightCodec srpc).RoundTrips :=
  Yields.roundTrips (yieldsFlight lawful)

theorem marshalFlight_ne_nil (flight : Flight) : marshalFlight srpc flight ≠ [] := by
  intro empty
  have size := congrArg List.length empty
  simp [marshalFlight] at size

theorem yieldsFlightSearchRequest (lawful : srpc.RoundTrips) (request : FlightSearchRequest) :
    Yields (unmarshalFlightSearchRequest srpc)
      (marshalFlightSearchRequest srpc request) request :=
  .of_eq (by simp [marshalFlightSearchRequest, marshalTag])
    (.bind .expect <| .bind .number <| .bind (.coded lawful.string) <|
      .bind (.coded lawful.string) <| .pure request)

theorem yieldsFlightSearchResponse (lawful : srpc.RoundTrips) (response : FlightSearchResponse) :
    Yields (unmarshalFlightSearchResponse srpc)
      (marshalFlightSearchResponse srpc response) response :=
  .of_eq (by simp [marshalFlightSearchResponse, marshalTag])
    (.bind .expect <| .bind .number <| .bind .number <| .bind (.coded lawful.string) <|
      .bind (.coded lawful.vectorI32) <| .pure response)

theorem yieldsPriceRangeSearchRequest (request : PriceRangeSearchRequest) :
    Yields (unmarshalPriceRangeSearchRequest srpc)
      (marshalPriceRangeSearchRequest srpc request) request :=
  .of_eq (by simp [marshalPriceRangeSearchRequest, marshalTag])
    (.bind .expect <| .bind .number <| .bind .number <| .bind .number <| .pure request)

theorem yieldsPriceRangeSearchResponse (lawful : srpc.RoundTrips)
    (response : PriceRangeSearchResponse) :
    Yields (unmarshalPriceRangeSearchResponse srpc)
      (marshalPriceRangeSearchResponse srpc response) response :=
  .of_eq (by simp [marshalPriceRangeSearchResponse, marshalTag])
    (.bind .expect <| .bind .number <| .bind .number <| .bind (.coded lawful.string) <|
      .bind (.coded lawful.vectorI32) <| .pure response)

theorem yieldsFlightInfoRequest (request : FlightInfoRequest) :
    Yields (unmarshalFlightInfoRequest srpc) (marshalFlightInfoRequest srpc request) request :=
  .of_eq (by simp [marshalFlightInfoRequest, marshalTag])
    (.bind .expect <| .bind .number <| .bind .number <| .pure request)

theorem yieldsFlightInfoResponse (lawful : srpc.RoundTrips) (response : FlightInfoResponse) :
    Yields (unmarshalFlightInfoResponse srpc)
      (marshalFlightInfoResponse srpc response) response :=
  .of_eq (by simp [marshalFlightInfoResponse, marshalTag])
    (.bind .expect <| .bind .number <| .bind .number <| .bind (.coded lawful.string) <|
      .bind (.coded (lawful.vector (flightCodec_roundTrips lawful) marshalFlight_ne_nil)) <|
      .pure response)

theorem yieldsSeatReservationRequest (request : SeatReservationRequest) :
    Yields (unmarshalSeatReservationRequest srpc)
      (marshalSeatReservationRequest srpc request) request :=
  .of_eq (by simp [marshalSeatReservationRequest, marshalTag])
    (.bind .expect <| .bind .number <| .bind .number <| .bind .number <| .pure request)

theorem yieldsSeatReservationResponse (lawful : srpc.RoundTrips)
    (response : SeatReservationResponse) :
    Yields (unmarshalSeatReservationResponse srpc)
      (marshalSeatReservationResponse srpc response) response :=
  .of_eq (by simp [marshalSeatReservationResponse, marshalTag])
    (.bind .expect <| .bind .number <| .bind .number <| .bind (.coded lawful.string) <|
      .bind .number <| .bind .number <| .pure response)

theorem yieldsSeatReservationCancellationRequest (request : SeatReservationCancellationRequest) :
    Yields (unmarshalSeatReservationCancellationRequest srpc)
      (marshalSeatReservationCancellationRequest srpc request) request :=
  .of_eq (by simp [marshalSeatReservationCancellationRequest, marshalTag])
    (.bind .expect <| .bind .number <| .bind .number <| .bind .number <| .bind .number <|
      .pure request)

theorem yieldsSeatReservationCancellationResponse (lawful : srpc.RoundTrips)
    (response : SeatReservationCancellationResponse) :
    Yields (unmarshalSeatReservationCancellationResponse srpc)
      (marshalSeatReservationCancellationResponse srpc response) response :=
  .of_eq (by simp [marshalSeatReservationCancellationResponse, marshalTag])
    (.bind .expect <| .bind .number <| .bind .number <| .bind (.coded lawful.string) <|
      .bind .number <| .bind .number <| .pure response)

theorem yieldsSeatAvailabilityMonitoringRequest (request : SeatAvailabilityMonitoringRequest) :
    Yields (unmarshalSeatAvailabilityMonitoringRequest srpc)
      (marshalSeatAvailabilityMonitoringRequest srpc request) request :=
  .of_eq (by simp [marshalSeatAvailabilityMonitoringRequest, marshalTag])
    (.bind .expect <| .bind .number <| .bind .number <| .bind .number <| .bind .number <|
      .pure request)

theorem yieldsSeatAvailabilityMonitoringResponse (lawful : srpc.RoundTrips)
    (response : SeatAvailabilityMonitoringResponse) :
    Yields (unmarshalSeatAvailabilityMonitoringResponse srpc)
      (marshalSeatAvailabilityMonitoringResponse srpc response) response :=
  .of_eq (by simp [marshalSeatAvailabilityMonitoringResponse, marshalTag])
    (.bind .expect <| .bind .number <| .bind .number <| .bind (.coded lawful.string) <|
      .bind .number <| .bind .number <| .pure response)

theorem yieldsSeatAvailabilityCallbackRequest (request : SeatAvailabilityCallbackRequest) :
    Yields (unmarshalSeatAvailabilityCallbackRequest srpc)
      (marshalSeatAvailabilityCallbackRequest srpc request) request :=
  .of_eq (by simp [marshalSeatAvailabilityCallbackRequest, marshalTag])
    (.bind .expect <| .bind .number <| .bind .number <| .bind .number <| .pure request)

theorem yieldsSeatAvailabilityCallbackResponse (response : SeatAvailabilityCallbackResponse) :
    Yields (unmarshalSeatAvailabilityCallbackResponse srpc)
      (marshalSeatAvailabilityCallbackResponse srpc response) response :=
  .of_eq (by simp [marshalSeatAvailabilityCallbackResponse, marshalTag])
    (.bind .expect <| .bind .number <| .bind .number <| .pure response)

theorem Message.yields (lawful : srpc.RoundTrips) : (message : Message) → (value : message.Value) →
    Yields (message.reader srpc) (message.marshal srpc value) value
  | .request .flightSearch => yieldsFlightSearchRequest lawful
  | .request .flightInfo => yieldsFlightInfoRequest
  | .request .seatReservation => yieldsSeatReservationRequest
  | .request .seatAvailabilityMonitoring => yieldsSeatAvailabilityMonitoringRequest
  | .request .priceRangeSearch => yieldsPriceRangeSearchRequest
  | .request .seatReservationCancellation => yieldsSeatReservationCancellationRequest
  | .response .flightSearch => yieldsFlightSearchResponse lawful
  | .response .flightInfo => yieldsFlightInfoResponse lawful
  | .response .seatReservation => yieldsSeatReservationResponse lawful
  | .response .seatAvailabilityMonitoring => yieldsSeatAvailabilityMonitoringResponse lawful
  | .response .priceRangeSearch => yieldsPriceRangeSearchResponse lawful
  | .response .seatReservationCancellation => yieldsSeatReservationCancellationResponse lawful
  | .callbackRequest => yieldsSeatAvailabilityCallbackRequest
  | .callbackResponse => yieldsSeatAvailabilityCallbackResponse

theorem Message.codec_roundTrips (lawful : srpc.RoundTrips) (message : Message) :
    (message.codec srpc).RoundTrips :=
  Yields.roundTrips (message.yields lawful)

/-- For `Flight` and every message structure, `Unmarshal` applied to the
`Marshal` of a value and any trailing bytes returns the length of the
encoding and the value. -/
theorem unmarshal_marshal_append (lawful : srpc.RoundTrips) :
    (∀ (flight : Flight) (rest : List UInt8) (data : Span),
      data.bytes = marshalFlight srpc flight ++ rest →
      (unmarshalFlight srpc).run data =
        .ok (Int64.ofNat (marshalFlight srpc flight).length, some flight)) ∧
    ∀ (message : Message) (value : message.Value) (rest : List UInt8) (data : Span),
      data.bytes = message.marshal srpc value ++ rest →
      message.unmarshal srpc data =
        .ok (Int64.ofNat (message.marshal srpc value).length, some value) :=
  ⟨flightCodec_roundTrips lawful, fun message => message.codec_roundTrips lawful⟩

def infoResponse : FlightInfoResponse where
  id := 7
  statusCode := 0
  message := []
  flight := [⟨4013, Text.ofString "LosAngeles", Text.ofString "Paris", 1684098000, ⟨0x43c78000⟩, 20⟩]

private theorem infoResponse_fits :
    (marshalFlightInfoResponse .reference infoResponse ++ [0xff, 0x00]).length < 2 ^ 63 := by
  simp [marshalFlightInfoResponse, marshalFlight, marshalTag, infoResponse, Srpc.reference,
    countedBytes, countedList, flightCodec, Text.ofString]

/-- The encoding of a response with two more bytes behind it. -/
def infoResponseData : Span :=
  ⟨(Message.response .flightInfo).marshal .reference infoResponse ++ [0xff, 0x00],
    infoResponse_fits⟩

theorem unmarshal_marshal_append_info :
    (Message.response .flightInfo).unmarshal .reference infoResponseData =
      .ok (Int64.ofNat ((Message.response .flightInfo).marshal .reference infoResponse).length,
        some infoResponse) :=
  (unmarshal_marshal_append Srpc.reference_roundTrips).2 (.response .flightInfo) infoResponse
    [0xff, 0x00] infoResponseData rfl

end Dfis
