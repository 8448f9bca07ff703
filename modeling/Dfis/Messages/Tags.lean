import Dfis.Messages.RoundTrip
import Dfis.Messages.Acceptance

/-! Which decoders reject the encoding of another message structure. The tags
decide it, except where two structures declare the same tag. -/

namespace Dfis

open Wire Wire.Reader

variable {srpc : Srpc}

theorem Message.marshal_tag (srpc : Srpc) (message : Message) (value : message.Value) :
    ∃ body, message.marshal srpc value = marshalTag srpc message ++ body := by
  have split : marshalTag srpc message <+: message.marshal srpc value := by
    rcases message with kind | kind | _ | _
    case request => cases kind <;> simp [Message.marshal, marshalFlightSearchRequest,
      marshalFlightInfoRequest, marshalSeatReservationRequest,
      marshalSeatAvailabilityMonitoringRequest, marshalPriceRangeSearchRequest,
      marshalSeatReservationCancellationRequest]
    case response => cases kind <;> simp [Message.marshal, marshalFlightSearchResponse,
      marshalFlightInfoResponse, marshalSeatReservationResponse,
      marshalSeatAvailabilityMonitoringResponse, marshalPriceRangeSearchResponse,
      marshalSeatReservationCancellationResponse]
    case callbackRequest => simp [Message.marshal, marshalSeatAvailabilityCallbackRequest]
    case callbackResponse => simp [Message.marshal, marshalSeatAvailabilityCallbackResponse]
  obtain ⟨body, same⟩ := split
  exact ⟨body, same.symm⟩

theorem Message.reader_tag (srpc : Srpc) (message : Message) :
    ∃ body, message.reader srpc = unmarshalTag srpc message >>= body := by
  rcases message with kind | kind | _ | _
  · cases kind <;> exact ⟨_, rfl⟩
  · cases kind <;> exact ⟨_, rfl⟩
  · exact ⟨_, rfl⟩
  · exact ⟨_, rfl⟩

theorem Message.unmarshal_other {sent received : Message} {data : Span}
    (differ : sent.kMessageType ≠ received.kMessageType) (value : sent.Value)
    (encoded : data.bytes = sent.marshal srpc value) :
    received.unmarshal srpc data = .ok (0, none) := by
  obtain ⟨body, starts⟩ := sent.marshal_tag srpc value
  obtain ⟨next, opens⟩ := received.reader_tag srpc
  have tags : sent.kMessageType.code ≠ received.kMessageType.code :=
    fun same => differ (MessageType.code_injective same)
  rw [Message.unmarshal, opens]
  exact run_expect_other tags (by rw [encoded, starts, marshalTag])

/-- A flight search request is decoded as a price range search request as
soon as its two strings take up the eight bytes of two floats. -/
theorem flightSearch_as_priceRange (lawful : srpc.RoundTrips) (sound : srpc.Sound) {data : Span}
    (request : FlightSearchRequest)
    (encoded : data.bytes = marshalFlightSearchRequest srpc request) :
    value? ((Message.request .priceRangeSearch).unmarshal srpc data) = none ↔
      (srpc.string.marshal request.source).length +
        (srpc.string.marshal request.destination).length < 8 := by
  constructor
  · intro rejected
    by_contra long
    have first : 4 ≤ (srpc.string.marshal request.source ++
        srpc.string.marshal request.destination).length := by
      simp only [List.length_append]
      omega
    obtain ⟨lower, rest, split⟩ := exists_block first
    have second : 4 ≤ rest.length := by
      have sizes := congrArg List.length split
      simp only [List.length_append, List.Vector.toList_length] at sizes
      omega
    obtain ⟨upper, after, more⟩ := exists_block second
    let decoded : PriceRangeSearchRequest := ⟨request.id, srpc.f32.symm lower, srpc.f32.symm upper⟩
    have accepted : data.bytes = (Message.request .priceRangeSearch).marshal srpc decoded ++ after := by
      rw [encoded, marshalFlightSearchRequest, List.append_assoc, split, more]
      simp [Message.marshal, marshalPriceRangeSearchRequest, decoded, marshalTag,
        Message.kMessageType]
    have found := ((Message.request .priceRangeSearch).codec_roundTrips lawful).value? accepted
    rw [show value? ((Message.codec srpc (.request .priceRangeSearch)).unmarshal data) = none
      from rejected] at found
    cases found
  · intro short
    cases found : value? ((Message.request .priceRangeSearch).unmarshal srpc data) with
    | none => rfl
    | some decoded =>
      obtain ⟨after, starts⟩ :=
        ((Message.request .priceRangeSearch).codec_strict sound).sound.starts found
      have sizes := congrArg List.length (encoded.symm.trans starts)
      simp [marshalFlightSearchRequest, marshalPriceRangeSearchRequest, Message.codec,
        Message.marshal, marshalTag] at sizes
      omega

/-- A price range search request is decoded as a flight search request exactly
when its two floats start with the encodings of two strings. -/
theorem priceRange_as_flightSearch (lawful : srpc.RoundTrips) (sound : srpc.Sound) {data : Span}
    (request : PriceRangeSearchRequest)
    (encoded : data.bytes = marshalPriceRangeSearchRequest srpc request) :
    value? ((Message.request .flightSearch).unmarshal srpc data) = none ↔
      ¬ ∃ source destination after, (srpc.f32 request.from).toList ++ (srpc.f32 request.to).toList =
        srpc.string.marshal source ++ (srpc.string.marshal destination ++ after) := by
  constructor
  · rintro rejected ⟨source, destination, after, strings⟩
    let decoded : FlightSearchRequest := ⟨request.id, source, destination⟩
    have accepted : data.bytes = (Message.request .flightSearch).marshal srpc decoded ++ after := by
      rw [encoded, marshalPriceRangeSearchRequest, List.append_assoc, strings]
      simp [Message.marshal, marshalFlightSearchRequest, decoded, marshalTag, Message.kMessageType]
    have found := ((Message.request .flightSearch).codec_roundTrips lawful).value? accepted
    rw [show value? ((Message.codec srpc (.request .flightSearch)).unmarshal data) = none
      from rejected] at found
    cases found
  · intro apart
    cases found : value? ((Message.request .flightSearch).unmarshal srpc data) with
    | none => rfl
    | some decoded =>
      obtain ⟨after, starts⟩ :=
        ((Message.request .flightSearch).codec_strict sound).sound.starts found
      have same := encoded.symm.trans starts
      simp only [marshalPriceRangeSearchRequest, Message.codec, Message.marshal,
        marshalFlightSearchRequest, List.append_assoc] at same
      have strings := (List.append_inj (List.append_cancel_left same) (by simp)).2
      exact absurd ⟨decoded.source, decoded.destination, after, strings⟩ apart

/-- A flight search response is decoded as a price range search response with the same fields. -/
theorem flightSearchResponse_as_priceRange (lawful : srpc.RoundTrips) {data : Span}
    (response : FlightSearchResponse)
    (encoded : data.bytes = marshalFlightSearchResponse srpc response) :
    value? ((Message.response .priceRangeSearch).unmarshal srpc data) =
      some ⟨response.id, response.statusCode, response.message, response.flights⟩ := by
  refine ((Message.response .priceRangeSearch).codec_roundTrips lawful).value? (?_ : _ = _ ++ [])
  rw [encoded, List.append_nil]
  rfl

theorem priceRangeResponse_as_flightSearch (lawful : srpc.RoundTrips) {data : Span}
    (response : PriceRangeSearchResponse)
    (encoded : data.bytes = marshalPriceRangeSearchResponse srpc response) :
    value? ((Message.response .flightSearch).unmarshal srpc data) =
      some ⟨response.id, response.statusCode, response.message, response.flights⟩ := by
  refine ((Message.response .flightSearch).codec_roundTrips lawful).value? (?_ : _ = _ ++ [])
  rw [encoded, List.append_nil]
  rfl

/-- Two structures share a tag only where the price range structures declare
the tags of the flight search structures. -/
theorem Message.shared_tag {sent received : Message} (distinct : sent ≠ received)
    (shared : sent.kMessageType = received.kMessageType) :
    (sent = .request .flightSearch ∧ received = .request .priceRangeSearch) ∨
    (sent = .request .priceRangeSearch ∧ received = .request .flightSearch) ∨
    (sent = .response .flightSearch ∧ received = .response .priceRangeSearch) ∨
    (sent = .response .priceRangeSearch ∧ received = .response .flightSearch) := by
  rcases sent with sent | sent | _ | _ <;> rcases received with received | received | _ | _ <;>
    (try cases sent) <;> (try cases received) <;> revert distinct shared <;> decide

/-- What tells the encoding of a value from the encodings of another message
structure: the tag, or under a shared tag the layout of the two requests. -/
def ToldApart (srpc : Srpc) (sent received : Message) (value : sent.Value) : Prop :=
  sent.kMessageType ≠ received.kMessageType ∨
  match sent, received, value with
  | .request .flightSearch, .request .priceRangeSearch, request =>
    (srpc.string.marshal request.source).length +
      (srpc.string.marshal request.destination).length < 8
  | .request .priceRangeSearch, .request .flightSearch, request =>
    ¬ ∃ source destination after, (srpc.f32 request.from).toList ++ (srpc.f32 request.to).toList =
      srpc.string.marshal source ++ (srpc.string.marshal destination ++ after)
  | _, _, _ => False

/-- The decoder of another message structure rejects an encoding exactly when
the two are told apart. -/
theorem unmarshal_none_iff_toldApart (lawful : srpc.RoundTrips) (sound : srpc.Sound)
    (sent received : Message) (distinct : sent ≠ received) (value : sent.Value) (data : Span)
    (encoded : data.bytes = sent.marshal srpc value) :
    value? (received.unmarshal srpc data) = none ↔ ToldApart srpc sent received value := by
  by_cases differ : sent.kMessageType = received.kMessageType
  · rcases Message.shared_tag distinct differ with
      ⟨rfl, rfl⟩ | ⟨rfl, rfl⟩ | ⟨rfl, rfl⟩ | ⟨rfl, rfl⟩
    · simpa [ToldApart, Message.kMessageType] using
        flightSearch_as_priceRange lawful sound value encoded
    · simpa only [ToldApart, Message.kMessageType, ne_eq, not_true_eq_false, false_or] using
        priceRange_as_flightSearch lawful sound value encoded
    · simp [ToldApart, Message.kMessageType, flightSearchResponse_as_priceRange lawful value encoded]
    · simp [ToldApart, Message.kMessageType, priceRangeResponse_as_flightSearch lawful value encoded]
  · have rejected := Message.unmarshal_other differ value encoded
    simp [ToldApart, differ, rejected, value?]

def foundFlights : FlightSearchResponse := ⟨7, 0, [], [4003, 4004]⟩

def foundFlightsData : Span where
  bytes := (Message.response .flightSearch).marshal .reference foundFlights
  fits := by
    simp [Message.marshal, marshalFlightSearchResponse, marshalTag]
    decide

/-- A flight search response is accepted by the price range search decoder. -/
theorem told_apart_fails :
    Message.response .flightSearch ≠ Message.response .priceRangeSearch ∧
    foundFlightsData.bytes = (Message.response .flightSearch).marshal .reference foundFlights ∧
    value? ((Message.response .priceRangeSearch).unmarshal .reference foundFlightsData) =
      some ⟨7, 0, [], [4003, 4004]⟩ :=
  ⟨by decide, rfl, flightSearchResponse_as_priceRange Srpc.reference_roundTrips foundFlights rfl⟩

theorem unmarshal_none_iff_toldApart_search :
    value? ((Message.response .priceRangeSearch).unmarshal .reference foundFlightsData) = none ↔
      ToldApart .reference (.response .flightSearch) (.response .priceRangeSearch) foundFlights :=
  unmarshal_none_iff_toldApart Srpc.reference_roundTrips Srpc.reference_sound _ _ (by decide) _ _ rfl

end Dfis
