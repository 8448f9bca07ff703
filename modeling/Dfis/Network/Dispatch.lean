import Dfis.Network.Client
import Dfis.Server.Decode

/-! The way of one request from its encoding to its handler, and of the
response back through the decoder the client has for it. -/

namespace Dfis

open Base Wire

variable {srpc : Srpc}

theorem serve_carrying (lawful : srpc.RoundTrips) (sound : srpc.Sound) (counts : srpc.CountsStrings)
    {kind : Kind} {req : kind.Request} {data : Span}
    (encoded : data.bytes = (Message.request kind).marshal srpc req) (semantic : InvocationSemantic)
    (flightsInput : Table Int32 Flight) (state : State) (fromAddr : SocketAddress)
    (now : TimePoint) :
    serve srpc semantic flightsInput state (.carrying data fromAddr now) =
      handle semantic (state.initialise flightsInput) false false ⟨kind, req, fromAddr, now⟩ := by
  simp only [serve, Delivery.carrying, decode_marshal lawful sound counts req encoded]

/-- The client's decoder reads back the response it has asked for. -/
theorem unmarshalResponse_marshal (lawful : srpc.RoundTrips) (answer : Answer) {respData : Span}
    (encoded : respData.bytes = answer.marshal srpc) :
    answer.command.unmarshalResponse srpc respData = some answer.response := by
  refine ((Message.response answer.kind).codec_roundTrips lawful).value? (?_ : _ = _ ++ [])
  rw [encoded, List.append_nil]
  rfl

/-- In every state of a run, the encoding of a request runs the handler of its
kind on that request, and the client's decoder for the kind turns the reply
into the response that the handler computed or had saved. -/
theorem request_reply_intact (lawful : srpc.RoundTrips) (sound : srpc.Sound)
    (counts : srpc.CountsStrings) (semantic : InvocationSemantic) (flightsInput : Table Int32 Flight)
    (deliveries : List Delivery) {kind : Kind} (req : kind.Request) {data : Span}
    (encoded : data.bytes = (Message.request kind).marshal srpc req) (fromAddr : SocketAddress)
    (now : TimePoint) :
    let state := reached srpc semantic flightsInput deliveries
    let call : Call := ⟨kind, req, fromAddr, now⟩
    let served := serve srpc semantic flightsInput state (.carrying data fromAddr now)
    decode srpc data = some ⟨kind, req⟩ ∧
      served = handle semantic state false false call ∧
      ∃ reply, served.2.reply srpc = some reply ∧
        ∀ respData : Span, respData.bytes = reply →
          call.command.unmarshalResponse srpc respData = some (state.response semantic call) := by
  intro state call served
  have handled : served = handle semantic state false false call := by
    have dispatched : served = _ :=
      serve_carrying lawful sound counts encoded semantic flightsInput state fromAddr now
    rw [dispatched, show state.initialise flightsInput = state from reached_initialise _ _ _ _]
  have answered := handle_answer semantic state call
  refine ⟨decode_marshal lawful sound counts req encoded, handled, ?_⟩
  refine ⟨Answer.marshal srpc ⟨kind, req, state.response semantic call⟩, ?_, ?_⟩
  · rw [handled, Outcome.reply, answered, Option.map_some]
  · intro respData carried
    exact unmarshalResponse_marshal lawful ⟨kind, req, state.response semantic call⟩ carried

/-- All flights at a price, whatever it is. -/
def anyPrice : PriceRangeSearchRequest := ⟨9, ⟨0⟩, ⟨0x7f800000⟩⟩

def anyPriceData : Span where
  bytes := (Message.request .priceRangeSearch).marshal .reference anyPrice
  fits := by simp [Message.marshal, marshalPriceRangeSearchRequest, marshalTag]

/-- The request with the tag of a flight search is answered as the price range search it is. -/
theorem request_reply_intact_anyPrice :
    decode .reference anyPriceData = some ⟨.priceRangeSearch, anyPrice⟩ ∧
      ∃ reply, (serve .reference .atMostOnce oneFlight (.start oneFlight)
          (.carrying anyPriceData someClient 0)).2.reply .reference = some reply ∧
        ∀ respData : Span, respData.bytes = reply →
          Command.unmarshalResponse .reference ⟨.priceRangeSearch, anyPrice⟩ respData =
            some ⟨9, 0, [], [4003]⟩ := by
  have encoded : anyPriceData.bytes =
      (Message.request .priceRangeSearch).marshal .reference anyPrice := rfl
  obtain ⟨decoded, _, reply, replied, returned⟩ :=
    request_reply_intact Srpc.reference_roundTrips Srpc.reference_sound
      Srpc.reference_countsStrings .atMostOnce oneFlight [] _ encoded someClient 0
  refine ⟨decoded, reply, replied, fun respData carried => ?_⟩
  rw [show (some ⟨9, 0, [], [4003]⟩ : Option PriceRangeSearchResponse) =
    some (State.response .atMostOnce (.start oneFlight)
      ⟨.priceRangeSearch, anyPrice, someClient, 0⟩) from by decide +kernel]
  exact returned respData carried

end Dfis
