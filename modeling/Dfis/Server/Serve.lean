import Dfis.Base.Dedup
import Dfis.Server.Execute

/-! `Serve`: the chain of decoders, the duplicate check, the history and the
two simulated losses. -/

namespace Dfis

open Base Wire

/-- The kinds in the order in which `Serve` tries their decoders. -/
def decoders : List Kind :=
  [.flightSearch, .flightInfo, .seatReservation, .seatAvailabilityMonitoring, .priceRangeSearch,
    .seatReservationCancellation]

/-- The first decoder that returns a value decides. A decoder that reads
outside the data, which none over sound serialisers does, returns none. -/
def decode (srpc : Srpc) (reqData : Span) : Option ((kind : Kind) × kind.Request) :=
  decoders.findSome? fun kind =>
    (value? ((Message.request kind).unmarshal srpc reqData)).map fun req => ⟨kind, req⟩

/-- The body behind each decoder. -/
def handle (semantic : InvocationSemantic) (state : State) (reqLost resLost : Bool) (call : Call) :
    State × Outcome :=
  if reqLost then (state, .none)
  else
    match if semantic = .atMostOnce then (state.history call.kind).lookup call.id else none with
    | some saved =>
      (state, ⟨if resLost then none else some ⟨call.kind, call.request, saved.2⟩, [], none⟩)
    | none =>
      let res := (call.run state.store).response
      let executed := { state with store := (call.run state.store).store }
      (if semantic = .atMostOnce then executed.record call.kind call.request res else executed,
        { answer := if resLost then none else some ⟨call.kind, call.request, res⟩
          launched := (call.run state.store).launched
          executed := some (call.execute state.store) })

/-- The response to a call that gets through: the saved one of a duplicate, or
else the one its execution computes. -/
def State.response (semantic : InvocationSemantic) (state : State) (call : Call) :
    call.kind.Response :=
  match if semantic = .atMostOnce then (state.history call.kind).lookup call.id else none with
  | some saved => saved.2
  | none => (call.run state.store).response

theorem handle_answer (semantic : InvocationSemantic) (state : State) (call : Call) :
    (handle semantic state false false call).2.answer =
      some ⟨call.kind, call.request, state.response semantic call⟩ := by
  simp only [handle, State.response, Bool.false_eq_true, if_false]
  split <;> rfl

def serve (srpc : Srpc) (semantic : InvocationSemantic) (flightsInput : Table Int32 Flight) :
    Machine State Delivery Outcome := fun state delivery =>
  let state := state.initialise flightsInput
  match delivery.reqData with
  | .error _ => (state, .none)
  | .ok reqData =>
    match decode srpc reqData with
    | none => (state, .none)
    | some ⟨kind, req⟩ =>
      handle semantic state delivery.reqLost delivery.resLost
        ⟨kind, req, delivery.fromAddr, delivery.now⟩

/-- The request a delivery carries, lost or not. -/
def Delivery.call? (srpc : Srpc) (delivery : Delivery) : Option Call :=
  match delivery.reqData with
  | .error _ => none
  | .ok reqData =>
    (decode srpc reqData).map fun request =>
      ⟨request.1, request.2, delivery.fromAddr, delivery.now⟩

/-- The request a delivery carries to the handlers. -/
def Delivery.received? (srpc : Srpc) (delivery : Delivery) : Option Call :=
  if delivery.reqLost then none else delivery.call? srpc

/-- What a history identifies a request by. -/
abbrev RequestKey : Type := Kind × UInt64

/-- `Serve` as a service on its store. -/
def reservationService (srpc : Srpc) : Service Delivery Call RequestKey Store Execution where
  read delivery := delivery.received? srpc
  key call := (call.kind, call.id)
  execute store call := ((call.run store).store, call.execute store)

end Dfis
