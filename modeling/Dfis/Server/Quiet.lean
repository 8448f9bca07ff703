import Dfis.Server.Decode

/-! The deliveries that leave the store as it is: those that fail, are lost,
only read, or are refused. -/

namespace Dfis

open Base Wire

/-- The kinds whose handlers write nothing but their history. -/
def readOnly : List Kind := [.flightSearch, .flightInfo, .priceRangeSearch]

/-- A delivery to `Serve` in this state that has nothing to change. -/
inductive Delivery.Quiet (srpc : Srpc) (semantic : InvocationSemantic) (state : State)
    (delivery : Delivery) : Prop
  | failed (message : Text) (error : delivery.reqData = .error message)
  | undecodable (reqData : Span) (carries : delivery.reqData = .ok reqData)
      (unread : ∀ kind, value? ((Message.request kind).unmarshal srpc reqData) = none)
  | lost (coin : delivery.reqLost = true)
  | reads (call : Call) (carries : delivery.call? srpc = some call) (reads : call.kind ∈ readOnly)
  | refused (call : Call) (carries : delivery.call? srpc = some call)
      (status : call.kind.statusCode (state.response semantic call) ≠ 0)

theorem Execution.change?_reads {execution : Execution} (reads : execution.kind ∈ readOnly) :
    execution.change? = none := by
  obtain ⟨⟨kind, request, fromAddr, now⟩, response, launched, store⟩ := execution
  cases kind with
  | flightSearch => rfl
  | flightInfo => rfl
  | priceRangeSearch => rfl
  | _ => simp [readOnly] at reads

theorem Execution.change?_refused {execution : Execution}
    (status : execution.kind.statusCode execution.response ≠ 0) : execution.change? = none := by
  obtain ⟨⟨kind, request, fromAddr, now⟩, response, launched, store⟩ := execution
  cases kind with
  | seatReservation => exact if_neg status
  | seatAvailabilityMonitoring => exact if_neg status
  | seatReservationCancellation => exact if_neg status
  | _ => rfl

theorem Effect.unchanged {store : Store} {execution : Execution} (effect : Effect store execution)
    (change : execution.change? = none) :
    execution.store = store ∧ execution.launched = [] := by
  cases effect with
  | nothing _ same silent => exact ⟨same, silent⟩
  | reserve req flight other => cases change.symm.trans other
  | cancel req flight reservation other => cases change.symm.trans other
  | monitor req flight other => cases change.symm.trans other

section Step

variable {srpc : Srpc} {semantic : InvocationSemantic} {state : State} {delivery : Delivery}
  {call : Call}

theorem decode_unread {reqData : Span}
    (unread : ∀ kind, value? ((Message.request kind).unmarshal srpc reqData) = none) :
    decode srpc reqData = none := by
  refine List.findSome?_eq_none_iff.mpr fun kind _ => ?_
  rw [unread kind]
  rfl

theorem State.response_fresh
    (fresh : semantic = .atMostOnce → state.remembered call.key = none) :
    state.response semantic call = (call.run state.store).response := by
  unfold State.response
  split
  · rename_i saved found
    split at found
    · rename_i once
      cases (State.remembered_none.mp (fresh once)).symm.trans found
    · cases found
  · rfl

/-- If a quiet delivery is executed, its execution changes nothing. -/
theorem Delivery.Quiet.unchanged (quiet : delivery.Quiet srpc semantic state)
    (received : delivery.received? srpc = some call)
    (fresh : semantic = .atMostOnce → state.remembered call.key = none) :
    (call.execute state.store).change? = none := by
  obtain ⟨kept, carried⟩ := Delivery.received?_call received
  cases quiet with
  | failed message error => simp [Delivery.call?, error] at carried
  | undecodable reqData carries unread =>
    simp [Delivery.call?, carries, decode_unread unread] at carried
  | lost coin => cases kept.symm.trans coin
  | reads other carries reads =>
    obtain rfl := Option.some.inj (carries.symm.trans carried)
    exact Execution.change?_reads reads
  | refused other carries status =>
    obtain rfl := Option.some.inj (carries.symm.trans carried)
    rw [State.response_fresh fresh] at status
    exact Execution.change?_refused status

theorem handle_resLost (semantic : InvocationSemantic) (state : State) (reqLost : Bool)
    (coin resLost : Bool) (call : Call) :
    (handle semantic state reqLost coin call).1 = (handle semantic state reqLost resLost call).1 := by
  unfold handle
  split
  · rfl
  · split <;> rfl

/-- The response-lost coin decides about the reply only. -/
theorem serve_resLost (srpc : Srpc) (semantic : InvocationSemantic)
    (flightsInput : Table Int32 Flight) (state : State) (delivery : Delivery) (coin : Bool) :
    (serve srpc semantic flightsInput state { delivery with resLost := coin }).1 =
      (serve srpc semantic flightsInput state delivery).1 := by
  obtain ⟨fromAddr, reqData, now, reqLost, resLost⟩ := delivery
  cases reqData with
  | error message => rfl
  | ok reqData =>
    cases decoded : decode srpc reqData with
    | none => simp only [serve, decoded]
    | some request =>
      simp only [serve, decoded]
      exact handle_resLost semantic _ reqLost coin resLost _

end Step

/-- In every state of a run, a request that fails, is lost, only reads or is
refused leaves the three maps as they are and starts no thread; and the state
after a delivery is the same whether or not its response is lost. -/
theorem quiet_leaves_store (srpc : Srpc) (semantic : InvocationSemantic)
    (flightsInput : Table Int32 Flight) (deliveries : List Delivery) (delivery : Delivery) :
    let state := reached srpc semantic flightsInput deliveries
    let served := serve srpc semantic flightsInput state delivery
    (delivery.Quiet srpc semantic state →
      served.1.store = state.store ∧ served.2.launched = []) ∧
    ∀ coin, (serve srpc semantic flightsInput state { delivery with resLost := coin }).1 =
      served.1 := by
  intro state served
  refine ⟨?_, serve_resLost srpc semantic flightsInput state delivery⟩
  intro quiet
  have seen : state.seen flightsInput = state.store := reached_seen _ _ _ _
  have still : served.1.seen flightsInput = served.1.store := by
    rw [State.seen, show served.1.initialise flightsInput = served.1 from initialise_serve _ _ _ _ _]
  rcases serve_store srpc semantic flightsInput state delivery with
    ⟨same, _, silent⟩ | ⟨call, received, fresh, moved, _, launched⟩
  · exact ⟨still.symm.trans (same.trans seen), silent⟩
  · have booked : state.store.Booked := reached_booked deliveries
    obtain ⟨same, silent⟩ := (call.effect booked).unchanged (quiet.unchanged received fresh)
    rw [seen] at launched
    refine ⟨?_, launched.trans silent⟩
    rw [show served.1 = _ from moved, State.execute_store, seen]
    exact same

/-- More seats than the flight has. -/
def reserveEleven : Delivery := .carrying (reservationData ⟨7, 4003, 11⟩) someClient 0

theorem quiet_leaves_store_eleven :
    (serve .reference .atMostOnce oneFlight (.start oneFlight) reserveEleven).1.store =
      ⟨oneFlight, ∅, ∅⟩ :=
  have carries : reserveEleven.call? .reference =
      some ⟨.seatReservation, ⟨7, 4003, 11⟩, someClient, 0⟩ :=
    (Delivery.received?_call (reservation_received ⟨7, 4003, 11⟩ someClient 0)).2
  ((quiet_leaves_store .reference .atMostOnce oneFlight [] reserveEleven).1
    (.refused _ carries (by decide +kernel))).1

end Dfis
