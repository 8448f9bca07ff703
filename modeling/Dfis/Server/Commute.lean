import Dfis.Base.Footprint
import Dfis.Server.Answers
import Dfis.Server.Local

/-! Two requests on different flights can be served in either order. -/

namespace Dfis

open Base

/-- Two runs reply the same, or they refuse a cancellation that names the
reservation of the other request. -/
def SameReply (call other : Call) (outcome outcome' : Outcome) : Prop :=
  outcome.answer = outcome'.answer ∨
    call.reservationReqId? = some other.id ∧
      ∃ answer answer', outcome.answer = some answer ∧ outcome'.answer = some answer' ∧
        answer.status ≠ 0 ∧ answer'.status ≠ 0

/-- A request that gets through is executed unless it is a duplicate. -/
def State.executes (semantic : InvocationSemantic) (state : State) (delivery : Delivery)
    (call : Call) : Bool :=
  !delivery.reqLost &&
    (decide (semantic ≠ .atMostOnce) || ((state.history call.kind).lookup call.id).isNone)

/-- The store after a call that is executed or not. -/
def Call.applied (call : Call) (executes : Bool) (store : Store) : Store :=
  if executes then (call.run store).store else store

section Handle

variable {srpc : Srpc} {semantic : InvocationSemantic} {flightsInput : Table Int32 Flight}
  {state state' : State} {delivery : Delivery} {call : Call}

theorem serve_carried (initialised : state.initialise flightsInput = state)
    (carried : delivery.call? srpc = some call) :
    serve srpc semantic flightsInput state delivery =
      handle semantic state delivery.reqLost delivery.resLost call := by
  obtain ⟨fromAddr, reqData, now, reqLost, resLost⟩ := delivery
  cases reqData with
  | error message => cases carried
  | ok reqData =>
    obtain ⟨request, decoded, rfl⟩ := Option.map_eq_some_iff.mp carried
    simp only [serve, decoded, initialised]

theorem serve_applied (initialised : state.initialise flightsInput = state)
    (carried : delivery.call? srpc = some call) :
    (serve srpc semantic flightsInput state delivery).1.store =
      call.applied (state.executes semantic delivery call) state.store := by
  rw [serve_carried initialised carried]
  unfold handle Call.applied State.executes
  cases delivery.reqLost with
  | true => rfl
  | false =>
    cases semantic with
    | atLeastOnce => rfl
    | atMostOnce =>
      cases found : (state.history call.kind).lookup call.id with
      | none => simp [State.record]
      | some saved => simp

theorem State.record_history (state : State) {req : call.kind.Request} {res : call.kind.Response}
    {kind : Kind} {id : UInt64} (other : (call.kind, call.kind.requestId req) ≠ (kind, id)) :
    ((state.record call.kind req res).history kind).lookup id = (state.history kind).lookup id := by
  unfold State.record
  by_cases same : kind = call.kind
  · subst same
    have different : id ≠ call.kind.requestId req := fun equal => other (by rw [equal])
    simp only [Function.update_self, Finmap.lookup_insert_of_ne _ different]
  · simp only [Function.update_of_ne same]

/-- A call of `Serve` records nothing under another key. -/
theorem serve_history (initialised : state.initialise flightsInput = state)
    (carried : delivery.call? srpc = some call) {kind : Kind} {id : UInt64}
    (other : call.key ≠ (kind, id)) :
    ((serve srpc semantic flightsInput state delivery).1.history kind).lookup id =
      (state.history kind).lookup id := by
  rw [serve_carried initialised carried]
  unfold handle
  split
  · rfl
  · split
    · rfl
    · cases semantic with
      | atLeastOnce => rfl
      | atMostOnce => exact State.record_history _ other

/-- In two states with the same record of a request and stores that are alike
to it, a call does the same. -/
theorem serve_same (initialised : state.initialise flightsInput = state)
    (initialised' : state'.initialise flightsInput = state')
    (carried : delivery.call? srpc = some call)
    (history : (state.history call.kind).lookup call.id = (state'.history call.kind).lookup call.id)
    (run : SameRun call identifier state.store state'.store) {other : Call}
    (recorded : ∀ id, id ≠ other.id →
      state.store.view (.recorded id) = state'.store.view (.recorded id)) :
    (serve srpc semantic flightsInput state delivery).2.launched =
        (serve srpc semantic flightsInput state' delivery).2.launched ∧
      SameReply call other (serve srpc semantic flightsInput state delivery).2
        (serve srpc semantic flightsInput state' delivery).2 := by
  rw [serve_carried initialised carried, serve_carried initialised' carried]
  unfold handle
  rw [history]
  cases delivery.reqLost with
  | true => exact ⟨rfl, .inl rfl⟩
  | false =>
    simp only [Bool.false_eq_true, if_false]
    split
    · exact ⟨rfl, .inl rfl⟩
    · refine ⟨run.launched, ?_⟩
      rcases run.response with same | ⟨failed, failed', id, names, differs⟩
      · exact .inl (by rw [same])
      · cases delivery.resLost with
        | true => exact .inl rfl
        | false =>
          have own : id = other.id := by
            by_contra different
            exact differs (recorded id different)
          exact .inr ⟨own ▸ names, _, _, rfl, rfl, failed, failed'⟩

end Handle

section Confined

variable {call : Call}

theorem Call.confined (names : call.flight? = some identifier) (executes : Bool) :
    Confined Store.Booked Store.view (placesOf identifier call.id) (call.applied executes) := by
  cases executes with
  | false => exact .id Store.Booked Store.view _
  | true =>
    constructor
    · intro store booked
      exact (call.effect booked).booked booked
    · intro store booked place outside
      exact (call.effect booked).elsewhere names place outside
    · intro store store' _ booked same
      exact alikeAt_iff.mpr (call.sameRun names (alikeAt_iff.mp same) booked).alike

theorem placesOf_disjoint {identifier other : Int32} {id otherId : UInt64}
    (flights : identifier ≠ other) (ids : id ≠ otherId) :
    Disjoint (placesOf identifier id) (placesOf other otherId) := by
  simp [placesOf, flights, ids, Set.disjoint_left]

end Confined

section Runs

variable (srpc : Srpc) (semantic : InvocationSemantic) (flightsInput : Table Int32 Flight)
  (deliveries : List Delivery) {first second : Delivery} {call other : Call}

/-- Serving another request first changes nothing about what a delivery does,
but for the reply to a cancellation that is refused either way. -/
private theorem serve_after (carried : first.call? srpc = some call)
    (carriedOther : second.call? srpc = some other) (names : call.flight? = some identifier)
    (namesOther : other.flight? = some otherIdentifier) (flights : identifier ≠ otherIdentifier)
    (ids : call.id ≠ other.id) :
    let state := reached srpc semantic flightsInput deliveries
    let state' := (serve srpc semantic flightsInput state second).1
    state.executes semantic first call = state'.executes semantic first call ∧
      (serve srpc semantic flightsInput state first).2.launched =
        (serve srpc semantic flightsInput state' first).2.launched ∧
      SameReply call other (serve srpc semantic flightsInput state first).2
        (serve srpc semantic flightsInput state' first).2 := by
  intro state state'
  have initialised : state.initialise flightsInput = state := reached_initialise _ _ _ _
  have after : state' = reached srpc semantic flightsInput (deliveries ++ [second]) :=
    (reached_snoc _ _ _ _ _).symm
  have initialised' : state'.initialise flightsInput = state' := initialise_serve _ _ _ _ _
  have booked : state.store.Booked := reached_booked deliveries
  have booked' : state'.store.Booked := after ▸ reached_booked (deliveries ++ [second])
  have left : state'.store = other.applied (state.executes semantic second other) state.store :=
    serve_applied initialised carriedOther
  have confined := other.confined namesOther (state.executes semantic second other)
  have keys : other.key ≠ call.key := fun same => ids (congrArg Prod.snd same).symm
  have history : (state.history call.kind).lookup call.id =
      (state'.history call.kind).lookup call.id :=
    (serve_history initialised carriedOther keys).symm
  have alike : AlikeAt identifier call.id state.store state'.store := by
    refine alikeAt_iff.mp fun place member => ?_
    rw [left]
    exact confined.undisturbed (placesOf_disjoint flights ids) booked place member
  have recorded (id : UInt64) (different : id ≠ other.id) :
      state.store.view (.recorded id) = state'.store.view (.recorded id) := by
    rw [left]
    refine (confined.elsewhere state.store booked _ ?_).symm
    simp [placesOf, different]
  refine ⟨?_, serve_same initialised initialised' carried history
    (call.sameRun names alike booked') recorded⟩
  rw [State.executes, State.executes, history]

/-- In every state of a run, two requests that name different flights and have
different ids leave the same three maps in either order, and each starts the
same threads and gets the same reply, but for a cancellation that names the
reservation of the other request and is refused either way. -/
theorem different_flights_commute (carried : first.call? srpc = some call)
    (carriedOther : second.call? srpc = some other) (names : call.flight? = some identifier)
    (namesOther : other.flight? = some otherIdentifier) (flights : identifier ≠ otherIdentifier)
    (ids : call.id ≠ other.id) :
    let state := reached srpc semantic flightsInput deliveries
    let firstEarly := serve srpc semantic flightsInput state first
    let secondLate := serve srpc semantic flightsInput firstEarly.1 second
    let secondEarly := serve srpc semantic flightsInput state second
    let firstLate := serve srpc semantic flightsInput secondEarly.1 first
    secondLate.1.store = firstLate.1.store ∧
      firstEarly.2.launched = firstLate.2.launched ∧
      secondEarly.2.launched = secondLate.2.launched ∧
      SameReply call other firstEarly.2 firstLate.2 ∧
      SameReply other call secondEarly.2 secondLate.2 := by
  intro state firstEarly secondLate secondEarly firstLate
  obtain ⟨executes, launched, reply⟩ := serve_after srpc semantic flightsInput deliveries carried
    carriedOther names namesOther flights ids
  obtain ⟨executesOther, launchedOther, replyOther⟩ := serve_after srpc semantic flightsInput
    deliveries carriedOther carried namesOther names (Ne.symm flights) (Ne.symm ids)
  refine ⟨?_, launched, launchedOther, reply, replyOther⟩
  have initialised : state.initialise flightsInput = state := reached_initialise _ _ _ _
  have afterFirst : firstEarly.1.initialise flightsInput = firstEarly.1 :=
    initialise_serve _ _ _ _ _
  have afterSecond : secondEarly.1.initialise flightsInput = secondEarly.1 :=
    initialise_serve _ _ _ _ _
  have booked : state.store.Booked := reached_booked deliveries
  have commute := Confined.commute Store.view_injective
    (other.confined namesOther (state.executes semantic second other))
    (call.confined names (state.executes semantic first call))
    (placesOf_disjoint (Ne.symm flights) (Ne.symm ids)) booked
  calc secondLate.1.store
      = other.applied (firstEarly.1.executes semantic second other) firstEarly.1.store :=
        serve_applied afterFirst carriedOther
    _ = other.applied (state.executes semantic second other)
          (call.applied (state.executes semantic first call) state.store) := by
        rw [← executesOther, show firstEarly.1.store = _ from serve_applied initialised carried]
    _ = call.applied (state.executes semantic first call)
          (other.applied (state.executes semantic second other) state.store) := commute
    _ = call.applied (secondEarly.1.executes semantic first call) secondEarly.1.store := by
        rw [← executes, show secondEarly.1.store = _ from serve_applied initialised carriedOther]
    _ = firstLate.1.store := (serve_applied afterSecond carried).symm

end Runs

/-- Two flights between the same cities. -/
def twoFlights : Table Int32 Flight :=
  readFlightsFromFile [tenSeats, { tenSeats with identifier := 4004 }]

def reserveFirst : Delivery := .carrying (reservationData ⟨7, 4003, 2⟩) someClient 0

def watchSecond : Delivery := .carrying (monitoringData ⟨8, 4004, 6000, 60⟩) someClient 5

theorem different_flights_commute_two :
    (reached .reference .atMostOnce twoFlights [reserveFirst, watchSecond]).store =
      (reached .reference .atMostOnce twoFlights [watchSecond, reserveFirst]).store :=
  have carried := (Delivery.received?_call (reservation_received ⟨7, 4003, 2⟩ someClient 0)).2
  have carriedOther :=
    (Delivery.received?_call (monitoring_received ⟨8, 4004, 6000, 60⟩ someClient 5)).2
  (different_flights_commute .reference .atMostOnce twoFlights [] carried carriedOther rfl rfl
    (by decide) (by decide)).1

end Dfis
