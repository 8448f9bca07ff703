import Dfis.Base.Idle
import Dfis.Server.AtMostOnce
import Dfis.Server.Ledger

/-! The two invocation semantics against each other: what a repeated request
must be for nobody to tell them apart. -/

namespace Dfis

open Base Machine

/-- Nobody is told of a change to this flight, and its entry of callbacks is there. -/
def Store.Unwatched (store : Store) (identifier : Int32) (now : TimePoint) : Prop :=
  (∃ callbacks, store.callbacks.lookup identifier = some callbacks) ∧
    ∀ callback ∈ store.watching identifier, ¬ now < callback.monitorEnd

/-- A change that changes nothing: of no seats on an unwatched flight, and for a
reservation under an id that is recorded. -/
def Change.Idle (store : Store) (now : TimePoint) : Change → Prop
  | .reserve req => req.seats = 0 ∧ store.Unwatched req.identifier now ∧
    ∃ reservation, store.reservations.lookup req.id = some reservation
  | .cancel req => req.seats = 0 ∧ store.Unwatched req.identifier now
  | .monitor _ => False

section Step

variable {store : Store} {execution : Execution}

theorem notify_eq_nil_iff (callbacks : List Callback) (now : TimePoint)
    (cbReq : SeatAvailabilityCallbackRequest) :
    notify callbacks now cbReq = [] ↔ ∀ callback ∈ callbacks, ¬ now < callback.monitorEnd := by
  simp [notify, List.filter_eq_nil_iff]

theorem Store.mk_eq_iff {flights : Table Int32 Flight} {callbacks : Table Int32 (List Callback)}
    {reservations : Table UInt64 Reservation} :
    Store.mk flights callbacks reservations = store ↔
      flights = store.flights ∧ callbacks = store.callbacks ∧ reservations = store.reservations := by
  cases store
  exact Store.mk.injEq _ _ _ _ _ _ ▸ Iff.rfl

theorem insert_seats_iff {flights : Table Int32 Flight} {identifier : Int32} {flight : Flight}
    (found : flights.lookup identifier = some flight) (seats : Int32) :
    flights.insert identifier { flight with seatAvailability := seats } = flights ↔
      seats = flight.seatAvailability := by
  rw [Table.insert_eq_self_iff, found, Option.some.injEq]
  constructor
  · intro same
    exact (congrArg Flight.seatAvailability same).symm
  · rintro rfl
    rfl

theorem Effect.idle_iff (effect : Effect store execution) :
    execution.store = store ∧ execution.launched = [] ↔
      ∀ change, execution.change? = some change → change.Idle store execution.now := by
  cases effect with
  | nothing change same silent => simp [change, same, silent]
  | reserve req flight change found enough left notified =>
    have none : flight.seatAvailability - req.seats = flight.seatAvailability ↔ req.seats = 0 :=
      sub_eq_self
    rw [left, notified, change, Store.mk_eq_iff, insert_seats_iff found, none,
      Table.subscript_eq_self_iff, Table.emplace_eq_self_iff, notify_eq_nil_iff]
    simp only [Option.some.injEq, forall_eq', Change.Idle, Store.Unwatched]
    tauto
  | cancel req flight reservation change found booked agrees enough left notified =>
    have none : flight.seatAvailability + req.seats = flight.seatAvailability ↔ req.seats = 0 :=
      add_eq_left
    rw [left, notified, change, Store.mk_eq_iff, insert_seats_iff found, none,
      Table.subscript_eq_self_iff, Table.insert_eq_self_iff, notify_eq_nil_iff, booked]
    simp only [Option.some.injEq, forall_eq', Change.Idle, Store.Unwatched]
    constructor
    · rintro ⟨⟨none, known, -⟩, silent⟩
      exact ⟨none, known, silent⟩
    · rintro ⟨none, known, silent⟩
      refine ⟨⟨none, known, ?_⟩, silent⟩
      rw [none, sub_zero]
  | monitor req flight change found left silent =>
    rw [left, change]
    simp only [Option.some.injEq, forall_eq', Change.Idle, iff_false]
    rintro ⟨same, -⟩
    have longer := congrArg (fun store => store.watching req.identifier) same
    simp [Store.watching] at longer

end Step

section Runs

variable (srpc : Srpc) (flightsInput : Table Int32 Flight)

/-- Under both semantics these deliveries lead to the same store and have
started the same threads. -/
def SemanticsAgree (deliveries : List Delivery) : Prop :=
  (reached srpc .atMostOnce flightsInput deliveries).store =
      (reached srpc .atLeastOnce flightsInput deliveries).store ∧
    (outcomes srpc .atMostOnce flightsInput deliveries).flatMap Outcome.launched =
      (outcomes srpc .atLeastOnce flightsInput deliveries).flatMap Outcome.launched

/-- The delivery brings a request whose kind and id an earlier delivery has brought. -/
def RepeatsCall (before : List Delivery) (delivery : Delivery) (call : Call) : Prop :=
  delivery.received? srpc = some call ∧
    ∃ earlier ∈ before, ∃ other, earlier.received? srpc = some other ∧ other.key = call.key

/-- The two semantics agree all along a run exactly when every repeated request
that at-least-once executes again reads, is refused, or is a change that
changes nothing. -/
theorem semantics_agree_iff (deliveries : List Delivery) :
    (∀ earlier, earlier <+: deliveries → SemanticsAgree srpc flightsInput earlier) ↔
    ∀ before delivery, before ++ [delivery] <+: deliveries →
      ∀ call, RepeatsCall srpc before delivery call →
        let store := (reached srpc .atLeastOnce flightsInput before).store
        ∀ change, (call.execute store).change? = some change → change.Idle store call.now := by
  have alike := (serve_suppresses srpc flightsInput).alike_iff Execution.launched
    (serve_executes srpc flightsInput) (State.start_remembered flightsInput) rfl deliveries
  have together (earlier : List Delivery) : SemanticsAgree srpc flightsInput earlier ↔
      Suppresses.Alike (serve srpc .atMostOnce flightsInput) (State.seen flightsInput)
        Outcome.executed (serve srpc .atLeastOnce flightsInput) (State.seen flightsInput)
        Outcome.executed Execution.launched (.start flightsInput) (.start flightsInput) earlier := by
    rw [SemanticsAgree, outcomes_launched, outcomes_launched, ← reached_seen, ← reached_seen]
    rfl
  have idle (before : List Delivery) (call : Call) :
      (reservationService srpc).Idle Execution.launched
          ((reached srpc .atLeastOnce flightsInput before).seen flightsInput) call ↔
        let store := (reached srpc .atLeastOnce flightsInput before).store
        ∀ change, (call.execute store).change? = some change → change.Idle store call.now := by
    rw [reached_seen]
    exact (call.effect (reached_booked before)).idle_iff
  have repeats (before : List Delivery) (delivery : Delivery) (call : Call) :
      (reservationService srpc).Repeats before delivery call ↔
        RepeatsCall srpc before delivery call := by
    simp only [Service.Repeats, RepeatsCall, Service.keyOf, Option.map_eq_some_iff]
    rfl
  simp only [together]
  refine alike.trans ?_
  simp only [repeats]
  refine forall₄_congr fun before delivery _ call => forall_congr' fun _ => ?_
  exact idle before call

end Runs

end Dfis
