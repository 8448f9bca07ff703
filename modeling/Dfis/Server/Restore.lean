import Dfis.Server.AtMostOnce
import Dfis.Server.Consistency
import Dfis.Server.Decode
import Dfis.Server.Ledger

/-! No seat is lost for good: under at-most-once, cancelling what the
reservations still hold gives every flight all its seats back. -/

namespace Dfis

open Base Machine Wire

/-- The cancellation of all that a reservation holds. -/
def Reservation.refund (reservation : Reservation) (id reservationReqId : UInt64) :
    SeatReservationCancellationRequest :=
  ⟨id, reservationReqId, reservation.identifier, reservation.seats⟩

/-- The delivery carries such a cancellation, with this id, of this reservation. -/
def Refunds (srpc : Srpc) (store : Store) (entry : UInt64 × UInt64) (delivery : Delivery) : Prop :=
  ∃ reservation fromAddr now, store.reservations.lookup entry.2 = some reservation ∧
    delivery.received? srpc =
      some ⟨.seatReservationCancellation, reservation.refund entry.1 entry.2, fromAddr, now⟩

/-- The deliveries refund different reservations, under new ids of their own. -/
structure Refunding (srpc : Srpc) (state : State) (plan : List (UInt64 × UInt64))
    (refunds : List Delivery) : Prop where
  carried : List.Forall₂ (Refunds srpc state.store) plan refunds
  ids : (plan.map Prod.fst).Nodup
  separate : (plan.map Prod.snd).Nodup
  fresh : ∀ entry ∈ plan, state.remembered (.seatReservationCancellation, entry.1) = none

section Step

variable {srpc : Srpc} {flightsInput : Table Int32 Flight} {state : State}

theorem refund_executed {store : Store} {reservation : Reservation} {reservationReqId : UInt64}
    (recorded : store.reservations.lookup reservationReqId = some reservation) (id : UInt64)
    (now : TimePoint) :
    (executeSeatReservationCancellation store now
        (reservation.refund id reservationReqId)).response.statusCode = 0 ∧
      (executeSeatReservationCancellation store now
        (reservation.refund id reservationReqId)).store.reservations =
        store.reservations.insert reservationReqId { reservation with seats := 0 } := by
  simp [executeSeatReservationCancellation, Reservation.refund, recorded]

theorem Refunds.step (initialised : state.initialise flightsInput = state)
    {entry : UInt64 × UInt64} {delivery : Delivery} (refunds : Refunds srpc state.store entry delivery)
    (fresh : state.remembered (.seatReservationCancellation, entry.1) = none) :
    (∃ reservation, state.store.reservations.lookup entry.2 = some reservation ∧
      (serve srpc .atMostOnce flightsInput state delivery).1.store.reservations =
        state.store.reservations.insert entry.2 { reservation with seats := 0 }) ∧
    (∀ id ≠ entry.1,
      (serve srpc .atMostOnce flightsInput state delivery).1.remembered
        (.seatReservationCancellation, id) =
          state.remembered (.seatReservationCancellation, id)) ∧
    ∃ execution, (serve srpc .atMostOnce flightsInput state delivery).2.executed = some execution ∧
      execution.cancelled?.isSome := by
  obtain ⟨reservation, fromAddr, now, recorded, received⟩ := refunds
  have seen : state.seen flightsInput = state.store := by rw [State.seen, initialised]
  obtain ⟨status, left⟩ := refund_executed recorded entry.1 now
  rw [serve_fresh received fun _ => fresh]
  refine ⟨⟨reservation, recorded, ?_⟩, ?_, _, rfl, ?_⟩
  · rw [State.execute_store, seen]
    exact left
  · intro id other
    rw [State.execute_remembered]
    exact Function.update_of_ne (fun same => other (congrArg Prod.snd same)) _ _
  · rw [seen, Option.isSome_iff_exists]
    refine ⟨reservation.refund entry.1 entry.2, Execution.cancelled?_eq_some.mpr ?_⟩
    exact if_pos status

end Step

section Runs

variable {srpc : Srpc} {flightsInput : Table Int32 Flight}

/-- The refunds empty their reservations, each of which is carried out. -/
theorem Refunding.run {state : State} (settled : Settled flightsInput state)
    {plan : List (UInt64 × UInt64)} {refunds : List Delivery}
    (refunding : Refunding srpc state plan refunds) :
    (∀ id, (after (serve srpc .atMostOnce flightsInput) state refunds).store.reservations.lookup id =
      (state.store.reservations.lookup id).map fun reservation =>
        if id ∈ plan.map Prod.snd then { reservation with seats := 0 } else reservation) ∧
    ∀ outcome ∈ outputs (serve srpc .atMostOnce flightsInput) state refunds,
      ∃ execution, outcome.executed = some execution ∧ execution.cancelled?.isSome := by
  induction plan generalizing state refunds with
  | nil =>
    obtain rfl := List.forall₂_nil_left_iff.mp refunding.carried
    refine ⟨fun id => ?_, fun outcome member => by cases member⟩
    simp [after]
  | cons entry plan ih =>
    obtain ⟨carried, ids, separate, fresh⟩ := refunding
    obtain ⟨delivery, later, own, others, rfl⟩ := List.forall₂_cons_left_iff.mp carried
    obtain ⟨otherIds, ids⟩ := List.nodup_cons.mp ids
    obtain ⟨alone, separate⟩ := List.nodup_cons.mp separate
    obtain ⟨⟨reservation, recorded, left⟩, remembered, executed⟩ :=
      own.step settled.initialised (fresh entry List.mem_cons_self)
    set next := (serve srpc .atMostOnce flightsInput state delivery).1 with moved
    have rest : Refunding srpc next plan later := by
      refine ⟨?_, ids, separate, ?_⟩
      · have apart : ∀ other ∈ plan, other.2 ≠ entry.2 := fun other member same =>
          alone (same ▸ List.mem_map_of_mem member)
        refine ((List.forall₂_and_left plan later).mpr ⟨apart, others⟩).imp ?_
        · rintro other delivery ⟨different, reservation, fromAddr, now, recorded, received⟩
          refine ⟨reservation, fromAddr, now, ?_, received⟩
          rw [left, Table.lookup_insert, if_neg different, recorded]
      · intro other member
        rw [remembered other.1 ?_]
        · exact fresh other (List.mem_cons_of_mem _ member)
        · intro same
          exact otherIds (same ▸ List.mem_map_of_mem member)
    obtain ⟨emptied, carriedOut⟩ := ih (settled.step srpc flightsInput delivery) rest
    constructor
    · intro id
      change (after _ next later).store.reservations.lookup id = _
      rw [emptied, left, Table.lookup_insert]
      by_cases same : id = entry.2
      · subst same
        simp [recorded]
      · simp only [List.map_cons, List.mem_cons, same, false_or, if_false]
    · intro outcome member
      rcases List.mem_cons.mp member with rfl | later
      · exact executed
      · exact carriedOut outcome later

theorem reached_settled (srpc : Srpc) (flightsInput : Table Int32 Flight) (deliveries : List Delivery) :
    Settled flightsInput (reached srpc .atMostOnce flightsInput deliveries) :=
  invariant (.start flightsInput) (fun _ delivery settled => settled.step srpc flightsInput delivery)
    deliveries

/-- After any run under at-most-once, refunds of all reservations that still
hold seats, in any order and from any clients, are all carried out, and then
every flight is as it was in the input. -/
theorem refunds_restore (deliveries : List Delivery) {plan : List (UInt64 × UInt64)}
    {refunds : List Delivery}
    (refunding : Refunding srpc (reached srpc .atMostOnce flightsInput deliveries) plan refunds)
    (all : ∀ id reservation, (reached srpc .atMostOnce flightsInput deliveries).store.reservations.lookup
      id = some reservation → reservation.seats ≠ 0 → id ∈ plan.map Prod.snd) :
    (∀ outcome ∈ (outcomes srpc .atMostOnce flightsInput (deliveries ++ refunds)).drop deliveries.length,
      ∃ execution, outcome.executed = some execution ∧ execution.cancelled?.isSome) ∧
    ∀ identifier, (reached srpc .atMostOnce flightsInput
      (deliveries ++ refunds)).store.flights.lookup identifier = flightsInput.lookup identifier := by
  obtain ⟨emptied, carriedOut⟩ := refunding.run (reached_settled srpc flightsInput deliveries)
  have appended : after (serve srpc .atMostOnce flightsInput)
      (reached srpc .atMostOnce flightsInput deliveries) refunds =
        reached srpc .atMostOnce flightsInput (deliveries ++ refunds) :=
    (after_append _ _ _ _).symm
  rw [appended] at emptied
  constructor
  · rw [outcomes, outputs_append, List.drop_left' (outputs_length _ _ _)]
    exact carriedOut
  · obtain ⟨-, balanced, -⟩ := reached_recorded srpc flightsInput (deliveries ++ refunds)
    have same := reached_flights srpc .atMostOnce flightsInput (deliveries ++ refunds)
    have nothing (identifier : Int32) : (reached srpc .atMostOnce flightsInput
        (deliveries ++ refunds)).store.held identifier = 0 := by
      refine Table.total_eq_zero fun id reservation found => ?_
      rw [emptied] at found
      obtain ⟨before, recorded, rfl⟩ := Option.map_eq_some_iff.mp found
      have empty : before.seats ≠ 0 → id ∈ plan.map Prod.snd := all id before recorded
      unfold Reservation.held
      grind
    intro identifier
    obtain ⟨seats, found⟩ := same identifier
    rw [found]
    cases known : flightsInput.lookup identifier with
    | none => rfl
    | some initial =>
      rw [known] at found
      have missing := balanced identifier initial _ known found
      rw [nothing identifier, sub_eq_zero] at missing
      obtain rfl : initial.seatAvailability = seats := missing
      rfl

end Runs

/-- Two seats for one client and three for another. -/
def bookTwo : Delivery := .carrying (reservationData ⟨7, 4003, 2⟩) someClient 5

def bookThree : Delivery := .carrying (reservationData ⟨8, 4003, 3⟩) otherClient 6

/-- The cancellations that give them back, the later reservation first. -/
def refundThree : Delivery := .carrying (cancellationData ⟨9, 8, 4003, 3⟩) otherClient 20

def refundTwo : Delivery := .carrying (cancellationData ⟨10, 7, 4003, 2⟩) someClient 21

private theorem booked_keys (earlier : Delivery) (member : earlier ∈ [bookTwo, bookThree]) :
    ∃ id, (reservationService .reference).keyOf earlier = some (.seatReservation, id) := by
  rcases List.mem_cons.mp member with rfl | member
  · exact ⟨7, congrArg _ (reservation_received ⟨7, 4003, 2⟩ someClient 5)⟩
  · obtain rfl := List.mem_singleton.mp member
    exact ⟨8, congrArg _ (reservation_received ⟨8, 4003, 3⟩ otherClient 6)⟩

theorem booked_reservations (id : UInt64) :
    (reached .reference .atMostOnce oneFlight [bookTwo, bookThree]).store.reservations.lookup id =
      if id = 8 then some ⟨4003, 3⟩ else if id = 7 then some ⟨4003, 2⟩ else none := by
  have first : (reached .reference .atMostOnce oneFlight ([] ++ [bookTwo])).store =
      (Call.run ⟨.seatReservation, ⟨7, 4003, 2⟩, someClient, 5⟩ ⟨oneFlight, ∅, ∅⟩).store :=
    reached_executed (reservation_received ⟨7, 4003, 2⟩ someClient 5)
      fun _ => State.start_remembered oneFlight _
  have unheard : (reached .reference .atMostOnce oneFlight [bookTwo]).remembered
      (.seatReservation, 8) = none := by
    apply reached_unknown
    intro earlier member
    obtain rfl := List.mem_singleton.mp member
    rw [Service.keyOf, show (reservationService .reference).read bookTwo = _ from
      reservation_received ⟨7, 4003, 2⟩ someClient 5]
    exact fun same => by cases same
  have second : (reached .reference .atMostOnce oneFlight ([bookTwo] ++ [bookThree])).store =
      (Call.run ⟨.seatReservation, ⟨8, 4003, 3⟩, otherClient, 6⟩
        (reached .reference .atMostOnce oneFlight [bookTwo]).store).store :=
    reached_executed (reservation_received ⟨8, 4003, 3⟩ otherClient 6) fun _ => unheard
  have inserted : (Call.run ⟨.seatReservation, ⟨8, 4003, 3⟩, otherClient, 6⟩
      (Call.run ⟨.seatReservation, ⟨7, 4003, 2⟩, someClient, 5⟩
        ⟨oneFlight, ∅, ∅⟩).store).store.reservations =
          Finmap.insert 8 ⟨4003, 3⟩ (Finmap.insert 7 ⟨4003, 2⟩ ∅) := by
    decide +kernel
  rw [← List.singleton_append, second, show [bookTwo] = [] ++ [bookTwo] from rfl, first, inserted,
    Table.lookup_insert, Table.lookup_insert, Finmap.lookup_empty]

/-- After the refunds there are ten seats again. -/
theorem refunds_restore_two :
    (reached .reference .atMostOnce oneFlight
      ([bookTwo, bookThree] ++ [refundThree, refundTwo])).store.flights.lookup 4003 =
      some tenSeats := by
  have refunding : Refunding .reference
      (reached .reference .atMostOnce oneFlight [bookTwo, bookThree]) [(9, 8), (10, 7)]
      [refundThree, refundTwo] := by
    refine ⟨?_, by decide, by decide, ?_⟩
    · refine .cons ?_ (.cons ?_ .nil)
      · exact ⟨⟨4003, 3⟩, otherClient, 20, booked_reservations 8,
          cancellation_received ⟨9, 8, 4003, 3⟩ otherClient 20⟩
      · exact ⟨⟨4003, 2⟩, someClient, 21, booked_reservations 7,
          cancellation_received ⟨10, 7, 4003, 2⟩ someClient 21⟩
    · intro entry _
      apply reached_unknown
      intro earlier member same
      obtain ⟨id, key⟩ := booked_keys earlier member
      cases key.symm.trans same
  refine ((refunds_restore [bookTwo, bookThree] refunding ?_).2 4003).trans (oneFlight_lookup 4003)
  intro id reservation found _
  have known := (booked_reservations id).symm.trans found
  split at known
  · rename_i same
    simp [same]
  · split at known
    · rename_i same
      simp [same]
    · cases known

end Dfis
