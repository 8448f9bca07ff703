import Dfis.Server.Decode
import Dfis.Server.Ledger
import Mathlib.Algebra.Order.Group.Int

/-! Seats within their bounds: both checks compare signed numbers, so they
bound what positive requests do and let negative ones through. -/

namespace Dfis

open Base Machine

/-- No flight is overbooked or has more seats than it began with, and no
reservation holds a negative number of seats. -/
structure Store.InRange (store : Store) (flightsInput : Table Int32 Flight) : Prop where
  flights : ∀ identifier flight, store.flights.lookup identifier = some flight →
    ∃ initial, flightsInput.lookup identifier = some initial ∧
      0 ≤ flight.seatAvailability ∧ flight.seatAvailability ≤ initial.seatAvailability
  reservations : ∀ id reservation, store.reservations.lookup id = some reservation →
    0 ≤ reservation.seats

/-- The seats a reservation holds on a flight, as an integer. -/
def Reservation.heldExactly (identifier : Int32) (reservation : Reservation) : Int :=
  if reservation.identifier = identifier then reservation.seats.toInt else 0

/-- The seats all reservations hold on a flight, counted without overflow. -/
def Store.heldExactly (store : Store) (identifier : Int32) : Int :=
  Table.total store.reservations (Reservation.heldExactly identifier)

/-- The bounds with the reservations counted in, which every step within the condition keeps. -/
structure Store.Covered (store : Store) (flightsInput : Table Int32 Flight) : Prop where
  flights : ∀ identifier flight, store.flights.lookup identifier = some flight →
    ∃ initial, flightsInput.lookup identifier = some initial ∧
      0 ≤ flight.seatAvailability.toInt ∧
      flight.seatAvailability.toInt + store.heldExactly identifier ≤ initial.seatAvailability.toInt
  reservations : ∀ id reservation, store.reservations.lookup id = some reservation →
    0 ≤ reservation.seats.toInt

section Exact

theorem toInt_sub_exact {first second : Int32} (low : -2147483648 ≤ first.toInt - second.toInt)
    (high : first.toInt - second.toInt < 2147483648) :
    (first - second).toInt = first.toInt - second.toInt := by
  rw [Int32.toInt_sub]
  exact Int.bmod_eq_of_le (by omega) (by omega)

theorem toInt_add_exact {first second : Int32} (low : -2147483648 ≤ first.toInt + second.toInt)
    (high : first.toInt + second.toInt < 2147483648) :
    (first + second).toInt = first.toInt + second.toInt := by
  rw [Int32.toInt_add]
  exact Int.bmod_eq_of_le (by omega) (by omega)

end Exact

variable {store : Store} {flightsInput : Table Int32 Flight} {execution : Execution}

theorem Store.Covered.weight_nonneg (covered : store.Covered flightsInput) (identifier : Int32)
    (id : UInt64) (reservation : Reservation)
    (found : store.reservations.lookup id = some reservation) :
    0 ≤ reservation.heldExactly identifier := by
  unfold Reservation.heldExactly
  split
  · exact covered.reservations id reservation found
  · exact le_refl 0

theorem Store.Covered.reservation_le (covered : store.Covered flightsInput)
    {id : UInt64} {reservation : Reservation}
    (found : store.reservations.lookup id = some reservation) :
    reservation.seats.toInt ≤ store.heldExactly reservation.identifier := by
  have all := Table.le_total found (covered.weight_nonneg reservation.identifier)
  rwa [Reservation.heldExactly, if_pos rfl] at all

theorem Store.Covered.inRange (covered : store.Covered flightsInput) : store.InRange flightsInput where
  flights identifier flight found := by
    obtain ⟨initial, known, nonneg, bound⟩ := covered.flights identifier flight found
    have held : 0 ≤ store.heldExactly identifier :=
      Table.total_nonneg (covered.weight_nonneg identifier)
    refine ⟨initial, known, Int32.le_iff_toInt_le.mpr nonneg, Int32.le_iff_toInt_le.mpr ?_⟩
    omega
  reservations id reservation found :=
    Int32.le_iff_toInt_le.mpr (covered.reservations id reservation found)

/-- An execution keeps the flights covered when it takes from one flight no
more seats than there are, and its reservations gain no more than that. -/
private theorem Store.Covered.flights_step (covered : store.Covered flightsInput)
    (effect : Effect store execution) (target : Int32) (seats : Int)
    (elsewhere : ∀ identifier, identifier ≠ target → execution.taken identifier = 0 ∧
      execution.store.heldExactly identifier ≤ store.heldExactly identifier)
    (there : ∀ flight, store.flights.lookup target = some flight →
      (flight.seatAvailability - execution.taken target).toInt =
        flight.seatAvailability.toInt - seats ∧
      seats ≤ flight.seatAvailability.toInt ∧
      execution.store.heldExactly target ≤ store.heldExactly target + seats)
    (identifier : Int32) (flight : Flight)
    (found : execution.store.flights.lookup identifier = some flight) :
    ∃ initial, flightsInput.lookup identifier = some initial ∧
      0 ≤ flight.seatAvailability.toInt ∧
      flight.seatAvailability.toInt + execution.store.heldExactly identifier ≤
        initial.seatAvailability.toInt := by
  rw [effect.flights] at found
  obtain ⟨old, before, rfl⟩ := Option.map_eq_some_iff.mp found
  obtain ⟨initial, known, nonneg, bound⟩ := covered.flights identifier old before
  refine ⟨initial, known, ?_⟩
  by_cases own : identifier = target
  · subst own
    obtain ⟨exactly, enough, held⟩ := there old before
    rw [exactly]
    omega
  · obtain ⟨taken, held⟩ := elsewhere identifier own
    simp only [taken, Int32.sub_zero]
    omega

/-- A reservation of a number of seats that is not negative keeps the bounds. -/
theorem Store.Covered.reserve (covered : store.Covered flightsInput)
    (effect : Effect store execution) (change : execution.change? = some (.reserve req))
    (nonneg : 0 ≤ req.seats.toInt) : execution.store.Covered flightsInput := by
  obtain ⟨flight, found, enough, left⟩ := effect.of_reserve change
  have fits : req.seats.toInt ≤ flight.seatAvailability.toInt := by
    simpa [Int32.lt_iff_toInt_lt] using enough
  have weight (identifier : Int32) :
      0 ≤ Reservation.heldExactly identifier ⟨req.identifier, req.seats⟩ := by
    unfold Reservation.heldExactly
    split
    · exact nonneg
    · exact le_refl 0
  have held (identifier : Int32) : execution.store.heldExactly identifier ≤
      store.heldExactly identifier +
        Reservation.heldExactly identifier ⟨req.identifier, req.seats⟩ := by
    rw [Store.heldExactly, left]
    cases recorded : store.reservations.lookup req.id with
    | none =>
      rw [Table.emplace_new recorded, Table.total_insert_new recorded, add_comm]
      exact le_refl _
    | some reservation =>
      rw [Table.emplace_found recorded]
      exact le_add_of_nonneg_right (weight identifier)
  constructor
  · apply covered.flights_step effect req.identifier req.seats.toInt
    · intro identifier other
      refine ⟨by simp [Execution.taken, change, Change.taken, Ne.symm other], ?_⟩
      simpa [Reservation.heldExactly, Ne.symm other] using held identifier
    · intro flight' same
      obtain rfl := Option.some.inj (found.symm.trans same)
      refine ⟨?_, fits, by simpa [Reservation.heldExactly] using held req.identifier⟩
      have taken : execution.taken req.identifier = req.seats := by
        simp [Execution.taken, change, Change.taken]
      have high := flight.seatAvailability.toInt_lt
      rw [taken]
      exact toInt_sub_exact (by omega) (by omega)
  · intro id reservation known
    rw [left, Table.lookup_emplace] at known
    split at known
    · cases recorded : store.reservations.lookup req.id with
      | none =>
        obtain rfl : ⟨req.identifier, req.seats⟩ = reservation := by simpa [recorded] using known
        exact nonneg
      | some old =>
        obtain rfl : old = reservation := by simpa [recorded] using known
        exact covered.reservations req.id old recorded
    · exact covered.reservations id reservation known

/-- A cancellation that leaves the flight a number of seats that is not
negative keeps the bounds. -/
theorem Store.Covered.cancel (covered : store.Covered flightsInput)
    (effect : Effect store execution) (change : execution.change? = some (.cancel req))
    (nonneg : ∀ flight, store.flights.lookup req.identifier = some flight →
      0 ≤ flight.seatAvailability.toInt + req.seats.toInt) :
    execution.store.Covered flightsInput := by
  obtain ⟨flight, reservation, found, booked, agrees, enough, left⟩ := effect.of_cancel change
  obtain ⟨initial, known, free, bound⟩ := covered.flights req.identifier flight found
  have back := nonneg flight found
  have fits : req.seats.toInt ≤ reservation.seats.toInt := by
    simpa [Int32.lt_iff_toInt_lt] using enough
  have part : reservation.seats.toInt ≤ store.heldExactly req.identifier :=
    agrees ▸ covered.reservation_le booked
  have high := initial.seatAvailability.toInt_lt
  have reduced : (reservation.seats - req.seats).toInt = reservation.seats.toInt - req.seats.toInt :=
    toInt_sub_exact (by omega) (by omega)
  have held (identifier : Int32) : execution.store.heldExactly identifier =
      store.heldExactly identifier -
        Reservation.heldExactly identifier ⟨req.identifier, req.seats⟩ := by
    rw [Store.heldExactly, left, Table.total_insert booked]
    simp only [Reservation.heldExactly, agrees, reduced, Store.heldExactly]
    split
    · omega
    · omega
  constructor
  · apply covered.flights_step effect req.identifier (-req.seats.toInt)
    · intro identifier other
      refine ⟨by simp [Execution.taken, change, Change.taken, Ne.symm other], ?_⟩
      rw [held identifier, Reservation.heldExactly, if_neg (Ne.symm other), sub_zero]
    · intro flight' same
      obtain rfl := Option.some.inj (found.symm.trans same)
      refine ⟨?_, by omega, ?_⟩
      · have taken : execution.taken req.identifier = -req.seats := by
          simp [Execution.taken, change, Change.taken]
        rw [taken, Int32.sub_neg, toInt_add_exact (by omega) (by omega), sub_neg_eq_add]
      · simp only [held req.identifier, Reservation.heldExactly, if_true]
        omega
  · intro id reservation' known'
    rw [left, Table.lookup_insert] at known'
    split at known'
    · obtain rfl := Option.some.inj known'
      simp only [reduced]
      omega
    · exact covered.reservations id reservation' known'

section Runs

variable (srpc : Srpc) (semantic : InvocationSemantic) (flightsInput : Table Int32 Flight)

/-- The delivery is executed and asks for a negative number of seats that the
checks let through: a reservation, or a cancellation of more than the flight has left. -/
def NegativeSeats (state : State) (delivery : Delivery) : Prop :=
  ∃ call, delivery.received? srpc = some call ∧
    (semantic = .atMostOnce → state.remembered call.key = none) ∧
    ((∃ (req : SeatReservationRequest) (flight : Flight),
      call = ⟨.seatReservation, req, call.fromAddr, call.now⟩ ∧
      state.store.flights.lookup req.identifier = some flight ∧
      ¬ flight.seatAvailability < req.seats ∧ req.seats < 0) ∨
    ∃ (req : SeatReservationCancellationRequest) (flight : Flight) (reservation : Reservation),
      call = ⟨.seatReservationCancellation, req, call.fromAddr, call.now⟩ ∧
      state.store.reservations.lookup req.reservationReqId = some reservation ∧
      reservation.identifier = req.identifier ∧ ¬ reservation.seats < req.seats ∧
      state.store.flights.lookup req.identifier = some flight ∧
      flight.seatAvailability.toInt + req.seats.toInt < 0)

/-- An execution outside the condition keeps the bounds. -/
theorem Store.Covered.step {state : State} {call : Call} {delivery : Delivery}
    (covered : state.store.Covered flightsInput) (booked : state.store.Booked)
    (received : delivery.received? srpc = some call)
    (fresh : semantic = .atMostOnce → state.remembered call.key = none)
    (sound : ¬ NegativeSeats srpc semantic state delivery) :
    (call.run state.store).store.Covered flightsInput := by
  have effect := call.effect booked
  change (call.execute state.store).store.Covered flightsInput
  cases call.effect booked with
  | nothing change same silent =>
    rw [same]
    exact covered
  | monitor req flight change found left silent =>
    rw [left]
    exact ⟨covered.flights, covered.reservations⟩
  | reserve req flight change found enough left notified =>
    apply covered.reserve effect change
    by_contra negative
    exact sound ⟨call, received, fresh, .inl ⟨req, flight, Execution.reserved_call change, found,
      enough, Int32.lt_iff_toInt_lt.mpr (Int.not_le.mp negative)⟩⟩
  | cancel req flight reservation change found recorded agrees enough left notified =>
    apply covered.cancel effect change
    intro flight' same
    obtain rfl := Option.some.inj (found.symm.trans same)
    by_contra negative
    exact sound ⟨call, received, fresh, .inr ⟨req, flight, reservation,
      Execution.cancelled_call change, recorded, agrees, enough, found, Int.not_le.mp negative⟩⟩

/-- A request that asks for a negative number of seats breaks the bounds, if
the id of a reservation is not recorded. -/
theorem NegativeSeats.breaks {state : State} {delivery : Delivery}
    (negative : NegativeSeats srpc semantic state delivery)
    (initialised : state.initialise flightsInput = state)
    (covered : state.store.Covered flightsInput) (booked : state.store.Booked)
    (unrecorded : ∀ id, (semantic = .atMostOnce → state.remembered (.seatReservation, id) = none) →
      state.store.reservations.lookup id = none) :
    ¬ (serve srpc semantic flightsInput state delivery).1.store.InRange flightsInput := by
  obtain ⟨call, received, fresh, asks⟩ := negative
  have seen : state.seen flightsInput = state.store := by rw [State.seen, initialised]
  have effect := call.effect booked
  rw [serve_fresh received fresh, State.execute_store, seen]
  change ¬ (call.execute state.store).store.InRange flightsInput
  intro inRange
  obtain ⟨kind, request, fromAddr, now⟩ := call
  rcases asks with ⟨req, flight, ⟨⟩, found, enough, negative⟩ |
    ⟨req, flight, reservation, ⟨⟩, recorded, agrees, enough, found, negative⟩
  · have new := unrecorded req.id fresh
    obtain ⟨_, _, _, left⟩ := effect.of_reserve (Call.reserves fromAddr now found enough)
    have entry : (Call.execute ⟨.seatReservation, req, fromAddr, now⟩
        state.store).store.reservations.lookup req.id = some ⟨req.identifier, req.seats⟩ := by
      rw [left, Table.emplace_new new]
      exact Finmap.lookup_insert _
    exact absurd (inRange.reservations req.id _ entry) (Int32.not_le.mpr negative)
  · have change := Call.cancels fromAddr now recorded agrees enough
    have taken : (Call.execute ⟨.seatReservationCancellation, req, fromAddr, now⟩
        state.store).taken req.identifier = -req.seats := by
      simp [Execution.taken, change, Change.taken]
    obtain ⟨_, _, nonneg, _⟩ := inRange.flights req.identifier _ (effect.flight_found found)
    obtain ⟨_, _, free, _⟩ := covered.flights req.identifier flight found
    have low := req.seats.le_toInt
    have left := Int32.le_iff_toInt_le.mp nonneg
    rw [taken, Int32.sub_neg, toInt_add_exact (by omega) (by omega)] at left
    exact absurd left (Int.not_le.mpr negative)

/-- Under at-most-once the id of every reservation recorded is remembered. -/
def State.Remembers (state : State) : Prop :=
  ∀ id, state.remembered (.seatReservation, id) = none → state.store.reservations.lookup id = none

theorem State.Remembers.serve {state : State} (remembers : state.Remembers)
    (initialised : state.initialise flightsInput = state) (booked : state.store.Booked)
    (delivery : Delivery) :
    (serve srpc .atMostOnce flightsInput state delivery).1.Remembers := by
  have seen : state.seen flightsInput = state.store := by rw [State.seen, initialised]
  have served := serve_served srpc .atMostOnce flightsInput state delivery
  generalize Dfis.serve srpc .atMostOnce flightsInput state delivery = result at served ⊢
  cases served with
  | ignored nothing => rwa [initialised]
  | repeated received once found => rwa [initialised]
  | @executed call received fresh =>
    intro id unknown
    rw [State.execute_remembered] at unknown
    have other : (Kind.seatReservation, id) ≠ call.key := by
      intro same
      rw [same, Function.update_self] at unknown
      cases unknown
    rw [Function.update_of_ne other] at unknown
    have absent := remembers id unknown
    rw [State.execute_store, seen]
    change (call.execute state.store).store.reservations.lookup id = none
    cases call.effect booked with
    | nothing change same silent => rwa [same]
    | monitor req flight change found left silent => rwa [left]
    | reserve req flight change found enough left notified =>
      have different : id ≠ req.id := by
        intro same
        subst same
        exact other (Execution.reserved_key change).symm
      rwa [left, Table.lookup_emplace, if_neg different]
    | cancel req flight reservation change found recorded agrees enough left notified =>
      have different : id ≠ req.reservationReqId := by
        intro same
        subst same
        cases absent.symm.trans recorded
      rwa [left, Table.lookup_insert, if_neg different]

theorem Store.Covered.serve {state : State} (covered : state.store.Covered flightsInput)
    (settled : Settled flightsInput state) {delivery : Delivery}
    (sound : ¬ NegativeSeats srpc semantic state delivery) :
    (serve srpc semantic flightsInput state delivery).1.store.Covered flightsInput := by
  have seen : state.seen flightsInput = state.store := by rw [State.seen, settled.initialised]
  have served := serve_served srpc semantic flightsInput state delivery
  generalize Dfis.serve srpc semantic flightsInput state delivery = result at served ⊢
  cases served with
  | ignored nothing => rwa [settled.initialised]
  | repeated received once found => rwa [settled.initialised]
  | executed received fresh =>
    rw [State.execute_store, seen]
    exact covered.step srpc semantic flightsInput settled.booked received fresh sound

theorem start_covered
    (filed : ∀ identifier flight, flightsInput.lookup identifier = some flight →
      0 ≤ flight.seatAvailability) : Store.Covered ⟨flightsInput, ∅, ∅⟩ flightsInput := by
  constructor
  · intro identifier flight found
    refine ⟨flight, found, Int32.le_iff_toInt_le.mp (filed identifier flight found), ?_⟩
    simp [Store.heldExactly]
  · intro id reservation found
    simp at found

theorem reached_covered
    (filed : ∀ identifier flight, flightsInput.lookup identifier = some flight →
      0 ≤ flight.seatAvailability) {deliveries : List Delivery}
    (along : Along (serve srpc semantic flightsInput)
      (fun state delivery => ¬ NegativeSeats srpc semantic state delivery) (.start flightsInput)
      deliveries) :
    Settled flightsInput (reached srpc semantic flightsInput deliveries) ∧
      (reached srpc semantic flightsInput deliveries).store.Covered flightsInput := by
  refine invariant_along (P := fun state => Settled flightsInput state ∧
    state.store.Covered flightsInput) ⟨Settled.start flightsInput, start_covered flightsInput filed⟩
    ?_ deliveries along
  intro state delivery known sound
  rcases known with ⟨settled, covered⟩
  exact ⟨settled.step srpc flightsInput delivery,
    covered.serve srpc semantic flightsInput settled sound⟩

/-- Along a run that executes no negative request that the checks let through,
flights and reservations stay within their bounds, under either semantic; and
under at-most-once they do along no other run. -/
theorem in_range_without_negative_seats
    (filed : ∀ identifier flight, flightsInput.lookup identifier = some flight →
      0 ≤ flight.seatAvailability) (deliveries : List Delivery) :
    (Along (serve srpc semantic flightsInput)
        (fun state delivery => ¬ NegativeSeats srpc semantic state delivery) (.start flightsInput)
        deliveries →
      ∀ earlier, earlier <+: deliveries →
        (reached srpc semantic flightsInput earlier).store.InRange flightsInput) ∧
    (semantic = .atMostOnce →
      (∀ earlier, earlier <+: deliveries →
        (reached srpc semantic flightsInput earlier).store.InRange flightsInput) →
      Along (serve srpc semantic flightsInput)
        (fun state delivery => ¬ NegativeSeats srpc semantic state delivery) (.start flightsInput)
        deliveries) := by
  have start := start_covered flightsInput filed
  constructor
  · intro along earlier isPrefix
    exact (reached_covered srpc semantic flightsInput filed (along.earlier isPrefix)).2.inRange
  · intro once
    subst once
    refine (holds_iff_along (P := fun state : State => state.store.InRange flightsInput)
      (Q := fun state => Settled flightsInput state ∧ state.store.Covered flightsInput ∧
        state.Remembers) ⟨Settled.start flightsInput, start, ?_⟩ start.inRange ?_ ?_ deliveries).mp
    · intro id unknown
      exact Finmap.lookup_empty id
    · intro state delivery known sound
      rcases known with ⟨settled, covered, remembers⟩
      exact ⟨settled.step srpc flightsInput delivery,
        covered.serve srpc .atMostOnce flightsInput settled sound,
        remembers.serve srpc flightsInput settled.initialised settled.booked delivery⟩
    · intro state delivery known
      rcases known with ⟨settled, covered, remembers⟩
      constructor
      · intro inRange negative
        exact negative.breaks srpc .atMostOnce flightsInput settled.initialised covered
          settled.booked (fun id unknown => remembers id (unknown rfl)) inRange
      · intro sound
        exact (covered.serve srpc .atMostOnce flightsInput settled sound).inRange

end Runs

theorem oneFlight_filed (identifier : Int32) (flight : Flight)
    (found : oneFlight.lookup identifier = some flight) : 0 ≤ flight.seatAvailability := by
  rw [oneFlight_lookup] at found
  split at found
  · obtain rfl := Option.some.inj found
    decide
  · cases found

/-- A reservation of minus five seats. -/
def minusFive : Delivery := .carrying (reservationData ⟨7, 4003, -5⟩) someClient 0

/-- Minus five of ten seats reserved leave fifteen. -/
theorem negative_reservation_overfills :
    (∀ identifier flight, oneFlight.lookup identifier = some flight → 0 ≤ flight.seatAvailability) ∧
    ¬ (reached .reference .atMostOnce oneFlight [minusFive]).store.InRange oneFlight := by
  refine ⟨oneFlight_filed, fun inRange => ?_⟩
  have left : (reached .reference .atMostOnce oneFlight ([] ++ [minusFive])).store =
      (Call.run ⟨.seatReservation, ⟨7, 4003, -5⟩, someClient, 0⟩ ⟨oneFlight, ∅, ∅⟩).store :=
    reached_executed (reservation_received ⟨7, 4003, -5⟩ someClient 0) fun _ => rfl
  have found : (reached .reference .atMostOnce oneFlight [minusFive]).store.flights.lookup 4003 =
      some { tenSeats with seatAvailability := 15 } := by
    rw [show [minusFive] = [] ++ [minusFive] from rfl, left]
    decide
  obtain ⟨initial, known, _, bound⟩ := inRange.flights 4003 _ found
  obtain rfl := Option.some.inj ((oneFlight_lookup 4003).symm.trans known)
  exact absurd bound (by decide)

/-- Two of ten seats reserved. -/
def twoSeats : Delivery := .carrying (reservationData ⟨7, 4003, 2⟩) someClient 0

theorem twoSeats_sound (semantic : InvocationSemantic) (state : State) :
    ¬ NegativeSeats .reference semantic state twoSeats := by
  rintro ⟨call, received, _, ⟨req, flight, same, _, _, negative⟩ | ⟨req, _, _, same, _⟩⟩
  · obtain rfl := Option.some.inj
      ((reservation_received ⟨7, 4003, 2⟩ someClient 0).symm.trans received)
    cases same
    exact absurd negative (by decide)
  · obtain rfl := Option.some.inj
      ((reservation_received ⟨7, 4003, 2⟩ someClient 0).symm.trans received)
    cases same

theorem in_range_two_seats :
    (reached .reference .atLeastOnce oneFlight [twoSeats]).store.InRange oneFlight :=
  (in_range_without_negative_seats .reference .atLeastOnce oneFlight oneFlight_filed
    [twoSeats]).1 ⟨twoSeats_sound .atLeastOnce _, trivial⟩ [twoSeats] (List.prefix_refl _)

end Dfis
