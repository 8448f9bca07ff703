import Dfis.Server.Bounds

/-! The i32 updates of seats: exact as long as no negative number of seats is
let through, and undefined behaviour soon after. -/

namespace Dfis

open Base Machine

/-- The integer is a value of `srpc::i32`. -/
def FitsI32 (value : Int) : Prop := -2147483648 ≤ value ∧ value ≤ 2147483647

instance decidableFitsI32 (value : Int) : Decidable (FitsI32 value) :=
  inferInstanceAs (Decidable (_ ∧ _))

/-- The updates of seats that an execution makes on this store have exact results in i32. -/
structure NoOverflow (store : Store) (execution : Execution) : Prop where
  /-- `flight.seat_availability -= req.seats` -/
  reserved : ∀ req flight, execution.change? = some (.reserve req) →
    store.flights.lookup req.identifier = some flight →
    FitsI32 (flight.seatAvailability.toInt - req.seats.toInt)
  /-- `reservation.seats -= req.seats` -/
  reduced : ∀ req reservation, execution.change? = some (.cancel req) →
    store.reservations.lookup req.reservationReqId = some reservation →
    FitsI32 (reservation.seats.toInt - req.seats.toInt)
  /-- `flight.seat_availability += req.seats` -/
  returned : ∀ req flight, execution.change? = some (.cancel req) →
    store.flights.lookup req.identifier = some flight →
    FitsI32 (flight.seatAvailability.toInt + req.seats.toInt)

variable {store : Store} {flightsInput : Table Int32 Flight} {execution : Execution}

/-- The check of a reservation leaves no room for overflow but that of a negative number. -/
theorem reserve_fits (effect : Effect store execution)
    (change : execution.change? = some (.reserve req)) (nonneg : 0 ≤ req.seats.toInt)
    (found : store.flights.lookup req.identifier = some flight) :
    FitsI32 (flight.seatAvailability.toInt - req.seats.toInt) := by
  obtain ⟨flight', found', enough, _⟩ := effect.of_reserve change
  obtain rfl := Option.some.inj (found'.symm.trans found)
  have fits : req.seats.toInt ≤ flight'.seatAvailability.toInt := by
    simpa [Int32.lt_iff_toInt_lt] using enough
  have high := flight'.seatAvailability.toInt_lt
  constructor
  · omega
  · omega

/-- What is left of a reservation and what a flight gets back both stay below
the seats the flight began with. -/
theorem Store.Covered.cancel_fits (covered : store.Covered flightsInput)
    (effect : Effect store execution) (change : execution.change? = some (.cancel req))
    (found : store.flights.lookup req.identifier = some flight)
    (nonneg : 0 ≤ flight.seatAvailability.toInt + req.seats.toInt)
    (booked : store.reservations.lookup req.reservationReqId = some reservation) :
    FitsI32 (reservation.seats.toInt - req.seats.toInt) ∧
      FitsI32 (flight.seatAvailability.toInt + req.seats.toInt) := by
  obtain ⟨_, reservation', _, booked', agrees, enough, _⟩ := effect.of_cancel change
  obtain rfl := Option.some.inj (booked'.symm.trans booked)
  obtain ⟨initial, _, free, bound⟩ := covered.flights req.identifier flight found
  have part : reservation'.seats.toInt ≤ store.heldExactly req.identifier :=
    agrees ▸ covered.reservation_le booked
  have fits : req.seats.toInt ≤ reservation'.seats.toInt := by
    simpa [Int32.lt_iff_toInt_lt] using enough
  have high := initial.seatAvailability.toInt_lt
  refine ⟨⟨?_, ?_⟩, ?_, ?_⟩
  · omega
  · omega
  · omega
  · omega

section Runs

variable (srpc : Srpc) (semantic : InvocationSemantic) (flightsInput : Table Int32 Flight)

/-- An execution outside the condition of `NegativeSeats` overflows nowhere. -/
theorem Store.Covered.noOverflow {state : State} {call : Call} {delivery : Delivery}
    (covered : state.store.Covered flightsInput) (booked : state.store.Booked)
    (received : delivery.received? srpc = some call)
    (fresh : semantic = .atMostOnce → state.remembered call.key = none)
    (sound : ¬ NegativeSeats srpc semantic state delivery) :
    NoOverflow state.store (call.execute state.store) := by
  have effect := call.effect booked
  have nonneg {req flight} (change : (call.execute state.store).change? = some (.cancel req))
      (found : state.store.flights.lookup req.identifier = some flight) :
      0 ≤ flight.seatAvailability.toInt + req.seats.toInt := by
    obtain ⟨_, _, _, recorded, agrees, enough, _⟩ := effect.of_cancel change
    by_contra negative
    exact sound ⟨call, received, fresh, .inr ⟨req, flight, _, Execution.cancelled_call change,
      recorded, agrees, enough, found, Int.not_le.mp negative⟩⟩
  constructor
  · intro req flight change found
    refine reserve_fits effect change ?_ found
    obtain ⟨flight', found', enough, _⟩ := effect.of_reserve change
    by_contra negative
    exact sound ⟨call, received, fresh, .inl ⟨req, flight', Execution.reserved_call change, found',
      enough, Int32.lt_iff_toInt_lt.mpr (Int.not_le.mp negative)⟩⟩
  · intro req reservation change recorded
    obtain ⟨_, _, found, _⟩ := effect.of_cancel change
    exact (covered.cancel_fits effect change found (nonneg change found) recorded).1
  · intro req flight change found
    obtain ⟨_, _, _, recorded, _⟩ := effect.of_cancel change
    exact (covered.cancel_fits effect change found (nonneg change found) recorded).2

/-- Along a run that executes no negative request that the checks let through,
every update of seats has an exact result in i32, under either semantic. -/
theorem no_overflow_without_negative_seats
    (filed : ∀ identifier flight, flightsInput.lookup identifier = some flight →
      0 ≤ flight.seatAvailability) (deliveries : List Delivery)
    (along : Along (serve srpc semantic flightsInput)
      (fun state delivery => ¬ NegativeSeats srpc semantic state delivery) (.start flightsInput)
      deliveries)
    (earlier : List Delivery) (delivery : Delivery) (isPrefix : earlier ++ [delivery] <+: deliveries)
    (execution : Execution)
    (executed : (serve srpc semantic flightsInput (reached srpc semantic flightsInput earlier)
      delivery).2.executed = some execution) :
    NoOverflow (reached srpc semantic flightsInput earlier).store execution := by
  have before : earlier <+: deliveries := (List.prefix_append _ _).trans isPrefix
  obtain ⟨settled, covered⟩ :=
    reached_covered srpc semantic flightsInput filed (along.earlier before)
  have sound : ¬ NegativeSeats srpc semantic (reached srpc semantic flightsInput earlier) delivery :=
    (along.earlier isPrefix).last
  obtain ⟨call, received, fresh, rfl⟩ := call_of_executed executed
  exact covered.noOverflow srpc semantic flightsInput settled.booked received fresh sound

end Runs

/-- A reservation of the smallest i32. -/
def mostNegative : Delivery := .carrying (reservationData ⟨7, 4003, -2147483648⟩) someClient 0

private theorem served_alone (req : SeatReservationRequest) :
    (serve .reference .atMostOnce oneFlight (reached .reference .atMostOnce oneFlight [])
      (.carrying (reservationData req) someClient 0)).2.executed =
        some (Call.execute ⟨.seatReservation, req, someClient, 0⟩ ⟨oneFlight, ∅, ∅⟩) := by
  have served : serve .reference .atMostOnce oneFlight (.start oneFlight)
      (.carrying (reservationData req) someClient 0) = _ :=
    serve_fresh (reservation_received req someClient 0) fun _ => State.start_remembered oneFlight _
  have start : reached .reference .atMostOnce oneFlight [] = .start oneFlight := rfl
  rw [start, served]
  rfl

/-- Ten seats less the smallest i32 are more than an i32 holds. -/
theorem most_negative_overflows :
    (∀ identifier flight, oneFlight.lookup identifier = some flight → 0 ≤ flight.seatAvailability) ∧
    ∃ execution, (serve .reference .atMostOnce oneFlight
        (reached .reference .atMostOnce oneFlight []) mostNegative).2.executed = some execution ∧
      ¬ NoOverflow (reached .reference .atMostOnce oneFlight []).store execution := by
  refine ⟨oneFlight_filed, _, served_alone ⟨7, 4003, -2147483648⟩, fun exact => ?_⟩
  have fits := exact.reserved ⟨7, 4003, -2147483648⟩ tenSeats (by decide)
    (oneFlight_lookup 4003)
  exact absurd fits (by decide)

/-- Two of ten seats taken in i32. -/
theorem no_overflow_two_seats :
    NoOverflow ⟨oneFlight, ∅, ∅⟩
      (Call.execute ⟨.seatReservation, ⟨7, 4003, 2⟩, someClient, 0⟩ ⟨oneFlight, ∅, ∅⟩) := by
  refine no_overflow_without_negative_seats .reference .atMostOnce oneFlight oneFlight_filed
    [twoSeats] ⟨?_, trivial⟩ [] twoSeats (List.prefix_refl _) _ (served_alone ⟨7, 4003, 2⟩)
  exact twoSeats_sound .atMostOnce _

end Dfis
