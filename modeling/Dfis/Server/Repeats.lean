import Dfis.Server.Decode
import Dfis.Server.Ledger

/-! Under at-least-once a repeated reservation takes seats again but is not
recorded again. -/

namespace Dfis

open Base Machine

variable (srpc : Srpc) (flightsInput : Table Int32 Flight)

/-- The delivery is a reservation of seats that passes the checks, under an id
that a reservation is recorded under. -/
def RepeatsReservation (state : State) (delivery : Delivery) : Prop :=
  ∃ (req : SeatReservationRequest) (fromAddr : SocketAddress) (now : TimePoint) (flight : Flight)
    (reservation : Reservation),
    delivery.received? srpc = some ⟨.seatReservation, req, fromAddr, now⟩ ∧ req.seats ≠ 0 ∧
    state.store.flights.lookup req.identifier = some flight ∧
    ¬ flight.seatAvailability < req.seats ∧
    state.store.reservations.lookup req.id = some reservation

/-- An execution keeps the balance unless it takes seats under a recorded id. -/
theorem Effect.balanced_iff {store : Store} {execution : Execution}
    (effect : Effect store execution) (serves : store.Serves flightsInput)
    (balanced : store.Balanced flightsInput) :
    execution.store.Balanced flightsInput ↔
      ∀ req, execution.change? = some (.reserve req) → req.seats ≠ 0 →
        store.reservations.lookup req.id = none := by
  constructor
  · intro after req change seats
    by_contra recorded
    obtain ⟨reservation, known⟩ := Option.ne_none_iff_exists'.mp recorded
    have held := effect.held_repeated change known req.identifier
    obtain ⟨flight, found, enough, left⟩ := effect.of_reserve change
    obtain ⟨initial, input⟩ : ∃ initial, flightsInput.lookup req.identifier = some initial := by
      apply Option.ne_none_iff_exists'.mp
      intro missing
      cases ((serves req.identifier).mpr missing).symm.trans found
    have taken : execution.taken req.identifier = req.seats := by
      simp [Execution.taken, change, Change.taken]
    have lacking := balanced req.identifier initial flight input found
    have lacks := after req.identifier initial _ input (effect.flight_found found)
    rw [taken, held, ← lacking, sub_sub_eq_add_sub, add_sub_right_comm] at lacks
    exact seats (add_eq_left.mp lacks)
  · intro new
    exact effect.balanced balanced new

/-- A call of `Serve` keeps the balance exactly when it repeats no reservation of seats. -/
theorem serve_balanced_iff {state : State} (initialised : state.initialise flightsInput = state)
    (booked : state.store.Booked) (serves : state.store.Serves flightsInput)
    (balanced : state.store.Balanced flightsInput) (delivery : Delivery) :
    (serve srpc .atLeastOnce flightsInput state delivery).1.store.Balanced flightsInput ↔
      ¬ RepeatsReservation srpc state delivery := by
  cases received : delivery.received? srpc with
  | none =>
    rw [serve_ignored received, initialised]
    refine iff_of_true balanced ?_
    rintro ⟨req, fromAddr, now, flight, reservation, carried, _⟩
    cases received.symm.trans carried
  | some call =>
    have seen : state.seen flightsInput = state.store := by rw [State.seen, initialised]
    have effect := call.effect booked
    rw [serve_fresh received (by simp), State.execute_store, seen]
    rw [show (call.run state.store).store = (call.execute state.store).store from rfl,
      effect.balanced_iff flightsInput serves balanced]
    constructor
    · rintro new ⟨req, fromAddr, now, flight, reservation, carried, seats, found, enough, recorded⟩
      obtain rfl := Option.some.inj (received.symm.trans carried)
      cases (new req (Call.reserves fromAddr now found enough) seats).symm.trans recorded
    · intro unrepeated req change seats
      by_contra recorded
      obtain ⟨reservation, known⟩ := Option.ne_none_iff_exists'.mp recorded
      obtain ⟨flight, found, enough, left⟩ := effect.of_reserve change
      refine unrepeated ⟨req, call.fromAddr, call.now, flight, reservation, ?_, seats, found, enough,
        known⟩
      rw [received]
      exact congrArg some (Execution.reserved_call change)

/-- Under at-least-once the seats missing from every flight are those on
record, in every state of a run, exactly when the run repeats no reservation of seats. -/
theorem balanced_iff_no_repeats (deliveries : List Delivery) :
    (∀ earlier, earlier <+: deliveries →
      (reached srpc .atLeastOnce flightsInput earlier).store.Balanced flightsInput) ↔
    Along (serve srpc .atLeastOnce flightsInput)
      (fun state delivery => ¬ RepeatsReservation srpc state delivery) (.start flightsInput)
      deliveries := by
  have decides (state : State) (delivery : Delivery)
      (known : Settled flightsInput state ∧ state.store.Balanced flightsInput) :=
    serve_balanced_iff srpc flightsInput known.1.initialised known.1.booked known.1.serves known.2
      delivery
  refine holds_iff_along (P := fun state : State => state.store.Balanced flightsInput)
    (Q := fun state => Settled flightsInput state ∧ state.store.Balanced flightsInput)
    ⟨Settled.start flightsInput, start_balanced flightsInput⟩ (start_balanced flightsInput) ?_
    decides deliveries
  intro state delivery known unrepeated
  exact ⟨known.1.step srpc flightsInput delivery, (decides state delivery known).mpr unrepeated⟩

/-- Two of ten seats reserved, and the same datagram once more. -/
def retransmitted : Delivery := .carrying (reservationData ⟨7, 4003, 2⟩) someClient 0

def twiceReserved : Store :=
  let call : Call := ⟨.seatReservation, ⟨7, 4003, 2⟩, someClient, 0⟩
  (call.run (call.run ⟨oneFlight, ∅, ∅⟩).store).store

/-- Four seats are missing and two are on record. -/
theorem retransmission_leaks :
    ¬ (reached .reference .atLeastOnce oneFlight [retransmitted, retransmitted]).store.Balanced
      oneFlight := by
  have received := reservation_received ⟨7, 4003, 2⟩ someClient 0
  have first : (reached .reference .atLeastOnce oneFlight ([] ++ [retransmitted])).store = _ :=
    reached_executed received (by simp)
  have second : (reached .reference .atLeastOnce oneFlight
      ([retransmitted] ++ [retransmitted])).store = _ := reached_executed received (by simp)
  have left : (reached .reference .atLeastOnce oneFlight [retransmitted, retransmitted]).store =
      twiceReserved := second.trans (congrArg (fun store => (Call.run _ store).store) first)
  have missing : (twiceReserved.flights.lookup 4003).map (10 - ·.seatAvailability) = some 4 := by
    decide
  have held : twiceReserved.held 4003 = 2 := by decide
  intro balanced
  obtain ⟨flight, found, lacks⟩ := Option.map_eq_some_iff.mp missing
  rw [left] at balanced
  have same := balanced 4003 tenSeats flight (oneFlight_lookup 4003) found
  rw [held] at same
  exact absurd (same.symm.trans lacks) (by decide)

end Dfis
