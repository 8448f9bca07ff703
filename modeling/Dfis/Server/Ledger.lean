import Dfis.Server.Effect

/-! Where the seats are: every seat taken from a flight stands in a
reservation for it, as long as no reservation id is recorded twice. -/

namespace Dfis

open Base Machine

/-- Two's complement addition. -/
instance int32AddCommGroup : AddCommGroup Int32 where
  add_assoc := Int32.add_assoc
  zero_add := Int32.zero_add
  add_zero := Int32.add_zero
  add_comm := Int32.add_comm
  neg_add_cancel := Int32.add_left_neg
  sub_eq_add_neg := Int32.sub_eq_add_neg
  nsmul := nsmulRec
  zsmul := zsmulRec

/-- The seats a reservation holds on a flight. -/
def Reservation.held (identifier : Int32) (reservation : Reservation) : Int32 :=
  if reservation.identifier = identifier then reservation.seats else 0

/-- The seats all reservations hold on a flight. -/
def Store.held (store : Store) (identifier : Int32) : Int32 :=
  Table.total store.reservations (Reservation.held identifier)

/-- The seats missing from each flight are those its reservations hold. -/
def Store.Balanced (store : Store) (flightsInput : Table Int32 Flight) : Prop :=
  ∀ identifier initial flight, flightsInput.lookup identifier = some initial →
    store.flights.lookup identifier = some flight →
    initial.seatAvailability - flight.seatAvailability = store.held identifier

/-- Flights are neither added nor removed. -/
def Store.Serves (store : Store) (flightsInput : Table Int32 Flight) : Prop :=
  ∀ identifier, store.flights.lookup identifier = none ↔ flightsInput.lookup identifier = none

variable {store : Store} {execution : Execution}

/-- The seats an execution takes go to a reservation, unless it takes seats
under an id that is recorded already. -/
theorem Effect.held (effect : Effect store execution)
    (new : ∀ req, execution.change? = some (.reserve req) → req.seats ≠ 0 →
      store.reservations.lookup req.id = none) (identifier : Int32) :
    execution.store.held identifier = store.held identifier + execution.taken identifier := by
  cases effect with
  | nothing change same silent => simp [same, Execution.taken, change]
  | reserve req flight change found enough left notified =>
    cases recorded : store.reservations.lookup req.id with
    | none =>
      simp only [Store.held, left, Table.emplace_new recorded, Table.total_insert_new recorded,
        Execution.taken, change, Option.map_some, Option.getD_some, Change.taken, Reservation.held]
      exact add_comm _ _
    | some reservation =>
      have zero : req.seats = 0 := by
        by_contra seats
        cases (new req change seats).symm.trans recorded
      simp [Store.held, left, Table.emplace_found recorded, Execution.taken, change, Change.taken,
        zero]
  | cancel req flight reservation change found booked agrees enough left notified =>
    simp only [Store.held, left, Table.total_insert booked, Execution.taken, change,
      Option.map_some, Option.getD_some, Change.taken, Reservation.held, agrees]
    congr 1
    split
    · rw [sub_sub_cancel_left]
    · rw [sub_self]
  | monitor req flight change found left silent =>
    simp [Store.held, left, Execution.taken, change, Change.taken]

/-- A repeated reservation id is held once, whatever was taken for it. -/
theorem Effect.held_repeated (effect : Effect store execution)
    (change : execution.change? = some (.reserve req))
    (recorded : store.reservations.lookup req.id = some reservation) (identifier : Int32) :
    execution.store.held identifier = store.held identifier := by
  obtain ⟨flight, found, enough, left⟩ := effect.of_reserve change
  rw [Store.held, left, Table.emplace_found recorded, Store.held]

theorem Effect.serves (effect : Effect store execution) (serves : store.Serves flightsInput) :
    execution.store.Serves flightsInput := by
  intro identifier
  rw [effect.flights, Option.map_eq_none_iff]
  exact serves identifier

theorem Effect.balanced (effect : Effect store execution) (balanced : store.Balanced flightsInput)
    (new : ∀ req, execution.change? = some (.reserve req) → req.seats ≠ 0 →
      store.reservations.lookup req.id = none) : execution.store.Balanced flightsInput := by
  intro identifier initial flight known found
  rw [effect.flights] at found
  obtain ⟨old, before, rfl⟩ := Option.map_eq_some_iff.mp found
  rw [effect.held new, ← balanced identifier initial old known before]
  rw [sub_sub_eq_add_sub, sub_add_eq_add_sub]

section AtMostOnce

/-- The reservation requests carried out under an id. -/
def reservedUnder (log : List Execution) (id : UInt64) : List SeatReservationRequest :=
  (log.filterMap Execution.reserved?).filter fun req => req.id = id

/-- The cancellation requests carried out that name an id. -/
def cancelledFrom (log : List Execution) (id : UInt64) : List SeatReservationCancellationRequest :=
  (log.filterMap Execution.cancelled?).filter fun req => req.reservationReqId = id

/-- A recorded reservation is the one carried out under its id, less what was
cancelled; under an id without a record nothing happened. -/
structure RecordedAt (store : Store) (log : List Execution) (id : UInt64) : Prop where
  absent : store.reservations.lookup id = none →
    reservedUnder log id = [] ∧ cancelledFrom log id = []
  present : ∀ reservation, store.reservations.lookup id = some reservation →
    ∃ req, reservedUnder log id = [req] ∧ reservation.identifier = req.identifier ∧
      reservation.seats = req.seats - ((cancelledFrom log id).map (·.seats)).sum

def Recorded (store : Store) (log : List Execution) : Prop := ∀ id, RecordedAt store log id

theorem Execution.reserved_key {execution : Execution}
    (change : execution.change? = some (.reserve req)) :
    execution.key = (.seatReservation, req.id) := by
  rw [Execution.reserved_call change]
  rfl

/-- An id that no execution has used for a reservation is not recorded. -/
theorem Recorded.new (recorded : Recorded store log)
    (fresh : ∀ earlier ∈ log, earlier.key ≠ execution.key)
    (change : execution.change? = some (.reserve req)) :
    store.reservations.lookup req.id = none := by
  cases found : store.reservations.lookup req.id with
  | none => rfl
  | some reservation =>
    obtain ⟨first, under, _⟩ := (recorded req.id).present reservation found
    have listed : first ∈ reservedUnder log req.id := by simp [under]
    obtain ⟨carried, same⟩ := List.mem_filter.mp listed
    obtain ⟨earlier, member, reserved⟩ := List.mem_filterMap.mp carried
    have key := Execution.reserved_key (Execution.reserved?_eq_some.mp reserved)
    have sameId : first.id = req.id := by simpa using same
    refine absurd ?_ (fresh earlier member)
    rw [key, Execution.reserved_key change, sameId]

theorem reservedUnder_snoc (log : List Execution) (id : UInt64) :
    reservedUnder (log ++ [execution]) id =
      reservedUnder log id ++ execution.reserved?.toList.filter fun req => req.id = id := by
  cases reserved : execution.reserved? with
  | none => simp [reservedUnder, reserved]
  | some req => simp [reservedUnder, reserved]

theorem cancelledFrom_snoc (log : List Execution) (id : UInt64) :
    cancelledFrom (log ++ [execution]) id = cancelledFrom log id ++
      execution.cancelled?.toList.filter fun req => req.reservationReqId = id := by
  cases cancelled : execution.cancelled? with
  | none => simp [cancelledFrom, cancelled]
  | some req => simp [cancelledFrom, cancelled]

/-- An execution that touches neither the entry of an id nor its requests keeps the record of it. -/
private theorem Recorded.kept (recorded : Recorded store log) {id : UInt64}
    (same : execution.store.reservations.lookup id = store.reservations.lookup id)
    (reserved : ∀ req, execution.change? = some (.reserve req) → req.id ≠ id)
    (cancelled : ∀ req, execution.change? = some (.cancel req) → req.reservationReqId ≠ id) :
    RecordedAt execution.store (log ++ [execution]) id := by
  have under : reservedUnder (log ++ [execution]) id = reservedUnder log id := by
    rw [reservedUnder_snoc]
    cases change : execution.reserved? with
    | none => simp
    | some req => simp [reserved req (Execution.reserved?_eq_some.mp change)]
  have back : cancelledFrom (log ++ [execution]) id = cancelledFrom log id := by
    rw [cancelledFrom_snoc]
    cases change : execution.cancelled? with
    | none => simp
    | some req => simp [cancelled req (Execution.cancelled?_eq_some.mp change)]
  obtain ⟨absent, present⟩ := recorded id
  rw [← same, ← under, ← back] at absent present
  exact ⟨absent, present⟩

theorem Recorded.step (recorded : Recorded store log) (effect : Effect store execution)
    (fresh : ∀ earlier ∈ log, earlier.key ≠ execution.key) :
    Recorded execution.store (log ++ [execution]) := by
  intro id
  cases effect with
  | nothing change same silent =>
    exact recorded.kept (by rw [same]) (by simp [change]) (by simp [change])
  | monitor req flight change found left silent =>
    exact recorded.kept (by rw [left]) (by simp [change]) (by simp [change])
  | reserve req flight change found enough left notified =>
    have missing := recorded.new fresh change
    have entry : execution.store.reservations =
        store.reservations.insert req.id ⟨req.identifier, req.seats⟩ := by
      rw [left, Table.emplace_new missing]
    by_cases own : id = req.id
    · subst own
      obtain ⟨none, nothing⟩ := (recorded req.id).absent missing
      constructor <;> simp [entry, reservedUnder_snoc, cancelledFrom_snoc, none, nothing,
        Execution.reserved?, Execution.cancelled?, change]
    · refine recorded.kept ?_ ?_ ?_
      · rw [entry, Table.lookup_insert, if_neg own]
      · intro other same
        obtain rfl := Change.reserve.inj (Option.some.inj (change.symm.trans same))
        exact Ne.symm own
      · simp [change]
  | cancel req flight reservation change found booked agrees enough left notified =>
    have entry : execution.store.reservations = store.reservations.insert req.reservationReqId
        { reservation with seats := reservation.seats - req.seats } := by
      rw [left]
    by_cases own : id = req.reservationReqId
    · subst own
      obtain ⟨first, under, identifier, seats⟩ := (recorded req.reservationReqId).present _ booked
      constructor <;> simp [entry, reservedUnder_snoc, cancelledFrom_snoc, under, identifier, seats,
        Execution.reserved?, Execution.cancelled?, change, sub_sub]
    · refine recorded.kept ?_ ?_ ?_
      · rw [entry, Table.lookup_insert, if_neg own]
      · simp [change]
      · intro other same
        obtain rfl := Change.cancel.inj (Option.some.inj (change.symm.trans same))
        exact Ne.symm own

variable (srpc : Srpc) (flightsInput : Table Int32 Flight)

theorem start_balanced : Store.Balanced ⟨flightsInput, ∅, ∅⟩ flightsInput := by
  intro identifier initial flight known found
  obtain rfl := Option.some.inj (known.symm.trans found)
  simp [Store.held]

private theorem start_recorded : Recorded ⟨flightsInput, ∅, ∅⟩ [] := by
  intro id
  constructor
  · intro _
    exact ⟨rfl, rfl⟩
  · intro reservation found
    simp at found

theorem reached_recorded (deliveries : List Delivery) :
    (reached srpc .atMostOnce flightsInput deliveries).store.Serves flightsInput ∧
      (reached srpc .atMostOnce flightsInput deliveries).store.Balanced flightsInput ∧
      Recorded (reached srpc .atMostOnce flightsInput deliveries).store
        (executions srpc .atMostOnce flightsInput deliveries) := by
  refine (effects_induct (P := fun store log =>
    store.Serves flightsInput ∧ store.Balanced flightsInput ∧ Recorded store log)
    ⟨fun _ => Iff.rfl, start_balanced flightsInput, start_recorded flightsInput⟩ ?_ deliveries).2
  intro store log execution _ known effect fresh
  rcases known with ⟨serves, balanced, recorded⟩
  refine ⟨effect.serves serves, effect.balanced balanced ?_, recorded.step effect (fresh rfl)⟩
  intro req change _
  exact recorded.new (fresh rfl) change

/-- Under at-most-once the seats a flight lacks are those its reservations
hold, and every reservation is the one request carried out under its id, less
the cancellations that named it. -/
theorem seat_ledger (deliveries : List Delivery) :
    (∀ identifier,
      (reached srpc .atMostOnce flightsInput deliveries).store.flights.lookup identifier = none ↔
        flightsInput.lookup identifier = none) ∧
    (∀ identifier initial flight, flightsInput.lookup identifier = some initial →
      (reached srpc .atMostOnce flightsInput deliveries).store.flights.lookup identifier =
        some flight →
      flight.seatAvailability +
          (reached srpc .atMostOnce flightsInput deliveries).store.held identifier =
        initial.seatAvailability) ∧
    ∀ id reservation,
      (reached srpc .atMostOnce flightsInput deliveries).store.reservations.lookup id =
        some reservation →
      ∃ req, reservedUnder (executions srpc .atMostOnce flightsInput deliveries) id = [req] ∧
        reservation.identifier = req.identifier ∧
        reservation.seats = req.seats - ((cancelledFrom
          (executions srpc .atMostOnce flightsInput deliveries) id).map (·.seats)).sum := by
  obtain ⟨serves, balanced, recorded⟩ := reached_recorded srpc flightsInput deliveries
  refine ⟨serves, ?_, fun id => (recorded id).present⟩
  intro identifier initial flight known found
  rw [← balanced identifier initial flight known found]
  exact add_sub_cancel _ _

end AtMostOnce

section Step

variable (srpc : Srpc) (flightsInput : Table Int32 Flight)

/-- The facts that hold in every run. -/
structure Settled (state : State) : Prop where
  initialised : state.initialise flightsInput = state
  booked : state.store.Booked
  serves : state.store.Serves flightsInput

theorem Settled.start : Settled flightsInput (.start flightsInput) where
  initialised := State.start_initialise flightsInput
  booked := by
    intro id reservation found
    cases (Finmap.lookup_empty (β := fun _ => Reservation) id).symm.trans found
  serves _ := Iff.rfl

theorem Settled.step {semantic : InvocationSemantic} {state : State}
    (settled : Settled flightsInput state) (delivery : Delivery) :
    Settled flightsInput (serve srpc semantic flightsInput state delivery).1 := by
  obtain ⟨initialised, kept | ⟨execution, effect, left⟩⟩ := serve_effect settled.initialised
    settled.booked delivery
  · exact ⟨initialised, kept ▸ settled.booked, kept ▸ settled.serves⟩
  · exact ⟨initialised, left ▸ effect.booked settled.booked, left ▸ effect.serves settled.serves⟩

end Step

end Dfis
