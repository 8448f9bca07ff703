import Dfis.Server.Runs

/-! What executing a request can do to the store, said once for all that
follows, and what every execution keeps. -/

namespace Dfis

open Base

/-- A successful request that changes the store. -/
inductive Change where
  | reserve (req : SeatReservationRequest)
  | cancel (req : SeatReservationCancellationRequest)
  | monitor (req : SeatAvailabilityMonitoringRequest)
  deriving DecidableEq, Repr

/-- The change an execution made, none for a search, an inquiry or a failure. -/
def Execution.change? : Execution → Option Change
  | ⟨⟨.seatReservation, req, _, _⟩, res, _, _⟩ =>
    if res.statusCode = 0 then some (.reserve req) else none
  | ⟨⟨.seatReservationCancellation, req, _, _⟩, res, _, _⟩ =>
    if res.statusCode = 0 then some (.cancel req) else none
  | ⟨⟨.seatAvailabilityMonitoring, req, _, _⟩, res, _, _⟩ =>
    if res.statusCode = 0 then some (.monitor req) else none
  | _ => none

/-- The reservation request an execution carried out. -/
def Execution.reserved? (execution : Execution) : Option SeatReservationRequest :=
  match execution.change? with
  | some (.reserve req) => some req
  | _ => none

/-- The cancellation request an execution carried out. -/
def Execution.cancelled? (execution : Execution) : Option SeatReservationCancellationRequest :=
  match execution.change? with
  | some (.cancel req) => some req
  | _ => none

/-- The monitoring request an execution carried out. -/
def Execution.monitored? (execution : Execution) : Option SeatAvailabilityMonitoringRequest :=
  match execution.change? with
  | some (.monitor req) => some req
  | _ => none

theorem Execution.reserved?_eq_some {execution : Execution} :
    execution.reserved? = some req ↔ execution.change? = some (.reserve req) := by
  unfold Execution.reserved?
  split <;> simp_all

theorem Execution.cancelled?_eq_some {execution : Execution} :
    execution.cancelled? = some req ↔ execution.change? = some (.cancel req) := by
  unfold Execution.cancelled?
  split <;> simp_all

theorem Execution.monitored?_eq_some {execution : Execution} :
    execution.monitored? = some req ↔ execution.change? = some (.monitor req) := by
  unfold Execution.monitored?
  split <;> simp_all

theorem Execution.reserved_call {execution : Execution}
    (change : execution.change? = some (.reserve req)) :
    execution.toCall = ⟨.seatReservation, req, execution.fromAddr, execution.now⟩ := by
  obtain ⟨⟨kind, request, fromAddr, now⟩, response, launched, store⟩ := execution
  cases kind with
  | seatReservation =>
    simp only [Execution.change?] at change
    split at change
    · cases change
      rfl
    · cases change
  | _ => simp [Execution.change?] at change

theorem Execution.cancelled_call {execution : Execution}
    (change : execution.change? = some (.cancel req)) :
    execution.toCall = ⟨.seatReservationCancellation, req, execution.fromAddr, execution.now⟩ := by
  obtain ⟨⟨kind, request, fromAddr, now⟩, response, launched, store⟩ := execution
  cases kind with
  | seatReservationCancellation =>
    simp only [Execution.change?] at change
    split at change
    · cases change
      rfl
    · cases change
  | _ => simp [Execution.change?] at change

theorem Execution.monitored_call {execution : Execution}
    (change : execution.change? = some (.monitor req)) :
    execution.toCall = ⟨.seatAvailabilityMonitoring, req, execution.fromAddr, execution.now⟩ := by
  obtain ⟨⟨kind, request, fromAddr, now⟩, response, launched, store⟩ := execution
  cases kind with
  | seatAvailabilityMonitoring =>
    simp only [Execution.change?] at change
    split at change
    · cases change
      rfl
    · cases change
  | _ => simp [Execution.change?] at change

/-- Every reservation is for a flight there is. -/
def Store.Booked (store : Store) : Prop :=
  ∀ id reservation, store.reservations.lookup id = some reservation →
    ∃ flight, store.flights.lookup reservation.identifier = some flight

/-- Every flight stands under its own identifier. -/
def Keyed (flights : Table Int32 Flight) : Prop :=
  ∀ identifier flight, flights.lookup identifier = some flight → flight.identifier = identifier

theorem readFlightsFromFile_keyed (lines : List Flight) : Keyed (readFlightsFromFile lines) := by
  suffices from_any : ∀ flights, Keyed flights →
      Keyed (lines.foldl (fun flights flight => flights.emplace flight.identifier flight) flights) by
    refine from_any ∅ ?_
    intro identifier flight found
    simp at found
  induction lines with
  | nil => exact fun _ keyed => keyed
  | cons line lines ih =>
    intro flights keyed
    refine ih _ ?_
    intro identifier flight found
    rw [Table.lookup_emplace] at found
    split at found
    · rename_i same
      subst same
      cases old : flights.lookup line.identifier with
      | none =>
        obtain rfl : line = flight := by simpa [old] using found
        rfl
      | some first =>
        obtain rfl : first = flight := by simpa [old] using found
        exact keyed line.identifier first old
    · exact keyed identifier flight found

/-- The callbacks `callbacks[identifier]` reads. -/
def Store.watching (store : Store) (identifier : Int32) : List Callback :=
  (store.callbacks.lookup identifier).getD []

/-- The insertion a subscript may make adds no callbacks. -/
theorem Store.watching_subscript {store left : Store} {identifier : Int32}
    (callbacks : left.callbacks = (store.callbacks.subscript identifier).1) (other : Int32) :
    left.watching other = store.watching other := by
  rw [Store.watching, callbacks, Table.lookup_subscript]
  split
  · rename_i same
    subst same
    exact Table.subscript_value _ _
  · rfl

/-- What an execution can have done to a store. -/
inductive Effect (store : Store) (execution : Execution) : Prop
  | nothing (change : execution.change? = none) (same : execution.store = store)
      (silent : execution.launched = [])
  | reserve (req : SeatReservationRequest) (flight : Flight)
      (change : execution.change? = some (.reserve req))
      (found : store.flights.lookup req.identifier = some flight)
      (enough : ¬ flight.seatAvailability < req.seats)
      (left : execution.store = {
        flights := store.flights.insert req.identifier
          { flight with seatAvailability := flight.seatAvailability - req.seats }
        callbacks := (store.callbacks.subscript req.identifier).1
        reservations := store.reservations.emplace req.id ⟨req.identifier, req.seats⟩ })
      (notified : execution.launched = notify (store.watching req.identifier) execution.now
        ⟨0, flight.identifier, flight.seatAvailability - req.seats⟩)
  | cancel (req : SeatReservationCancellationRequest) (flight : Flight) (reservation : Reservation)
      (change : execution.change? = some (.cancel req))
      (found : store.flights.lookup req.identifier = some flight)
      (booked : store.reservations.lookup req.reservationReqId = some reservation)
      (agrees : reservation.identifier = req.identifier)
      (enough : ¬ reservation.seats < req.seats)
      (left : execution.store = {
        flights := store.flights.insert req.identifier
          { flight with seatAvailability := flight.seatAvailability + req.seats }
        callbacks := (store.callbacks.subscript req.identifier).1
        reservations := store.reservations.insert req.reservationReqId
          { reservation with seats := reservation.seats - req.seats } })
      (notified : execution.launched = notify (store.watching req.identifier) execution.now
        ⟨0, flight.identifier, flight.seatAvailability + req.seats⟩)
  | monitor (req : SeatAvailabilityMonitoringRequest) (flight : Flight)
      (change : execution.change? = some (.monitor req))
      (found : store.flights.lookup req.identifier = some flight)
      (left : execution.store = { store with
        callbacks := (store.callbacks.subscript req.identifier).1.insert req.identifier
          (store.watching req.identifier ++ [⟨{ execution.fromAddr with port := req.port },
            execution.now + seconds req.monitorIntervalSec, req.id⟩]) })
      (silent : execution.launched = [])

section Kinds

variable {store : Store} (fromAddr : SocketAddress) (now : TimePoint)

theorem subscript_watching (store : Store) (identifier : Int32) :
    (store.callbacks.subscript identifier).2 = store.watching identifier :=
  Table.subscript_value store.callbacks identifier

private theorem effect_seatReservation (req : SeatReservationRequest) :
    Effect store (Call.execute ⟨.seatReservation, req, fromAddr, now⟩ store) := by
  cases found : store.flights.lookup req.identifier with
  | none =>
    have run : executeSeatReservation store now req =
        ⟨store, ⟨req.id, 1, .ofString "Flight not found", req.identifier, 0⟩, []⟩ := by
      simp [executeSeatReservation, found]
    apply Effect.nothing
    all_goals simp [Execution.change?, Call.execute, Call.run, executeKind, run]
  | some flight =>
    by_cases short : flight.seatAvailability < req.seats
    · have run : executeSeatReservation store now req =
          ⟨store, ⟨req.id, 2, .ofString "No enough seats", req.identifier, 0⟩, []⟩ := by
        simp [executeSeatReservation, found, short]
      apply Effect.nothing
      all_goals simp [Execution.change?, Call.execute, Call.run, executeKind, run]
    · apply Effect.reserve req flight _ found short
      all_goals simp [Execution.change?, Call.execute, Call.run, executeKind,
        executeSeatReservation, found, short, subscript_watching]

private theorem effect_seatReservationCancellation (booked : store.Booked)
    (req : SeatReservationCancellationRequest) :
    Effect store (Call.execute ⟨.seatReservationCancellation, req, fromAddr, now⟩ store) := by
  cases found : store.reservations.lookup req.reservationReqId with
  | none =>
    have run : executeSeatReservationCancellation store now req =
        ⟨store, ⟨req.id, 1, .ofString "Reservation not found", 0, 0⟩, []⟩ := by
      simp [executeSeatReservationCancellation, found]
    apply Effect.nothing
    all_goals simp [Execution.change?, Call.execute, Call.run, executeKind, run]
  | some reservation =>
    by_cases agrees : reservation.identifier = req.identifier
    · obtain ⟨flight, known⟩ := booked req.reservationReqId reservation found
      rw [agrees] at known
      by_cases short : reservation.seats < req.seats
      · have run : executeSeatReservationCancellation store now req =
            ⟨store, ⟨req.id, 3, .ofString "Too many seats to cancel", 0, 0⟩, []⟩ := by
          simp [executeSeatReservationCancellation, found, agrees, short, Table.subscript_found known]
        apply Effect.nothing
        all_goals simp [Execution.change?, Call.execute, Call.run, executeKind, run]
      · apply Effect.cancel req flight reservation _ known found agrees short
        all_goals simp [Execution.change?, Call.execute, Call.run, executeKind,
          executeSeatReservationCancellation, found, agrees, short, Table.subscript_found known,
          subscript_watching]
    · have run : executeSeatReservationCancellation store now req =
          ⟨store, ⟨req.id, 2, .ofString "Identifier mismatch", 0, 0⟩, []⟩ := by
        simp [executeSeatReservationCancellation, found, agrees]
      apply Effect.nothing
      all_goals simp [Execution.change?, Call.execute, Call.run, executeKind, run]

private theorem effect_seatAvailabilityMonitoring (req : SeatAvailabilityMonitoringRequest) :
    Effect store (Call.execute ⟨.seatAvailabilityMonitoring, req, fromAddr, now⟩ store) := by
  cases found : store.flights.lookup req.identifier with
  | none =>
    have run : executeSeatAvailabilityMonitoring store fromAddr now req =
        ⟨store, ⟨req.id, 1, .ofString "Flight not found", req.identifier, 0⟩, []⟩ := by
      simp [executeSeatAvailabilityMonitoring, found]
    apply Effect.nothing
    all_goals simp [Execution.change?, Call.execute, Call.run, executeKind, run]
  | some flight =>
    apply Effect.monitor req flight _ found
    all_goals simp [Execution.change?, Call.execute, Call.run, executeKind,
      executeSeatAvailabilityMonitoring, found, subscript_watching]

end Kinds

/-- The executions by kind, read as the effects an execution can have. -/
theorem Call.effect {store : Store} (booked : store.Booked) (call : Call) :
    Effect store (call.execute store) := by
  obtain ⟨kind, req, fromAddr, now⟩ := call
  cases kind with
  | flightSearch =>
    apply Effect.nothing rfl
    all_goals simp only [Call.execute, Call.run, executeKind, executeFlightSearch]; split <;> rfl
  | flightInfo =>
    apply Effect.nothing rfl
    all_goals simp only [Call.execute, Call.run, executeKind, executeFlightInfo]; split <;> rfl
  | seatReservation => exact effect_seatReservation fromAddr now req
  | seatAvailabilityMonitoring => exact effect_seatAvailabilityMonitoring fromAddr now req
  | priceRangeSearch =>
    apply Effect.nothing rfl
    all_goals simp only [Call.execute, Call.run, executeKind, executePriceRangeSearch]; split <;> rfl
  | seatReservationCancellation =>
    exact effect_seatReservationCancellation fromAddr now booked req

/-- The checks that let a reservation through. -/
theorem Call.reserves {store : Store} {req : SeatReservationRequest} (fromAddr : SocketAddress)
    (now : TimePoint) (found : store.flights.lookup req.identifier = some flight)
    (enough : ¬ flight.seatAvailability < req.seats) :
    (Call.execute ⟨.seatReservation, req, fromAddr, now⟩ store).change? = some (.reserve req) := by
  simp [Execution.change?, Call.execute, Call.run, executeKind, executeSeatReservation, found, enough]

/-- The checks that let a cancellation through. -/
theorem Call.cancels {store : Store} {req : SeatReservationCancellationRequest}
    (fromAddr : SocketAddress) (now : TimePoint)
    (booked : store.reservations.lookup req.reservationReqId = some reservation)
    (agrees : reservation.identifier = req.identifier) (enough : ¬ reservation.seats < req.seats) :
    (Call.execute ⟨.seatReservationCancellation, req, fromAddr, now⟩ store).change? =
      some (.cancel req) := by
  simp [Execution.change?, Call.execute, Call.run, executeKind, executeSeatReservationCancellation,
    booked, agrees, enough]

section Kept

/-- The seats a change takes from a flight; a cancellation takes a negative number. -/
def Change.taken (identifier : Int32) : Change → Int32
  | .reserve req => if req.identifier = identifier then req.seats else 0
  | .cancel req => if req.identifier = identifier then -req.seats else 0
  | .monitor _ => 0

/-- The seats an execution takes from a flight. -/
def Execution.taken (execution : Execution) (identifier : Int32) : Int32 :=
  (execution.change?.map (Change.taken identifier)).getD 0

variable {store : Store} {execution : Execution}

/-- Flights come and go with no execution, and change in their seats only. -/
theorem Effect.flights (effect : Effect store execution) (identifier : Int32) :
    execution.store.flights.lookup identifier =
      (store.flights.lookup identifier).map fun flight =>
        { flight with seatAvailability := flight.seatAvailability - execution.taken identifier } := by
  cases effect with
  | nothing change same silent => simp [same, Execution.taken, change]
  | reserve req flight change found enough left notified =>
    by_cases own : identifier = req.identifier
    · subst own
      simp [left, Execution.taken, change, Change.taken, found]
    · simp [left, Execution.taken, change, Change.taken, Finmap.lookup_insert_of_ne, own, Ne.symm own]
  | cancel req flight reservation change found booked agrees enough left notified =>
    by_cases own : identifier = req.identifier
    · subst own
      simp [left, Execution.taken, change, Change.taken, found, Int32.sub_neg]
    · simp [left, Execution.taken, change, Change.taken, Finmap.lookup_insert_of_ne, own, Ne.symm own]
  | monitor req flight change found left silent =>
    simp [left, Execution.taken, change, Change.taken]

theorem Effect.flight_found (effect : Effect store execution) {identifier : Int32}
    (found : store.flights.lookup identifier = some flight) :
    execution.store.flights.lookup identifier = some
      { flight with seatAvailability := flight.seatAvailability - execution.taken identifier } := by
  rw [effect.flights, found]
  rfl

/-- A reservation passed its checks and was recorded unless its id was. -/
theorem Effect.of_reserve (effect : Effect store execution)
    (change : execution.change? = some (.reserve req)) :
    ∃ flight, store.flights.lookup req.identifier = some flight ∧
      ¬ flight.seatAvailability < req.seats ∧
      execution.store.reservations =
        store.reservations.emplace req.id ⟨req.identifier, req.seats⟩ := by
  cases effect with
  | reserve req' flight other found enough left notified =>
    obtain rfl := Change.reserve.inj (Option.some.inj (other.symm.trans change))
    exact ⟨flight, found, enough, by rw [left]⟩
  | nothing other => cases other.symm.trans change
  | cancel _ _ _ other => cases other.symm.trans change
  | monitor _ _ other => cases other.symm.trans change

/-- A cancellation passed its checks and reduced the reservation it names. -/
theorem Effect.of_cancel (effect : Effect store execution)
    (change : execution.change? = some (.cancel req)) :
    ∃ flight reservation, store.flights.lookup req.identifier = some flight ∧
      store.reservations.lookup req.reservationReqId = some reservation ∧
      reservation.identifier = req.identifier ∧ ¬ reservation.seats < req.seats ∧
      execution.store.reservations = store.reservations.insert req.reservationReqId
        { reservation with seats := reservation.seats - req.seats } := by
  cases effect with
  | cancel req' flight reservation other found booked agrees enough left notified =>
    obtain rfl := Change.cancel.inj (Option.some.inj (other.symm.trans change))
    exact ⟨flight, reservation, found, booked, agrees, enough, by rw [left]⟩
  | nothing other => cases other.symm.trans change
  | reserve _ _ other => cases other.symm.trans change
  | monitor _ _ other => cases other.symm.trans change

theorem Effect.keyed (effect : Effect store execution) (keyed : Keyed store.flights) :
    Keyed execution.store.flights := by
  intro identifier flight found
  rw [effect.flights] at found
  obtain ⟨old, known, rfl⟩ := Option.map_eq_some_iff.mp found
  exact keyed identifier old known

theorem Effect.booked (effect : Effect store execution) (booked : store.Booked) :
    execution.store.Booked := by
  intro id reservation found
  suffices before : ∃ flight, store.flights.lookup reservation.identifier = some flight by
    obtain ⟨flight, known⟩ := before
    exact ⟨_, effect.flight_found known⟩
  cases effect with
  | nothing change same silent => exact booked id reservation (same ▸ found)
  | reserve req flight change known enough left notified =>
    rw [left, Table.lookup_emplace] at found
    split at found
    · cases old : store.reservations.lookup req.id with
      | none =>
        simp only [old, Option.getD_none, Option.some.injEq] at found
        exact ⟨flight, found ▸ known⟩
      | some earlier =>
        simp only [old, Option.getD_some, Option.some.injEq] at found
        exact booked req.id reservation (found ▸ old)
    · exact booked id reservation found
  | cancel req flight earlier change known present agrees enough left notified =>
    rw [left, Table.lookup_insert] at found
    split at found
    · obtain rfl := Option.some.inj found
      exact ⟨flight, agrees ▸ known⟩
    · exact booked id reservation found
  | monitor req flight change known left silent =>
    rw [left] at found
    exact booked id reservation found

end Kept

section Runs

variable {srpc : Srpc} {semantic : InvocationSemantic} {flightsInput : Table Int32 Flight}

/-- What every effect preserves holds after every run. Under at-most-once an
execution's key is new. -/
theorem effects_induct {P : Store → List Execution → Prop} (start : P ⟨flightsInput, ∅, ∅⟩ [])
    (step : ∀ (store : Store) (log : List Execution) (execution : Execution), store.Booked →
      P store log → Effect store execution →
      (semantic = .atMostOnce → ∀ earlier ∈ log, earlier.key ≠ execution.key) →
      P execution.store (log ++ [execution]))
    (deliveries : List Delivery) :
    (reached srpc semantic flightsInput deliveries).store.Booked ∧
      P (reached srpc semantic flightsInput deliveries).store
        (executions srpc semantic flightsInput deliveries) := by
  refine executions_induct srpc semantic flightsInput
    (P := fun store log => store.Booked ∧ P store log) ?_ ?_ deliveries
  · refine ⟨?_, start⟩
    intro id reservation found
    simp at found
  · intro store log call known fresh
    rcases known with ⟨booked, holds⟩
    have effect := call.effect booked
    exact ⟨effect.booked booked, step store log (call.execute store) booked holds effect fresh⟩

/-- One call of `Serve` on initialised variables, as an effect on the store. -/
theorem serve_effect {state : State} (initialised : state.initialise flightsInput = state)
    (booked : state.store.Booked) (delivery : Delivery) :
    (serve srpc semantic flightsInput state delivery).1.initialise flightsInput =
        (serve srpc semantic flightsInput state delivery).1 ∧
      ((serve srpc semantic flightsInput state delivery).1.store = state.store ∨
        ∃ execution, Effect state.store execution ∧
          (serve srpc semantic flightsInput state delivery).1.store = execution.store) := by
  have seen : state.seen flightsInput = state.store := by rw [State.seen, initialised]
  refine ⟨initialise_serve srpc semantic flightsInput state delivery, ?_⟩
  have served := serve_served srpc semantic flightsInput state delivery
  generalize serve srpc semantic flightsInput state delivery = result at served ⊢
  cases served with
  | ignored nothing => exact .inl (by rw [initialised])
  | repeated received once found => exact .inl (by rw [initialised])
  | @executed call received fresh =>
    refine .inr ⟨call.execute state.store, call.effect booked, ?_⟩
    rw [State.execute_store, seen]
    rfl

theorem reached_booked (deliveries : List Delivery) :
    (reached srpc semantic flightsInput deliveries).store.Booked :=
  (effects_induct (P := fun _ _ => True) trivial (fun _ _ _ _ _ _ _ => trivial) deliveries).1

theorem reached_keyed (keyed : Keyed flightsInput) (deliveries : List Delivery) :
    Keyed (reached srpc semantic flightsInput deliveries).store.flights := by
  refine (effects_induct (P := fun store _ => Keyed store.flights) keyed ?_ deliveries).2
  intro store log execution _ known effect _
  exact effect.keyed known

end Runs

end Dfis
