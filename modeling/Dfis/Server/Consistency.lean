import Dfis.Server.Effect

/-! The three maps of the store agree with each other and with the file in
every state, and what is recorded in them stays. -/

namespace Dfis

open Base Machine

/-- The flight with its seats set. -/
def Flight.withSeats (flight : Flight) (seats : Int32) : Flight :=
  { flight with seatAvailability := seats }

/-- The flights are those of the input, but for their seats. -/
def SameFlights (flightsInput flights : Table Int32 Flight) : Prop :=
  ∀ identifier, ∃ seats, flights.lookup identifier =
    (flightsInput.lookup identifier).map fun flight => flight.withSeats seats

/-- Callbacks stand under identifiers of flights only. -/
def Store.CallbacksListed (store : Store) : Prop :=
  ∀ identifier callbacks, store.callbacks.lookup identifier = some callbacks →
    ∃ flight, store.flights.lookup identifier = some flight

/-- What the three maps of a store have to do with each other and with the input. -/
structure Store.Consistent (flightsInput : Table Int32 Flight) (store : Store) : Prop where
  keys : store.flights.keys = flightsInput.keys
  flights : ∀ identifier flight, store.flights.lookup identifier = some flight →
    flight.identifier = identifier ∧
      ∃ asRead, flightsInput.lookup identifier = some asRead ∧
        flight.source = asRead.source ∧ flight.destination = asRead.destination ∧
        flight.departureTime = asRead.departureTime ∧ flight.airfare = asRead.airfare
  reservations : ∀ id reservation, store.reservations.lookup id = some reservation →
    reservation.identifier ∈ store.flights.keys
  callbacks : ∀ identifier ∈ store.callbacks.keys, identifier ∈ store.flights.keys

/-- Nothing recorded is removed or given to another flight. -/
structure Store.Keeps (earlier later : Store) : Prop where
  reservations : ∀ id reservation, earlier.reservations.lookup id = some reservation →
    ∃ seats, later.reservations.lookup id = some ⟨reservation.identifier, seats⟩
  callbacks : ∀ identifier, earlier.watching identifier <+: later.watching identifier

section SameFlights

variable {flightsInput flights : Table Int32 Flight}

theorem SameFlights.keys (same : SameFlights flightsInput flights) :
    flights.keys = flightsInput.keys := by
  ext identifier
  obtain ⟨seats, found⟩ := same identifier
  rw [Finmap.mem_keys, Finmap.mem_keys, ← Finmap.lookup_isSome, ← Finmap.lookup_isSome, found,
    Option.isSome_map]

theorem SameFlights.found (same : SameFlights flightsInput flights) {identifier : Int32}
    {flight : Flight} (found : flights.lookup identifier = some flight) :
    ∃ asRead seats, flightsInput.lookup identifier = some asRead ∧
      flight = asRead.withSeats seats := by
  obtain ⟨seats, withSeats⟩ := same identifier
  obtain ⟨asRead, listed, rfl⟩ := Option.map_eq_some_iff.mp (withSeats.symm.trans found)
  exact ⟨asRead, seats, listed, rfl⟩

theorem SameFlights.keyed (same : SameFlights flightsInput flights) (keyed : Keyed flightsInput) :
    Keyed flights := by
  intro identifier flight found
  obtain ⟨asRead, seats, listed, rfl⟩ := same.found found
  exact keyed identifier asRead listed

end SameFlights

section Step

variable {flightsInput : Table Int32 Flight} {store : Store} {execution : Execution}

theorem SameFlights.step (same : SameFlights flightsInput store.flights)
    (effect : Effect store execution) : SameFlights flightsInput execution.store.flights := by
  intro identifier
  obtain ⟨seats, found⟩ := same identifier
  cases listed : flightsInput.lookup identifier with
  | none => exact ⟨0, by rw [effect.flights, found, listed]; rfl⟩
  | some flight =>
    refine ⟨seats - execution.taken identifier, ?_⟩
    rw [effect.flights, found, listed]
    rfl

private theorem callbacksListed_subscript (listed : store.CallbacksListed) {identifier : Int32}
    {flight : Flight} (found : store.flights.lookup identifier = some flight) {other : Int32}
    {callbacks : List Callback}
    (present : (store.callbacks.subscript identifier).1.lookup other = some callbacks) :
    ∃ flight, store.flights.lookup other = some flight := by
  rw [Table.lookup_subscript] at present
  split at present
  · rename_i same
    exact ⟨flight, same ▸ found⟩
  · exact listed other callbacks present

theorem Store.CallbacksListed.step (listed : store.CallbacksListed)
    (effect : Effect store execution) : execution.store.CallbacksListed := by
  intro identifier callbacks present
  suffices before : ∃ flight, store.flights.lookup identifier = some flight by
    obtain ⟨flight, found⟩ := before
    exact ⟨_, effect.flight_found found⟩
  cases effect with
  | nothing change same silent => exact listed identifier callbacks (same ▸ present)
  | reserve req flight change found enough left notified =>
    rw [left] at present
    exact callbacksListed_subscript listed found present
  | cancel req flight reservation change found booked agrees enough left notified =>
    rw [left] at present
    exact callbacksListed_subscript listed found present
  | monitor req flight change found left silent =>
    rw [left, Table.lookup_insert] at present
    split at present
    · rename_i same
      exact ⟨flight, same ▸ found⟩
    · exact callbacksListed_subscript listed found present

theorem Store.Keeps.refl (store : Store) : store.Keeps store where
  reservations _ reservation found := ⟨reservation.seats, found⟩
  callbacks _ := List.prefix_refl _

theorem Store.Keeps.trans {earlier middle later : Store} (first : earlier.Keeps middle)
    (second : middle.Keeps later) : earlier.Keeps later where
  reservations id reservation found := by
    obtain ⟨seats, kept⟩ := first.reservations id reservation found
    exact second.reservations id ⟨reservation.identifier, seats⟩ kept
  callbacks identifier := (first.callbacks identifier).trans (second.callbacks identifier)

/-- The callbacks that subscripting or a registration leaves start with those there were. -/
private theorem keeps_callbacks (effect : Effect store execution) (identifier : Int32) :
    store.watching identifier <+: execution.store.watching identifier := by
  cases effect with
  | nothing change same silent => rw [same]
  | reserve req flight change found enough left notified =>
    have kept : execution.store.watching identifier = store.watching identifier :=
      Store.watching_subscript (by rw [left]) identifier
    rw [kept]
  | cancel req flight reservation change found booked agrees enough left notified =>
    have kept : execution.store.watching identifier = store.watching identifier :=
      Store.watching_subscript (by rw [left]) identifier
    rw [kept]
  | monitor req flight change found left silent =>
    by_cases own : identifier = req.identifier
    · subst own
      simp only [left, Store.watching, Finmap.lookup_insert, Option.getD_some]
      exact List.prefix_append _ _
    · rw [left, Store.watching, Store.watching, Table.lookup_insert, if_neg own,
        Table.lookup_subscript, if_neg own]

theorem Effect.keeps (effect : Effect store execution) : store.Keeps execution.store where
  callbacks := keeps_callbacks effect
  reservations id reservation found := by
    cases effect with
    | nothing change same silent => exact ⟨reservation.seats, same ▸ found⟩
    | reserve req flight change known enough left notified =>
      refine ⟨reservation.seats, ?_⟩
      rw [left, Table.lookup_emplace]
      split
      · rename_i same
        rw [← same, found]
        rfl
      · exact found
    | cancel req flight earlier change known booked agrees enough left notified =>
      rw [left, Table.lookup_insert]
      split
      · rename_i same
        obtain rfl := Option.some.inj (booked.symm.trans (same ▸ found))
        exact ⟨_, rfl⟩
      · exact ⟨reservation.seats, found⟩
    | monitor req flight change known left silent => exact ⟨reservation.seats, by rw [left]; exact found⟩

end Step

section Runs

variable (srpc : Srpc) (semantic : InvocationSemantic) (flightsInput : Table Int32 Flight)

theorem reached_flights (deliveries : List Delivery) :
    SameFlights flightsInput (reached srpc semantic flightsInput deliveries).store.flights := by
  refine (effects_induct (P := fun store _ => SameFlights flightsInput store.flights) ?_ ?_
    deliveries).2
  · intro identifier
    change ∃ seats, flightsInput.lookup identifier = _
    cases flightsInput.lookup identifier with
    | none => exact ⟨0, rfl⟩
    | some flight => exact ⟨flight.seatAvailability, rfl⟩
  · intro store log execution _ same effect _
    exact same.step effect

theorem reached_callbacksListed (deliveries : List Delivery) :
    (reached srpc semantic flightsInput deliveries).store.CallbacksListed := by
  refine (effects_induct (P := fun store _ => store.CallbacksListed) ?_ ?_ deliveries).2
  · intro identifier callbacks present
    simp at present
  · intro store log execution _ listed effect _
    exact listed.step effect

theorem reached_keeps (deliveries later : List Delivery) :
    (reached srpc semantic flightsInput deliveries).store.Keeps
      (reached srpc semantic flightsInput (deliveries ++ later)).store := by
  induction later using List.reverseRecOn with
  | nil =>
    rw [List.append_nil]
    exact .refl _
  | append_singleton later delivery ih =>
    refine ih.trans ?_
    rw [← List.append_assoc, reached_snoc]
    obtain ⟨_, same | ⟨execution, effect, left⟩⟩ := serve_effect
      (reached_initialise srpc semantic flightsInput (deliveries ++ later))
      (reached_booked (deliveries ++ later)) delivery
    · exact same ▸ Store.Keeps.refl _
    · exact left ▸ effect.keeps

/-- In every state of a run on the flights of a file, the store is consistent
with itself and the file, and everything recorded stays from then on. -/
theorem store_consistent (lines : List Flight) (deliveries : List Delivery) :
    let flightsInput := readFlightsFromFile lines
    (reached srpc semantic flightsInput deliveries).store.Consistent flightsInput ∧
      ∀ later, (reached srpc semantic flightsInput deliveries).store.Keeps
        (reached srpc semantic flightsInput (deliveries ++ later)).store := by
  intro flightsInput
  refine ⟨?_, reached_keeps srpc semantic flightsInput deliveries⟩
  have same := reached_flights srpc semantic flightsInput deliveries
  have booked : (reached srpc semantic flightsInput deliveries).store.Booked :=
    reached_booked deliveries
  have listed := reached_callbacksListed srpc semantic flightsInput deliveries
  refine ⟨same.keys, ?_, ?_, ?_⟩
  · intro identifier flight found
    obtain ⟨asRead, seats, known, rfl⟩ := same.found found
    exact ⟨readFlightsFromFile_keyed lines identifier asRead known, asRead, known, rfl, rfl, rfl, rfl⟩
  · intro id reservation found
    obtain ⟨flight, known⟩ := booked id reservation found
    exact Finmap.mem_keys.mpr (Finmap.mem_of_lookup_eq_some known)
  · intro identifier member
    obtain ⟨callbacks, present⟩ := Finmap.mem_iff.mp (Finmap.mem_keys.mp member)
    obtain ⟨flight, known⟩ := listed identifier callbacks present
    exact Finmap.mem_keys.mpr (Finmap.mem_of_lookup_eq_some known)

end Runs

end Dfis
