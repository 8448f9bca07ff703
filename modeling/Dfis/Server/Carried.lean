import Dfis.Server.Consistency
import Dfis.Server.Ledger

/-! What carrying out a request does, said on the flights, reservations and
callbacks found and left, and when the steps of a run do it. -/

namespace Dfis

open Base Machine

/-- The flight a request is about. -/
def Change.identifier : Change → Int32
  | .reserve req => req.identifier
  | .cancel req => req.identifier
  | .monitor req => req.identifier

/-- A reservation request books a reservation of its own; a cancellation takes
its seats off the reservation it names, which is one of its flight. -/
def Change.Books (found left : Table UInt64 Reservation) : Change → Prop
  | .reserve req =>
    found.lookup req.id = none ∧ left = found.insert req.id ⟨req.identifier, req.seats⟩
  | .cancel req =>
    ∃ seats, found.lookup req.reservationReqId = some ⟨req.identifier, seats⟩ ∧
      left = found.insert req.reservationReqId ⟨req.identifier, seats - req.seats⟩
  | .monitor _ => left = found

/-- The callbacks a request registers for a flight. -/
def Change.registers (client : SocketAddress) (now : TimePoint) (identifier : Int32) :
    Change → List Callback
  | .reserve _ => []
  | .cancel _ => []
  | .monitor req =>
    if req.identifier = identifier then
      [⟨{ client with port := req.port }, now + seconds req.monitorIntervalSec, req.id⟩]
    else []

/-- The store left is the store found with what the request asks for done, for
this client and at this time, and nothing else. -/
structure Change.Done (change : Change) (client : SocketAddress) (now : TimePoint)
    (found left : Store) : Prop where
  listed : ∃ flight, found.flights.lookup change.identifier = some flight
  flights : ∀ identifier, left.flights.lookup identifier =
    (found.flights.lookup identifier).map fun flight =>
      { flight with seatAvailability := flight.seatAvailability - change.taken identifier }
  reservations : change.Books found.reservations left.reservations
  callbacks : ∀ identifier,
    left.watching identifier = found.watching identifier ++ change.registers client now identifier

section Effects

variable {store : Store} {execution : Execution} {change : Change}

/-- A change that a successful execution makes is done, unless it reserves
under an id that is recorded already. -/
theorem Effect.done (effect : Effect store execution) (made : execution.change? = some change)
    (new : ∀ req, change = .reserve req → store.reservations.lookup req.id = none) :
    change.Done execution.fromAddr execution.now store execution.store := by
  have flights := effect.flights
  simp only [Execution.taken, made, Option.map_some, Option.getD_some] at flights
  cases effect with
  | nothing other => cases other.symm.trans made
  | reserve req flight other found enough left notified =>
    obtain rfl := Option.some.inj (other.symm.trans made)
    have missing := new req rfl
    refine ⟨⟨flight, found⟩, flights, ⟨missing, by rw [left, Table.emplace_new missing]⟩, ?_⟩
    intro identifier
    rw [Store.watching_subscript (by rw [left]), Change.registers, List.append_nil]
  | cancel req flight reservation other found booked agrees enough left notified =>
    obtain rfl := Option.some.inj (other.symm.trans made)
    obtain ⟨_, seats⟩ := reservation
    obtain rfl := agrees
    refine ⟨⟨flight, found⟩, flights, ⟨seats, booked, by rw [left]⟩, ?_⟩
    intro identifier
    rw [Store.watching_subscript (by rw [left]), Change.registers, List.append_nil]
  | monitor req flight other found left silent =>
    obtain rfl := Option.some.inj (other.symm.trans made)
    refine ⟨⟨flight, found⟩, flights, by rw [left]; rfl, ?_⟩
    intro identifier
    by_cases own : req.identifier = identifier
    · subst own
      simp [left, Store.watching, Change.registers]
    · simp [left, Store.watching, Change.registers, own, Finmap.lookup_insert_of_ne, Ne.symm own,
        Table.lookup_subscript]

/-- Only a reservation puts something under an id that has no reservation. -/
theorem Effect.recorded (effect : Effect store execution) {id : UInt64}
    (missing : store.reservations.lookup id = none)
    (present : execution.store.reservations.lookup id ≠ none) :
    ∃ req, execution.change? = some (.reserve req) ∧ req.id = id := by
  cases effect with
  | nothing change same silent => exact absurd (same ▸ missing) present
  | reserve req flight change found enough left notified =>
    refine ⟨req, change, ?_⟩
    by_contra other
    rw [left, Table.lookup_emplace, if_neg (Ne.symm other)] at present
    exact present missing
  | cancel req flight reservation change found booked agrees enough left notified =>
    rw [left, Table.lookup_insert] at present
    split at present
    · rename_i same
      cases missing.symm.trans (same ▸ booked)
    · exact absurd missing present
  | monitor req flight change found left silent =>
    rw [left] at present
    exact absurd missing present

end Effects

section Runs

variable (srpc : Srpc) (semantic : InvocationSemantic) (flightsInput : Table Int32 Flight)

/-- Among these deliveries, the one after the `earlier` ones makes this execution. -/
structure Makes (deliveries earlier : List Delivery) (step : Delivery) (execution : Execution) :
    Prop where
  among : earlier ++ [step] <+: deliveries
  executed : (serve srpc semantic flightsInput (reached srpc semantic flightsInput earlier)
    step).2.executed = some execution

/-- The step after these is the one that puts a reservation under the id. -/
def Records (earlier : List Delivery) (step : Delivery) (id : UInt64) : Prop :=
  (reached srpc semantic flightsInput earlier).store.reservations.lookup id = none ∧
    (reached srpc semantic flightsInput (earlier ++ [step])).store.reservations.lookup id ≠ none

variable {srpc semantic flightsInput}
variable {deliveries earlier : List Delivery} {step : Delivery} {execution : Execution}
  {id : UInt64}

theorem Makes.effect (makes : Makes srpc semantic flightsInput deliveries earlier step execution) :
    Effect (reached srpc semantic flightsInput earlier).store execution ∧
      (reached srpc semantic flightsInput (earlier ++ [step])).store = execution.store := by
  obtain ⟨call, received, fresh, rfl⟩ := call_of_executed makes.executed
  exact ⟨call.effect (reached_booked earlier), reached_executed received fresh⟩

theorem Makes.logged (makes : Makes srpc semantic flightsInput deliveries earlier step execution) :
    execution ∈ executions srpc semantic flightsInput deliveries := by
  obtain ⟨⟨rest, rfl⟩, executed⟩ := makes
  rw [executions, outcomes, outputs_append, outputs_snoc]
  refine List.mem_filterMap.mpr ⟨_, ?_, executed⟩
  simp [reached]

/-- Under at-most-once a reservation is never executed under a recorded id. -/
theorem Makes.new (makes : Makes srpc .atMostOnce flightsInput deliveries earlier step execution)
    (change : execution.change? = some (.reserve req)) :
    (reached srpc .atMostOnce flightsInput earlier).store.reservations.lookup req.id = none := by
  have log := executions_snoc srpc .atMostOnce flightsInput earlier step
  rw [makes.executed] at log
  have distinct := executions_distinct srpc flightsInput (earlier ++ [step])
  refine (reached_recorded srpc flightsInput earlier).2.2.new ?_ change
  intro other member
  exact distinct_alone distinct log other (List.mem_append_left _ member)

theorem Makes.done (makes : Makes srpc semantic flightsInput deliveries earlier step execution)
    (made : execution.change? = some change)
    (new : ∀ req, change = .reserve req →
      (reached srpc semantic flightsInput earlier).store.reservations.lookup req.id = none) :
    change.Done execution.fromAddr execution.now (reached srpc semantic flightsInput earlier).store
      (reached srpc semantic flightsInput (earlier ++ [step])).store := by
  obtain ⟨effect, left⟩ := makes.effect
  rw [left]
  exact effect.done made new

/-- The step that records an id executes a reservation under it. -/
theorem Records.makes (records : Records srpc semantic flightsInput earlier step id)
    (among : earlier ++ [step] <+: deliveries) :
    ∃ execution req, Makes srpc semantic flightsInput deliveries earlier step execution ∧
      execution.change? = some (.reserve req) ∧ req.id = id := by
  obtain ⟨missing, present⟩ := records
  rw [reached_snoc] at present
  rcases serve_store srpc semantic flightsInput (reached srpc semantic flightsInput earlier) step
    with ⟨kept, _⟩ | ⟨call, _, _, _, made, _⟩
  · rw [State.seen, initialise_serve, reached_seen] at kept
    exact absurd (kept ▸ missing) present
  · rw [reached_seen] at made
    have makes : Makes srpc semantic flightsInput deliveries earlier step _ := ⟨among, made⟩
    obtain ⟨effect, left⟩ := makes.effect
    rw [← reached_snoc, left] at present
    obtain ⟨req, change, same⟩ := effect.recorded missing present
    exact ⟨_, req, makes, change, same⟩

theorem reservation_stays (isPrefix : earlier <+: deliveries)
    (present : (reached srpc semantic flightsInput earlier).store.reservations.lookup id ≠ none) :
    (reached srpc semantic flightsInput deliveries).store.reservations.lookup id ≠ none := by
  obtain ⟨later, rfl⟩ := isPrefix
  obtain ⟨reservation, found⟩ := Option.ne_none_iff_exists'.mp present
  obtain ⟨seats, kept⟩ :=
    (reached_keeps srpc semantic flightsInput earlier later).reservations id reservation found
  rw [kept]
  exact Option.some_ne_none _

theorem Records.unique {earlier' : List Delivery} {step' : Delivery}
    (records : Records srpc semantic flightsInput earlier step id)
    (records' : Records srpc semantic flightsInput earlier' step' id)
    (among : earlier ++ [step] <+: deliveries) (among' : earlier' ++ [step'] <+: deliveries) :
    earlier = earlier' ∧ step = step' := by
  have ordered {first second : List Delivery} {one other : Delivery}
      (records : Records srpc semantic flightsInput first one id)
      (records' : Records srpc semantic flightsInput second other id)
      (isPrefix : first ++ [one] <+: second ++ [other]) : first = second ∧ one = other := by
    rcases List.prefix_concat_iff.mp isPrefix with same | shorter
    · obtain ⟨sameFirst, sameLast⟩ := List.append_inj' same rfl
      exact ⟨sameFirst, List.singleton_inj.mp sameLast⟩
    · exact absurd records'.1 (reservation_stays shorter records.2)
  rcases List.prefix_or_prefix_of_prefix among among' with before | after
  · exact ordered records records' before
  · obtain ⟨rfl, rfl⟩ := ordered records' records after
    exact ⟨rfl, rfl⟩

theorem recorded_somewhere (deliveries : List Delivery)
    (present : (reached srpc semantic flightsInput deliveries).store.reservations.lookup id ≠ none) :
    ∃ earlier step, earlier ++ [step] <+: deliveries ∧
      Records srpc semantic flightsInput earlier step id := by
  induction deliveries using List.reverseRecOn with
  | nil => exact absurd (Finmap.lookup_empty id) present
  | append_singleton deliveries delivery ih =>
    by_cases before :
        (reached srpc semantic flightsInput deliveries).store.reservations.lookup id = none
    · exact ⟨deliveries, delivery, List.prefix_refl _, before, present⟩
    · obtain ⟨earlier, step, among, records⟩ := ih before
      exact ⟨earlier, step, among.trans (List.prefix_append _ _), records⟩

end Runs

end Dfis
