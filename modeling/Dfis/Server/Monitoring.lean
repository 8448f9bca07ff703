import Dfis.Server.AtMostOnce
import Dfis.Server.Decode
import Dfis.Server.Effect

/-! Who is told about which change of seats: every registered monitor of the
flight, in the order of registration, until it expires. -/

namespace Dfis

open Base Machine

/-- The callback an execution registers for a flight. -/
def Execution.registers (identifier : Int32) (execution : Execution) : Option Callback :=
  execution.monitored?.bind fun req =>
    if req.identifier = identifier then
      some ⟨{ execution.fromAddr with port := req.port },
        execution.now + seconds req.monitorIntervalSec, req.id⟩
    else none

/-- The flight a successful reservation or cancellation was for. -/
def Execution.seatsChanged? (execution : Execution) : Option Int32 :=
  match execution.change? with
  | some (.reserve req) => some req.identifier
  | some (.cancel req) => some req.identifier
  | _ => none

/-- The callback a seat change calls for on behalf of a monitor: its flight is
the one monitored, and it happens before the interval is over. -/
def callbackFor (change monitor : Execution) : Option Launch := do
  let identifier ← change.seatsChanged?
  let flight ← change.store.flights.lookup identifier
  let callback ← monitor.registers identifier
  if change.now < callback.monitorEnd then
    some ⟨callback.toAddr, ⟨0, identifier, flight.seatAvailability⟩, callback.owner⟩
  else none

variable {store : Store} {execution : Execution} {log : List Execution}

/-- The callbacks of every flight are those registered for it, in order. -/
def Watched (store : Store) (log : List Execution) : Prop :=
  ∀ identifier, store.watching identifier = log.filterMap (Execution.registers identifier)

theorem Watched.step (watched : Watched store log) (effect : Effect store execution) :
    Watched execution.store (log ++ [execution]) := by
  intro identifier
  rw [List.filterMap_append, ← watched identifier]
  cases effect with
  | nothing change same silent =>
    simp [same, Execution.registers, Execution.monitored?, change]
  | reserve req flight change found enough left notified =>
    rw [Store.watching_subscript (by rw [left])]
    simp [Execution.registers, Execution.monitored?, change]
  | cancel req flight reservation change found booked agrees enough left notified =>
    rw [Store.watching_subscript (by rw [left])]
    simp [Execution.registers, Execution.monitored?, change]
  | monitor req flight change found left silent =>
    by_cases own : req.identifier = identifier
    · subst own
      simp [left, Execution.registers, Execution.monitored?, change, Store.watching]
    · simp [left, Execution.registers, Execution.monitored?, change, Store.watching, own,
        Finmap.lookup_insert_of_ne, Ne.symm own, Table.lookup_subscript]

theorem notify_filterMap (callbacks : List Callback) (now : TimePoint)
    (cbReq : SeatAvailabilityCallbackRequest) :
    notify callbacks now cbReq = callbacks.filterMap fun callback =>
      if now < callback.monitorEnd then some ⟨callback.toAddr, cbReq, callback.owner⟩ else none := by
  induction callbacks with
  | nil => rfl
  | cons callback callbacks ih =>
    by_cases early : now < callback.monitorEnd
    · simpa [notify, early] using ih
    · simpa [notify, early] using ih

private theorem Watched.notify (watched : Watched store log) {identifier : Int32} {flight : Flight}
    (changed : execution.seatsChanged? = some identifier)
    (found : execution.store.flights.lookup identifier = some flight) :
    notify (store.watching identifier) execution.now ⟨0, identifier, flight.seatAvailability⟩ =
      log.filterMap (callbackFor execution) := by
  rw [watched identifier, notify_filterMap, List.filterMap_filterMap]
  congr 1
  funext monitor
  simp [callbackFor, changed, found]

/-- The callbacks an execution launches are those its change of seats calls
for, on behalf of the monitors registered before it, in order. -/
theorem Watched.launched (watched : Watched store log) (keyed : Keyed store.flights)
    (effect : Effect store execution) :
    execution.launched = log.filterMap (callbackFor execution) := by
  have unchanged (none : execution.seatsChanged? = none) :
      log.filterMap (callbackFor execution) = [] := by
    simp [callbackFor, none]
  cases effect with
  | nothing change same silent =>
    rw [silent, unchanged (by simp [Execution.seatsChanged?, change])]
  | monitor req flight change found left silent =>
    rw [silent, unchanged (by simp [Execution.seatsChanged?, change])]
  | reserve req flight change found enough left notified =>
    have changed : execution.seatsChanged? = some req.identifier := by
      simp [Execution.seatsChanged?, change]
    rw [notified, keyed req.identifier flight found]
    exact watched.notify changed (by rw [left]; exact Finmap.lookup_insert _)
  | cancel req flight reservation change found booked agrees enough left notified =>
    have changed : execution.seatsChanged? = some req.identifier := by
      simp [Execution.seatsChanged?, change]
    rw [notified, keyed req.identifier flight found]
    exact watched.notify changed (by rw [left]; exact Finmap.lookup_insert _)

/-- Every execution in the log launched the callbacks its change of seats calls for. -/
def CallsBack (log : List Execution) : Prop :=
  ∀ before change after, log = before ++ change :: after →
    change.launched = before.filterMap (callbackFor change)

theorem CallsBack.step (callsBack : CallsBack log) (watched : Watched store log)
    (keyed : Keyed store.flights) (effect : Effect store execution) :
    CallsBack (log ++ [execution]) := by
  intro before change after split
  rcases List.eq_nil_or_concat after with rfl | ⟨between, last, rfl⟩
  · obtain ⟨rfl, same⟩ := List.append_inj' split rfl
    obtain rfl := List.singleton_inj.mp same
    exact watched.launched keyed effect
  · have prior : log ++ [execution] = (before ++ change :: between) ++ [last] := by simp [split]
    exact callsBack before change between (List.append_inj_left' prior rfl)

/-- What a log of executions under at-most-once says about who was called back. -/
structure Monitored (log : List Execution) : Prop where
  distinct : log.Pairwise fun earlier later => earlier.key ≠ later.key
  launched : CallsBack log

theorem Monitored.earlier (monitored : Monitored (log ++ [execution])) : Monitored log where
  distinct := (List.pairwise_append.mp monitored.distinct).1
  launched before change after split :=
    monitored.launched before change (after ++ [execution]) (by simp [split])

/-- A callback is on behalf of the monitoring request that its owner names. -/
theorem callbackFor_owner {change monitor : Execution}
    (called : callbackFor change monitor = some launch) :
    ∃ req, monitor.monitored? = some req ∧ launch.owner = req.id := by
  simp only [callbackFor, Option.bind_eq_bind, Option.bind_eq_some_iff] at called
  obtain ⟨identifier, _, flight, _, callback, registered, early⟩ := called
  obtain ⟨req, monitored, own⟩ := Option.bind_eq_some_iff.mp registered
  refine ⟨req, monitored, ?_⟩
  split at own
  · obtain rfl := Option.some.inj own
    split at early
    · obtain rfl := Option.some.inj early
      rfl
    · cases early
  · cases own

theorem callbackFor_monitor {change : Execution} (registered : change.monitored? = some req)
    (monitor : Execution) : callbackFor change monitor = none := by
  have made := Execution.monitored?_eq_some.mp registered
  simp [callbackFor, Execution.seatsChanged?, made]

theorem Execution.monitored_key {execution : Execution}
    (registered : execution.monitored? = some req) :
    execution.key = (.seatAvailabilityMonitoring, req.id) := by
  rw [Execution.monitored_call (Execution.monitored?_eq_some.mp registered)]
  rfl

theorem Execution.monitored_ne {first second : Execution} (different : first.key ≠ second.key)
    (registered : first.monitored? = some req) (registered' : second.monitored? = some req') :
    req.id ≠ req'.id := by
  intro same
  apply different
  rw [Execution.monitored_key registered, Execution.monitored_key registered', same]

private theorem strangers {monitors : List Execution} {id : UInt64}
    (others : ∀ monitor ∈ monitors, ∀ req, monitor.monitored? = some req → req.id ≠ id)
    (change : Execution) :
    ((monitors.filterMap (callbackFor change)).filter fun launch => launch.owner = id) = [] := by
  refine List.filter_eq_nil_iff.mpr fun launch member => ?_
  obtain ⟨monitor, listed, called⟩ := List.mem_filterMap.mp member
  obtain ⟨req, registered, owner⟩ := callbackFor_owner called
  simpa [owner] using others monitor listed req registered

private theorem Monitored.unregistered {before : List Execution} {monitor : Execution}
    (monitored : Monitored (before ++ [monitor])) (registered : monitor.monitored? = some req) :
    ((before.flatMap Execution.launched).filter fun launch => launch.owner = req.id) = [] := by
  have distinct := (List.pairwise_append.mp monitored.distinct).2.2
  refine List.filter_eq_nil_iff.mpr fun launch member => ?_
  obtain ⟨change, listed, launched⟩ := List.mem_flatMap.mp member
  obtain ⟨prior, rest, rfl⟩ := List.append_of_mem listed
  rw [monitored.launched prior change (rest ++ [monitor]) (by simp)] at launched
  obtain ⟨earlier, known, called⟩ := List.mem_filterMap.mp launched
  obtain ⟨req', registered', owner⟩ := callbackFor_owner called
  have different := distinct earlier (List.mem_append_left _ known) monitor (by simp)
  simpa [owner] using Execution.monitored_ne different registered' registered

/-- The callbacks launched on behalf of a monitor: one for each later change
of seats on its flight within its interval, and no others. -/
theorem Monitored.onBehalf {before after : List Execution} {monitor : Execution}
    (monitored : Monitored (before ++ monitor :: after))
    (registered : monitor.monitored? = some req) :
    (((before ++ monitor :: after).flatMap Execution.launched).filter fun launch =>
      launch.owner = req.id) = after.filterMap fun change => callbackFor change monitor := by
  induction after using List.reverseRecOn with
  | nil =>
    have silent : monitor.launched = [] := by
      rw [monitored.launched before monitor [] rfl]
      simp [callbackFor_monitor registered]
    simpa [silent] using monitored.unregistered registered
  | append_singleton after change ih =>
    have split : before ++ monitor :: (after ++ [change]) =
        (before ++ monitor :: after) ++ [change] := by simp
    have launched := monitored.launched (before ++ monitor :: after) change [] split
    have shorter : Monitored (before ++ monitor :: after) := (split ▸ monitored).earlier
    have others : ∀ other ∈ before ++ after, ∀ req', other.monitored? = some req' →
        req'.id ≠ req.id := fun other member req' registered' =>
      Execution.monitored_ne (distinct_alone shorter.distinct rfl other member)
        registered' registered
    have first := fun other member => others other (List.mem_append_left after member)
    have last := fun other member => others other (List.mem_append_right before member)
    rw [split, List.flatMap_append, List.filter_append, ih shorter, List.filterMap_append]
    congr 1
    simp only [List.flatMap_cons, List.flatMap_nil, List.append_nil, launched, List.filterMap_append,
      List.filter_append, List.filterMap_cons, strangers first, List.nil_append, List.filterMap_nil]
    cases called : callbackFor change monitor with
    | none => exact strangers last change
    | some launch =>
      obtain ⟨req', registered', owner⟩ := callbackFor_owner called
      obtain rfl := Option.some.inj (registered.symm.trans registered')
      simp [owner, strangers last]

section Runs

variable (srpc : Srpc) (flightsInput : Table Int32 Flight)

theorem executions_callsBack (semantic : InvocationSemantic) (keyed : Keyed flightsInput)
    (deliveries : List Delivery) : CallsBack (executions srpc semantic flightsInput deliveries) := by
  refine (effects_induct (P := fun store log =>
    Watched store log ∧ Keyed store.flights ∧ CallsBack log) ⟨?_, keyed, ?_⟩ ?_ deliveries).2.2.2
  · intro identifier
    simp [Store.watching]
  · intro before change after split
    simp at split
  · intro store log execution _ known effect _
    rcases known with ⟨watched, keyed, callsBack⟩
    exact ⟨watched.step effect, effect.keyed keyed, callsBack.step watched keyed effect⟩

theorem executions_monitored (keyed : Keyed flightsInput) (deliveries : List Delivery) :
    Monitored (executions srpc .atMostOnce flightsInput deliveries) where
  distinct := executions_distinct srpc flightsInput deliveries
  launched := executions_callsBack srpc flightsInput .atMostOnce keyed deliveries

/-- Under at-most-once the callbacks launched on behalf of a monitor are one
for each later change of seats on its flight within its interval; all
callbacks are such ones, each launched by the change it reports. -/
theorem monitoring_exact (keyed : Keyed flightsInput) (deliveries : List Delivery) :
    (∀ before monitor after req,
      executions srpc .atMostOnce flightsInput deliveries = before ++ monitor :: after →
      monitor.monitored? = some req →
      ((outcomes srpc .atMostOnce flightsInput deliveries).flatMap Outcome.launched).filter
          (fun launch => launch.owner = req.id) =
        after.filterMap fun change => callbackFor change monitor) ∧
    (∀ before change after,
      executions srpc .atMostOnce flightsInput deliveries = before ++ change :: after →
      change.launched = before.filterMap (callbackFor change)) ∧
    ∀ outcome ∈ outcomes srpc .atMostOnce flightsInput deliveries,
      outcome.launched = (outcome.executed.map Execution.launched).getD [] := by
  have monitored := executions_monitored srpc flightsInput keyed deliveries
  refine ⟨?_, monitored.launched, outcome_launched srpc flightsInput deliveries⟩
  intro before monitor after req split registered
  rw [outcomes_launched, split]
  rw [split] at monitored
  exact monitored.onBehalf registered

end Runs

/-- Flight 4003 monitored for a minute at port 6000. -/
def watch : Delivery := .carrying (monitoringData ⟨1, 4003, 6000, 60⟩) someClient 0

/-- Two seats of it reserved within the minute. -/
def reserveTwo : Delivery := .carrying (reservationData ⟨7, 4003, 2⟩) someClient 5

def watchExecuted : Execution :=
  Call.execute ⟨.seatAvailabilityMonitoring, ⟨1, 4003, 6000, 60⟩, someClient, 0⟩ ⟨oneFlight, ∅, ∅⟩

def reserveExecuted : Execution :=
  Call.execute ⟨.seatReservation, ⟨7, 4003, 2⟩, someClient, 5⟩ watchExecuted.store

private theorem executions_watched :
    executions .reference .atMostOnce oneFlight [watch, reserveTwo] =
      [] ++ watchExecuted :: [reserveExecuted] := by
  have first := monitoring_received ⟨1, 4003, 6000, 60⟩ someClient 0
  have second := reservation_received ⟨7, 4003, 2⟩ someClient 5
  have new : (reached .reference .atMostOnce oneFlight [watch]).remembered (.seatReservation, 7) =
      none := by
    apply reached_unknown
    intro earlier member
    obtain rfl := List.mem_singleton.mp member
    rw [Service.keyOf, show (reservationService .reference).read watch = _ from first]
    exact fun same => by cases same
  have watched : executions .reference .atMostOnce oneFlight ([] ++ [watch]) = [watchExecuted] :=
    executions_executed first fun _ => State.start_remembered oneFlight _
  have left : (reached .reference .atMostOnce oneFlight ([] ++ [watch])).store =
      watchExecuted.store :=
    reached_executed first fun _ => State.start_remembered oneFlight _
  have both : executions .reference .atMostOnce oneFlight ([watch] ++ [reserveTwo]) = _ :=
    executions_executed second fun _ => new
  rw [← List.singleton_append, both, show [watch] = [] ++ [watch] from rfl, watched, left]
  rfl

/-- One callback, with the eight seats left. -/
theorem monitoring_exact_one :
    ((outcomes .reference .atMostOnce oneFlight [watch, reserveTwo]).flatMap
      Outcome.launched).filter (fun launch => launch.owner = 1) =
        [⟨{ someClient with port := 6000 }, ⟨0, 4003, 8⟩, 1⟩] := by
  rw [(monitoring_exact .reference oneFlight oneFlight_keyed [watch, reserveTwo]).1 [] watchExecuted
    [reserveExecuted] ⟨1, 4003, 6000, 60⟩ executions_watched (by decide)]
  decide

end Dfis
