import Dfis.Server.AtMostOnce
import Dfis.Server.Carried
import Dfis.Server.Decode

/-! What a reply of success tells the client: what it asked for was done for
it, unless another request under the same kind and id got through before. -/

namespace Dfis

open Base Machine

/-- What a request asks for: matching flights, one flight, or an action for its sender. -/
inductive Wish where
  | search
  | inquire (identifier : Int32)
  | act (change : Change) (client : SocketAddress)
  deriving DecidableEq, Repr

def Call.wish : Call → Wish
  | ⟨.flightSearch, _, _, _⟩ => .search
  | ⟨.flightInfo, req, _, _⟩ => .inquire req.identifier
  | ⟨.seatReservation, req, fromAddr, _⟩ => .act (.reserve req) fromAddr
  | ⟨.seatAvailabilityMonitoring, req, fromAddr, _⟩ => .act (.monitor req) fromAddr
  | ⟨.priceRangeSearch, _, _, _⟩ => .search
  | ⟨.seatReservationCancellation, req, fromAddr, _⟩ => .act (.cancel req) fromAddr

/-- `res.status_code` of the response sent. -/
def Answer.status (answer : Answer) : Int32 := answer.kind.statusCode answer.response

/-- The response carries what the request names: the flight as it is in the
store, or its identifier and the seats. -/
def Answer.Carries (found : Store) : Answer → Prop
  | ⟨.flightSearch, _, _⟩ => True
  | ⟨.flightInfo, req, res⟩ =>
    ∃ flight, found.flights.lookup req.identifier = some flight ∧
      flight.identifier = req.identifier ∧ res.flight = [flight]
  | ⟨.seatReservation, req, res⟩ => res.identifier = req.identifier ∧ res.seats = req.seats
  | ⟨.seatAvailabilityMonitoring, req, res⟩ => res.identifier = req.identifier
  | ⟨.priceRangeSearch, _, _⟩ => True
  | ⟨.seatReservationCancellation, req, res⟩ =>
    res.identifier = req.identifier ∧ res.seats = req.seats

section Honoured

variable (srpc : Srpc) (semantic : InvocationSemantic) (flightsInput : Table Int32 Flight)

/-- The response was computed by a step of the run, and it carries what its
request names as that step found it. -/
def Computed (deliveries : List Delivery) (answer : Answer) : Prop :=
  ∃ earlier step execution request,
    Makes srpc semantic flightsInput deliveries earlier step execution ∧
      execution.answer = { answer with request := request } ∧
      answer.Carries (reached srpc semantic flightsInput earlier).store

/-- A step of the run executed the same request of the same sender, and its
effect on the store is what the request asks for. -/
def CarriedOut (deliveries : List Delivery) (call : Call) : Prop :=
  ∀ change client, call.wish = .act change client →
    ∃ earlier step execution,
      Makes srpc semantic flightsInput deliveries earlier step execution ∧
        execution.toCall.wish = call.wish ∧
        change.Done client execution.now (reached srpc semantic flightsInput earlier).store
          (reached srpc semantic flightsInput (earlier ++ [step])).store

/-- What the sender may take from a reply of success. -/
def Honoured (deliveries : List Delivery) (call : Call) (answer : Answer) : Prop :=
  Computed srpc semantic flightsInput deliveries answer ∧
    CarriedOut srpc semantic flightsInput deliveries call

end Honoured

section Executions

variable {call : Call} {store : Store} {execution : Execution}

theorem Execution.acted (success : execution.answer.status = 0)
    (asks : execution.toCall.wish = .act change client) :
    execution.change? = some change ∧ execution.fromAddr = client := by
  obtain ⟨⟨kind, req, fromAddr, now⟩, res, launched, store⟩ := execution
  cases kind <;> cases asks
  all_goals exact ⟨if_pos success, rfl⟩

theorem Execution.succeeded (made : execution.change? = some change) :
    execution.answer.status = 0 := by
  obtain ⟨⟨kind, req, fromAddr, now⟩, res, launched, store⟩ := execution
  by_contra failed
  have status : ¬ kind.statusCode res = 0 := failed
  cases kind <;> simp_all [Execution.change?, Kind.statusCode]

theorem Execution.wish_change (made : execution.change? = some change) :
    execution.toCall.wish = .act change execution.fromAddr := by
  cases change with
  | reserve req => rw [Execution.reserved_call made]; rfl
  | cancel req => rw [Execution.cancelled_call made]; rfl
  | monitor req => rw [Execution.monitored_call made]; rfl

private theorem flightInfo_carries (keyed : Keyed store.flights) (req : FlightInfoRequest)
    (success : (executeFlightInfo store req).response.statusCode = 0) :
    ∃ flight, store.flights.lookup req.identifier = some flight ∧
      flight.identifier = req.identifier ∧
      (executeFlightInfo store req).response.flight = [flight] := by
  cases found : store.flights.lookup req.identifier with
  | none => simp [executeFlightInfo, found] at success
  | some flight =>
    exact ⟨flight, rfl, keyed req.identifier flight found, by simp [executeFlightInfo, found]⟩

private theorem seatReservation_carries (now : TimePoint) (req : SeatReservationRequest)
    (success : (executeSeatReservation store now req).response.statusCode = 0) :
    (executeSeatReservation store now req).response.identifier = req.identifier ∧
      (executeSeatReservation store now req).response.seats = req.seats := by
  cases found : store.flights.lookup req.identifier with
  | none => simp [executeSeatReservation, found] at success
  | some flight =>
    by_cases short : flight.seatAvailability < req.seats
    · simp [executeSeatReservation, found, short] at success
    · simp [executeSeatReservation, found, short]

private theorem seatAvailabilityMonitoring_carries (fromAddr : SocketAddress) (now : TimePoint)
    (req : SeatAvailabilityMonitoringRequest) :
    (executeSeatAvailabilityMonitoring store fromAddr now req).response.identifier =
      req.identifier := by
  unfold executeSeatAvailabilityMonitoring
  split <;> rfl

private theorem seatReservationCancellation_carries (now : TimePoint)
    (req : SeatReservationCancellationRequest)
    (success : (executeSeatReservationCancellation store now req).response.statusCode = 0) :
    (executeSeatReservationCancellation store now req).response.identifier = req.identifier ∧
      (executeSeatReservationCancellation store now req).response.seats = req.seats := by
  cases found : store.reservations.lookup req.reservationReqId with
  | none => simp [executeSeatReservationCancellation, found] at success
  | some reservation =>
    by_cases agrees : reservation.identifier = req.identifier
    · by_cases short : reservation.seats < req.seats
      · simp [executeSeatReservationCancellation, found, agrees, short] at success
      · simp [executeSeatReservationCancellation, found, agrees, short]
    · simp [executeSeatReservationCancellation, found, agrees] at success

theorem Call.carries (keyed : Keyed store.flights)
    (success : (call.execute store).answer.status = 0) :
    (call.execute store).answer.Carries store := by
  obtain ⟨kind, req, fromAddr, now⟩ := call
  cases kind with
  | flightSearch => trivial
  | flightInfo => exact flightInfo_carries keyed req success
  | seatReservation => exact seatReservation_carries now req success
  | seatAvailabilityMonitoring => exact seatAvailabilityMonitoring_carries fromAddr now req
  | priceRangeSearch => trivial
  | seatReservationCancellation => exact seatReservationCancellation_carries now req success

end Executions

section Wishes

variable {first second : Call}

/-- The kind and id of a request that asks for an action. -/
def Change.key : Change → RequestKey
  | .reserve req => (.seatReservation, req.id)
  | .cancel req => (.seatReservationCancellation, req.id)
  | .monitor req => (.seatAvailabilityMonitoring, req.id)

theorem Call.wish_key {call : Call} (asks : call.wish = .act change client) :
    call.key = change.key := by
  obtain ⟨kind, req, fromAddr, now⟩ := call
  cases kind <;> cases asks
  all_goals rfl

/-- A response carries what any request asks for that has the wish it was computed for. -/
private theorem carries_same {kind : Kind} {req req' : kind.Request} {res : kind.Response}
    {fromAddr fromAddr' : SocketAddress} {now now' : TimePoint} {found : Store}
    (carries : Answer.Carries found ⟨kind, req, res⟩)
    (same : Call.wish ⟨kind, req, fromAddr, now⟩ = Call.wish ⟨kind, req', fromAddr', now'⟩) :
    Answer.Carries found ⟨kind, req', res⟩ := by
  cases kind with
  | flightSearch => trivial
  | flightInfo =>
    obtain ⟨flight, listed, named, only⟩ := carries
    have identifier : req.identifier = req'.identifier := Wish.inquire.inj same
    exact ⟨flight, identifier ▸ listed, named.trans identifier, only⟩
  | seatReservation =>
    cases same
    exact carries
  | seatAvailabilityMonitoring =>
    cases same
    exact carries
  | priceRangeSearch => trivial
  | seatReservationCancellation =>
    cases same
    exact carries

/-- A response that carries what two requests ask for, to the same client if
they ask for an action, is a response to one wish. -/
private theorem wish_same {kind : Kind} {req req' : kind.Request} {res : kind.Response}
    {fromAddr fromAddr' : SocketAddress} {now now' : TimePoint} {found found' : Store}
    (carries : Answer.Carries found ⟨kind, req, res⟩)
    (carries' : Answer.Carries found' ⟨kind, req', res⟩)
    (acts : ∀ change client, Call.wish ⟨kind, req', fromAddr', now'⟩ = .act change client →
      Call.wish ⟨kind, req, fromAddr, now⟩ = .act change client) :
    Call.wish ⟨kind, req, fromAddr, now⟩ = Call.wish ⟨kind, req', fromAddr', now'⟩ := by
  cases kind with
  | flightSearch => rfl
  | flightInfo =>
    obtain ⟨flight, _, named, only⟩ := carries
    obtain ⟨flight', _, named', only'⟩ := carries'
    obtain rfl := List.singleton_inj.mp (only.symm.trans only')
    exact congrArg Wish.inquire (named.symm.trans named')
  | seatReservation => exact acts _ _ rfl
  | seatAvailabilityMonitoring => exact acts _ _ rfl
  | priceRangeSearch => rfl
  | seatReservationCancellation => exact acts _ _ rfl

end Wishes

section Runs

variable (srpc : Srpc) (semantic : InvocationSemantic) (flightsInput : Table Int32 Flight)

/-- A reply of success that the delivery gets after these is honoured. -/
def RepliesHonestly (before : List Delivery) (delivery : Delivery) : Prop :=
  ∀ call answer, delivery.received? srpc = some call →
    (serve srpc semantic flightsInput (reached srpc semantic flightsInput before)
      delivery).2.answer = some answer →
    answer.status = 0 →
    Honoured srpc semantic flightsInput (before ++ [delivery]) call answer

/-- What stands under the id of a request whose reply is not lost stands there
for this request. A success saved under its kind and id was computed for the
same; under at-least-once, where nothing is saved, the reservation recorded
under the id of one that passes its checks was recorded for the same. -/
structure KeepsToItsId (before : List Delivery) (delivery : Delivery) : Prop where
  saved : semantic = .atMostOnce → ∀ call answer first,
    delivery.received? srpc = some call → delivery.resLost = false →
    (reached srpc semantic flightsInput before).remembered call.key = some answer →
    answer.status = 0 →
    (reservationService srpc).firstQuery before call.key = some first → first.wish = call.wish
  recorded : semantic = .atLeastOnce → ∀ req client now flight,
    delivery.received? srpc = some ⟨.seatReservation, req, client, now⟩ →
    delivery.resLost = false →
    (reached srpc semantic flightsInput before).store.flights.lookup req.identifier =
      some flight →
    ¬ flight.seatAvailability < req.seats →
    ∀ earlier step first, earlier ++ [step] <+: before →
      Records srpc semantic flightsInput earlier step req.id →
      step.received? srpc = some first → first.wish = .act (.reserve req) client

variable {srpc semantic flightsInput}
variable {before deliveries earlier : List Delivery} {delivery step : Delivery} {call : Call}

/-- A successful execution of the same request carries it out, unless it
reserves under an id that is recorded already. -/
theorem Makes.carriedOut {execution : Execution}
    (makes : Makes srpc semantic flightsInput deliveries earlier step execution)
    (success : execution.answer.status = 0) (same : execution.toCall.wish = call.wish)
    (new : ∀ req, execution.change? = some (.reserve req) →
      (reached srpc semantic flightsInput earlier).store.reservations.lookup req.id = none) :
    CarriedOut srpc semantic flightsInput deliveries call := by
  intro change client asks
  obtain ⟨made, rfl⟩ := Execution.acted success (same.trans asks)
  refine ⟨earlier, step, execution, makes, same, makes.done made ?_⟩
  rintro req rfl
  exact new req made

theorem makes_executed (received : delivery.received? srpc = some call)
    (fresh : semantic = .atMostOnce →
      (reached srpc semantic flightsInput before).remembered call.key = none) :
    Makes srpc semantic flightsInput (before ++ [delivery]) before delivery
      (call.execute (reached srpc semantic flightsInput before).store) where
  among := List.prefix_refl _
  executed := by rw [serve_fresh received fresh, reached_seen]

variable (flightsInput) in
theorem makes_first {first : Call}
    (isFirst : (reservationService srpc).First deliveries earlier first) :
    ∃ step, Makes srpc .atMostOnce flightsInput deliveries earlier step
      (first.execute (reached srpc .atMostOnce flightsInput earlier).store) := by
  obtain ⟨⟨step, received, among⟩, absent⟩ := isFirst
  exact ⟨step, among, (remembered_first srpc flightsInput received absent []).1⟩

/-- Where a reservation was carried out, the id was recorded for it. -/
theorem CarriedOut.recorder {recorder : Delivery} {first : Call}
    (carriedOut : CarriedOut srpc semantic flightsInput deliveries call)
    (asks : call.wish = .act (.reserve req) client)
    (records : Records srpc semantic flightsInput earlier recorder req.id)
    (among : earlier ++ [recorder] <+: deliveries)
    (received : recorder.received? srpc = some first) : first.wish = call.wish := by
  obtain ⟨earlier', step, execution, makes, same, done⟩ := carriedOut _ _ asks
  obtain ⟨missing, left⟩ := done.reservations
  have records' : Records srpc semantic flightsInput earlier' step req.id := by
    refine ⟨missing, ?_⟩
    rw [left, Table.lookup_insert, if_pos rfl]
    exact Option.some_ne_none _
  obtain ⟨rfl, rfl⟩ := records.unique records' among makes.among
  obtain ⟨other, received', _, rfl⟩ := call_of_executed makes.executed
  obtain rfl := Option.some.inj (received.symm.trans received')
  exact same

/-- A successful execution honours its reply where the request keeps to its id. -/
theorem honoured_executed (keyed : Keyed flightsInput)
    (received : delivery.received? srpc = some call)
    (fresh : semantic = .atMostOnce →
      (reached srpc semantic flightsInput before).remembered call.key = none)
    (notLost : delivery.resLost = false)
    (keeps : KeepsToItsId srpc semantic flightsInput before delivery)
    (success : (call.execute (reached srpc semantic flightsInput before).store).answer.status = 0) :
    Honoured srpc semantic flightsInput (before ++ [delivery]) call
      (call.execute (reached srpc semantic flightsInput before).store).answer := by
  have makes := makes_executed received fresh
  refine ⟨⟨before, delivery, _, call.request, makes, rfl,
    Call.carries (reached_keyed keyed before) success⟩, ?_⟩
  cases semantic with
  | atMostOnce => exact makes.carriedOut success rfl fun _ change => makes.new change
  | atLeastOnce =>
    by_cases new : ∀ req,
        (call.execute (reached srpc .atLeastOnce flightsInput before).store).change? =
          some (.reserve req) →
        (reached srpc .atLeastOnce flightsInput before).store.reservations.lookup req.id = none
    · exact makes.carriedOut success rfl new
    · -- The id is recorded already; the condition says for whom.
      obtain ⟨req, old⟩ := not_forall.mp new
      obtain ⟨change, present⟩ := Classical.not_imp.mp old
      obtain ⟨flight, found, enough, _⟩ := makes.effect.1.of_reserve change
      have isReservation : call = ⟨.seatReservation, req, call.fromAddr, call.now⟩ :=
        Execution.reserved_call change
      obtain ⟨earlier, step, among, records⟩ := recorded_somewhere before present
      obtain ⟨execution, req', made, change', sameId⟩ :=
        records.makes (among.trans (List.prefix_append before [delivery]))
      obtain ⟨first, receivedFirst, _, rfl⟩ := call_of_executed made.executed
      have same := keeps.recorded rfl req call.fromAddr call.now flight
        (received.trans (congrArg some isReservation)) notLost found enough earlier step first among
        records receivedFirst
      refine made.carriedOut (Execution.succeeded change') (same.trans ?_) ?_
      · exact (Execution.wish_change change).symm
      · intro other change''
        obtain rfl := Change.reserve.inj (Option.some.inj (change'.symm.trans change''))
        rw [sameId]
        exact records.1

/-- The requests under one kind and id got one execution, that of the first. -/
theorem carriedOut_first {first : Call}
    (isFirst : (reservationService srpc).First deliveries earlier first)
    (same : first.key = call.key)
    (success :
      (first.execute (reached srpc .atMostOnce flightsInput earlier).store).answer.status = 0) :
    CarriedOut srpc .atMostOnce flightsInput deliveries call ↔
      ∀ change client, call.wish = .act change client → first.wish = .act change client := by
  constructor
  · intro carriedOut change client asks
    obtain ⟨_, _, execution, makes, wish, _⟩ := carriedOut change client asks
    obtain ⟨other, query, isFirst', rfl⟩ :=
      (serve_suppresses srpc flightsInput).executed_first deliveries _ makes.logged
    have keys : query.key = first.key := by
      rw [same, Call.wish_key asks]
      exact Call.wish_key (wish.trans asks)
    have found := isFirst'.firstQuery
    rw [show (reservationService srpc).key query = (reservationService srpc).key first from keys,
      isFirst.firstQuery] at found
    obtain rfl := Option.some.inj found
    exact wish.trans asks
  · intro acts change client asks
    obtain ⟨step, makes⟩ := makes_first flightsInput isFirst
    have wishes : first.wish = call.wish := (acts change client asks).trans asks.symm
    exact makes.carriedOut success wishes (fun _ change => makes.new change) change client asks

/-- A saved success is honoured exactly when it was for what is asked for again. -/
theorem honoured_repeated (keyed : Keyed flightsInput) (again : Delivery)
    {saved : call.kind.Request × call.kind.Response}
    (known : (reached srpc .atMostOnce flightsInput before).remembered call.key =
      some ⟨call.kind, saved.1, saved.2⟩)
    (success : Answer.status ⟨call.kind, saved.1, saved.2⟩ = 0) :
    ∃ first, (reservationService srpc).firstQuery before call.key = some first ∧
      (Honoured srpc .atMostOnce flightsInput (before ++ [again]) call
        ⟨call.kind, call.request, saved.2⟩ ↔ first.wish = call.wish) := by
  obtain ⟨earlier, first, isFirst, same, computed⟩ :=
    (serve_suppresses srpc flightsInput).origin (State.start_remembered flightsInput) before known
  have found := isFirst.firstQuery
  rw [same] at found
  refine ⟨first, found, ?_⟩
  have computed : (⟨call.kind, saved.1, saved.2⟩ : Answer) =
      (first.execute (reached srpc .atMostOnce flightsInput earlier).store).answer := by
    rw [← reached_seen]
    exact computed
  rw [computed] at success
  have carries := Call.carries (reached_keyed keyed earlier) success
  rw [← computed] at carries
  have isFirst := isFirst.snoc again
  obtain ⟨step, makes⟩ := makes_first flightsInput isFirst
  rw [Honoured, carriedOut_first isFirst same success]
  obtain ⟨kind, req, fromAddr, now⟩ := call
  obtain ⟨kind', req', fromAddr', now'⟩ := first
  obtain rfl : kind' = kind := congrArg Prod.fst same
  obtain ⟨_, sameRequest, _⟩ := Answer.mk.inj computed
  obtain rfl : saved.1 = req' := eq_of_heq sameRequest
  constructor
  · rintro ⟨⟨_, _, _, _, _, _, carries'⟩, acts⟩
    exact wish_same carries carries' acts
  · intro wishes
    refine ⟨⟨earlier, step, _, saved.1, makes, computed.symm, carries_same carries wishes⟩, ?_⟩
    exact fun change client asks => wishes.trans asks

private theorem repliesHonestly_repeated (keyed : Keyed flightsInput)
    {saved : call.kind.Request × call.kind.Response}
    (received : delivery.received? srpc = some call)
    (found : ((reached srpc .atMostOnce flightsInput before).history call.kind).lookup call.id =
      some saved) :
    RepliesHonestly srpc .atMostOnce flightsInput before delivery ↔
      KeepsToItsId srpc .atMostOnce flightsInput before delivery := by
  have served : serve srpc .atMostOnce flightsInput (reached srpc .atMostOnce flightsInput before)
      delivery = _ := serve_repeated received found
  have known : (reached srpc .atMostOnce flightsInput before).remembered call.key =
      some ⟨call.kind, saved.1, saved.2⟩ :=
    Option.map_eq_some_iff.mpr ⟨saved, found, rfl⟩
  constructor
  · intro honest
    refine ⟨fun _ call' answer first received' notLost known' success isFirst => ?_, nofun⟩
    obtain rfl := Option.some.inj (received.symm.trans received')
    obtain rfl := Option.some.inj (known.symm.trans known')
    obtain ⟨first', isFirst', honoured⟩ := honoured_repeated keyed delivery known success
    obtain rfl := Option.some.inj (isFirst'.symm.trans isFirst)
    exact honoured.mp (honest _ _ received (by rw [served, notLost]; rfl) success)
  · intro keeps call' answer received' replied success
    obtain rfl := Option.some.inj (received.symm.trans received')
    rw [served] at replied
    cases notLost : delivery.resLost with
    | true => simp [notLost] at replied
    | false =>
      simp only [notLost, Bool.false_eq_true, if_false, Option.some.injEq] at replied
      subst replied
      obtain ⟨first, isFirst, honoured⟩ := honoured_repeated keyed delivery known success
      exact honoured.mpr (keeps.saved rfl _ _ first received notLost known success isFirst)

private theorem repliesHonestly_executed (keyed : Keyed flightsInput)
    (received : delivery.received? srpc = some call)
    (fresh : semantic = .atMostOnce →
      (reached srpc semantic flightsInput before).remembered call.key = none) :
    RepliesHonestly srpc semantic flightsInput before delivery ↔
      KeepsToItsId srpc semantic flightsInput before delivery := by
  have served : serve srpc semantic flightsInput (reached srpc semantic flightsInput before)
      delivery = _ := serve_fresh received fresh
  rw [reached_seen] at served
  constructor
  · intro honest
    constructor
    · intro once call' answer first received' _ known
      obtain rfl := Option.some.inj (received.symm.trans received')
      cases (fresh once).symm.trans known
    · intro _ req client now flight received' notLost found enough earlier recorder first among
        records receivedFirst
      obtain rfl := Option.some.inj (received.symm.trans received')
      have change := Call.reserves client now found enough
      have honoured := honest _ _ received (by rw [served, notLost]; rfl)
        (Execution.succeeded change)
      exact honoured.2.recorder rfl records (among.trans (List.prefix_append before [delivery]))
        receivedFirst
  · intro keeps call' answer received' replied success
    obtain rfl := Option.some.inj (received.symm.trans received')
    rw [served] at replied
    cases notLost : delivery.resLost with
    | true => simp [notLost] at replied
    | false =>
      simp only [notLost, Bool.false_eq_true, if_false, Option.some.injEq] at replied
      subst replied
      exact honoured_executed keyed received fresh notLost keeps success

/-- A reply of success is honoured exactly when its request keeps to its id. -/
theorem repliesHonestly_iff (keyed : Keyed flightsInput) (before : List Delivery)
    (delivery : Delivery) :
    RepliesHonestly srpc semantic flightsInput before delivery ↔
      KeepsToItsId srpc semantic flightsInput before delivery := by
  cases received : delivery.received? srpc with
  | none =>
    refine iff_of_true ?_ ⟨?_, ?_⟩
    · intro call answer carried
      cases received.symm.trans carried
    · intro _ call answer first carried
      cases received.symm.trans carried
    · intro _ req client now flight carried
      cases received.symm.trans carried
  | some call =>
    by_cases fresh : semantic = .atMostOnce →
        (reached srpc semantic flightsInput before).remembered call.key = none
    · exact repliesHonestly_executed keyed received fresh
    · obtain ⟨rfl, known⟩ := Classical.not_imp.mp fresh
      obtain ⟨answer, remembered⟩ := Option.ne_none_iff_exists'.mp known
      obtain ⟨saved, found, _⟩ := State.remembered_some remembered
      exact repliesHonestly_repeated keyed received found

end Runs

/-- In every run of `Serve` on the flights of a file, the replies of success
are all honoured exactly when every request keeps to its id. -/
theorem success_honoured_iff (srpc : Srpc) (semantic : InvocationSemantic) (lines : List Flight)
    (deliveries : List Delivery) :
    (∀ before delivery rest, deliveries = before ++ delivery :: rest →
      RepliesHonestly srpc semantic (readFlightsFromFile lines) before delivery) ↔
    ∀ before delivery rest, deliveries = before ++ delivery :: rest →
      KeepsToItsId srpc semantic (readFlightsFromFile lines) before delivery := by
  have keyed := readFlightsFromFile_keyed lines
  constructor
  · intro honest before delivery rest split
    exact (repliesHonestly_iff keyed before delivery).mp (honest before delivery rest split)
  · intro keeps before delivery rest split
    exact (repliesHonestly_iff keyed before delivery).mpr (keeps before delivery rest split)

/-- Two seats of flight 4003 for one client. -/
def twoForSomeone : Delivery := .carrying (reservationData ⟨7, 4003, 2⟩) someClient 0

/-- Three seats of it for another client, under the same id. -/
def threeForAnother : Delivery :=
  .carrying (reservationData ⟨7, 4003, 3⟩) otherClient 1

/-- The second client is told that two seats were reserved for it. -/
theorem shared_id_misleads :
    ¬ ∀ before delivery rest, [twoForSomeone, threeForAnother] = before ++ delivery :: rest →
      RepliesHonestly .reference .atMostOnce oneFlight before delivery := by
  have received := reservation_received ⟨7, 4003, 2⟩ someClient 0
  have again := reservation_received ⟨7, 4003, 3⟩ otherClient 1
  have unheard : ∀ earlier ∈ ([] : List Delivery), (reservationService .reference).keyOf earlier ≠
      some (.seatReservation, 7) := fun _ member => absurd member List.not_mem_nil
  have saved := (remembered_first .reference oneFlight received unheard []).2
  obtain ⟨⟨req, res⟩, found, computed⟩ := State.remembered_some saved
  have served : serve .reference .atMostOnce oneFlight
      (reached .reference .atMostOnce oneFlight [twoForSomeone]) threeForAnother = _ :=
    serve_repeated again found
  obtain ⟨_, _, sameResponse⟩ := Answer.mk.inj computed
  have response : (executeSeatReservation ⟨oneFlight, ∅, ∅⟩ 0 ⟨7, 4003, 2⟩).response =
      ⟨7, 0, [], 4003, 2⟩ := by decide
  obtain rfl := (eq_of_heq sameResponse).symm.trans response
  intro honest
  obtain ⟨⟨_, _, _, _, _, _, carries⟩, _⟩ :=
    honest [twoForSomeone] threeForAnother [] rfl _ _ again (by rw [served]; rfl) rfl
  have three : (2 : Int32) = 3 := carries.2
  cases three

end Dfis
