import Dfis.Server.Consistency
import Dfis.Server.Decode

/-! What the two searches find: the matching flights of the input, each once,
in ascending order, whatever has been served before. -/

namespace Dfis

open Base Wire

/-- A search loop over the entries in some iteration order, and the sort after it. -/
def searchInOrder (order : List Flight) (wanted : Flight → Bool) : List Int32 :=
  (order.foldl (fun results flight =>
    if wanted flight then results ++ [flight.identifier] else results) []).mergeSort

/-- An order in which a loop may go through a map. -/
def Iterates (order : List Flight) (flights : Table Int32 Flight) : Prop :=
  (order : Multiset Flight) = flights.entries.map fun entry => entry.2

/-- The flights a flight search asks for. -/
def FlightSearchRequest.wants (req : FlightSearchRequest) (flight : Flight) : Bool :=
  flight.source == req.source && flight.destination == req.destination

/-- The flights a price range search asks for. -/
def PriceRangeSearchRequest.wants (req : PriceRangeSearchRequest) (flight : Flight) : Bool :=
  req.from.le flight.airfare && flight.airfare.le req.to

/-- The flights listed in a search response, and its status, are exactly right
for the input, for a search on these flights. -/
structure Found (flightsInput flights : Table Int32 Flight) (wanted : Flight → Bool)
    (results : List Int32) (statusCode : Int32) : Prop where
  increasing : results.Pairwise (· < ·)
  exact : ∀ identifier, identifier ∈ results ↔
    ∃ flight, flightsInput.lookup identifier = some flight ∧ wanted flight
  anyOrder : ∀ order, Iterates order flights → searchInOrder order wanted = results
  unaffected : ∀ order, Iterates order flightsInput → searchInOrder order wanted = results
  status : statusCode = 0 ↔ results ≠ []

section Loop

theorem foldl_found (order : List Flight) (wanted : Flight → Bool) (results : List Int32) :
    order.foldl (fun results flight =>
        if wanted flight then results ++ [flight.identifier] else results) results =
      results ++ (order.filter wanted).map Flight.identifier := by
  induction order generalizing results with
  | nil => simp
  | cons flight order ih =>
    by_cases hit : wanted flight
    · simp [ih, hit]
    · simp [ih, hit]

/-- Every iteration order gives the same results. -/
theorem searchInOrder_matching {order : List Flight} {store : Store}
    (iterates : Iterates order store.flights) (wanted : Flight → Bool) :
    searchInOrder order wanted = matching store wanted := by
  unfold matching
  rw [← iterates, searchInOrder, foldl_found, List.nil_append]
  simp

end Loop

section Matching

variable {store : Store} {wanted : Flight → Bool}

theorem mem_matching (keyed : Keyed store.flights) (identifier : Int32) :
    identifier ∈ matching store wanted ↔
      ∃ flight, store.flights.lookup identifier = some flight ∧ wanted flight := by
  simp only [matching, Multiset.mem_sort, Multiset.mem_map, Multiset.mem_filter]
  constructor
  · intro listed
    obtain ⟨flight, ⟨⟨entry, member, rfl⟩, hit⟩, rfl⟩ := listed
    have found := Finmap.lookup_eq_some_iff.mpr member
    exact ⟨entry.2, by rw [keyed entry.1 entry.2 found, found], hit⟩
  · intro known
    obtain ⟨flight, found, hit⟩ := known
    exact ⟨flight, ⟨⟨⟨identifier, flight⟩, Finmap.lookup_eq_some_iff.mp found, rfl⟩, hit⟩,
      keyed identifier flight found⟩

/-- No two flights of a map keyed by identifier share one. -/
theorem matching_nodup (keyed : Keyed store.flights) (wanted : Flight → Bool) :
    (((store.flights.entries.map fun entry => entry.2).filter fun flight => wanted flight).map
      Flight.identifier).Nodup := by
  rw [Multiset.filter_map, Multiset.map_map]
  refine Multiset.Nodup.map_on ?_ (store.flights.nodup_entries.filter _)
  intro first member second member' same
  have found := Finmap.lookup_eq_some_iff.mpr (Multiset.mem_filter.mp member).1
  have found' := Finmap.lookup_eq_some_iff.mpr (Multiset.mem_filter.mp member').1
  have key : first.1 = second.1 :=
    (keyed _ _ found).symm.trans (same.trans (keyed _ _ found'))
  obtain ⟨identifier, flight⟩ := first
  obtain ⟨_, flight'⟩ := second
  subst key
  obtain rfl := Option.some.inj (found.symm.trans found')
  rfl

theorem matching_increasing (keyed : Keyed store.flights) (wanted : Flight → Bool) :
    (matching store wanted).Pairwise (· < ·) := by
  have sorted : (matching store wanted).Pairwise (· ≤ ·) := Multiset.pairwise_sort _ _
  have nodup : (matching store wanted).Nodup := by
    rw [← Multiset.coe_nodup, matching, Multiset.sort_eq]
    exact matching_nodup keyed wanted
  refine (sorted.and nodup).imp fun apart => ?_
  exact Int32.lt_of_le_of_ne apart.1 apart.2

/-- The matching flights depend on nothing that an execution can change. -/
theorem matching_input {flightsInput : Table Int32 Flight} (keyed : Keyed flightsInput)
    (same : SameFlights flightsInput store.flights)
    (seatless : ∀ flight seats, wanted (Flight.withSeats flight seats) = wanted flight) :
    matching store wanted = matching ⟨flightsInput, ∅, ∅⟩ wanted := by
  refine (matching_increasing (same.keyed keyed) wanted).eq_of_mem_iff
    (matching_increasing keyed wanted) fun identifier => ?_
  rw [mem_matching (same.keyed keyed), mem_matching keyed]
  obtain ⟨seats, found⟩ := same identifier
  rw [found]
  cases flightsInput.lookup identifier with
  | none => simp
  | some flight => simp [seatless]

theorem matching_found {flightsInput : Table Int32 Flight} (keyed : Keyed flightsInput)
    (same : SameFlights flightsInput store.flights)
    (seatless : ∀ flight seats, wanted (Flight.withSeats flight seats) = wanted flight)
    {statusCode : Int32} (status : statusCode = 0 ↔ matching store wanted ≠ []) :
    Found flightsInput store.flights wanted (matching store wanted) statusCode where
  increasing := matching_increasing (same.keyed keyed) wanted
  exact identifier := by
    rw [matching_input keyed same seatless, mem_matching keyed]
  anyOrder _ iterates := searchInOrder_matching iterates wanted
  unaffected order iterates := by
    have onInput : searchInOrder order wanted = matching ⟨flightsInput, ∅, ∅⟩ wanted :=
      searchInOrder_matching iterates wanted
    rw [onInput, matching_input keyed same seatless]
  status := status

end Matching

section Executions

variable (store : Store)

theorem executeFlightSearch_response (req : FlightSearchRequest) :
    (executeFlightSearch store req).response.flights = matching store req.wants ∧
      ((executeFlightSearch store req).response.statusCode = 0 ↔ matching store req.wants ≠ []) := by
  cases found : matching store req.wants with
  | nil => simp [executeFlightSearch, ← FlightSearchRequest.wants.eq_1, found]
  | cons first rest => simp [executeFlightSearch, ← FlightSearchRequest.wants.eq_1, found]

theorem executePriceRangeSearch_response (req : PriceRangeSearchRequest) :
    (executePriceRangeSearch store req).response.flights = matching store req.wants ∧
      ((executePriceRangeSearch store req).response.statusCode = 0 ↔
        matching store req.wants ≠ []) := by
  cases found : matching store req.wants with
  | nil => simp [executePriceRangeSearch, ← PriceRangeSearchRequest.wants.eq_1, found]
  | cons first rest => simp [executePriceRangeSearch, ← PriceRangeSearchRequest.wants.eq_1, found]

theorem executed_response {srpc : Srpc} {semantic : InvocationSemantic} {flightsInput : Table Int32 Flight}
    {deliveries : List Delivery} {delivery : Delivery} {execution : Execution}
    (executed : (serve srpc semantic flightsInput (reached srpc semantic flightsInput deliveries)
      delivery).2.executed = some execution) :
    execution.response =
      (execution.toCall.run (reached srpc semantic flightsInput deliveries).store).response := by
  obtain ⟨call, _, _, rfl⟩ := call_of_executed executed
  rfl

end Executions

/-- In every state of a run, a freshly executed search lists exactly the
matching flights of the input in strictly ascending order, in whichever order
the map is iterated and whatever was served before, and succeeds if there are any. -/
theorem search_exact (srpc : Srpc) (semantic : InvocationSemantic) {flightsInput : Table Int32 Flight}
    (keyed : Keyed flightsInput) (deliveries : List Delivery) (delivery : Delivery) :
    let state := reached srpc semantic flightsInput deliveries
    let served := serve srpc semantic flightsInput state delivery
    (∀ req fromAddr now res launched store,
      served.2.executed = some ⟨⟨.flightSearch, req, fromAddr, now⟩, res, launched, store⟩ →
      Found flightsInput state.store.flights req.wants res.flights res.statusCode) ∧
    ∀ req fromAddr now res launched store,
      served.2.executed = some ⟨⟨.priceRangeSearch, req, fromAddr, now⟩, res, launched, store⟩ →
      Found flightsInput state.store.flights req.wants res.flights res.statusCode := by
  intro state served
  have same : SameFlights flightsInput state.store.flights :=
    reached_flights srpc semantic flightsInput deliveries
  constructor
  · intro req fromAddr now res launched store executed
    have computed : res = (executeFlightSearch state.store req).response :=
      executed_response executed
    obtain ⟨listed, status⟩ := executeFlightSearch_response state.store req
    rw [computed, listed]
    exact matching_found keyed same (fun _ _ => rfl) status
  · intro req fromAddr now res launched store executed
    have computed : res = (executePriceRangeSearch state.store req).response :=
      executed_response executed
    obtain ⟨listed, status⟩ := executePriceRangeSearch_response state.store req
    rw [computed, listed]
    exact matching_found keyed same (fun _ _ => rfl) status

/-- A search between the two cities of the one flight. -/
def searchTokyo : FlightSearchRequest := ⟨5, .ofString "Singapore", .ofString "Tokyo"⟩

def searchTokyoData : Span where
  bytes := (Message.request .flightSearch).marshal .reference searchTokyo
  fits := by decide +kernel

theorem search_exact_tokyo :
    Found oneFlight (reached .reference .atMostOnce oneFlight []).store.flights searchTokyo.wants
      [4003] 0 := by
  have encoded : searchTokyoData.bytes =
      (Message.request .flightSearch).marshal .reference searchTokyo := rfl
  have received := Delivery.carrying_received Srpc.reference_roundTrips Srpc.reference_sound
    Srpc.reference_countsStrings encoded someClient 0
  have served : serve .reference .atMostOnce oneFlight (.start oneFlight)
      (.carrying searchTokyoData someClient 0) = _ :=
    serve_fresh received fun _ => State.start_remembered oneFlight _
  have found := (search_exact .reference .atMostOnce oneFlight_keyed []
    (.carrying searchTokyoData someClient 0)).1 searchTokyo someClient 0 _ _ _
    (congrArg (fun result => result.2.executed) served)
  have listed : (executeFlightSearch (State.seen oneFlight (.start oneFlight)) searchTokyo).response =
      ⟨5, 0, [], [4003]⟩ := by decide +kernel
  change Found _ _ _ (executeFlightSearch _ _).response.flights
    (executeFlightSearch _ _).response.statusCode at found
  rwa [listed] at found

end Dfis
