import Dfis.Input.Rounding
import Dfis.Server.Search
import Dfis.System.Provenance

/-! Price range searches from the bounds typed to the flights listed: what the
rounding to `float`, of the bounds and of the airfares, does to the result. -/

namespace Dfis

open Base Wire Input Console Machine

section Prices

/-- On finite numbers `<=` is the order of their places. -/
theorem F32.le_iff {lower upper : F32} (finite : lower.Finite) (finite' : upper.Finite) :
    lower.le upper = true ↔ placeOf lower.bits ≤ placeOf upper.bits := by
  have number {value : F32} (finite : value.Finite) : value.isNaN = false := by
    simpa [F32.isNaN] using (Nat.le_of_lt finite)
  have rank (value : F32) : value.rank = placeOf value.bits := by
    simp only [F32.rank, placeOf, F32.magnitude_eq]
  simp [F32.le, number finite, number finite', rank]

/-- A number is read off the front of this text. -/
def ReadAs (text : Text) (value : F32) : Prop :=
  (readFloat text).valid = true ∧ value = ⟨(readFloat text).value⟩

theorem ReadAs.finite {text : Text} {value : F32} (read : ReadAs text value) : value.Finite := by
  obtain ⟨valid, rfl⟩ := read
  rw [F32.Finite, F32.magnitude_eq]
  exact readFloat_valid_finite valid

theorem readAs_of_field {line rest : Text} {value : F32}
    (field : readF32.field? line = some (value, rest)) : ReadAs (line.dropWhile isSpace) value := by
  obtain ⟨valid, stored⟩ := Reader.of_field? field
  exact ⟨valid, stored.symm⟩

theorem readAs_of_answer {line : Text} {value : F32} (answers : readF32.answer? line = some value) :
    ReadAs (line.dropWhile isSpace) value := by
  obtain ⟨rest, field, -⟩ := Reader.answer?_iff.mp answers
  exact readAs_of_field field

/-- A line of the flights file from its airfare on. -/
def airfareText (line : Text) : Option Text := do
  let (_, rest) ← readI32.field? line
  let (_, rest) ← readToken.field? rest
  let (_, rest) ← readToken.field? rest
  let (_, rest) ← readI64.field? rest
  return rest.dropWhile isSpace

theorem readAs_of_parseFlight {line text : Text} {flight : Flight}
    (parsed : parseFlight line = some flight) (written : airfareText line = some text) :
    ReadAs text flight.airfare := by
  simp only [parseFlight, Option.bind_eq_bind, Option.bind_eq_some_iff, Option.pure_def,
    Option.some.injEq, Prod.exists] at parsed
  obtain ⟨_, _, identifier, _, _, source, _, _, destination, _, _, departureTime, _, _, airfare,
    _, _, seatAvailability, rfl⟩ := parsed
  simp only [airfareText, identifier, source, destination, departureTime, Option.bind_eq_bind,
    Option.bind_some, Option.pure_def, Option.some.injEq] at written
  subst written
  exact readAs_of_field airfare

/-- Two texts compare as the numbers read if they compare as the numbers they
spell, and conversely if they spell cents. -/
theorem ReadAs.le_iff {text text' : Text} {value value' : F32} (read : ReadAs text value)
    (read' : ReadAs text' value') :
    (decimalOf text ≤ decimalOf text' → value.le value' = true) ∧
      (Cents (decimalOf text) → Cents (decimalOf text') →
        (value.le value' = true ↔ decimalOf text ≤ decimalOf text')) := by
  rw [F32.le_iff read.finite read'.finite]
  obtain ⟨valid, rfl⟩ := read
  obtain ⟨valid', rfl⟩ := read'
  exact ⟨readFloat_mono valid valid', readFloat_cents valid valid'⟩

end Prices

section Executions

variable {srpc : Srpc} {semantic : InvocationSemantic} {flightsInput : Table Int32 Flight}

/-- Every execution leaves the flights as they are, but for their seats. -/
theorem executions_flights (deliveries : List Delivery) :
    ∀ execution ∈ executions srpc semantic flightsInput deliveries,
      SameFlights flightsInput execution.store.flights := by
  refine (effects_induct (P := fun store log => SameFlights flightsInput store.flights ∧
    ∀ execution ∈ log, SameFlights flightsInput execution.store.flights) ?_ ?_ deliveries).2.2
  · refine ⟨reached_flights srpc semantic flightsInput [], ?_⟩
    intro execution member
    cases member
  · rintro store log execution _ ⟨same, before⟩ effect _
    refine ⟨same.step effect, fun other member => ?_⟩
    rcases List.mem_append.mp member with old | new
    · exact before other old
    · obtain rfl := List.mem_singleton.mp new
      exact same.step effect

/-- Every price range search that was executed lists the flights of the input it asks for. -/
theorem priceRangeSearch_listed (keyed : Keyed flightsInput) (deliveries : List Delivery)
    {req : PriceRangeSearchRequest} {fromAddr : SocketAddress} {now : TimePoint}
    {res : PriceRangeSearchResponse} {launched : List Launch} {store : Store}
    (executed : ⟨⟨.priceRangeSearch, req, fromAddr, now⟩, res, launched, store⟩ ∈
      executions srpc semantic flightsInput deliveries) (identifier : Int32) :
    identifier ∈ res.flights ↔
      ∃ flight, flightsInput.lookup identifier = some flight ∧ req.wants flight := by
  obtain ⟨delivery, -, call, before, -, same⟩ := executions_received srpc semantic flightsInput
    deliveries _ executed
  have flights := executions_flights deliveries _ executed
  obtain ⟨kind, request, sender, time⟩ := call
  cases same
  have left : (executePriceRangeSearch before req).store = before := by
    unfold executePriceRangeSearch
    simp only
    split <;> rfl
  change SameFlights flightsInput (executePriceRangeSearch before req).store.flights at flights
  rw [left] at flights
  change identifier ∈ (executePriceRangeSearch before req).response.flights ↔ _
  rw [(executePriceRangeSearch_response before req).1,
    matching_input keyed flights fun _ _ => rfl, mem_matching keyed]

end Executions

theorem bounds_typed {unset : UInt64} {stdin : Text} {req : PriceRangeSearchRequest}
    (typed : ⟨.priceRangeSearch, req⟩ ∈ requestsOf unset stdin) :
    ∃ lower ∈ getlines stdin, ∃ upper ∈ getlines stdin,
      readF32.answer? lower = some req.from ∧ readF32.answer? upper = some req.to := by
  obtain ⟨asked, rest, within, prompted⟩ := asked_of_session typed
  simp only [promptForRequest, returns_bind, returns_pure] at prompted
  obtain ⟨lower, middle, first, upper, left, second, rfl, -⟩ := prompted
  obtain ⟨line, answers, behind⟩ := answer_returned first
  obtain ⟨line', answers', behind'⟩ := answer_returned second
  have here := behind.trans within
  have there := (behind'.trans (List.suffix_cons line middle)).trans here
  exact ⟨line, here.subset List.mem_cons_self, line', there.subset List.mem_cons_self, answers, answers'⟩

namespace System

variable {srpc : Srpc}

/-- The bounds of an executed price range search were typed on two lines of the
console it came from. A flight that a line spells is listed if its airfare as
written is between the bounds as typed, and if all three are cents only then. -/
def PricesAsWritten (setting : Setting) (system : System srpc) : Prop :=
  ∀ req fromAddr now res launched store,
    ⟨⟨.priceRangeSearch, req, fromAddr, now⟩, res, launched, store⟩ ∈ system.callbacks.log →
    ∃ lower ∈ getlines (setting.stdin fromAddr), ∃ upper ∈ getlines (setting.stdin fromAddr),
      readF32.answer? lower = some req.from ∧ readF32.answer? upper = some req.to ∧
      ∀ line airfare flight, parseFlight line = some flight → airfareText line = some airfare →
        setting.flightsInput.lookup flight.identifier = some flight →
        let least := decimalOf (lower.dropWhile isSpace)
        let greatest := decimalOf (upper.dropWhile isSpace)
        let price := decimalOf airfare
        (least ≤ price ∧ price ≤ greatest → flight.identifier ∈ res.flights) ∧
          (Cents least → Cents price → Cents greatest →
            (flight.identifier ∈ res.flights ↔ least ≤ price ∧ price ≤ greatest))

/-- In every run, price range searches are answered so. -/
theorem prices_as_written (lawful : srpc.RoundTrips) (strict : srpc.Sound)
    (counts : srpc.CountsStrings) (setting : Setting) (events : List Event) :
    (after (machine srpc setting) (.start srpc setting) events).PricesAsWritten setting := by
  have typed := run_typed setting events lawful strict counts
  have coherent := run_coherent lawful strict counts setting events
  generalize after (machine srpc setting) (.start srpc setting) events = system at typed coherent ⊢
  intro req fromAddr now res launched store executed
  obtain ⟨⟨kind, asked⟩, requested, id, issued⟩ := typed.executed coherent executed
  obtain ⟨lower, first, upper, second, answers, answers'⟩ :
      ∃ lower ∈ getlines (setting.stdin fromAddr), ∃ upper ∈ getlines (setting.stdin fromAddr),
        readF32.answer? lower = some req.from ∧ readF32.answer? upper = some req.to := by
    cases issued
    have bounds := bounds_typed requested
    exact bounds
  refine ⟨lower, first, upper, second, answers, answers', ?_⟩
  intro line airfare flight parsed written found least greatest price
  have listed : flight.identifier ∈ res.flights ↔
      req.from.le flight.airfare = true ∧ flight.airfare.le req.to = true := by
    rw [coherent.callbacks.logged] at executed
    rw [priceRangeSearch_listed (readFlightsFromFile_keyed setting.lines) _ executed]
    change (∃ other, setting.flightsInput.lookup _ = some other ∧ _) ↔ _
    simp [found, PriceRangeSearchRequest.wants]
  obtain ⟨fromBelow, fromCents⟩ := (readAs_of_answer answers).le_iff (readAs_of_parseFlight parsed written)
  obtain ⟨toAbove, toCents⟩ := (readAs_of_parseFlight parsed written).le_iff (readAs_of_answer answers')
  rw [listed]
  constructor
  · rintro ⟨above, below⟩
    exact ⟨fromBelow above, toAbove below⟩
  · intro cents cents' cents''
    exact and_congr (fromCents cents cents') (toCents cents' cents'')

/-- A client that asks for the flights from 300 to 399.50. -/
def searchedPrices : Setting where
  semantic := .atLeastOnce
  clientSemantic := .atLeastOnce
  lines := [tenSeats]
  home socket := socket
  stdin address := if address = someClient then .ofString "5\n300\n399.50\n" else []
  unset := 0

/-- The search is sent twice, and executed twice. -/
def searchTwice : List Event :=
  [.type someClient 1, .send someClient, .timeout someClient, .send someClient,
    .serve 0 0 false false, .serve 1 0 false false]

theorem prices_as_written_twice :
    (after (machine .reference searchedPrices) (.start .reference searchedPrices)
      searchTwice).PricesAsWritten searchedPrices :=
  prices_as_written Srpc.reference_roundTrips Srpc.reference_sound Srpc.reference_countsStrings
    searchedPrices searchTwice

end System

end Dfis
