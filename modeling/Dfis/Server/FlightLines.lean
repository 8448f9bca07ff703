import Dfis.Input.Spelling
import Dfis.Server.Effect
import Dfis.Server.FlightFile

/-! Which flights a file can hold: each has a line, and nothing else is ever
loaded from well-formed lines. -/

namespace Dfis

open Base Input

section Fields

theorem readI32_spells (number : Int32) : readI32.Spells (showInt number.toInt) number := by
  have spells := (readInteger_spells number.minValue_le_toInt number.toInt_le).map Int32.ofInt
  rwa [Int32.ofInt_toInt] at spells

theorem readI64_spells (number : Int64) : readI64.Spells (showInt number.toInt) number := by
  have spells := (readInteger_spells number.minValue_le_toInt number.toInt_le).map Int64.ofInt
  rwa [Int64.ofInt_toInt] at spells

def F32.Finite (value : F32) : Prop := value.magnitude < 0x7f800000

theorem F32.magnitude_eq (value : F32) : value.magnitude = magnitudeOf value.bits := by
  have mask : (0x7fffffff : UInt32).toNat = 2 ^ 31 - 1 := rfl
  rw [F32.magnitude, magnitudeOf, UInt32.toNat_and, mask, Nat.and_two_pow_sub_one_eq_mod]

theorem readF32_spells {value : F32} (finite : value.Finite) :
    readF32.Spells (showFloat value.bits) value := by
  rw [F32.Finite, F32.magnitude_eq] at finite
  exact (readFloat_spells finite).map F32.mk

theorem finite_of_field {text rest : Text} {value : F32}
    (there : readF32.field? text = some (value, rest)) : value.Finite := by
  obtain ⟨valid, rfl⟩ := Reader.of_field? there
  rw [F32.Finite, F32.magnitude_eq]
  exact readFloat_valid_finite valid

end Fields

/-- A flight that a line can hold. -/
structure Flight.Writable (flight : Flight) : Prop where
  source : Token flight.source
  destination : Token flight.destination
  airfare : flight.airfare.Finite

/-- The line of a flight. -/
def Flight.line (flight : Flight) : Text :=
  showInt flight.identifier.toInt ++ 0x20 :: (flight.source ++ 0x20 :: (flight.destination ++
    0x20 :: (showInt flight.departureTime.toInt ++ 0x20 :: (showFloat flight.airfare.bits ++
      0x20 :: showInt flight.seatAvailability.toInt))))

section Line

variable {flight : Flight}

theorem parseFlight_line (writable : flight.Writable) : parseFlight flight.line = some flight := by
  obtain ⟨source, destination, airfare⟩ := writable
  have last := (readI32_spells flight.seatAvailability) [] (by simp)
  rw [List.append_nil] at last
  have blank : isSpace 0x20 = true := rfl
  simp only [parseFlight, Flight.line, (readI32_spells flight.identifier).field,
    Reader.field?_blank _ blank, (readToken_spells source).field,
    (readToken_spells destination).field, (readI64_spells flight.departureTime).field,
    (readF32_spells airfare).field, last, Option.bind_eq_bind, Option.bind_some, Option.pure_def]

theorem writable_of_parseFlight {line : Text} (parsed : parseFlight line = some flight) :
    flight.Writable := by
  simp only [parseFlight, Option.bind_eq_bind, Option.bind_eq_some_iff, Option.pure_def,
    Option.some.injEq, Prod.exists] at parsed
  obtain ⟨_, _, _, _, _, source, _, _, destination, _, _, _, _, _, airfare, _, _, _, rfl⟩ := parsed
  exact ⟨token_of_field source, token_of_field destination, finite_of_field airfare⟩

theorem newline_not_line (writable : flight.Writable) : 0x0a ∉ flight.line := by
  obtain ⟨source, destination, -⟩ := writable
  simp [Flight.line, newline_not_showInt, newline_not_showFloat, newline_not_token source,
    newline_not_token destination]

end Line

section Files

variable {leftovers : Nat → Leftover}

/-- All lines of the file are well-formed. -/
def WellFormedFile (file : Text) : Prop := ∀ line ∈ getlines file, parseFlight line ≠ none

theorem WellFormedFile.firstWins {file : Text} (wellFormed : WellFormedFile file) :
    FirstWins leftovers (getlines file) := by
  refine MalformedAreRepeats.firstWins fun earlier line within malformed => ?_
  exact absurd malformed (wellFormed line (within.subset (by simp)))

/-- The lines of flights make a well-formed file, which holds these flights. -/
theorem getlines_written {flights : List Flight} (writable : ∀ flight ∈ flights, flight.Writable) :
    WellFormedFile (unlines (flights.map Flight.line)) ∧
      (getlines (unlines (flights.map Flight.line))).filterMap parseFlight = flights := by
  have lines : getlines (unlines (flights.map Flight.line)) = flights.map Flight.line := by
    refine getlines_unlines fun line member => ?_
    obtain ⟨flight, listed, rfl⟩ := List.mem_map.mp member
    exact newline_not_line (writable flight listed)
  rw [WellFormedFile, lines]
  constructor
  · intro line member
    obtain ⟨flight, listed, rfl⟩ := List.mem_map.mp member
    simp [parseFlight_line (writable flight listed)]
  · rw [List.filterMap_map]
    have each : ∀ flight ∈ flights, (parseFlight ∘ Flight.line) flight = some flight :=
      fun flight listed => parseFlight_line (writable flight listed)
    rw [List.filterMap_congr each, List.filterMap_some]

/-- The flights of a map, each of which stands under its own identifier, are found by it. -/
theorem find?_listed {flights : Table Int32 Flight} (keyed : Keyed flights) {listed : List Flight}
    (exactly : ∀ flight, flight ∈ listed ↔ ∃ identifier, flights.lookup identifier = some flight)
    (identifier : Int32) :
    listed.find? (·.identifier = identifier) = flights.lookup identifier := by
  cases found : listed.find? (·.identifier = identifier) with
  | some flight =>
    obtain ⟨other, known⟩ := (exactly flight).mp (List.mem_of_find?_eq_some found)
    have own : flight.identifier = identifier := by simpa using List.find?_some found
    rw [← own, keyed other flight known, known]
  | none =>
    cases known : flights.lookup identifier with
    | none => rfl
    | some flight =>
      have listed := (exactly flight).mpr ⟨identifier, known⟩
      have absent := List.find?_eq_none.mp found flight listed
      exact absurd (keyed identifier flight known) (by simpa using absent)

/-- From well-formed files exactly the maps of writable flights under their own
identifiers are loaded, whatever the memory of the loop holds. -/
theorem loadable_iff (leftovers : Nat → Leftover) (flights : Table Int32 Flight) :
    (∃ file, WellFormedFile file ∧ readFlightsFromText leftovers file = flights) ↔
      Keyed flights ∧
        ∀ identifier flight, flights.lookup identifier = some flight → flight.Writable := by
  constructor
  · rintro ⟨file, wellFormed, rfl⟩
    have first : FirstWins leftovers (getlines file) := wellFormed.firstWins
    constructor
    · intro identifier flight found
      rw [readFlightsFromText, first] at found
      simpa using List.find?_some found
    · intro identifier flight found
      rw [readFlightsFromText, first] at found
      obtain ⟨line, -, parsed⟩ := List.mem_filterMap.mp (List.mem_of_find?_eq_some found)
      exact writable_of_parseFlight parsed
  · rintro ⟨keyed, writable⟩
    set listed := flights.keys.toList.filterMap flights.lookup with all
    have exactly (flight : Flight) :
        flight ∈ listed ↔ ∃ identifier, flights.lookup identifier = some flight := by
      simp only [all, List.mem_filterMap, Finset.mem_toList, Finmap.mem_keys]
      refine exists_congr fun identifier => and_iff_right_of_imp fun found => ?_
      exact Finmap.mem_of_lookup_eq_some found
    obtain ⟨wellFormed, held⟩ := getlines_written fun flight member => by
      obtain ⟨identifier, found⟩ := (exactly flight).mp member
      exact writable identifier flight found
    refine ⟨_, wellFormed, Finmap.ext_lookup fun identifier => ?_⟩
    have first : FirstWins leftovers _ := wellFormed.firstWins
    rw [readFlightsFromText, first, held]
    exact find?_listed keyed exactly identifier

end Files

end Dfis
