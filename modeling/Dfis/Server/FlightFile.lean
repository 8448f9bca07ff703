import Dfis.Input.Numbers
import Dfis.Server.State

/-! `ReadFlightsFromFile` from the text of the file on: exactly for which files
the flights are those of the well-formed lines, a malformed line adding nothing. -/

namespace Dfis

open Base Input

def readI32 : Reader Int32 := (readInteger Int32.minValue.toInt Int32.maxValue.toInt).map Int32.ofInt

def readI64 : Reader Int64 := (readInteger Int64.minValue.toInt Int64.maxValue.toInt).map Int64.ofInt

def readF32 : Reader F32 := readFloat.map F32.mk

/-- What the memory of the loop's `Flight flight;` happens to hold. Nothing
initialises these members. -/
structure Leftover where
  identifier : Int32
  departureTime : Int64
  airfare : F32
  seatAvailability : Int32

/-- `Flight flight;`: only the strings have a constructor. -/
def Flight.uninitialised (leftover : Leftover) : Flight :=
  ⟨leftover.identifier, [], [], leftover.departureTime, leftover.airfare, leftover.seatAvailability⟩

/-- `std::istringstream ss{line};` and the six extractions, with the stream they leave. -/
def extractFlight (flight : Flight) (line : Text) : Stream × Flight :=
  let identifier := (Stream.ofText line).extract readI32 flight.identifier
  let source := identifier.1.extract readToken flight.source
  let destination := source.1.extract readToken flight.destination
  let departureTime := destination.1.extract readI64 flight.departureTime
  let airfare := departureTime.1.extract readF32 flight.airfare
  let seatAvailability := airfare.1.extract readI32 flight.seatAvailability
  (seatAvailability.1, ⟨identifier.2, source.2, destination.2, departureTime.2, airfare.2,
    seatAvailability.2⟩)

/-- The flight that the loop makes of a line. -/
def lineFlight (leftover : Leftover) (line : Text) : Flight :=
  (extractFlight (Flight.uninitialised leftover) line).2

/-- The loop over the lines. The leftovers are those of one iteration each. -/
def readLines (leftovers : Nat → Leftover) (lines : List Text) : Table Int32 Flight :=
  readFlightsFromFile (lines.mapIdx fun index line => lineFlight (leftovers index) line)

/-- `ReadFlightsFromFile`, from the text of the file. -/
def readFlightsFromText (leftovers : Nat → Leftover) (file : Text) : Table Int32 Flight :=
  readLines leftovers (getlines file)

/-- The file format: the six fields that a well-formed line starts with. -/
def parseFlight (line : Text) : Option Flight := do
  let (identifier, rest) ← readI32.field? line
  let (source, rest) ← readToken.field? rest
  let (destination, rest) ← readToken.field? rest
  let (departureTime, rest) ← readI64.field? rest
  let (airfare, rest) ← readF32.field? rest
  let (seatAvailability, _) ← readI32.field? rest
  return ⟨identifier, source, destination, departureTime, airfare, seatAvailability⟩

/-- The flights loaded from a file are those of its format. -/
structure FollowsFormat (leftovers : Nat → Leftover) (file : Text) : Prop where
  entries : ∀ identifier, (readFlightsFromText leftovers file).lookup identifier =
    ((getlines file).filterMap parseFlight).find? (·.identifier = identifier)
  malformed : ∀ earlier line, earlier ++ [line] <+: getlines file → parseFlight line = none →
    readLines leftovers (earlier ++ [line]) = readLines leftovers earlier
  read : ∀ identifier flight, (readFlightsFromText leftovers file).lookup identifier = some flight →
    ∃ line ∈ getlines file, parseFlight line = some flight

/-- The identifier a line leaves in the flight: the number it starts with, zero
if it starts with no number, the nearest `i32` if that is out of range, and the
leftover if it is blank. -/
def leadingIdentifier (leftover : Leftover) (line : Text) : Int32 :=
  match line.dropWhile isSpace with
  | [] => leftover.identifier
  | c :: text => (readI32 (c :: text)).value

/-- Every malformed line leaves the identifier of a well-formed line before it. -/
def MalformedAreRepeats (leftovers : Nat → Leftover) (lines : List Text) : Prop :=
  ∀ earlier line, earlier ++ [line] <+: lines → parseFlight line = none →
    ∃ flight ∈ earlier.filterMap parseFlight,
      flight.identifier = leadingIdentifier (leftovers earlier.length) line

section Line

theorem lineFlight_identifier (leftover : Leftover) (line : Text) :
    (lineFlight leftover line).identifier = leadingIdentifier leftover line := by
  have first : ((Stream.ofText line).extract readI32 leftover.identifier).2 =
      leadingIdentifier leftover line := by
    cases blanks : line.dropWhile isSpace with
    | nil => simp [leadingIdentifier, Stream.ofText, Stream.extract, blanks]
    | cons c text => simp [leadingIdentifier, Stream.ofText, Stream.extract, blanks]
  exact first

/-- The stream has not failed after the six extractions just on the well-formed
lines, and then they have overwritten every member. -/
theorem parseFlight_iff (flight parsed : Flight) (line : Text) :
    parseFlight line = some parsed ↔
      (extractFlight flight line).1.failed = false ∧ (extractFlight flight line).2 = parsed := by
  constructor
  · intro wellFormed
    simp only [parseFlight, Option.bind_eq_bind, Option.bind_eq_some_iff, Option.pure_def,
      Option.some.injEq, Prod.exists] at wellFormed
    obtain ⟨_, _, identifier, _, _, source, _, _, destination, _, _, departureTime, _, _, airfare,
      _, _, seatAvailability, rfl⟩ := wellFormed
    simp only [extractFlight, Stream.ofText, Stream.extract_field identifier,
      Stream.extract_field source, Stream.extract_field destination,
      Stream.extract_field departureTime, Stream.extract_field airfare,
      Stream.extract_field seatAvailability, and_self]
  · rintro ⟨ok, rfl⟩
    simp only [extractFlight] at ok ⊢
    rcases identifier : (Stream.ofText line).extract readI32 flight.identifier with ⟨first, _⟩
    simp only [identifier] at ok ⊢
    rcases source : first.extract readToken flight.source with ⟨second, _⟩
    simp only [source] at ok ⊢
    rcases destination : second.extract readToken flight.destination with ⟨third, _⟩
    simp only [destination] at ok ⊢
    rcases departureTime : third.extract readI64 flight.departureTime with ⟨fourth, _⟩
    simp only [departureTime] at ok ⊢
    rcases airfare : fourth.extract readF32 flight.airfare with ⟨fifth, _⟩
    simp only [airfare] at ok ⊢
    rcases seatAvailability : fifth.extract readI32 flight.seatAvailability with ⟨sixth, _⟩
    simp only [seatAvailability] at ok ⊢
    -- back from the last extraction: each one shows that the one before had not failed
    obtain ⟨ok, seatAvailability⟩ := Stream.field_of_extract seatAvailability ok
    obtain ⟨ok, airfare⟩ := Stream.field_of_extract airfare ok
    obtain ⟨ok, departureTime⟩ := Stream.field_of_extract departureTime ok
    obtain ⟨ok, destination⟩ := Stream.field_of_extract destination ok
    obtain ⟨ok, source⟩ := Stream.field_of_extract source ok
    obtain ⟨-, identifier⟩ := Stream.field_of_extract identifier ok
    simp only [Stream.ofText] at identifier
    simp [parseFlight, identifier, source, destination, departureTime, airfare, seatAvailability]

-- A line of `flights.txt`.
example : parseFlight (Text.ofString "4003 Tokyo Shanghai 1683198000 199.0 15") =
    some ⟨4003, Text.ofString "Tokyo", Text.ofString "Shanghai", 1683198000, ⟨0x43470000⟩, 15⟩ := by
  decide +kernel

theorem lineFlight_parsed {line : Text} {parsed : Flight} (wellFormed : parseFlight line = some parsed)
    (leftover : Leftover) : lineFlight leftover line = parsed :=
  ((parseFlight_iff _ parsed line).mp wellFormed).2

end Line

section Lines

variable {leftovers : Nat → Leftover} {lines : List Text}

theorem readLines_append_singleton (leftovers : Nat → Leftover) (earlier : List Text) (line : Text) :
    readLines leftovers (earlier ++ [line]) =
      (readLines leftovers earlier).emplace (leadingIdentifier (leftovers earlier.length) line)
        (lineFlight (leftovers earlier.length) line) := by
  simp only [readLines, readFlightsFromFile, List.mapIdx_concat, List.foldl_append, List.foldl_cons,
    List.foldl_nil, lineFlight_identifier]

theorem readLines_wellFormed {line : Text} {flight : Flight} (wellFormed : parseFlight line = some flight)
    (leftovers : Nat → Leftover) (earlier : List Text) :
    readLines leftovers (earlier ++ [line]) =
      (readLines leftovers earlier).emplace flight.identifier flight := by
  rw [readLines_append_singleton, ← lineFlight_identifier, lineFlight_parsed wellFormed]

/-- Any line adds nothing just where it leaves an identifier that has an entry. -/
theorem readLines_unchanged_iff (leftovers : Nat → Leftover) (earlier : List Text) (line : Text) :
    readLines leftovers (earlier ++ [line]) = readLines leftovers earlier ↔
      ∃ old, (readLines leftovers earlier).lookup
        (leadingIdentifier (leftovers earlier.length) line) = some old := by
  rw [readLines_append_singleton, Table.emplace_eq_self_iff]

/-- The flights of these lines are looked up as the first well-formed ones. -/
def FirstWins (leftovers : Nat → Leftover) (lines : List Text) : Prop :=
  ∀ identifier, (readLines leftovers lines).lookup identifier =
    (lines.filterMap parseFlight).find? (·.identifier = identifier)

theorem FirstWins.unchanged_iff {earlier : List Text} (first : FirstWins leftovers earlier)
    (line : Text) : readLines leftovers (earlier ++ [line]) = readLines leftovers earlier ↔
      ∃ flight ∈ earlier.filterMap parseFlight,
        flight.identifier = leadingIdentifier (leftovers earlier.length) line := by
  rw [readLines_unchanged_iff, first, ← Option.isSome_iff_exists, List.find?_isSome]
  simp only [decide_eq_true_eq]

theorem MalformedAreRepeats.before (repeats : MalformedAreRepeats leftovers lines)
    {earlier : List Text} (start : earlier <+: lines) : MalformedAreRepeats leftovers earlier :=
  fun before line within malformed => repeats before line (within.trans start) malformed

theorem MalformedAreRepeats.firstWins (repeats : MalformedAreRepeats leftovers lines) :
    FirstWins leftovers lines := by
  induction lines using List.reverseRecOn with
  | nil => exact fun _ => rfl
  | append_singleton earlier line ih =>
    have first : FirstWins leftovers earlier :=
      ih (repeats.before (List.prefix_append earlier [line]))
    intro identifier
    rw [List.filterMap_append, List.find?_append, ← first]
    cases parsed : parseFlight line with
    | some flight =>
      rw [readLines_wellFormed parsed, Table.lookup_emplace]
      by_cases same : identifier = flight.identifier
      · subst same
        cases found : (readLines leftovers earlier).lookup flight.identifier with
        | some old => simp
        | none => simp [parsed]
      · have other : flight.identifier ≠ identifier := Ne.symm same
        simp [same, other, parsed]
    | none =>
      rw [(first.unchanged_iff line).mpr (repeats earlier line List.prefix_rfl parsed)]
      simp [parsed]

/-- If no malformed line adds anything, each is a repeat: up to it the entries
are the first well-formed lines, and one of them has its identifier. -/
theorem malformedAreRepeats_of_unchanged
    (unchanged : ∀ earlier line, earlier ++ [line] <+: lines → parseFlight line = none →
      readLines leftovers (earlier ++ [line]) = readLines leftovers earlier) :
    MalformedAreRepeats leftovers lines := by
  induction lines using List.reverseRecOn with
  | nil =>
    intro earlier line within
    simp at within
  | append_singleton earlier last ih =>
    have repeats : MalformedAreRepeats leftovers earlier := ih fun before line within =>
      unchanged before line (within.trans (List.prefix_append earlier [last]))
    intro before line within malformed
    rcases List.prefix_concat_iff.mp within with whole | inside
    · obtain ⟨rfl, rfl⟩ : before = earlier ∧ line = last := by simpa using whole
      exact (repeats.firstWins.unchanged_iff line).mp (unchanged before line within malformed)
    · exact repeats before line inside malformed

end Lines

/-- A file is loaded by its format just if each of its malformed lines leaves
the identifier of a well-formed line before it. -/
theorem flights_follow_format_iff (leftovers : Nat → Leftover) (file : Text) :
    FollowsFormat leftovers file ↔ MalformedAreRepeats leftovers (getlines file) := by
  constructor
  · intro follows
    exact malformedAreRepeats_of_unchanged follows.malformed
  · intro repeats
    have first : FirstWins leftovers (getlines file) := repeats.firstWins
    refine ⟨first, ?_, ?_⟩
    · intro earlier line within malformed
      have before := repeats.before ((List.prefix_append earlier [line]).trans within)
      exact (before.firstWins.unchanged_iff line).mpr (repeats earlier line within malformed)
    · intro identifier flight found
      rw [readFlightsFromText, first] at found
      exact List.mem_filterMap.mp (List.mem_of_find?_eq_some found)

/-- Memory that happens to be zero. -/
def zeroed : Leftover := ⟨0, 0, ⟨0⟩, 0⟩

/-- A file of one line that ends after its second field. -/
def truncatedFile : Text := .ofString "4001 Atlanta\n"

/-- The truncated line is an entry, of which four members were never read. -/
theorem truncated_line_is_entry : ¬ FollowsFormat (fun _ => zeroed) truncatedFile := by
  intro follows
  have entry := follows.entries 4001
  have nothing : (getlines truncatedFile).filterMap parseFlight = [] := by decide +kernel
  have loaded : ((readFlightsFromText (fun _ => zeroed) truncatedFile).lookup 4001).isSome := by
    decide +kernel
  rw [entry, nothing] at loaded
  cases loaded

end Dfis
