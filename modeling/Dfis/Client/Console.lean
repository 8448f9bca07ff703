import Dfis.Input.Exact
import Dfis.Network.Client
import Dfis.Server.FlightFile

/-! The client's console: its prompts, its menu, and the requests they make of
the lines typed. -/

namespace Dfis

open Input

/-- A dialogue over the lines that are still to be typed: its result, none once
the process has exited, the lines left, and what was written to `std::cout`. -/
def Console (V : Type) : Type := List Text → Option V × List Text × Text

namespace Console

variable {V W : Type}

def bind (first : Console V) (next : V → Console W) : Console W := fun lines =>
  match first lines with
  | (none, rest, written) => (none, rest, written)
  | (some value, rest, written) =>
    let (result, rest, more) := next value rest
    (result, rest, written ++ more)

instance monad : Monad Console where
  pure value := fun lines => (some value, lines, [])
  bind := bind

/-- `std::cout << text`. -/
def write (text : Text) : Console Unit := fun lines => (some (), lines, text)

/-- `Bye`. -/
def bye : Console V := fun lines => (none, lines, .ofString "Bye-bye!\n")

/-- `ss >> value && (ss >> std::ws).eof()` on a line, and the value. -/
def parseLine (read : Reader V) (unread : V) (line : Text) : Option V :=
  let (stream, value) := (Stream.ofText line).extract read unread
  if !stream.failed && stream.atEnd then some value else none

/-- The loop of `PromptForInput`. The variable it reads into is not initialised. -/
def readAnswer (read : Reader V) (unread : V) (retryPrompt : Text) : Console V
  | [] => bye []
  | line :: lines =>
    match parseLine read unread line with
    | some value => (some value, lines, [])
    | none =>
      let (result, rest, written) := readAnswer read unread retryPrompt lines
      (result, rest, retryPrompt ++ written)

def promptForInput (read : Reader V) (unread : V) (prompt retryPrompt : String) : Console V := do
  write (.ofString prompt)
  readAnswer read unread (.ofString retryPrompt)

section Prompt

variable (read : Reader V) (unread : V)

/-- What the variable held before is never returned. -/
theorem parseLine_eq (line : Text) : parseLine read unread line = read.answer? line := by
  unfold parseLine Stream.ofText Stream.extract Reader.answer? Reader.field? Stream.atEnd
  cases blanks : line.dropWhile isSpace with
  | nil => simp
  | cons c text => cases valid : (read (c :: text)).valid <;> simp [valid]

/-- The lines before the first one that answers. -/
def refused (lines : List Text) : List Text := lines.takeWhile fun line => (read.answer? line).isNone

theorem readAnswer_eq (retryPrompt : Text) (lines : List Text) :
    readAnswer read unread retryPrompt lines =
      let retries := (List.replicate (refused read lines).length retryPrompt).flatten
      match lines.drop (refused read lines).length with
      | [] => (none, [], retries ++ .ofString "Bye-bye!\n")
      | line :: rest => (read.answer? line, rest, retries) := by
  induction lines with
  | nil => rfl
  | cons line lines ih =>
    rw [readAnswer, parseLine_eq]
    cases answer : read.answer? line with
    | some value => simp [refused, answer]
    | none =>
      simp only [refused, List.takeWhile_cons, answer, Option.isNone_none, if_true,
        List.length_cons, List.drop_succ_cons, List.replicate_succ, List.flatten_cons]
      simp only [refused] at ih
      rw [ih]
      split <;> simp

/-- A prompt takes the first line that answers, repeats itself for each line
before, and exits only when no line answers. -/
theorem promptForInput_eq (prompt retryPrompt : String) (lines : List Text) :
    promptForInput read unread prompt retryPrompt lines =
      let written := Text.ofString prompt ++
        (List.replicate (refused read lines).length (Text.ofString retryPrompt)).flatten
      match lines.drop (refused read lines).length with
      | [] => (none, [], written ++ .ofString "Bye-bye!\n")
      | line :: rest => (read.answer? line, rest, written) := by
  have asks : promptForInput read unread prompt retryPrompt lines =
      let (result, rest, written) := readAnswer read unread (.ofString retryPrompt) lines
      (result, rest, Text.ofString prompt ++ written) := rfl
  rw [asks, readAnswer_eq]
  simp only
  split <;> simp

end Prompt

end Console

open Console

def readU16 : Reader UInt16 := (readUnsigned (2 ^ 16)).map UInt16.ofNat

def readU64 : Reader UInt64 := (readUnsigned (2 ^ 64)).map UInt64.ofNat

def promptForString (prompt : String) : Console Text :=
  promptForInput readToken [] prompt "Please enter a string: "

def promptForI32 (prompt : String) : Console Int32 :=
  promptForInput readI32 0 prompt "Please enter an integer: "

def promptForU16 (prompt : String) : Console UInt16 :=
  promptForInput readU16 0 prompt "Please enter an integer: "

def promptForU64 (prompt : String) : Console UInt64 :=
  promptForInput readU64 0 prompt "Please enter a non-negative integer: "

def promptForF32 (prompt : String) : Console F32 :=
  promptForInput readF32 ⟨0⟩ prompt "Please enter a number: "

/-- The fields of a request, prompted for. Until `SendAndReceive` sets it, its
id is what the memory happens to hold. -/
def promptForRequest (unset : UInt64) : (kind : Kind) → Console kind.Request
  | .flightSearch => do
    let source ← promptForString "Enter source: "
    let destination ← promptForString "Enter destination: "
    return ⟨unset, source, destination⟩
  | .flightInfo => do
    let identifier ← promptForI32 "Enter identifier: "
    return ⟨unset, identifier⟩
  | .seatReservation => do
    let identifier ← promptForI32 "Enter identifier: "
    let seats ← promptForI32 "Enter number of seats to reserve: "
    return ⟨unset, identifier, seats⟩
  | .seatAvailabilityMonitoring => do
    let identifier ← promptForI32 "Enter identifier: "
    let port ← promptForU16 "Enter port number: "
    let monitorIntervalSec ← promptForI32 "Enter monitor interval in seconds: "
    return ⟨unset, identifier, port, monitorIntervalSec⟩
  | .priceRangeSearch => do
    let lower ← promptForF32 "Enter lower bound of price range: "
    let upper ← promptForF32 "Enter upper bound of price range: "
    return ⟨unset, lower, upper⟩
  | .seatReservationCancellation => do
    let reservationReqId ← promptForU64 "Enter reservation request identifier: "
    let identifier ← promptForI32 "Enter flight identifier: "
    let seats ← promptForI32 "Enter number of seats to cancel: "
    return ⟨unset, reservationReqId, identifier, seats⟩

/-- The lines that select a request, in the order of the comparisons. -/
def selections : List (Text × Kind) :=
  [(.ofString "1", .flightSearch), (.ofString "2", .flightInfo), (.ofString "3", .seatReservation),
    (.ofString "4", .seatAvailabilityMonitoring), (.ofString "5", .priceRangeSearch),
    (.ofString "6", .seatReservationCancellation)]

def selectionOf (line : Text) : Option Kind :=
  (selections.find? fun selection => line = selection.1).map Prod.snd

/-- The menu. The blank line is left out before the first one. -/
def menu (firstLaunch : Bool) : Text :=
  .ofString ((if firstLaunch then "" else "\n") ++
    "Selections available:\n0. Exit\n1. Flight search\n2. Flight info\n3. Seat reservation\n" ++
    "4. Seat availability monitoring\n5. Price range search\n" ++
    "6. Seat reservation cancellation\nEnter selection: ")

/-- The loop of `main` up to its next call of `SendAndReceive`. A line that
selects nothing is answered on `std::cerr`. -/
def nextRequest (unset : UInt64) (firstLaunch : Bool) : Console Command
  | [] => (do write (menu firstLaunch); bye) []
  | line :: lines =>
    if line = .ofString "0" then (do write (menu firstLaunch); bye) lines
    else
      match selectionOf line with
      | some kind =>
        (do
          write (menu firstLaunch)
          let req ← promptForRequest unset kind
          return Command.mk kind req) lines
      | none =>
        let (result, rest, written) := nextRequest unset false lines
        (result, rest, menu firstLaunch ++ written)

/-- The requests of a whole input, by the loop of `main`; the bound is on their number. -/
def session (unset : UInt64) (firstLaunch : Bool) : Nat → List Text → List Command
  | 0, _ => []
  | bound + 1, lines =>
    match nextRequest unset firstLaunch lines with
    | (some command, rest, _) => command :: session unset false bound rest
    | (none, _, _) => []

/-- Every request takes at least one line. -/
def requestsOf (unset : UInt64) (stdin : Text) : List Command :=
  session unset true (getlines stdin).length (getlines stdin)

end Dfis
