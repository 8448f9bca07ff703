import Dfis.Base.Machine
import Dfis.Base.Table

/-! What the server is for: an office that books seats on flights under keys
and takes bookings back, and has no state in which a flight is overbooked. -/

namespace Dfis.Booking

open Base

variable {Flight Key : Type} [DecidableEq Flight] [DecidableEq Key]

/-- Seats held on a flight. -/
structure Held (Flight : Type) where
  flight : Flight
  seats : Nat

/-- What a booking takes from a flight. -/
def Held.on (flight : Flight) (held : Held Flight) : Nat :=
  if held.flight = flight then held.seats else 0

/-- The seats that all bookings hold on a flight. -/
def taken (bookings : Table Key (Held Flight)) (flight : Flight) : Nat :=
  Table.total bookings (Held.on flight)

/-- The flights on sale with their seats, and the bookings, which fit. -/
structure Office (Flight Key : Type) [DecidableEq Flight] [DecidableEq Key] where
  capacity : Flight → Option Nat
  bookings : Table Key (Held Flight)
  onSale : ∀ key held, bookings.lookup key = some held → capacity held.flight ≠ none
  fits : ∀ flight seats, capacity flight = some seats → taken bookings flight ≤ seats

inductive Operation (Flight Key : Type) where
  /-- How many seats are left? -/
  | ask (flight : Flight)
  | book (key : Key) (flight : Flight) (seats : Nat)
  | cancel (key : Key) (flight : Flight) (seats : Nat)
  /-- Business that is not about seats. -/
  | other

inductive Verdict (Flight : Type) where
  | noSuchFlight
  | left (seats : Nat)
  | notEnough
  | keyInUse
  | booked (flight : Flight) (seats : Nat)
  | noSuchBooking
  | otherFlight
  | tooMany
  | cancelled (flight : Flight) (seats : Nat)
  | done
  deriving DecidableEq

namespace Office

/-- All seats of these flights are free. -/
def opened (capacity : Flight → Option Nat) : Office Flight Key where
  capacity := capacity
  bookings := ∅
  onSale key held found := by simp at found
  fits flight seats found := by simp [taken]

/-- The seats still free on a flight. -/
def free (office : Office Flight Key) (flight : Flight) : Option Nat :=
  (office.capacity flight).map fun seats => seats - taken office.bookings flight

theorem taken_insert_new {bookings : Table Key (Held Flight)} {key : Key}
    (unused : bookings.lookup key = none) (held : Held Flight) (flight : Flight) :
    taken (bookings.insert key held) flight = held.on flight + taken bookings flight :=
  Table.total_insert_new unused held _

theorem taken_replace {bookings : Table Key (Held Flight)} {key : Key} {old : Held Flight}
    (found : bookings.lookup key = some old) (held : Held Flight) (flight : Flight) :
    taken (bookings.insert key held) flight + old.on flight =
      taken bookings flight + held.on flight :=
  Table.total_replace found held _

/-- A booking under a new key, of no more seats than are free. -/
def book (office : Office Flight Key) (key : Key) (flight : Flight) (seats capacity : Nat)
    (sold : office.capacity flight = some capacity)
    (enough : taken office.bookings flight + seats ≤ capacity)
    (unused : office.bookings.lookup key = none) : Office Flight Key where
  capacity := office.capacity
  bookings := office.bookings.insert key ⟨flight, seats⟩
  onSale other held found := by
    rw [Table.lookup_insert] at found
    split at found
    · obtain rfl := Option.some.inj found
      simp [sold]
    · exact office.onSale other held found
  fits other bound known := by
    rw [taken_insert_new unused]
    unfold Held.on
    split
    · rename_i same
      obtain rfl : flight = other := same
      obtain rfl := Option.some.inj (sold.symm.trans known)
      exact Nat.add_comm .. ▸ enough
    · rw [Nat.zero_add]
      exact office.fits other bound known

/-- A part of a booking, or all of it, is given back. The key stays in use. -/
def cancel (office : Office Flight Key) (key : Key) (held : Held Flight) (seats : Nat)
    (found : office.bookings.lookup key = some held) : Office Flight Key where
  capacity := office.capacity
  bookings := office.bookings.insert key { held with seats := held.seats - seats }
  onSale other held' found' := by
    rw [Table.lookup_insert] at found'
    split at found'
    · obtain rfl := Option.some.inj found'
      exact office.onSale key held found
    · exact office.onSale other held' found'
  fits flight bound known := by
    have replaced := taken_replace found { held with seats := held.seats - seats } flight
    have before := office.fits flight bound known
    unfold Held.on at replaced
    simp only at replaced
    split at replaced <;> omega

/-- The office serves one request after the other. -/
def serve : Machine (Office Flight Key) (Operation Flight Key) (Verdict Flight)
  | office, .ask flight =>
    match office.free flight with
    | none => (office, .noSuchFlight)
    | some seats => (office, .left seats)
  | office, .book key flight seats =>
    match sold : office.capacity flight with
    | none => (office, .noSuchFlight)
    | some capacity =>
      if enough : taken office.bookings flight + seats ≤ capacity then
        if unused : office.bookings.lookup key = none then
          (office.book key flight seats capacity sold enough unused, .booked flight seats)
        else (office, .keyInUse)
      else (office, .notEnough)
  | office, .cancel key flight seats =>
    match found : office.bookings.lookup key with
    | none => (office, .noSuchBooking)
    | some held =>
      if held.flight ≠ flight then (office, .otherFlight)
      else if held.seats < seats then (office, .tooMany)
      else (office.cancel key held seats found, .cancelled flight seats)
  | office, .other => (office, .done)

section Verdicts

variable {office : Office Flight Key} {key : Key} {flight : Flight} {seats capacity : Nat}
  {held : Held Flight}

theorem serve_ask : serve office (.ask flight) =
    (office, match office.free flight with | none => .noSuchFlight | some seats => .left seats) := by
  rw [serve]
  split <;> rfl

theorem serve_noSuchFlight (unknown : office.capacity flight = none) :
    serve office (.book key flight seats) = (office, .noSuchFlight) := by
  rw [serve]
  split
  · rfl
  · rename_i sold
    cases unknown.symm.trans sold

theorem serve_notEnough (sold : office.capacity flight = some capacity)
    (short : ¬ taken office.bookings flight + seats ≤ capacity) :
    serve office (.book key flight seats) = (office, .notEnough) := by
  rw [serve]
  split
  · rename_i unknown
    cases unknown.symm.trans sold
  · rename_i capacity' sold'
    obtain rfl := Option.some.inj (sold.symm.trans sold')
    rw [dif_neg short]

theorem serve_booked (sold : office.capacity flight = some capacity)
    (enough : taken office.bookings flight + seats ≤ capacity)
    (unused : office.bookings.lookup key = none) :
    serve office (.book key flight seats) =
      (office.book key flight seats capacity sold enough unused, .booked flight seats) := by
  rw [serve]
  split
  · rename_i unknown
    cases unknown.symm.trans sold
  · rename_i capacity' sold'
    obtain rfl := Option.some.inj (sold.symm.trans sold')
    rw [dif_pos enough, dif_pos unused]

theorem serve_noSuchBooking (unknown : office.bookings.lookup key = none) :
    serve office (.cancel key flight seats) = (office, .noSuchBooking) := by
  rw [serve]
  split
  · rfl
  · rename_i found
    cases unknown.symm.trans found

theorem serve_cancel (found : office.bookings.lookup key = some held) :
    serve office (.cancel key flight seats) =
      if held.flight ≠ flight then (office, .otherFlight)
      else if held.seats < seats then (office, .tooMany)
      else (office.cancel key held seats found, .cancelled flight seats) := by
  rw [serve]
  split
  · rename_i unknown
    cases unknown.symm.trans found
  · rename_i held' found'
    obtain rfl := Option.some.inj (found.symm.trans found')
    rfl

/-- Only a booking brings a key into use. -/
theorem serve_key {operation : Operation Flight Key}
    (used : (serve office operation).1.bookings.lookup key ≠ none) :
    office.bookings.lookup key ≠ none ∨ ∃ flight seats, operation = .book key flight seats := by
  cases operation with
  | ask flight =>
    rw [serve_ask] at used
    exact .inl used
  | book other flight seats =>
    by_cases same : key = other
    · subst same
      exact .inr ⟨flight, seats, rfl⟩
    · left
      rw [serve] at used
      split at used
      · exact used
      · split at used
        · split at used
          · rw [book, Table.lookup_insert, if_neg same] at used
            exact used
          · exact used
        · exact used
  | cancel other flight seats =>
    left
    rw [serve] at used
    split at used
    · exact used
    · rename_i held found
      split at used
      · exact used
      · split at used
        · exact used
        · rw [cancel, Table.lookup_insert] at used
          by_cases same : key = other
          · subst same
            simp [found]
          · rwa [if_neg same] at used
  | other => exact .inl used

end Verdicts

end Office

end Dfis.Booking
