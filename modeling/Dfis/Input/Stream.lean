/-! Formatted input from a text: its lines, and the fields that a stream with
one failure state reads off the front of a line. -/

namespace Dfis.Input

/-- The characters that `isspace` accepts in the "C" locale. -/
def isSpace (c : UInt8) : Bool := c == 0x20 || (decide (0x09 ≤ c) && decide (c ≤ 0x0d))

/-- The lines `std::getline` reads before it fails: the characters after the
last newline are a line only if there are any. -/
def getlines : List UInt8 → List (List UInt8)
  | [] => []
  | c :: text =>
    if c = 0x0a then [] :: getlines text
    else match getlines text with
      | [] => [[c]]
      | line :: lines => (c :: line) :: lines

/-- What an extraction makes of the text it reads: the value it stores, the
text it leaves, and whether it succeeds. -/
structure Field (V : Type) where
  value : V
  rest : List UInt8
  valid : Bool

/-- How a type is read from a text that does not start with a blank. -/
abbrev Reader (V : Type) : Type := List UInt8 → Field V

namespace Reader

variable {V W : Type}

def map (store : V → W) (read : Reader V) : Reader W := fun text =>
  let field := read text
  ⟨store field.value, field.rest, field.valid⟩

/-- The field a text starts with, blanks skipped, and the text after it. -/
def field? (read : Reader V) (text : List UInt8) : Option (V × List UInt8) :=
  match text.dropWhile isSpace with
  | [] => none
  | c :: text =>
    let field := read (c :: text)
    if field.valid then some (field.value, field.rest) else none

theorem of_field? {read : Reader V} {text rest : List UInt8} {value : V}
    (there : read.field? text = some (value, rest)) :
    (read (text.dropWhile isSpace)).valid = true ∧ (read (text.dropWhile isSpace)).value = value := by
  unfold field? at there
  split at there
  · cases there
  · rename_i c text' blanks
    simp only [Option.ite_none_right_eq_some, Option.some.injEq, Prod.mk.injEq] at there
    rw [blanks]
    exact ⟨there.1, there.2.1⟩

/-- The field that a line consists of, blanks aside. -/
def answer? (read : Reader V) (line : List UInt8) : Option V :=
  match read.field? line with
  | some (value, rest) => if rest.all isSpace then some value else none
  | none => none

theorem answer?_iff {read : Reader V} {line : List UInt8} {value : V} :
    read.answer? line = some value ↔
      ∃ rest, read.field? line = some (value, rest) ∧ rest.all isSpace = true := by
  constructor
  · intro answered
    cases field : read.field? line with
    | none => simp [answer?, field] at answered
    | some found =>
      obtain ⟨value', rest⟩ := found
      simp only [answer?, field, Option.ite_none_right_eq_some, Option.some.injEq] at answered
      obtain ⟨blank, rfl⟩ := answered
      exact ⟨rest, rfl, blank⟩
  · rintro ⟨rest, field, blank⟩
    simp only [answer?, field, blank, if_true]

/-- For a type that is not read from nothing, blank lines are no special case. -/
theorem answer?_valid {read : Reader V} (empty : (read []).valid = false) {line : List UInt8}
    {value : V} :
    read.answer? line = some value ↔
      (read (line.dropWhile isSpace)).valid = true ∧
      (read (line.dropWhile isSpace)).value = value ∧
      (read (line.dropWhile isSpace)).rest.all isSpace = true := by
  rw [answer?_iff]
  cases text : line.dropWhile isSpace with
  | nil => simp [field?, text, empty]
  | cons c text' =>
    simp only [field?, text, Option.ite_none_right_eq_some, Option.some.injEq, Prod.mk.injEq]
    constructor
    · rintro ⟨_, ⟨valid, stored, rfl⟩, blank⟩
      exact ⟨valid, stored, blank⟩
    · rintro ⟨valid, stored, blank⟩
      exact ⟨_, ⟨valid, stored, rfl⟩, blank⟩

theorem field?_blank (read : Reader V) {c : UInt8} (blank : isSpace c = true) (text : List UInt8) :
    read.field? (c :: text) = read.field? text := by
  simp [field?, blank]

/-- The text spells the value, whatever there is behind a blank. -/
def Spells (read : Reader V) (text : List UInt8) (value : V) : Prop :=
  ∀ after, (∀ c ∈ after.head?, isSpace c = true) → read.field? (text ++ after) = some (value, after)

theorem spells_of {read : Reader V} {text : List UInt8} {value : V} (some : text ≠ [])
    (visible : ∀ c ∈ text.head?, isSpace c = false)
    (reads : ∀ after, (∀ c ∈ after.head?, isSpace c = true) →
      read (text ++ after) = ⟨value, after, true⟩) : read.Spells text value := by
  intro after blank
  cases text with
  | nil => exact absurd rfl some
  | cons c text =>
    have stays : ((c :: text) ++ after).dropWhile isSpace = c :: (text ++ after) := by
      simp [visible c rfl]
    rw [field?, stays]
    simp only [← List.cons_append, reads after blank, if_true]

theorem Spells.answer? {read : Reader V} {text : List UInt8} {value : V}
    (spells : read.Spells text value) : read.answer? text = some value := by
  have field := spells [] (by simp)
  rw [List.append_nil] at field
  exact answer?_iff.mpr ⟨[], field, rfl⟩

theorem Spells.map {read : Reader V} {text : List UInt8} {value : V}
    (spells : read.Spells text value) (store : V → W) :
    (read.map store).Spells text (store value) := by
  intro after blank
  have field := spells after blank
  unfold field? at field ⊢
  cases stays : (text ++ after).dropWhile isSpace with
  | nil => simp [stays] at field
  | cons c rest =>
    simp only [stays, Option.ite_none_right_eq_some, Option.some.injEq, Prod.mk.injEq] at field
    obtain ⟨valid, rfl, rfl⟩ := field
    simp [Reader.map, valid]

theorem Spells.field {read : Reader V} {text : List UInt8} {value : V}
    (spells : read.Spells text value) (after : List UInt8) :
    read.field? (text ++ 0x20 :: after) = some (value, 0x20 :: after) := by
  refine spells (0x20 :: after) ?_
  rintro c ⟨⟩
  rfl

theorem answer?_map (read : Reader V) (store : V → W) (line : List UInt8) :
    (read.map store).answer? line = (read.answer? line).map store := by
  unfold answer? field? map
  cases line.dropWhile isSpace with
  | nil => rfl
  | cons c text =>
    simp only
    cases (read (c :: text)).valid <;> simp [apply_ite]

end Reader

/-- An input stream: the text it has left, and its `failbit`. -/
structure Stream where
  rest : List UInt8
  failed : Bool

namespace Stream

variable {V : Type}

/-- `std::istringstream ss{text}`. -/
def ofText (text : List UInt8) : Stream := ⟨text, false⟩

/-- `stream >> target`. A stream that has failed or has only blanks left does
not touch the target; a field that is not valid still stores a value. -/
def extract (stream : Stream) (read : Reader V) (target : V) : Stream × V :=
  if stream.failed then (stream, target)
  else match stream.rest.dropWhile isSpace with
    | [] => (⟨[], true⟩, target)
    | c :: text =>
      let field := read (c :: text)
      (⟨field.rest, !field.valid⟩, field.value)

/-- `(stream >> std::ws).eof()` of a stream that has not failed. -/
def atEnd (stream : Stream) : Bool := stream.rest.all isSpace

theorem extract_field {read : Reader V} {text rest : List UInt8} {value : V}
    (there : read.field? text = some (value, rest)) (target : V) :
    (Stream.mk text false).extract read target = (⟨rest, false⟩, value) := by
  cases blanks : text.dropWhile isSpace with
  | nil => simp [Reader.field?, blanks] at there
  | cons c text =>
    simp only [Reader.field?, blanks, Option.ite_none_right_eq_some, Option.some.injEq,
      Prod.mk.injEq] at there
    obtain ⟨valid, rfl, rfl⟩ := there
    simp [extract, blanks, valid]

/-- A stream has not failed after an extraction only if it had not failed
before and the field was there. -/
theorem field_of_extract {stream left : Stream} {read : Reader V} {target value : V}
    (extracted : stream.extract read target = (left, value)) (ok : left.failed = false) :
    stream.failed = false ∧ read.field? stream.rest = some (value, left.rest) := by
  obtain ⟨text, failed⟩ := stream
  cases failed with
  | true =>
    simp only [extract, if_true, Prod.mk.injEq] at extracted
    obtain ⟨rfl, -⟩ := extracted
    cases ok
  | false =>
    cases blanks : text.dropWhile isSpace with
    | nil =>
      simp only [extract, blanks, Bool.false_eq_true, if_false, Prod.mk.injEq] at extracted
      obtain ⟨rfl, -⟩ := extracted
      cases ok
    | cons c text =>
      simp only [extract, blanks, Bool.false_eq_true, if_false, Prod.mk.injEq] at extracted
      obtain ⟨rfl, rfl⟩ := extracted
      have valid : (read (c :: text)).valid = true := by simpa using ok
      simp [Reader.field?, blanks, valid]

end Stream

/-- `std::string`: everything up to the next blank. -/
def readToken : Reader (List UInt8) := fun text =>
  ⟨text.takeWhile (!isSpace ·), text.dropWhile (!isSpace ·), true⟩

end Dfis.Input
