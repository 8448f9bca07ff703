import Dfis.Client.Console
import Dfis.Server.FlightLines

/-! Which requests can be typed at the client's console: each has a script, and
nothing else is ever read. -/

namespace Dfis

open Input Console

namespace Console

variable {V W : Type}

/-- What a dialogue that goes on returned, and the lines it left. -/
def Returns (dialogue : Console V) (lines : List Text) (value : V) (rest : List Text) : Prop :=
  ∃ written, dialogue lines = (some value, rest, written)

theorem returns_bind {first : Console V} {next : V → Console W} {lines rest : List Text}
    {result : W} :
    Returns (first >>= next) lines result rest ↔
      ∃ value middle, Returns first lines value middle ∧ Returns (next value) middle result rest := by
  have bound : (first >>= next) lines = bind first next lines := rfl
  unfold Returns
  rw [bound, bind]
  rcases first lines with ⟨_ | value, middle, written⟩
  · simp
  · constructor
    · rintro ⟨more, goes⟩
      simp only [Prod.mk.injEq] at goes
      exact ⟨value, middle, ⟨written, rfl⟩, _, by rw [← goes.1, ← goes.2.1]⟩
    · rintro ⟨_, _, ⟨_, goes⟩, more, goes'⟩
      simp only [Prod.mk.injEq, Option.some.injEq] at goes
      obtain ⟨rfl, rfl, rfl⟩ := goes
      exact ⟨written ++ more, by simp [goes']⟩

@[simp] theorem returns_pure {value result : V} {lines rest : List Text} :
    Returns (pure value) lines result rest ↔ value = result ∧ lines = rest := by
  have pure' : (pure value : Console V) lines = (some value, lines, []) := rfl
  simp [Returns, pure']

@[simp] theorem returns_write {text : Text} {lines rest : List Text} {result : Unit} :
    Returns (write text) lines result rest ↔ lines = rest := by
  simp [Returns, write]

section Prompt

variable {read : Reader V} {unread value : V} {prompt retryPrompt : String} {lines rest : List Text}

theorem returns_answer {line : Text} (answers : read.answer? line = some value) :
    Returns (promptForInput read unread prompt retryPrompt) (line :: rest) value rest := by
  have first : refused read (line :: rest) = [] := by simp [refused, answers]
  refine ⟨Text.ofString prompt ++ [], ?_⟩
  rw [promptForInput_eq]
  simp only [first, List.length_nil, List.drop_zero, answers, List.replicate_zero, List.flatten_nil]

theorem returns_spelled {text : Text} (spells : read.Spells text value) :
    Returns (promptForInput read unread prompt retryPrompt) (text :: rest) value rest :=
  returns_answer spells.answer?

/-- The lines left are those behind one that was taken. -/
def Behind (rest lines : List Text) : Prop := ∃ line, line :: rest <:+ lines

theorem Behind.trans {middle : List Text} (first : Behind middle lines)
    (second : Behind rest middle) : Behind rest lines := by
  obtain ⟨line, within⟩ := first
  obtain ⟨line', within'⟩ := second
  exact ⟨line', (within'.trans (List.suffix_cons line middle)).trans within⟩

theorem Behind.length_lt (behind : Behind rest lines) : rest.length < lines.length := by
  obtain ⟨line, within⟩ := behind
  exact within.length_le

theorem answer_returned
    (returned : Returns (promptForInput read unread prompt retryPrompt) lines value rest) :
    ∃ line, read.answer? line = some value ∧ line :: rest <:+ lines := by
  obtain ⟨written, returned⟩ := returned
  rw [promptForInput_eq] at returned
  simp only at returned
  split at returned
  · cases returned
  · rename_i line lines' dropped
    simp only [Prod.mk.injEq] at returned
    obtain ⟨answers, rfl, -⟩ := returned
    exact ⟨line, answers, dropped ▸ List.drop_suffix _ _⟩

end Prompt

end Console

section Answers

theorem token_of_answer {line token : Text} (answers : readToken.answer? line = some token) :
    Token token := by
  obtain ⟨rest, there, -⟩ := Reader.answer?_iff.mp answers
  exact token_of_field there

theorem readU16_answer (number : UInt16) : readU16.answer? (showNat number.toNat) = some number := by
  rw [readU16, Reader.answer?_map, readUnsigned_showNat number.toNat_lt, Option.map_some,
    UInt16.ofNat_toNat]

theorem readU64_answer (number : UInt64) : readU64.answer? (showNat number.toNat) = some number := by
  rw [readU64, Reader.answer?_map, readUnsigned_showNat number.toNat_lt, Option.map_some,
    UInt64.ofNat_toNat]

theorem finite_of_answer {line : Text} {value : F32} (answers : readF32.answer? line = some value) :
    value.Finite := by
  obtain ⟨rest, there, -⟩ := Reader.answer?_iff.mp answers
  exact finite_of_field there

end Answers

section Prompts

variable {V : Type}

/-- The first line that answers a question, and the lines behind it. -/
def FirstAnswer (answers : Text → V → Prop) (lines : List Text) (value : V) (rest : List Text) :
    Prop :=
  ∃ refused line, lines = refused ++ line :: rest ∧ answers line value ∧
    ∀ other ∈ refused, ∀ value, ¬ answers other value

theorem returns_iff_firstAnswer {read : Reader V} {answers : Text → V → Prop}
    (reads : ∀ line value, read.answer? line = some value ↔ answers line value)
    (unread : V) (prompt retryPrompt : String) (lines : List Text) (value : V) (rest : List Text) :
    Returns (promptForInput read unread prompt retryPrompt) lines value rest ↔
      FirstAnswer answers lines value rest := by
  have refuses : ∀ line, (read.answer? line).isNone = true ↔ ∀ value, ¬ answers line value := by
    intro line
    simp only [← reads, Option.isNone_iff_eq_none, Option.eq_none_iff_forall_ne_some, ne_eq]
  constructor
  · rintro ⟨written, returned⟩
    rw [promptForInput_eq] at returned
    simp only at returned
    split at returned
    · cases returned
    · rename_i line lines' dropped
      simp only [Prod.mk.injEq] at returned
      obtain ⟨answered, rfl, -⟩ := returned
      refine ⟨refused read lines, line, ?_, (reads line value).mp answered, ?_⟩
      · have parts := List.prefix_iff_eq_append.mp
          (List.takeWhile_prefix (l := lines) fun line => (read.answer? line).isNone)
        rw [← dropped]
        exact parts.symm
      · intro other member
        exact (refuses other).mp (List.all_eq_true.mp List.all_takeWhile other member)
  · rintro ⟨before, line, rfl, answered, others⟩
    have all : before.all (fun line => (read.answer? line).isNone) = true :=
      List.all_eq_true.mpr fun other member => (refuses other).mpr (others other member)
    have answer := (reads line value).mpr answered
    have stop : ∀ other ∈ (line :: rest).head?, (read.answer? other).isNone = false := by
      rintro other ⟨⟩
      simp [answer]
    have exactly : refused read (before ++ line :: rest) = before :=
      takeWhile_append_stop all stop
    refine ⟨Text.ofString prompt ++
      (List.replicate before.length (Text.ofString retryPrompt)).flatten, ?_⟩
    rw [promptForInput_eq]
    simp only [exactly, List.drop_left, answer]

/-- A signed integer in the range of its type, blanks aside. -/
def SpellsI32 (line : Text) (value : Int32) : Prop :=
  ∃ negative number, Numeral negative number line ∧ signed negative number = value.toInt

/-- An unsigned integer in range; after a minus sign, its negation in the type. -/
def SpellsUnsigned (size : Nat) (line : Text) (value : Nat) : Prop :=
  ∃ negative number, Numeral negative number line ∧ number < size ∧
    (if negative then (size - number) % size else number) = value

theorem readI32_answer_iff (line : Text) (value : Int32) :
    readI32.answer? line = some value ↔ SpellsI32 line value := by
  rw [readI32, Reader.answer?_map, Option.map_eq_some_iff]
  constructor
  · rintro ⟨number, read, rfl⟩
    obtain ⟨negative, natural, numeral, rfl, above, below⟩ := (readInteger_answer_iff _ _).mp read
    have below : signed negative natural < 2 ^ 31 := Int.lt_of_le_sub_one below
    exact ⟨negative, natural, numeral, (Int32.toInt_ofInt_of_le above below).symm⟩
  · rintro ⟨negative, natural, numeral, spelled⟩
    refine ⟨value.toInt, (readInteger_answer_iff _ _).mpr ⟨negative, natural, numeral, spelled,
      value.minValue_le_toInt, value.toInt_le⟩, Int32.ofInt_toInt value⟩

theorem readUnsigned_map_iff {size : Nat} (store : Nat → V) (toNat : V → Nat) (some : 0 < size)
    (stored : ∀ value, store (toNat value) = value)
    (kept : ∀ number < size, toNat (store number) = number) (line : Text) (value : V) :
    ((readUnsigned size).map store).answer? line = Option.some value ↔
      SpellsUnsigned size line (toNat value) := by
  rw [Reader.answer?_map, Option.map_eq_some_iff]
  constructor
  · rintro ⟨number, read, rfl⟩
    obtain ⟨negative, natural, numeral, fits, spelled⟩ := (readUnsigned_answer_iff _).mp read
    refine ⟨negative, natural, numeral, fits, ?_⟩
    rw [spelled, kept]
    rw [← spelled]
    split
    · exact Nat.mod_lt _ some
    · exact fits
  · rintro spelled
    exact ⟨toNat value, (readUnsigned_answer_iff _).mpr spelled, stored value⟩

/-- One word, blanks aside. -/
def SpellsToken (line token : Text) : Prop :=
  ∃ before after, line = before ++ (token ++ after) ∧ before.all isSpace = true ∧
    after.all isSpace = true ∧ Token token

theorem readToken_answer_iff (line token : Text) :
    readToken.answer? line = some token ↔ SpellsToken line token := by
  constructor
  · intro answers
    have one := token_of_answer answers
    obtain ⟨rest, field, blank⟩ := Reader.answer?_iff.mp answers
    refine ⟨line.takeWhile isSpace, rest, ?_, List.all_takeWhile, blank, one⟩
    cases blanks : line.dropWhile isSpace with
    | nil => simp [Reader.field?, blanks] at field
    | cons c text =>
      simp only [Reader.field?, blanks, readToken, if_true, Option.some.injEq,
        Prod.mk.injEq] at field
      obtain ⟨rfl, rfl⟩ := field
      rw [List.takeWhile_append_dropWhile, ← blanks, List.takeWhile_append_dropWhile]
  · rintro ⟨before, after, rfl, blank, blank', some, all⟩
    obtain ⟨c, token, rfl⟩ := List.exists_cons_of_ne_nil some
    have visible : isSpace c = false := by simp_all
    have stop : ∀ d ∈ after.head?, (!isSpace d) = false := by
      intro d first
      have space := List.all_eq_true.mp blank' d (List.mem_of_mem_head? first)
      simp [space]
    have first : ∀ d ∈ (c :: token ++ after).head?, isSpace d = false := by
      rintro d ⟨⟩
      exact visible
    have unblank := dropWhile_append_stop blank first
    have taken := takeWhile_append_stop all stop
    have left := dropWhile_append_stop all stop
    rw [Reader.answer?, Reader.field?, unblank]
    simp only [List.cons_append, readToken, if_true]
    rw [← List.cons_append, taken, left, if_pos blank']

/-- What the prompts return: the first line that is one word, or a numeral in
range. The unsigned ones take negative numerals too, against their wording. -/
theorem prompts_exact (prompt : String) (lines rest : List Text) :
    (∀ token, Returns (promptForString prompt) lines token rest ↔
      FirstAnswer SpellsToken lines token rest) ∧
    (∀ value, Returns (promptForI32 prompt) lines value rest ↔
      FirstAnswer SpellsI32 lines value rest) ∧
    (∀ value, Returns (promptForU16 prompt) lines value rest ↔
      FirstAnswer (fun line (value : UInt16) => SpellsUnsigned (2 ^ 16) line value.toNat)
        lines value rest) ∧
    (∀ value, Returns (promptForU64 prompt) lines value rest ↔
      FirstAnswer (fun line (value : UInt64) => SpellsUnsigned (2 ^ 64) line value.toNat)
        lines value rest) := by
  refine ⟨fun token => returns_iff_firstAnswer readToken_answer_iff _ _ _ _ _ _,
    fun value => returns_iff_firstAnswer readI32_answer_iff _ _ _ _ _ _,
    fun value => returns_iff_firstAnswer ?_ _ _ _ _ _ _,
    fun value => returns_iff_firstAnswer ?_ _ _ _ _ _ _⟩
  · exact readUnsigned_map_iff _ _ (by decide) (fun _ => UInt16.ofNat_toNat)
      (fun number small => UInt16.toNat_ofNat_of_lt' small)
  · exact readUnsigned_map_iff _ _ (by decide) (fun _ => UInt64.ofNat_toNat)
      (fun number small => UInt64.toNat_ofNat_of_lt' small)

end Prompts

section Script

/-- What can be typed for the fields of a request. -/
def Kind.Typeable : (kind : Kind) → kind.Request → Prop
  | .flightSearch, req => Token req.source ∧ Token req.destination
  | .priceRangeSearch, req => req.from.Finite ∧ req.to.Finite
  | .flightInfo, _ | .seatReservation, _ | .seatAvailabilityMonitoring, _
  | .seatReservationCancellation, _ => True

/-- The line that selects a kind of request. -/
def Kind.selection : Kind → Text
  | .flightSearch => .ofString "1"
  | .flightInfo => .ofString "2"
  | .seatReservation => .ofString "3"
  | .seatAvailabilityMonitoring => .ofString "4"
  | .priceRangeSearch => .ofString "5"
  | .seatReservationCancellation => .ofString "6"

/-- The lines that answer the prompts for a request. -/
def Kind.fields : (kind : Kind) → kind.Request → List Text
  | .flightSearch, req => [req.source, req.destination]
  | .flightInfo, req => [showInt req.identifier.toInt]
  | .seatReservation, req => [showInt req.identifier.toInt, showInt req.seats.toInt]
  | .seatAvailabilityMonitoring, req =>
    [showInt req.identifier.toInt, showNat req.port.toNat, showInt req.monitorIntervalSec.toInt]
  | .priceRangeSearch, req => [showFloat req.from.bits, showFloat req.to.bits]
  | .seatReservationCancellation, req =>
    [showNat req.reservationReqId.toNat, showInt req.identifier.toInt, showInt req.seats.toInt]

/-- The lines to type to make the client send this request. -/
def Command.script (command : Command) : List Text :=
  command.kind.selection :: command.kind.fields command.request

variable {unset : UInt64} {lines rest : List Text}

theorem returns_fields {kind : Kind} {req : kind.Request} (typeable : kind.Typeable req)
    (fresh : kind.requestId req = unset) :
    Returns (promptForRequest unset kind) (kind.fields req ++ rest) req rest := by
  subst fresh
  cases kind <;> simp only [promptForRequest, returns_bind, returns_pure, Kind.fields]
  case flightSearch =>
    exact ⟨_, _, returns_spelled (readToken_spells typeable.1), _, _,
      returns_spelled (readToken_spells typeable.2), rfl, rfl⟩
  case flightInfo =>
    exact ⟨_, _, returns_spelled (readI32_spells _), rfl, rfl⟩
  case seatReservation =>
    exact ⟨_, _, returns_spelled (readI32_spells _), _, _, returns_spelled (readI32_spells _),
      rfl, rfl⟩
  case seatAvailabilityMonitoring =>
    exact ⟨_, _, returns_spelled (readI32_spells _), _, _, returns_answer (readU16_answer _), _, _,
      returns_spelled (readI32_spells _), rfl, rfl⟩
  case priceRangeSearch =>
    exact ⟨_, _, returns_spelled (readF32_spells typeable.1), _, _,
      returns_spelled (readF32_spells typeable.2), rfl, rfl⟩
  case seatReservationCancellation =>
    exact ⟨_, _, returns_answer (readU64_answer _), _, _, returns_spelled (readI32_spells _), _, _,
      returns_spelled (readI32_spells _), rfl, rfl⟩

theorem behind_of_returns {V : Type} {read : Reader V} {unread value : V}
    {prompt retryPrompt : String}
    (returned : Returns (promptForInput read unread prompt retryPrompt) lines value rest) :
    Behind rest lines := by
  obtain ⟨line, -, within⟩ := answer_returned returned
  exact ⟨line, within⟩

/-- Only what can be typed is returned. -/
theorem typeable_of_returns {kind : Kind} {req : kind.Request}
    (returned : Returns (promptForRequest unset kind) lines req rest) :
    kind.Typeable req ∧ kind.requestId req = unset ∧ Behind rest lines := by
  cases kind <;> simp only [promptForRequest, returns_bind, returns_pure] at returned
  case flightSearch =>
    obtain ⟨source, middle, asked, destination, middle', asked', rfl, rfl⟩ := returned
    obtain ⟨_, answers, -⟩ := answer_returned asked
    obtain ⟨_, answers', -⟩ := answer_returned asked'
    exact ⟨⟨token_of_answer answers, token_of_answer answers'⟩, rfl,
      (behind_of_returns asked).trans (behind_of_returns asked')⟩
  case flightInfo =>
    obtain ⟨identifier, middle, asked, rfl, rfl⟩ := returned
    exact ⟨trivial, rfl, behind_of_returns asked⟩
  case seatReservation =>
    obtain ⟨identifier, middle, asked, seats, middle', asked', rfl, rfl⟩ := returned
    exact ⟨trivial, rfl, (behind_of_returns asked).trans (behind_of_returns asked')⟩
  case seatAvailabilityMonitoring =>
    obtain ⟨identifier, middle, asked, port, middle', asked', interval, middle'', asked'', rfl, rfl⟩ :=
      returned
    exact ⟨trivial, rfl, ((behind_of_returns asked).trans (behind_of_returns asked')).trans
      (behind_of_returns asked'')⟩
  case priceRangeSearch =>
    obtain ⟨lower, middle, asked, upper, middle', asked', rfl, rfl⟩ := returned
    obtain ⟨_, answers, -⟩ := answer_returned asked
    obtain ⟨_, answers', -⟩ := answer_returned asked'
    exact ⟨⟨finite_of_answer answers, finite_of_answer answers'⟩, rfl,
      (behind_of_returns asked).trans (behind_of_returns asked')⟩
  case seatReservationCancellation =>
    obtain ⟨reservation, middle, asked, identifier, middle', asked', seats, middle'', asked'', rfl,
      rfl⟩ := returned
    exact ⟨trivial, rfl, ((behind_of_returns asked).trans (behind_of_returns asked')).trans
      (behind_of_returns asked'')⟩

variable {firstLaunch : Bool} {command : Command}

theorem selectionOf_selection (kind : Kind) : selectionOf kind.selection = some kind := by
  cases kind <;> decide

theorem selection_ne_exit (kind : Kind) : kind.selection ≠ .ofString "0" := by
  cases kind <;> decide

/-- The loop of `main` as it comes to a line that selects a request. -/
theorem returns_selected {line : Text} {kind : Kind} (goes : line ≠ .ofString "0")
    (selects : selectionOf line = some kind) :
    Returns (nextRequest unset firstLaunch) (line :: lines) command rest ↔
      ∃ req, command = ⟨kind, req⟩ ∧ Returns (promptForRequest unset kind) lines req rest := by
  have next : nextRequest unset firstLaunch (line :: lines) =
      (do
        write (menu firstLaunch)
        let req ← promptForRequest unset kind
        return Command.mk kind req : Console Command) lines := by
    rw [nextRequest, if_neg goes, selects]
  have same : Returns (nextRequest unset firstLaunch) (line :: lines) command rest ↔
      Returns (do
        write (menu firstLaunch)
        let req ← promptForRequest unset kind
        return Command.mk kind req) lines command rest := by
    unfold Returns
    rw [next]
  simp only [same, returns_bind, returns_write, returns_pure]
  constructor
  · rintro ⟨_, _, rfl, req, _, returned, rfl, rfl⟩
    exact ⟨req, rfl, returned⟩
  · rintro ⟨req, rfl, returned⟩
    exact ⟨(), lines, rfl, req, rest, returned, rfl, rfl⟩

theorem returns_script (typeable : command.kind.Typeable command.request)
    (fresh : command.id = unset) :
    Returns (nextRequest unset firstLaunch) (command.script ++ rest) command rest :=
  (returns_selected (selection_ne_exit _) (selectionOf_selection _)).mpr
    ⟨command.request, rfl, returns_fields typeable fresh⟩

/-- A request is made of what its prompts return on the lines behind its selection. -/
theorem asked_of_nextRequest (returned : Returns (nextRequest unset firstLaunch) lines command rest) :
    ∃ asked, Behind asked lines ∧
      Returns (promptForRequest unset command.kind) asked command.request rest := by
  induction lines generalizing firstLaunch with
  | nil =>
    obtain ⟨written, returned⟩ := returned
    cases returned
  | cons line lines ih =>
    by_cases exits : line = .ofString "0"
    · obtain ⟨written, returned⟩ := returned
      rw [nextRequest, if_pos exits] at returned
      cases returned
    · cases selects : selectionOf line with
      | some kind =>
        obtain ⟨req, rfl, asked⟩ := (returns_selected exits selects).mp returned
        exact ⟨lines, ⟨line, List.suffix_refl _⟩, asked⟩
      | none =>
        obtain ⟨written, returned⟩ := returned
        rw [nextRequest, if_neg exits, selects] at returned
        simp only [Prod.mk.injEq] at returned
        obtain ⟨some, left, -⟩ := returned
        obtain ⟨asked, ⟨other, within⟩, prompted⟩ := @ih false ⟨_, Prod.ext some (Prod.ext left rfl)⟩
        exact ⟨asked, ⟨other, within.trans (List.suffix_cons line lines)⟩, prompted⟩

theorem behind_of_nextRequest
    (returned : Returns (nextRequest unset firstLaunch) lines command rest) : Behind rest lines := by
  obtain ⟨asked, behind, prompted⟩ := asked_of_nextRequest returned
  exact behind.trans (typeable_of_returns prompted).2.2

/-- The scripts of requests, one after the other, make the client send these requests. -/
theorem session_scripts {commands : List Command}
    (typeable : ∀ command ∈ commands, command.kind.Typeable command.request ∧ command.id = unset)
    {bound : Nat} (enough : commands.length ≤ bound) :
    session unset firstLaunch bound (commands.flatMap Command.script) = commands := by
  induction commands generalizing firstLaunch bound with
  | nil =>
    cases bound with
    | zero => rfl
    | succ bound => rfl
  | cons command commands ih =>
    obtain ⟨bound, rfl⟩ : ∃ more, bound = more + 1 := ⟨bound - 1, by simp_all; omega⟩
    obtain ⟨here, fresh⟩ := typeable command List.mem_cons_self
    obtain ⟨written, next⟩ : Returns (nextRequest unset firstLaunch)
        (command.script ++ commands.flatMap Command.script) command
        (commands.flatMap Command.script) := returns_script here fresh
    rw [List.flatMap_cons, session, next]
    refine congrArg (command :: ·) (ih ?_ (Nat.le_of_succ_le_succ enough))
    exact fun other member => typeable other (List.mem_cons_of_mem _ member)

/-- Every request sent was prompted for somewhere in the lines. -/
theorem asked_of_session {bound : Nat} (sent : command ∈ session unset firstLaunch bound lines) :
    ∃ asked rest, asked <:+ lines ∧
      Returns (promptForRequest unset command.kind) asked command.request rest := by
  induction bound generalizing firstLaunch lines with
  | zero => cases sent
  | succ bound ih =>
    rw [session] at sent
    split at sent
    · rename_i next rest written returned
      rcases List.mem_cons.mp sent with rfl | later
      · obtain ⟨asked, ⟨line, within⟩, prompted⟩ := asked_of_nextRequest ⟨written, returned⟩
        exact ⟨asked, rest, (List.suffix_cons line asked).trans within, prompted⟩
      · obtain ⟨line, behind⟩ := behind_of_nextRequest ⟨written, returned⟩
        obtain ⟨asked, rest', within, prompted⟩ := ih later
        exact ⟨asked, rest', (within.trans (List.suffix_cons line rest)).trans behind, prompted⟩
    · cases sent

end Script

section Input

/-- Each line of a script is one line. -/
theorem newline_not_script {command : Command}
    (typeable : command.kind.Typeable command.request) : ∀ line ∈ command.script, 0x0a ∉ line := by
  obtain ⟨kind, req⟩ := command
  have selects : 0x0a ∉ kind.selection := by cases kind <;> decide
  intro line member
  rcases List.mem_cons.mp member with rfl | field
  · exact selects
  · cases kind <;> simp only [Kind.fields, List.mem_cons, List.not_mem_nil, or_false] at field
    case flightSearch =>
      rcases field with rfl | rfl
      · exact newline_not_token typeable.1
      · exact newline_not_token typeable.2
    case flightInfo =>
      subst field
      exact newline_not_showInt _
    case seatReservation =>
      rcases field with rfl | rfl <;> exact newline_not_showInt _
    case seatAvailabilityMonitoring =>
      rcases field with rfl | rfl | rfl
      · exact newline_not_showInt _
      · exact newline_not_digits _
      · exact newline_not_showInt _
    case priceRangeSearch =>
      rcases field with rfl | rfl <;> exact newline_not_showFloat _
    case seatReservationCancellation =>
      rcases field with rfl | rfl | rfl
      · exact newline_not_digits _
      · exact newline_not_showInt _
      · exact newline_not_showInt _

end Input

section Session

variable {unset : UInt64} {firstLaunch : Bool} {lines rest : List Text} {command : Command}

/-- As many requests as there are lines are enough. -/
theorem session_bound {bound enough : Nat} (first : lines.length ≤ bound)
    (second : lines.length ≤ enough) :
    session unset firstLaunch bound lines = session unset firstLaunch enough lines := by
  induction bound generalizing firstLaunch lines enough with
  | zero =>
    obtain rfl := List.length_eq_zero_iff.mp (Nat.le_zero.mp first)
    cases enough with
    | zero => rfl
    | succ enough => rfl
  | succ bound ih =>
    cases enough with
    | zero =>
      obtain rfl := List.length_eq_zero_iff.mp (Nat.le_zero.mp second)
      rfl
    | succ enough =>
      rw [session, session]
      split
      · rename_i next left written returned
        have shorter := Behind.length_lt (behind_of_nextRequest ⟨written, returned⟩)
        exact congrArg (next :: ·) (ih (by omega) (by omega))
      · rfl

/-- The requests of the lines left, one call after the other. -/
theorem session_next {written : Text}
    (next : nextRequest unset firstLaunch lines = (some command, rest, written)) :
    session unset firstLaunch lines.length lines =
      command :: session unset false rest.length rest := by
  have shorter := Behind.length_lt (behind_of_nextRequest ⟨written, next⟩)
  obtain ⟨bound, length⟩ : ∃ bound, lines.length = bound + 1 := ⟨lines.length - 1, by omega⟩
  rw [length, session, next]
  exact congrArg (command :: ·) (session_bound (by omega) (by omega))

theorem session_last {written : Text}
    (next : nextRequest unset firstLaunch lines = (none, rest, written)) :
    session unset firstLaunch lines.length lines = [] := by
  cases length : lines.length with
  | zero => rfl
  | succ bound => rw [session, next]

/-- Exactly the typeable requests can be typed, in any number and order. -/
theorem typed_iff (unset : UInt64) (commands : List Command) :
    (∃ stdin, requestsOf unset stdin = commands) ↔
      ∀ command ∈ commands, command.kind.Typeable command.request ∧ command.id = unset := by
  constructor
  · rintro ⟨stdin, rfl⟩ command sent
    obtain ⟨asked, rest, -, prompted⟩ := asked_of_session sent
    obtain ⟨typeable, fresh, -⟩ := typeable_of_returns prompted
    exact ⟨typeable, fresh⟩
  · intro typeable
    have each : ∀ line ∈ commands.flatMap Command.script, 0x0a ∉ line := by
      intro line member
      obtain ⟨command, sent, typed⟩ := List.mem_flatMap.mp member
      exact newline_not_script (typeable command sent).1 line typed
    refine ⟨unlines (commands.flatMap Command.script), ?_⟩
    rw [requestsOf, getlines_unlines each]
    refine session_scripts typeable ?_
    rw [List.length_flatMap]
    refine List.length_le_sum_of_one_le _ ?_ |>.trans_eq' (by simp)
    simp [Command.script]

end Session

end Dfis
