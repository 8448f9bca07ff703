import Dfis.Wire.Reader

/-! Rules for decoder bodies, one for each kind of field: what a body yields
from an encoding, and what its acceptance says about the bytes it consumed. -/

namespace Dfis.Wire

namespace Reader

/-- Wherever these bytes start in a span, the body consumes exactly them. -/
def Yields (body : Reader α) (content : List UInt8) (value : α) : Prop :=
  ∀ (data : Span) (before after : List UInt8), data.bytes = before ++ (content ++ after) →
    body data (Int64.ofNat before.length) =
      .ok (value, Int64.ofNat (before.length + content.length))

/-- From any cursor inside the span, the body stays inside and either rejects
or returns a value whose encoding is `before` and the bytes it consumed. -/
def Inverts (body : Reader α) (before : List UInt8) (encode : α → List UInt8) : Prop :=
  ∀ (data : Span) (k : Nat), k ≤ data.bytes.length →
    body data (Int64.ofNat k) = .error .rejected ∨
    ∃ width value, k + width ≤ data.bytes.length ∧
      body data (Int64.ofNat k) = .ok (value, Int64.ofNat (k + width)) ∧
      encode value = before ++ (data.bytes.drop k).take width

theorem bind_ok {first : Reader α} (done : first data p = .ok (value, moved)) (next : α → Reader β) :
    (first >>= next) data p = next value data moved := by
  change Reader.bind first next data p = _
  simp [Reader.bind, done]

theorem bind_error {first : Reader α} (stopped : first data p = .error stop) (next : α → Reader β) :
    (first >>= next) data p = .error stop := by
  change Reader.bind first next data p = _
  simp [Reader.bind, stopped]

theorem number_short [Narrow width] {code : α ≃ Block width} (data : Span)
    (inside : k ≤ data.bytes.length) (short : data.bytes.length < k + width) :
    number code data (Int64.ofNat k) = .error .rejected := by
  simp [number, data.overrun_cursor inside, short]

theorem number_ok [Narrow width] (code : α ≃ Block width) (data : Span)
    (room : k + width ≤ data.bytes.length) :
    ∃ value, number code data (Int64.ofNat k) = .ok (value, Int64.ofNat (k + width)) ∧
      (code value).toList = (data.bytes.drop k).take width := by
  obtain ⟨block, found, content⟩ := data.block?_cursor room
  have enough : ¬ data.bytes.length < k + width := by omega
  refine ⟨code.symm block, ?_, by simpa using content⟩
  simp [number, data.overrun_cursor (Nat.le_of_add_right_le room), enough, found]

theorem bind_assoc (body : Reader α) (second : α → Reader β) (third : β → Reader γ) :
    (body >>= second) >>= third = body >>= fun value => second value >>= third := by
  funext data p
  change Reader.bind (Reader.bind body second) third data p =
    Reader.bind body (fun value => Reader.bind (second value) third) data p
  unfold Reader.bind
  cases body data p <;> rfl

theorem bind_pure (body : Reader α) : body >>= pure = body := by
  funext data p
  change Reader.bind body Reader.pure data p = body data p
  unfold Reader.bind
  cases body data p <;> rfl

namespace Yields

theorem of_eq {body : Reader α} (same : content = other) (yields : Yields body content value) :
    Yields body other value :=
  same ▸ yields

theorem pure (value : α) : Yields (Pure.pure value) [] value := by
  intro data before after split
  rfl

theorem bind {first : Reader α} {next : α → Reader β} (leads : Yields first content value)
    (rest : Yields (next value) more result) :
    Yields (first >>= next) (content ++ more) result := by
  intro data before after split
  have read := leads data before (more ++ after) (by simp [split])
  have following := rest data (before ++ content) after (by simp [split])
  rw [bind_ok read]
  simpa [Nat.add_assoc] using following

theorem number [Narrow width] {code : α ≃ Block width} {value : α} :
    Yields (Reader.number code) (code value).toList value := by
  intro data before after split
  have room : before.length + width ≤ data.bytes.length := by simp [split]
  obtain ⟨found, read, same⟩ := number_ok code data room
  have block : (code found).toList = (code value).toList := by
    simp [same, split]
  obtain rfl : found = value := code.injective (Subtype.ext block)
  simpa using read

theorem coded {codec : Codec α} (lawful : codec.RoundTrips) :
    Yields (Reader.coded codec) (codec.marshal value) value := by
  intro data before after split
  obtain ⟨remaining, found, same⟩ :=
    data.rest?_cursor (show before.length ≤ data.bytes.length by simp [split])
  have decoded := lawful value after remaining (by simp [same, split])
  simp [Reader.coded, found, decoded]

theorem expect [DecidableEq α] [Narrow width] {code : α ≃ Block width} {tag : α} :
    Yields (Reader.expect code tag) (code tag).toList () := by
  refine .of_eq (List.append_nil _) (.bind .number ?_)
  simpa using Yields.pure ()

theorem run {body : Reader α} (yields : Yields body content value) (data : Span)
    (split : data.bytes = content ++ after) :
    body.run data = .ok (Int64.ofNat content.length, some value) := by
  have start := yields data [] after split
  simp only [List.length_nil, Nat.zero_add] at start
  simp only [Reader.run]
  rw [show body data 0 = _ from start]

end Yields

namespace Inverts

theorem pure {encode : α → List UInt8} (same : encode value = before) :
    Inverts (Pure.pure value) before encode := by
  intro data k inside
  exact .inr ⟨0, value, inside, rfl, by simpa using same⟩

theorem reject {encode : α → List UInt8} : Inverts Reader.reject before encode :=
  fun _ _ _ => .inl rfl

theorem bind {first : Reader α} {next : α → Reader β} {field : α → List UInt8}
    {encode : β → List UInt8} (leads : Inverts first [] field)
    (rest : ∀ value, Inverts (next value) (before ++ field value) encode) :
    Inverts (first >>= next) before encode := by
  intro data k inside
  rcases leads data k inside with stopped | ⟨width, value, room, read, own⟩
  · exact .inl (bind_error stopped next)
  · rw [bind_ok read]
    rcases rest value data (k + width) room with stopped | ⟨more, result, bound, final, same⟩
    · exact .inl stopped
    · refine .inr ⟨width + more, result, by omega, by simpa [Nat.add_assoc] using final, ?_⟩
      rw [same, own, List.nil_append, List.append_assoc, List.take_add, List.drop_drop]

theorem number [Narrow width] {code : α ≃ Block width} :
    Inverts (Reader.number code) [] fun value => (code value).toList := by
  intro data k inside
  by_cases room : k + width ≤ data.bytes.length
  · obtain ⟨value, read, same⟩ := number_ok code data room
    exact .inr ⟨width, value, room, read, by simpa using same⟩
  · exact .inl (number_short data inside (by omega))

theorem coded {codec : Codec α} (lawful : codec.Sound) :
    Inverts (Reader.coded codec) [] codec.marshal := by
  intro data k inside
  obtain ⟨remaining, found, bytes⟩ := data.rest?_cursor inside
  rcases lawful remaining with ⟨count, none⟩ | ⟨width, value, bound, decoded, same⟩
  · exact .inl (by simp [Reader.coded, found, none])
  · refine .inr ⟨width, value, ?_, by simp [Reader.coded, found, decoded], by simp [same, bytes]⟩
    simp only [bytes, List.length_drop] at bound
    omega

theorem expect [DecidableEq α] [Narrow width] {code : α ≃ Block width} {tag : α} :
    Inverts (Reader.expect code tag) [] fun _ => (code tag).toList := by
  refine .bind .number fun found => ?_
  by_cases agree : found = tag
  · subst agree
    simpa using Inverts.pure rfl
  · simpa [agree] using Inverts.reject

end Inverts

theorem run_expect_other [DecidableEq α] [Narrow width] {code : α ≃ Block width} {next : Unit → Reader β}
    {data : Span} (differ : sent ≠ tag) (starts : data.bytes = (code sent).toList ++ body) :
    (expect code tag >>= next).run data = .ok (0, none) := by
  have read : number code data 0 = .ok (sent, _) := Yields.number data [] body starts
  have stopped : expect code tag data 0 = .error .rejected := by
    rw [expect, bind_ok read, if_pos differ]
    rfl
  simp only [run, bind_error stopped next]

end Reader

/-- The outcomes of a decoder that accepts encodings only and never reads
outside its input: `(0, none)`, or a value encoded by the consumed bytes. -/
def Codec.Strict (codec : Codec α) : Prop :=
  ∀ data : Span, codec.unmarshal data = .ok (0, none) ∨
    ∃ width value, width ≤ data.bytes.length ∧
      codec.unmarshal data = .ok (Int64.ofNat width, some value) ∧
      codec.marshal value = data.bytes.take width

theorem Codec.Strict.sound {codec : Codec α} (strict : codec.Strict) : codec.Sound := by
  intro data
  rcases strict data with rejected | accepted
  · exact .inl ⟨0, rejected⟩
  · exact .inr accepted

theorem Codec.RoundTrips.value? {codec : Codec α} (lawful : codec.RoundTrips) {data : Span}
    (split : data.bytes = codec.marshal value ++ after) :
    value? (codec.unmarshal data) = some value := by
  rw [lawful value after data split]
  rfl

theorem Codec.Sound.starts {codec : Codec α} (sound : codec.Sound) {data : Span}
    (found : Wire.value? (codec.unmarshal data) = some value) :
    ∃ after, data.bytes = codec.marshal value ++ after := by
  rcases sound data with ⟨count, none⟩ | ⟨width, decoded, _, accepted, same⟩
  · rw [none] at found
    cases found
  · rw [accepted] at found
    obtain rfl : decoded = value := Option.some.inj found
    exact ⟨data.bytes.drop width, by rw [same, List.take_append_drop]⟩

theorem Reader.Inverts.strict {body : Reader α} {encode : α → List UInt8}
    (inverts : Inverts body [] encode) : Codec.Strict ⟨encode, body.run⟩ := by
  intro data
  rcases inverts data 0 (Nat.zero_le _) with stopped | ⟨width, value, bound, read, same⟩
  · left
    simp only [Reader.run]
    rw [show body data 0 = _ from stopped]
  · refine .inr ⟨width, value, by omega, ?_, by simpa using same⟩
    simp only [Nat.zero_add] at read
    simp only [Reader.run]
    rw [show body data 0 = _ from read]

theorem Reader.Yields.roundTrips {body : Reader α} {encode : α → List UInt8}
    (yields : ∀ value, Yields body (encode value) value) : Codec.RoundTrips ⟨encode, body.run⟩ :=
  fun value _ data split => (yields value).run data split

end Dfis.Wire
