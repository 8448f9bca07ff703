import Dfis.Input.Exact

/-! Words and lines: texts that are read back as they are written. -/

namespace Dfis.Input

section Words

/-- A text that is read as one word. -/
def Token (text : List UInt8) : Prop := text ≠ [] ∧ text.all (!isSpace ·) = true

theorem readToken_spells {token : List UInt8} (one : Token token) : readToken.Spells token token := by
  have visible : ∀ c ∈ token.head?, isSpace c = false := by
    intro c first
    simpa using List.all_eq_true.mp one.2 c (List.mem_of_mem_head? first)
  refine Reader.spells_of one.1 visible fun after blank => ?_
  have stop : ∀ c ∈ after.head?, (!isSpace c) = false := by
    intro c first
    simp [blank c first]
  rw [readToken, takeWhile_append_stop one.2 stop, dropWhile_append_stop one.2 stop]

theorem token_of_field {text token rest : List UInt8}
    (there : readToken.field? text = some (token, rest)) : Token token := by
  unfold Reader.field? at there
  cases blanks : text.dropWhile isSpace with
  | nil => simp [blanks] at there
  | cons c left =>
    have visible : isSpace c = false := by
      have head := List.head?_dropWhile_not isSpace text
      simpa [blanks] using head
    simp only [blanks, readToken, if_true, Option.some.injEq, Prod.mk.injEq] at there
    obtain ⟨rfl, -⟩ := there
    exact ⟨by simp [visible], List.all_takeWhile⟩

end Words

section Lines

/-- Lines as a text. -/
def unlines (lines : List (List UInt8)) : List UInt8 := lines.flatMap (· ++ [0x0a])

theorem getlines_append {line : List UInt8} (one : 0x0a ∉ line) (text : List UInt8) :
    getlines (line ++ 0x0a :: text) = line :: getlines text := by
  induction line with
  | nil => simp [getlines]
  | cons c line ih =>
    have visible : c ≠ 0x0a := fun same => one (same ▸ List.mem_cons_self)
    rw [List.cons_append, getlines, if_neg visible, ih (fun member => one (List.mem_cons_of_mem _ member))]

theorem getlines_unlines {lines : List (List UInt8)} (each : ∀ line ∈ lines, 0x0a ∉ line) :
    getlines (unlines lines) = lines := by
  induction lines with
  | nil => rfl
  | cons line lines ih =>
    have first := getlines_append (each line List.mem_cons_self) (unlines lines)
    rw [ih fun other member => each other (List.mem_cons_of_mem _ member)] at first
    simpa [unlines] using first

theorem newline_not_token {text : List UInt8} (one : Token text) : 0x0a ∉ text := by
  intro member
  have visible := List.all_eq_true.mp one.2 0x0a member
  exact absurd visible (by decide)

theorem newline_not_digits (number : Nat) : 0x0a ∉ showNat number := by
  intro member
  have digit := List.all_eq_true.mp (showNat_digits number) 0x0a member
  exact absurd digit (by decide)

theorem newline_not_showInt (number : Int) : 0x0a ∉ showInt number := by
  unfold showInt
  split <;> simp [newline_not_digits]

theorem newline_not_showFloat (bits : UInt32) : 0x0a ∉ showFloat bits := by
  unfold showFloat showSign
  simp only
  split <;> simp [newline_not_digits]

end Lines

end Dfis.Input
