import InCallProximity.Proofs.Json.Literals
import InCallProximity.Proofs.Json.Records
import InCallProximity.Wire.Settings
import Mathlib.Data.List.TakeWhile

/-!
# Delays on the wire

A delay is an integer of 64 bits. It comes as a number or as a text that spells one, and
`Value.IsDelay` says which values are delays without reading them: numbers that were written with
digits alone (`Value.isDelay_literal_iff`), and texts of digits, among blanks and perhaps after a
plus sign (`Text.Spells`). Exactly these are read, each as what it is
(`Settings.delayOfValue_eq_ok_iff`).

A text is read in three steps, which have a section each: the blanks around it are trimmed, a plus
sign is taken off, and the digits are added up.
-/

namespace InCallProximity

open Json

namespace Text

/-! ## Blanks around a text -/

theorem trimStart_append {blanks text : List Char} (blank : ∀ c ∈ blanks, isBlank c = true)
    (starts : ∀ c ∈ text.head?, isBlank c = false) : trimStart (blanks ++ text) = text := by
  unfold trimStart
  rw [List.dropWhile_append_of_pos blank]
  cases text with
  | nil => rfl
  | cons c rest =>
    have full : isBlank c = false := starts c rfl
    simp [full]

/-- What stands among blanks, and has none at its ends, is what trimming leaves. -/
theorem trim_append {before core after : List Char} (blankBefore : ∀ c ∈ before, isBlank c = true)
    (blankAfter : ∀ c ∈ after, isBlank c = true) (nonempty : core ≠ [])
    (starts : ∀ c ∈ core.head?, isBlank c = false)
    (ends : ∀ c ∈ core.getLast?, isBlank c = false) : trim (before ++ core ++ after) = core := by
  have startsToo : ∀ c ∈ (core ++ after).head?, isBlank c = false := by
    rwa [List.head?_append_of_ne_nil _ nonempty]
  have endsToo : ∀ c ∈ core.reverse.head?, isBlank c = false := by
    rwa [List.head?_reverse]
  unfold trim
  rw [List.append_assoc, trimStart_append blankBefore startsToo, List.reverse_append,
    trimStart_append (by simpa using blankAfter) endsToo, List.reverse_reverse]

theorem exists_blanks_trimStart (text : List Char) :
    ∃ blanks, text = blanks ++ trimStart text ∧ ∀ c ∈ blanks, isBlank c = true :=
  ⟨text.takeWhile isBlank, List.takeWhile_append_dropWhile.symm, fun _ => List.mem_takeWhile_imp⟩

/-- Trimming takes off nothing but blanks. -/
theorem exists_blanks_trim (text : List Char) :
    ∃ before after, text = before ++ trim text ++ after ∧
      (∀ c ∈ before, isBlank c = true) ∧ ∀ c ∈ after, isBlank c = true := by
  obtain ⟨before, split, blankBefore⟩ := exists_blanks_trimStart text
  obtain ⟨after, splitToo, blankAfter⟩ := exists_blanks_trimStart (trimStart text).reverse
  refine ⟨before, after.reverse, ?_, blankBefore, by simpa using blankAfter⟩
  have whole : trimStart text = trim text ++ after.reverse := by
    unfold trim
    rw [← List.reverse_append, ← splitToo, List.reverse_reverse]
  rw [List.append_assoc, ← whole]
  exact split

/-! ## Signs -/

/-- A text without the plus sign that it starts with, if it does. -/
def unsigned : List Char → List Char
  | '+' :: rest => rest
  | text => text

theorem exists_sign (text : List Char) :
    ∃ sign, (sign = [] ∨ sign = ['+']) ∧ text = sign ++ unsigned text := by
  unfold unsigned
  split
  · exact ⟨['+'], Or.inr rfl, rfl⟩
  · exact ⟨[], Or.inl rfl, rfl⟩

/-- No digit is taken for a sign. -/
theorem unsigned_append {sign : List Char} {digits : List ℕ} (isSign : sign = [] ∨ sign = ['+'])
    (small : ∀ d ∈ digits, d < 10) :
    unsigned (sign ++ digits.map Nat.digitChar) = digits.map Nat.digitChar := by
  rcases isSign with rfl | rfl
  · cases digits with
    | nil => rfl
    | cons d ds =>
      have digit := small d List.mem_cons_self
      interval_cases d <;> rfl
  · rfl

/-! ## Texts that spell an integer -/

/-- The integer of 64 bits that some characters are the digits of. -/
def integer? (text : List Char) : Option UInt64 :=
  if text.isEmpty then none
  else match text.mapM digit? with
    | none => none
    | some digits =>
      if Literal.digitsValue digits < UInt64.size then
        some (UInt64.ofNat (Literal.digitsValue digits))
      else none

theorem integer?_eq_some_iff {text : List Char} {n : UInt64} :
    integer? text = some n ↔ ∃ digits : List ℕ, digits ≠ [] ∧ (∀ d ∈ digits, d < 10) ∧
      text = digits.map Nat.digitChar ∧ Nat.ofDigits 10 digits.reverse = n.toNat := by
  unfold integer?
  constructor
  · intro read
    split at read
    · cases read
    · next filled =>
      split at read
      · cases read
      · next digits values =>
        split at read
        · next fits =>
          obtain ⟨small, rfl⟩ := mapM_digit?_eq_some_iff.mp values
          have value := Option.some.inj read
          refine ⟨digits, by rintro rfl; exact filled rfl, small, rfl, ?_⟩
          rw [← value, ← Literal.digitsValue_eq, UInt64.toNat_ofNat_of_lt' fits]
        · cases read
  · rintro ⟨digits, nonempty, small, rfl, value⟩
    have values := mapM_digit?_eq_some_iff.mpr ⟨small, rfl⟩
    rw [← Literal.digitsValue_eq] at value
    have fits : n.toNat < UInt64.size := n.toNat_lt
    simp [nonempty, values, value, fits]

/-- Blanks, a plus sign or none, the digits of an integer, perhaps with zeros before them, and
blanks. -/
inductive Spells : List Char → ℕ → Prop where
  | intro {before sign after : List Char} {digits : List ℕ}
      (blankBefore : ∀ c ∈ before, isBlank c = true) (blankAfter : ∀ c ∈ after, isBlank c = true)
      (isSign : sign = [] ∨ sign = ['+']) (some_digit : digits ≠ [])
      (small : ∀ d ∈ digits, d < 10) :
    Spells (before ++ (sign ++ digits.map Nat.digitChar) ++ after) (Nat.ofDigits 10 digits.reverse)

theorem isBlank_digitChar {d : ℕ} (small : d < 10) : isBlank (Nat.digitChar d) = false := by
  interval_cases d <;> rfl

theorem trim_spelled {before sign after : List Char} {digits : List ℕ}
    (blankBefore : ∀ c ∈ before, isBlank c = true) (blankAfter : ∀ c ∈ after, isBlank c = true)
    (isSign : sign = [] ∨ sign = ['+']) (some_digit : digits ≠ []) (small : ∀ d ∈ digits, d < 10) :
    trim (before ++ (sign ++ digits.map Nat.digitChar) ++ after) =
      sign ++ digits.map Nat.digitChar := by
  obtain ⟨d, ds, rfl⟩ := List.exists_cons_of_ne_nil some_digit
  refine trim_append blankBefore blankAfter (by simp) ?_ ?_
  · rcases isSign with rfl | rfl
    · simpa using isBlank_digitChar (small d List.mem_cons_self)
    · simp [isBlank, blankRanges]
  · intro c last
    rw [List.getLast?_append_of_ne_nil _ (by simp), List.getLast?_map, Option.mem_def,
      Option.map_eq_some_iff] at last
    obtain ⟨e, last, rfl⟩ := last
    exact isBlank_digitChar (small e (List.mem_of_getLast? last))

end Text

namespace Settings

theorem delayOfText?_eq (s : String) :
    delayOfText? s = Text.integer? (Text.unsigned (Text.trim s.toList)) := rfl

theorem delayOfText?_eq_some_iff {s : String} {n : UInt64} :
    delayOfText? s = some n ↔ Text.Spells s.toList n.toNat := by
  rw [delayOfText?_eq, Text.integer?_eq_some_iff]
  constructor
  · rintro ⟨digits, some_digit, small, text, value⟩
    obtain ⟨before, after, split, blankBefore, blankAfter⟩ := Text.exists_blanks_trim s.toList
    obtain ⟨sign, isSign, signed⟩ := Text.exists_sign (Text.trim s.toList)
    rw [split, signed, text, ← value]
    exact .intro blankBefore blankAfter isSign some_digit small
  · generalize s.toList = text, n.toNat = m
    rintro ⟨blankBefore, blankAfter, isSign, some_digit, small⟩
    rw [Text.trim_spelled blankBefore blankAfter isSign some_digit small,
      Text.unsigned_append isSign small]
    exact ⟨_, some_digit, small, rfl, rfl⟩

end Settings

/-! ## Values that are delays -/

namespace Json

/-- An unsigned integer, or a text that spells it. -/
inductive Value.IsDelay (n : UInt64) : Value → Prop where
  | number : IsDelay n (.number (.unsigned n))
  | text {s : String} (spells : Text.Spells s.toList n.toNat) : IsDelay n (.text s)

/-- Of the numbers, those are delays that are written with digits alone. -/
theorem Value.isDelay_literal_iff {l : Literal} {text : List Char} (isText : l.IsText text)
    {n : UInt64} :
    (∃ v, Source.keep (Document.scalar (.number l.number?)) = .ok v ∧ v.IsDelay n) ↔
      ∃ digits : List ℕ, (∀ d ∈ digits, d < 10) ∧ text = digits.map Nat.digitChar ∧
        Nat.ofDigits 10 digits.reverse = n.toNat := by
  rw [← isText.unsigned_iff]
  generalize l.number? = read
  constructor
  · rintro ⟨v, kept, isDelay⟩
    cases read with
    | none => cases kept
    | some number =>
      cases kept
      cases isDelay
      rfl
  · rintro rfl
    exact ⟨_, rfl, .number⟩

end Json

namespace Settings

theorem delayOfValue_eq_ok_iff {v : Value} {n : UInt64} :
    delayOfValue v = .ok n ↔ v.IsDelay n := by
  constructor
  · intro read
    unfold delayOfValue at read
    split at read
    · cases read
      exact .number
    · split at read
      · next spelled =>
        cases read
        exact .text (delayOfText?_eq_some_iff.mp spelled)
      · cases read
    · cases read
  · rintro (_ | spells)
    · rfl
    · unfold delayOfValue
      simp only [delayOfText?_eq_some_iff.mpr spells]

/-- What is wrong with a value that is no delay. A text is told as it stands. -/
def delayCause : Value → Cause
  | .text s => .badDelay s
  | _ => .noDelay

theorem delayOfValue_of_not_isDelay {v : Value} (noDelay : ∀ n, ¬v.IsDelay n) :
    delayOfValue v = .error (.data (delayCause v)) := by
  unfold delayOfValue
  split
  · exact absurd .number (noDelay _)
  · next s =>
    split
    · next n spelled => exact absurd (.text (delayOfText?_eq_some_iff.mp spelled)) (noDelay n)
    · rfl
  · next noNumber noText =>
    unfold delayCause
    split
    · exact absurd rfl (noText _)
    · rfl

theorem decodeDelay_eq_ok_iff {δ : Type} [Source δ] {d : δ} {n : UInt64} :
    decodeDelay d = .ok n ↔ ∃ v, Source.keep d = .ok v ∧ v.IsDelay n := by
  unfold decodeDelay
  simp only [bind_eq_ok_iff, delayOfValue_eq_ok_iff]

end Settings

end InCallProximity
