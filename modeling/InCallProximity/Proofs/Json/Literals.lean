import InCallProximity.Proofs.Json.Building
import Mathlib.Data.Nat.Digits.Defs

/-!
# Number literals as they are written

A number literal is read character by character into its parts. `Literal.IsText` says which texts
are read so, and as which literal. Such a text stands for the number of the literal wherever a value
is due (`Literal.IsText.builds`). Those whose characters are all digits are the unsigned integers,
as long as 64 bits hold them (`Literal.IsText.unsigned_iff`): a sign, a point or an exponent makes
every number something else.
-/

namespace InCallProximity.Json

/-! ## Digits -/

theorem digit?_eq_some_iff {c : Char} {d : ℕ} :
    digit? c = some d ↔ d < 10 ∧ c = Nat.digitChar d := by
  constructor
  · intro digit
    unfold digit? at digit
    split at digit
    case isTrue between =>
      obtain ⟨low, high⟩ := between
      have low : 48 ≤ c.toNat := low
      have high : c.toNat ≤ 57 := high
      have value : c.toNat - 48 = d := Option.some.inj digit
      refine ⟨by omega, ?_⟩
      rw [← Char.ofNat_toNat c, ← value]
      interval_cases c.toNat <;> rfl
    case isFalse => cases digit
  · rintro ⟨small, rfl⟩
    exact digit?_digitChar small

theorem mapM_digit?_eq_some_iff {cs : List Char} {ds : List ℕ} :
    cs.mapM digit? = some ds ↔ (∀ d ∈ ds, d < 10) ∧ cs = ds.map Nat.digitChar := by
  induction cs generalizing ds with
  | nil => cases ds <;> simp
  | cons c cs ih =>
    cases ds with
    | nil => simp [List.mapM_cons, Option.bind_eq_some_iff]
    | cons d ds =>
      simp only [List.mapM_cons, Option.pure_def, Option.bind_eq_bind, Option.bind_eq_some_iff,
        Option.some.injEq, List.cons.injEq, List.forall_mem_cons, List.map_cons, ih,
        digit?_eq_some_iff]
      constructor
      · rintro ⟨_, ⟨small, rfl⟩, _, ⟨smallToo, rfl⟩, rfl, rfl⟩
        exact ⟨⟨small, smallToo⟩, rfl, rfl⟩
      · rintro ⟨⟨small, smallToo⟩, rfl, rfl⟩
        exact ⟨d, ⟨small, rfl⟩, ds, ⟨smallToo, rfl⟩, rfl, rfl⟩

/-- Digits are added up as the digits of a number in base ten are, the last of which counts
once. -/
theorem Literal.digitsValue_eq (ds : List ℕ) : digitsValue ds = Nat.ofDigits 10 ds.reverse := by
  rw [Nat.ofDigits_eq_foldr, List.foldr_reverse]
  unfold digitsValue
  congr
  funext n d
  simp [add_comm]

/-! ## Numbers as they are written -/

/-- The characters are a number literal, whose parts these are. -/
inductive Literal.IsText (l : Literal) : List Char → Prop where
  | plain {text : List Char} {phase : Phase} (complete : phase.isComplete = true)
      (cut : (Mode.number (.start false) .sign).cut text = ⟨[], .number l phase⟩) :
    IsText l text
  | signed {text : List Char} {phase : Phase} (complete : phase.isComplete = true)
      (cut : (Mode.number (.start true) .sign).cut text = ⟨[], .number l phase⟩) :
    IsText l ('-' :: text)

/-- The digits of the whole part come next, or what ends it. -/
def Phase.isWhole : Phase → Bool
  | .sign | .zero | .whole => true
  | _ => false

namespace Literal

variable {l next : Literal} {phase after : Phase} {c : Char}

theorem orMark_goes (goes : l.orMark c = .goes next after) : next.isReal = true := by
  unfold orMark at goes
  split at goes <;> cases goes
  rfl

theorem orPoint_goes (goes : l.orPoint c = .goes next after) : next.isReal = true := by
  unfold orPoint at goes
  split at goes
  · cases goes
    rfl
  · exact orMark_goes goes

/-- Digits lengthen the whole part, anything else makes the number real. -/
theorem step_whole (isWhole : phase.isWhole = true) (goes : l.step phase c = .goes next after) :
    (∃ d < 10, c = Nat.digitChar d ∧ next = l.withWhole d ∧ after.isWhole = true) ∨
      digit? c = none ∧ next.isReal = true := by
  cases digit : digit? c with
  | none =>
    refine Or.inr ⟨rfl, ?_⟩
    cases phase with
    | sign => simp [step, first, digit] at goes
    | zero | whole =>
      simp only [step, digit] at goes
      exact orPoint_goes goes
    | _ => cases isWhole
  | some d =>
    obtain ⟨small, rfl⟩ := digit?_eq_some_iff.mp digit
    refine Or.inl ⟨d, small, rfl, ?_⟩
    cases phase with
    | sign =>
      simp only [step, first, digit] at goes
      cases goes
      exact ⟨rfl, by split <;> rfl⟩
    | zero => simp [step, digit] at goes
    | whole =>
      simp only [step, digit] at goes
      cases goes
      exact ⟨rfl, rfl⟩
    | _ => cases isWhole

/-- A number that is real stays so. -/
theorem step_real (isReal : l.isReal = true) (goes : l.step phase c = .goes next after) :
    next.isReal = true := by
  cases digit : digit? c with
  | some d =>
    cases phase with
    | zero => simp [step, digit] at goes
    | sign | whole | point | fraction | mark | markSign | exponent =>
      simp only [step, first, digit] at goes
      cases goes
      exact isReal
  | none =>
    cases phase with
    | sign | point | markSign | exponent => simp [step, first, digit] at goes
    | zero | whole =>
      simp only [step, digit] at goes
      exact orPoint_goes goes
    | fraction =>
      simp only [step, digit] at goes
      exact orMark_goes goes
    | mark =>
      simp only [step, digit] at goes
      split at goes
      · cases goes
        exact isReal
      · split at goes <;> cases goes
        exact isReal

end Literal

/-- While a number literal is read, every character goes on with it. -/
theorem Mode.exists_goes {l last : Literal} {phase phaseToo : Phase} {c : Char} {rest : List Char}
    (cut : (Mode.number l phase).cut (c :: rest) = ⟨[], .number last phaseToo⟩) :
    ∃ next after, l.step phase c = .goes next after ∧
      (Mode.number next after).cut rest = ⟨[], .number last phaseToo⟩ := by
  rw [cut_cons, Mode.step] at cut
  split at cut
  · next next after goes =>
    rw [List.append_nil] at cut
    exact ⟨next, after, goes, cut⟩
  · simp at cut
  · simp at cut

theorem Literal.cut_real {l last : Literal} {phase phaseToo : Phase} {text : List Char}
    (isReal : l.isReal = true)
    (cut : (Mode.number l phase).cut text = ⟨[], .number last phaseToo⟩) :
    last.isReal = true := by
  induction text generalizing l phase with
  | nil =>
    cases cut
    exact isReal
  | cons c rest ih =>
    obtain ⟨next, after, goes, cut⟩ := Mode.exists_goes cut
    exact ih (step_real isReal goes) cut

/-- A number of digits alone has them all in its whole part, and every other number is real. -/
theorem Literal.cut_cases {l last : Literal} {phase phaseToo : Phase} {text : List Char}
    (isWhole : phase.isWhole = true)
    (cut : (Mode.number l phase).cut text = ⟨[], .number last phaseToo⟩) :
    (∃ digits : List ℕ, (∀ d ∈ digits, d < 10) ∧ text = digits.map Nat.digitChar ∧
        last = { l with whole := l.whole ++ digits }) ∨
      last.isReal = true ∧ ∃ c ∈ text, digit? c = none := by
  induction text generalizing l phase with
  | nil =>
    cases cut
    exact Or.inl ⟨[], by simp⟩
  | cons c rest ih =>
    obtain ⟨next, after, goes, cut⟩ := Mode.exists_goes cut
    rcases step_whole isWhole goes with ⟨d, small, rfl, rfl, stillWhole⟩ | ⟨noDigit, isReal⟩
    · rcases ih stillWhole cut with ⟨digits, smalls, rfl, rfl⟩ | ⟨isReal, e, among, noDigit⟩
      · refine Or.inl ⟨d :: digits, List.forall_mem_cons.mpr ⟨small, smalls⟩, rfl, ?_⟩
        simp [withWhole]
      · exact Or.inr ⟨isReal, e, List.mem_cons_of_mem _ among, noDigit⟩
    · exact Or.inr ⟨cut_real isReal cut, c, List.mem_cons_self, noDigit⟩

/-- The numbers that are read as unsigned integers are written without sign, point and exponent,
and are below the limit. -/
theorem Literal.number?_eq_unsigned_iff {l : Literal} {n : UInt64} :
    l.number? = some (.unsigned n) ↔
      l.isReal = false ∧ l.negative = false ∧ Nat.ofDigits 10 l.whole.reverse = n.toNat := by
  have real : ∀ x : Option Double, x.map Number.float ≠ some (.unsigned n) := by
    intro x same
    cases x <;> cases same
  rw [← digitsValue_eq]
  obtain ⟨negative, whole, fraction, exponentNegative, exponent, isReal⟩ := l
  rcases isReal with _ | _
  · rcases negative with _ | _
    · by_cases fits : digitsValue whole < UInt64.size
      · have value : (UInt64.ofNat (digitsValue whole)).toNat = digitsValue whole :=
          UInt64.toNat_ofNat_of_lt' fits
        simp [number?, fits, ← UInt64.toNat_inj, value]
      · have beyond : digitsValue whole ≠ n.toNat := fun same => fits (same ▸ n.toNat_lt)
        simp [number?, fits, real, beyond]
    · by_cases below : 0 < digitsValue whole ∧ digitsValue whole ≤ negativeCount
      · simp [number?, below]
      · simp [number?, below, real]
  · simp [number?, real]

/-- The numbers that are read as unsigned integers are written with digits alone, and are below the
limit. -/
theorem Literal.IsText.unsigned_iff {l : Literal} {text : List Char} (isText : l.IsText text)
    {n : UInt64} :
    l.number? = some (.unsigned n) ↔ ∃ digits : List ℕ, (∀ d ∈ digits, d < 10) ∧
      text = digits.map Nat.digitChar ∧ Nat.ofDigits 10 digits.reverse = n.toNat := by
  rw [number?_eq_unsigned_iff]
  cases isText with
  | plain complete cut =>
    rcases cut_cases rfl cut with ⟨digits, small, rfl, rfl⟩ | ⟨isReal, c, among, noDigit⟩
    · constructor
      · rintro ⟨-, -, value⟩
        exact ⟨digits, small, rfl, value⟩
      · rintro ⟨same, smallToo, written, value⟩
        -- Digits that are written alike are read alike, so they are the same.
        have read := mapM_digit?_eq_some_iff.mpr ⟨small, rfl⟩
        rw [mapM_digit?_eq_some_iff.mpr ⟨smallToo, written⟩] at read
        obtain rfl := Option.some.inj read
        exact ⟨rfl, rfl, value⟩
    · refine iff_of_false (fun integer => ?_) ?_
      · rw [isReal] at integer
        cases integer.1
      · rintro ⟨digits, small, rfl, -⟩
        obtain ⟨d, amongDigits, rfl⟩ := List.mem_map.mp among
        rw [digit?_digitChar (small d amongDigits)] at noDigit
        cases noDigit
  | signed complete cut =>
    refine iff_of_false ?_ ?_
    · rintro ⟨integer, unsigned, -⟩
      rcases cut_cases rfl cut with ⟨digits, -, -, rfl⟩ | ⟨isReal, -⟩
      · cases unsigned
      · rw [isReal] at integer
        cases integer
    · rintro ⟨digits, small, written, -⟩
      have sign : '-' ∈ digits.map Nat.digitChar := written ▸ List.mem_cons_self
      obtain ⟨d, among, same⟩ := List.mem_map.mp sign
      have digit := digit?_digitChar (small d among)
      rw [same] at digit
      cases digit

theorem Literal.exists_first {negative : Bool} {l : Literal} {phase : Phase} {text : List Char}
    (complete : phase.isComplete = true)
    (cut : (Mode.number (.start negative) .sign).cut text = ⟨[], .number l phase⟩) :
    ∃ d < 10, ∃ rest, text = Nat.digitChar d :: rest := by
  cases text with
  | nil =>
    cases cut
    cases complete
  | cons c rest =>
    obtain ⟨next, after, goes, -⟩ := Mode.exists_goes cut
    simp only [step, first] at goes
    split at goes
    · next d digit =>
      obtain ⟨small, rfl⟩ := digit?_eq_some_iff.mp digit
      exact ⟨d, small, rest, rfl⟩
    · cases goes

/-- A number literal is a text of the number that it stands for. -/
theorem Literal.IsText.builds {l : Literal} {text : List Char} (isText : l.IsText text) :
    Builds text (.scalar (.number l.number?)) := by
  cases isText with
  | plain complete cut =>
    obtain ⟨d, small, rest, rfl⟩ := exists_first complete cut
    exact .of_scalar (@cuts_number false _ small _ _ _ complete cut)
  | signed complete cut =>
    obtain ⟨d, small, rest, rfl⟩ := exists_first complete cut
    exact .of_scalar (@cuts_number true _ small _ _ _ complete cut)

end InCallProximity.Json
