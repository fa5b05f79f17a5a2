import InCallProximity.Proofs.Json.Cutting
import Mathlib.Tactic.Ring

/-!
# Number literals with a fraction or an exponent

The texts of decimals are cut into one literal each (`spells_plain`, `spells_scientific`). As long
as all digits fit the significand, none is dropped, and the literal is read as the number that all
its digits spell, times a power of ten (`Literal.scaled_of_fits`).
-/

namespace InCallProximity.Json

/-! ## Significands -/

namespace Literal

theorem foldl_digits (significand : Nat) (ds : List Nat) :
    ds.foldl (fun n d => 10 * n + d) significand =
      significand * 10 ^ ds.length + digitsValue ds := by
  unfold digitsValue
  induction ds generalizing significand with
  | nil => simp
  | cons d rest ih =>
    rw [List.foldl_cons, List.foldl_cons, ih, ih (10 * 0 + d), List.length_cons, Nat.pow_succ]
    ring

theorem digitsValue_append (ds es : List Nat) :
    digitsValue (ds ++ es) = digitsValue ds * 10 ^ es.length + digitsValue es := by
  rw [← foldl_digits, digitsValue, List.foldl_append]
  rfl

theorem digitsValue_replicate_zero (n : Nat) : digitsValue (List.replicate n 0) = 0 := by
  induction n with
  | zero => rfl
  | succ n ih => rw [List.replicate_succ', digitsValue_append_singleton, ih]

theorem small_replicate_zero (n : Nat) : ∀ d ∈ List.replicate n 0, d < 10 :=
  fun _ among => List.eq_of_mem_replicate among ▸ (by decide : 0 < 10)

/-- Digits that fit are all taken up. -/
theorem absorb_of_fits {significand : Nat} {ds : List Nat}
    (fits : significand * 10 ^ ds.length + digitsValue ds < significandLimit) :
    absorb significand ds = (significand * 10 ^ ds.length + digitsValue ds, []) := by
  rw [← foldl_digits] at fits ⊢
  induction ds generalizing significand with
  | nil => rfl
  | cons d rest ih =>
    rw [List.foldl_cons] at fits ⊢
    have first : 10 * significand + d < significandLimit := by
      rw [foldl_digits] at fits
      have power : 0 < 10 ^ rest.length := Nat.pow_pos (by decide)
      have atLeast := Nat.le_mul_of_pos_right (10 * significand + d) power
      omega
    rw [absorb, if_pos first, ih fits]

/-- The digits before and after the point make up the significand. -/
theorem scaled_of_fits {l : Literal}
    (fits : digitsValue (l.whole ++ l.fraction) < significandLimit) :
    l.scaled = (digitsValue (l.whole ++ l.fraction),
      (if l.exponentNegative then -(digitsValue l.exponent : Int) else digitsValue l.exponent) -
        l.fraction.length) := by
  rw [digitsValue_append] at fits ⊢
  have wholeFits : 0 * 10 ^ l.whole.length + digitsValue l.whole < significandLimit := by
    have power : 0 < 10 ^ l.fraction.length := Nat.pow_pos (by decide)
    have atLeast := Nat.le_mul_of_pos_right (digitsValue l.whole) power
    omega
  unfold scaled
  rw [absorb_of_fits wholeFits, Nat.zero_mul, Nat.zero_add]
  simp only [absorb_of_fits fits, List.length_nil]
  congr 1
  omega

end Literal

/-! ## Texts -/

/-- The text, without a sign, is a complete literal for this significand and power of ten. -/
structure Spells (negative : Bool) (text : List Char) (scaled : Nat × Int) : Prop where
  first : ∃ d < 10, ∃ rest, text = Nat.digitChar d :: rest
  literal : ∃ l phase, (Mode.number (.start negative) .sign).cut text = ⟨[], .number l phase⟩ ∧
    phase.isComplete = true ∧ l.negative = negative ∧ l.isReal = true ∧ l.scaled = scaled

section Texts

variable {negative : Bool} {d : Nat} {ds : List Nat}

theorem cut_fraction (l : Literal) (small : ∀ c ∈ d :: ds, c < 10) :
    (Mode.number l .point).cut ((d :: ds).map Nat.digitChar) =
      ⟨[], .number { l with fraction := l.fraction ++ d :: ds } .fraction⟩ := by
  rw [List.forall_mem_cons] at small
  have begins : (Mode.number l .point).step (Nat.digitChar d) =
      ([], .number { l with fraction := l.fraction ++ [d] } .fraction) := by
    simp only [Mode.step, Literal.step, digit?_digitChar small.1, Literal.withFraction]
  rw [List.map_cons, Mode.cut_cons, begins,
    @cut_digits _ (fun ds => { l with fraction := l.fraction ++ ds }) ?_ _ _ small.2]
  · rfl
  · intro ds d c digit
    simp only [Literal.step, digit, Literal.withFraction, List.append_assoc]

theorem cut_exponent (l : Literal) (small : ∀ c ∈ d :: ds, c < 10) :
    (Mode.number l .markSign).cut ((d :: ds).map Nat.digitChar) =
      ⟨[], .number { l with exponent := l.exponent ++ d :: ds } .exponent⟩ := by
  rw [List.forall_mem_cons] at small
  have begins : (Mode.number l .markSign).step (Nat.digitChar d) =
      ([], .number { l with exponent := l.exponent ++ [d] } .exponent) := by
    simp only [Mode.step, Literal.step, digit?_digitChar small.1, Literal.withExponent]
  rw [List.map_cons, Mode.cut_cons, begins,
    @cut_digits _ (fun ds => { l with exponent := l.exponent ++ ds }) ?_ _ _ small.2]
  · rfl
  · intro ds d c digit
    simp only [Literal.step, digit, Literal.withExponent, List.append_assoc]

/-- A point follows a whole part. -/
theorem step_point (l : Literal) {phase : Phase} (after : phase = .zero ∨ phase = .whole) :
    (Mode.number l phase).step '.' = ([], .number { l with isReal := true } .point) := by
  rcases after with rfl | rfl <;> rfl

/-- An exponent and its sign follow a whole part or a fraction. -/
theorem cut_mark (l : Literal) {phase : Phase} (complete : phase.isComplete = true)
    (first : phase ≠ .exponent) (below : Bool) :
    (Mode.number l phase).cut ['e', if below then '-' else '+'] =
      ⟨[], .number { l with isReal := true, exponentNegative := below || l.exponentNegative }
        .markSign⟩ := by
  cases phase with
  | zero | whole | fraction => cases below <;> rfl
  | exponent => exact absurd rfl first
  | _ => cases complete

/-- A whole part, a point and a fraction. -/
theorem cut_plain {e : Nat} {es : List Nat} (small : ∀ c ∈ d :: ds, c < 10)
    (leading : d = 0 → ds = []) (smallToo : ∀ c ∈ e :: es, c < 10) :
    (Mode.number (.start negative) .sign).cut
        ((d :: ds).map Nat.digitChar ++ '.' :: (e :: es).map Nat.digitChar) =
      ⟨[], .number ⟨negative, d :: ds, e :: es, false, [], true⟩ .fraction⟩ := by
  have after : (if d = 0 then Phase.zero else Phase.whole) = .zero ∨
      (if d = 0 then Phase.zero else Phase.whole) = .whole := by
    split
    · exact Or.inl rfl
    · exact Or.inr rfl
  rw [Mode.cut_append, cut_whole negative small leading, Mode.cut_cons, step_point _ after,
    cut_fraction _ smallToo]
  rfl

theorem spells_plain {fraction : List Nat} (small : ∀ c ∈ d :: ds, c < 10)
    (leading : d = 0 → ds = []) (smallToo : ∀ c ∈ fraction, c < 10) (nonempty : fraction ≠ [])
    (fits : Literal.digitsValue (d :: ds ++ fraction) < Literal.significandLimit) :
    Spells negative ((d :: ds).map Nat.digitChar ++ '.' :: fraction.map Nat.digitChar)
      (Literal.digitsValue (d :: ds ++ fraction), -(fraction.length : Int)) := by
  obtain ⟨e, es, rfl⟩ := List.exists_cons_of_ne_nil nonempty
  refine ⟨⟨d, small d List.mem_cons_self, _, rfl⟩, _, .fraction, cut_plain small leading smallToo,
    rfl, rfl, rfl, ?_⟩
  rw [Literal.scaled_of_fits fits]
  simp [Literal.digitsValue]

/-- A single digit before the point, perhaps a fraction, and an exponent. -/
theorem spells_scientific {x : Nat} {xs : List Nat} (below : Bool)
    (small : ∀ c ∈ d :: ds, c < 10) (smallToo : ∀ c ∈ x :: xs, c < 10)
    (fits : Literal.digitsValue (d :: ds) < Literal.significandLimit) :
    Spells negative
      (Nat.digitChar d :: (if ds.isEmpty then [] else '.' :: ds.map Nat.digitChar) ++
        'e' :: (if below then '-' else '+') :: (x :: xs).map Nat.digitChar)
      (Literal.digitsValue (d :: ds),
        (if below then -(Literal.digitsValue (x :: xs) : Int) else Literal.digitsValue (x :: xs)) -
          ds.length) := by
  rw [List.forall_mem_cons] at small
  refine ⟨⟨d, small.1, _, rfl⟩, ⟨negative, [d], ds, below, x :: xs, true⟩, .exponent, ?_, rfl, rfl,
    rfl, Literal.scaled_of_fits fits⟩
  have single : ∀ c ∈ [d], c < 10 := List.forall_mem_singleton.mpr small.1
  -- up to the exponent mark
  obtain ⟨phase, isReal, complete, first, before⟩ : ∃ phase : Phase, ∃ isReal,
      phase.isComplete = true ∧ phase ≠ .exponent ∧
      (Mode.number (.start negative) .sign).cut
        (Nat.digitChar d :: (if ds.isEmpty then [] else '.' :: ds.map Nat.digitChar)) =
          ⟨[], .number ⟨negative, [d], ds, false, [], isReal⟩ phase⟩ := by
    cases ds with
    | nil =>
      refine ⟨if d = 0 then .zero else .whole, false, ?_, ?_, ?_⟩
      · split <;> rfl
      · split <;> decide
      · exact cut_whole negative single fun _ => rfl
    | cons e es => exact ⟨.fraction, true, rfl, by decide, cut_plain single (fun _ => rfl) small.2⟩
  have marked : 'e' :: (if below then '-' else '+') :: (x :: xs).map Nat.digitChar =
      ['e', if below then '-' else '+'] ++ (x :: xs).map Nat.digitChar := rfl
  rw [marked, Mode.cut_append, before, Mode.cut_append, cut_mark _ complete first,
    cut_exponent _ smallToo, Bool.or_false]
  rfl

/-- The number that a spelled text stands for, with its sign before it. -/
theorem Spells.cuts {significand : Nat} {power : Int} {read : Nat} {text : List Char}
    (spells : Spells negative text (significand, power))
    (reads : Literal.magnitude? significand power = some read) :
    Cuts (if negative then '-' :: text else text)
      [.scalar (.number (some (.float ⟨negative, read⟩)))] := by
  obtain ⟨⟨d, small, rest, rfl⟩, l, phase, cut, complete, sign, isReal, scaled⟩ := spells
  have number : l.number? = some (.float ⟨negative, read⟩) := by
    unfold Literal.number? Literal.double?
    rw [if_pos isReal, scaled, reads, sign]
    rfl
  rw [← number]
  exact cuts_number small complete cut

end Texts

end InCallProximity.Json
