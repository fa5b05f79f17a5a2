import InCallProximity.Json.Printed
import InCallProximity.Json.Token
import Mathlib.Tactic.IntervalCases

/-!
# Cutting texts that are put together

The machine that cuts a text looks at one character at a time, so a text that is put together has
the tokens of its parts, as long as no literal runs across a border. At a delimiter none does:
`Cuts.delimited` puts two texts together around one. The written forms of strings and integers are
cut into the one token that they stand for (`cuts_quote`, `cuts_toDigits`).
-/

namespace InCallProximity.Json

/-! ## Texts in two parts -/

/-- The machine after a text, from a mode on. -/
def Mode.cut (mode : Mode) (text : List Char) : Cutter := text.foldl Cutter.step ⟨[], mode⟩

theorem Cutter.step_eq (sofar : List Token) (mode : Mode) (c : Char) :
    Cutter.step ⟨sofar, mode⟩ c = ⟨(mode.step c).1 ++ sofar, (mode.step c).2⟩ := rfl

/-- What was cut before is only carried along. -/
theorem Cutter.foldl_step (text : List Char) (sofar : List Token) (mode : Mode) :
    text.foldl Cutter.step ⟨sofar, mode⟩ =
      ⟨(mode.cut text).tokens ++ sofar, (mode.cut text).mode⟩ := by
  unfold Mode.cut
  induction text generalizing sofar mode with
  | nil => rfl
  | cons c rest ih =>
    rw [List.foldl_cons, List.foldl_cons, step_eq, step_eq, ih, ih ((mode.step c).1 ++ [])]
    simp only [List.append_nil, List.append_assoc]

theorem Mode.cut_cons (mode : Mode) (c : Char) (text : List Char) :
    mode.cut (c :: text) =
      ⟨((mode.step c).2.cut text).tokens ++ (mode.step c).1, ((mode.step c).2.cut text).mode⟩ := by
  unfold Mode.cut
  rw [List.foldl_cons, Cutter.step_eq, Cutter.foldl_step, List.append_nil]
  rfl

theorem Mode.cut_append (mode : Mode) (text textToo : List Char) :
    mode.cut (text ++ textToo) =
      ⟨((mode.cut text).mode.cut textToo).tokens ++ (mode.cut text).tokens,
        ((mode.cut text).mode.cut textToo).mode⟩ := by
  unfold Mode.cut
  rw [List.foldl_append, Cutter.foldl_step]
  rfl

theorem tokens_eq (text : List Char) :
    tokens text = ((Mode.between.cut text).mode.finish ++ (Mode.between.cut text).tokens).reverse :=
  rfl

/-! ## Delimiters -/

/-- No literal is open, but perhaps a number that is complete. -/
inductive Mode.Settled : Mode → Prop where
  | between : Settled .between
  | number (l : Literal) {phase : Phase} (complete : phase.isComplete = true) :
    Settled (.number l phase)

/-- The characters that end any literal before them, with the tokens that they are. -/
def delimiters : List (Char × List Token) :=
  [(' ', []), ('\n', []), ('\r', []), ('\t', []), (',', [.comma]), (':', [.colon]),
    ('[', [.openArray]), (']', [.closeArray]), ('\x7b', [.openObject]), ('\x7d', [.closeObject])]

theorem mem_delimiters_of_isBlank {c : Char} (blank : isBlank c = true) : (c, []) ∈ delimiters := by
  unfold isBlank at blank
  simp only [Bool.or_eq_true, decide_eq_true_eq] at blank
  rcases blank with ((rfl | rfl) | rfl) | rfl <;> simp [delimiters]

theorem comma_delimits : (',', [.comma]) ∈ delimiters := by decide

theorem colon_delimits : (':', [.colon]) ∈ delimiters := by decide

theorem brace_delimits :
    ('\x7b', [.openObject]) ∈ delimiters ∧ ('\x7d', [.closeObject]) ∈ delimiters := by decide

variable {c : Char} {ts : List Token}

theorem begin_of_mem_delimiters (delimits : (c, ts) ∈ delimiters) :
    Mode.begin c = (ts, .between) ∧ ts.reverse = ts := by
  simp only [delimiters, List.mem_cons, Prod.mk.injEq, List.not_mem_nil, or_false] at delimits
  rcases delimits with ⟨rfl, rfl⟩ | ⟨rfl, rfl⟩ | ⟨rfl, rfl⟩ | ⟨rfl, rfl⟩ | ⟨rfl, rfl⟩ | ⟨rfl, rfl⟩ |
    ⟨rfl, rfl⟩ | ⟨rfl, rfl⟩ | ⟨rfl, rfl⟩ | ⟨rfl, rfl⟩ <;> exact ⟨rfl, rfl⟩

/-- A complete number ends at a delimiter. -/
theorem Literal.step_of_mem_delimiters (delimits : (c, ts) ∈ delimiters) (l : Literal)
    {phase : Phase} (complete : phase.isComplete = true) : l.step phase c = .ends := by
  have apart : digit? c = none ∧ c ≠ '.' ∧ c ≠ 'e' ∧ c ≠ 'E' := by
    have all : ∀ delimiter ∈ delimiters, digit? delimiter.1 = none ∧ delimiter.1 ≠ '.' ∧
        delimiter.1 ≠ 'e' ∧ delimiter.1 ≠ 'E' := by decide
    exact all _ delimits
  obtain ⟨noDigit, noPoint, noMark, noCapital⟩ := apart
  cases phase with
  | zero | whole | fraction | exponent =>
    simp [Literal.step, Literal.orPoint, Literal.orMark, noDigit, noPoint, noMark, noCapital]
  | _ => cases complete

theorem Mode.Settled.step {mode : Mode} (settled : mode.Settled) (delimits : (c, ts) ∈ delimiters) :
    mode.step c = (ts ++ mode.finish, .between) := by
  have begins := (begin_of_mem_delimiters delimits).1
  cases settled with
  | between => rw [Mode.step, begins, Mode.finish, List.append_nil]
  | number l complete =>
    rw [Mode.step, Literal.step_of_mem_delimiters delimits l complete, Mode.finish, if_pos complete]
    simp only [begins]

/-- A text is cut into these tokens, and what is open at its end a delimiter could end. -/
structure Cuts (text : List Char) (ts : List Token) : Prop where
  settled : (Mode.between.cut text).mode.Settled
  tokens : Json.tokens text = ts

namespace Cuts

variable {text textToo gap : List Char} {before after : List Token}

theorem nil : Cuts [] [] := ⟨.between, rfl⟩

/-- Two texts around a delimiter are cut apart there. -/
theorem delimited (cuts : Cuts text before) (delimits : (c, ts) ∈ delimiters)
    (cutsToo : Cuts textToo after) : Cuts (text ++ c :: textToo) (before ++ ts ++ after) := by
  have whole : Mode.between.cut (text ++ c :: textToo) =
      ⟨(Mode.between.cut textToo).tokens ++ (ts ++ (Mode.between.cut text).mode.finish) ++
        (Mode.between.cut text).tokens, (Mode.between.cut textToo).mode⟩ := by
    rw [Mode.cut_append, Mode.cut_cons, cuts.settled.step delimits]
  refine ⟨?_, ?_⟩
  · rw [whole]
    exact cutsToo.settled
  · rw [← cuts.tokens, ← cutsToo.tokens, tokens_eq, tokens_eq, tokens_eq, whole]
    simp only [List.reverse_append, (begin_of_mem_delimiters delimits).2, List.append_assoc]

theorem of_gap (blank : ∀ c ∈ gap, isBlank c = true) : Cuts gap [] := by
  induction gap with
  | nil => exact nil
  | cons c rest ih =>
    rw [List.forall_mem_cons] at blank
    exact nil.delimited (mem_delimiters_of_isBlank blank.1) (ih blank.2)

/-- Blanks before a text are passed over. -/
theorem gap_append (blank : ∀ c ∈ gap, isBlank c = true) (cuts : Cuts text ts) :
    Cuts (gap ++ text) ts := by
  induction gap with
  | nil => exact cuts
  | cons c rest ih =>
    rw [List.forall_mem_cons] at blank
    exact nil.delimited (mem_delimiters_of_isBlank blank.1) (ih blank.2)

/-- Blanks after a text are passed over. -/
theorem append_gap (cuts : Cuts text ts) (blank : ∀ c ∈ gap, isBlank c = true) :
    Cuts (text ++ gap) ts := by
  cases gap with
  | nil => rwa [List.append_nil]
  | cons c rest =>
    rw [List.forall_mem_cons] at blank
    have both := cuts.delimited (mem_delimiters_of_isBlank blank.1) (of_gap blank.2)
    rwa [List.append_nil, List.append_nil] at both

end Cuts

/-! ## Strings -/

/-- A control character is written with the four digits of its number. -/
theorem cut_control (chars : List Char) {n : Nat} (control : n < 0x20) :
    (Mode.text chars false).cut
        ['\\', 'u', '0', '0', Printed.hexDigit (n / 16), Printed.hexDigit n] =
      ⟨[], .text (Char.ofNat n :: chars) false⟩ := by
  interval_cases n <;> rfl

/-- A character as it is written in a string is read as itself. -/
theorem cut_escape (chars : List Char) (c : Char) :
    (Mode.text chars false).cut (Printed.escape c) = ⟨[], .text (c :: chars) false⟩ := by
  unfold Printed.escape
  split
  case h_8 noQuote noBackslash _ _ _ _ _ =>
    split
    · next control =>
      have digits := cut_control chars control
      rwa [Char.ofNat_toNat] at digits
    · next plain =>
      rw [Mode.cut_cons, Mode.step, Mode.stepText, if_neg noQuote, if_neg noBackslash, if_neg plain]
      rfl
  all_goals rfl

theorem cut_flatMap_escape (chars text : List Char) :
    (Mode.text chars false).cut (text.flatMap Printed.escape) =
      ⟨[], .text (text.reverse ++ chars) false⟩ := by
  induction text generalizing chars with
  | nil => rfl
  | cons c rest ih =>
    rw [List.flatMap_cons, Mode.cut_append, cut_escape, ih, List.reverse_cons, List.append_assoc]
    rfl

/-- A written string is one token. -/
theorem cuts_quote (s : String) : Cuts (Printed.quote s) [.scalar (.text (some s))] := by
  have whole : Mode.between.cut (Printed.quote s) =
      ⟨[.scalar (.text (some s))], .between⟩ := by
    unfold Printed.quote
    rw [List.cons_append, Mode.cut_cons]
    change Cutter.mk (((Mode.text [] false).cut _).tokens ++ [])
      ((Mode.text [] false).cut _).mode = _
    rw [Mode.cut_append, cut_flatMap_escape]
    change Cutter.mk [Token.scalar (.text (some (String.ofList _)))] _ = _
    rw [List.append_nil, List.reverse_reverse, String.ofList_toList]
    rfl
  refine ⟨?_, ?_⟩
  · rw [whole]
    exact .between
  · rw [tokens_eq, whole]
    rfl

/-! ## Words and integers -/

theorem cuts_bool (b : Bool) : Cuts (Printed.bool b).render [.scalar (.bool b)] := by
  cases b <;> exact ⟨.between, rfl⟩

theorem digit?_digitChar {d : Nat} (small : d < 10) : digit? (Nat.digitChar d) = some d := by
  interval_cases d <;> rfl

/-- The digits that a number is written with, as values. -/
structure Writes (ds : List Nat) (n : Nat) : Prop where
  small : ∀ d ∈ ds, d < 10
  value : Literal.digitsValue ds = n
  text : Nat.toDigits 10 n = ds.map Nat.digitChar

theorem Literal.digitsValue_append_singleton (ds : List Nat) (d : Nat) :
    digitsValue (ds ++ [d]) = 10 * digitsValue ds + d := by
  simp [digitsValue]

/-- Every number is written with digits, the first of which is zero only if it is the only one. -/
theorem exists_writes (n : Nat) : ∃ d ds, Writes (d :: ds) n ∧ (d = 0 → ds = []) := by
  induction n using Nat.strongRecOn with
  | _ n ih =>
    by_cases single : n < 10
    · refine ⟨n, [], ⟨?_, ?_, Nat.toDigits_of_lt_base single⟩, fun _ => rfl⟩
      · exact List.forall_mem_singleton.mpr single
      · exact Nat.zero_add n
    · obtain ⟨d, ds, writes, leading⟩ := ih (n / 10) (by omega)
      refine ⟨d, ds ++ [n % 10], ⟨?_, ?_, ?_⟩, ?_⟩
      · rw [← List.cons_append, List.forall_mem_append, List.forall_mem_singleton]
        exact ⟨writes.small, by omega⟩
      · rw [← List.cons_append, Literal.digitsValue_append_singleton, writes.value]
        omega
      · rw [Nat.toDigits_of_base_le (by decide) (by omega), writes.text, ← List.cons_append,
          List.map_append]
        rfl
      · rintro rfl
        -- a single zero would be the digit of the quotient, which is not zero
        rw [leading rfl] at writes
        have quotient : 0 = n / 10 := writes.value
        omega

/-- Digits lengthen the part of a literal that is being read. -/
theorem cut_digits {phase : Phase} {put : List Nat → Literal}
    (adds : ∀ ds d c, digit? c = some d → (put ds).step phase c = .goes (put (ds ++ [d])) phase)
    (sofar : List Nat) {ds : List Nat} (small : ∀ d ∈ ds, d < 10) :
    (Mode.number (put sofar) phase).cut (ds.map Nat.digitChar) =
      ⟨[], .number (put (sofar ++ ds)) phase⟩ := by
  induction ds generalizing sofar with
  | nil => rw [List.append_nil]; rfl
  | cons d rest ih =>
    rw [List.forall_mem_cons] at small
    have step : (Mode.number (put sofar) phase).step (Nat.digitChar d) =
        ([], .number (put (sofar ++ [d])) phase) := by
      rw [Mode.step, adds sofar d _ (digit?_digitChar small.1)]
    rw [List.map_cons, Mode.cut_cons, step, ih _ small.2, List.append_assoc]
    rfl

/-- The whole part of a number, from its first digit on. -/
theorem cut_whole (negative : Bool) {d : Nat} {ds : List Nat} (small : ∀ e ∈ d :: ds, e < 10)
    (leading : d = 0 → ds = []) :
    (Mode.number (.start negative) .sign).cut ((d :: ds).map Nat.digitChar) =
      ⟨[], .number { Literal.start negative with whole := d :: ds }
        (if d = 0 then .zero else .whole)⟩ := by
  rw [List.forall_mem_cons] at small
  have begins : (Mode.number (.start negative) .sign).step (Nat.digitChar d) =
      ([], .number { Literal.start negative with whole := [d] }
        (if d = 0 then .zero else .whole)) := by
    rw [Mode.step, Literal.step, Literal.first, digit?_digitChar small.1]
    rfl
  rw [List.map_cons, Mode.cut_cons, begins]
  by_cases zero : d = 0
  · rw [leading zero]
    rfl
  · rw [if_neg zero,
      @cut_digits _ (fun ds => { Literal.start negative with whole := ds }) ?_ _ _ small.2]
    · rfl
    · intro ds d c digit
      simp only [Literal.step, digit]
      rfl

/-- A number starts with a digit or with a sign before it. -/
theorem between_cut_number (negative : Bool) {d : Nat} (small : d < 10) (rest : List Char) :
    Mode.between.cut
        (if negative then '-' :: Nat.digitChar d :: rest else Nat.digitChar d :: rest) =
      (Mode.number (.start negative) .sign).cut (Nat.digitChar d :: rest) := by
  cases negative with
  | true =>
    have signed : Mode.between.step '-' = ([], .number (.start true) .sign) := rfl
    rw [if_pos rfl, Mode.cut_cons, signed, List.append_nil]
  | false =>
    have same : Mode.between.step (Nat.digitChar d) =
        (Mode.number (.start false) .sign).step (Nat.digitChar d) := by
      interval_cases d <;> rfl
    rw [if_neg Bool.false_ne_true, Mode.cut_cons, Mode.cut_cons, same]

/-- A text that is one literal is one token. -/
theorem cuts_number {negative : Bool} {d : Nat} (small : d < 10) {rest : List Char} {l : Literal}
    {phase : Phase} (complete : phase.isComplete = true)
    (cut : (Mode.number (.start negative) .sign).cut (Nat.digitChar d :: rest) =
      ⟨[], .number l phase⟩) :
    Cuts (if negative then '-' :: Nat.digitChar d :: rest else Nat.digitChar d :: rest)
      [.scalar (.number l.number?)] := by
  have whole := (between_cut_number negative small rest).trans cut
  refine ⟨?_, ?_⟩
  · rw [whole]
    exact .number l complete
  · rw [tokens_eq, whole, Mode.finish, if_pos complete]
    rfl

/-- The literal of an integer, without fraction and exponent. -/
def Literal.integer (negative : Bool) (digits : List Nat) : Literal :=
  { start negative with whole := digits }

/-- An integer that is written out is one token. -/
theorem cuts_integer (negative : Bool) {d n : Nat} {ds : List Nat} (writes : Writes (d :: ds) n)
    (leading : d = 0 → ds = []) :
    Cuts (if negative then '-' :: Nat.toDigits 10 n else Nat.toDigits 10 n)
      [.scalar (.number (Literal.integer negative (d :: ds)).number?)] := by
  have complete : (if d = 0 then Phase.zero else Phase.whole).isComplete = true := by
    split <;> rfl
  rw [writes.text]
  exact cuts_number (writes.small d List.mem_cons_self) complete
    (cut_whole negative writes.small leading)

theorem cuts_toDigits {n : Nat} (fits : n < UInt64.size) :
    Cuts (Nat.toDigits 10 n) [.scalar (.number (some (.unsigned (UInt64.ofNat n))))] := by
  obtain ⟨d, ds, writes, leading⟩ := exists_writes n
  have cuts := cuts_integer false writes leading
  have reads : (Literal.integer false (d :: ds)).number? = some (.unsigned (UInt64.ofNat n)) := by
    unfold Literal.number?
    simp only [Literal.integer, writes.value]
    exact if_pos fits
  rwa [reads, if_neg Bool.false_ne_true] at cuts

end InCallProximity.Json
