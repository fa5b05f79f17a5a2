import InCallProximity.Json.Number

/-!
# JSON tokens

A text is cut into tokens by a machine that reads one character at a time: `Mode.step` gives the
tokens that a character completes and the mode it leads to, `Mode.finish` the token that the end
of the text completes. So the tokens of a text are a left fold over its characters, and nothing
about a token depends on what comes after it but for the one character that ends a number.

Cutting never fails. A literal that breaks off is a token of its own that says what is wrong with
it, and nothing after it is read. Some literals have two readings: a place that keeps the value
refuses a surrogate escape without its partner and a number beyond every double, a place that
ignores the value does not. Therefore such tokens hold no value rather than an error, and a broken
literal has one fault for each of the two readings.
-/

namespace InCallProximity.Json

/-- What is wrong with a text as JSON. -/
inductive Fault where
  /-- no JSON text continues as this one does -/
  | malformed
  /-- the text ends too early -/
  | truncated
deriving DecidableEq

/-- A value without parts, or what stands in its place. -/
inductive Scalar where
  | null
  | bool (b : Bool)
  /-- a number; none if it is beyond every double -/
  | number (n : Option Number)
  /-- a string; none if a surrogate escape lacks its partner -/
  | text (s : Option String)
  /-- a string that breaks off: the fault for one who keeps the value, and for one who does not -/
  | brokenText (keeping ignoring : Fault)
  /-- a word or number that breaks off, with its two faults -/
  | broken (keeping ignoring : Fault)
  /-- no value where one is due -/
  | absent (fault : Fault)
deriving DecidableEq

/-- A piece of JSON text: a bracket, a comma, a colon, or a value without parts. -/
inductive Token where
  | openArray
  | closeArray
  | openObject
  | closeObject
  | comma
  | colon
  | scalar (s : Scalar)
deriving DecidableEq

/-! ## Characters -/

/-- The four blanks of JSON. -/
def isBlank (c : Char) : Bool := c = ' ' || c = '\n' || c = '\r' || c = '\t'

/-- The value of a decimal digit. -/
def digit? (c : Char) : Option Nat :=
  if '0' ≤ c ∧ c ≤ '9' then some (c.toNat - '0'.toNat) else none

/-- The value of a hexadecimal digit of either case. -/
def hexDigit? (c : Char) : Option Nat :=
  if '0' ≤ c ∧ c ≤ '9' then some (c.toNat - '0'.toNat)
  else if 'a' ≤ c ∧ c ≤ 'f' then some (c.toNat - 'a'.toNat + 10)
  else if 'A' ≤ c ∧ c ≤ 'F' then some (c.toNat - 'A'.toNat + 10)
  else none

/-- The character that a letter after a backslash stands for. -/
def escaped? : Char → Option Char
  | '"' => some '"'
  | '\\' => some '\\'
  | '/' => some '/'
  | 'b' => some '\x08'
  | 'f' => some '\x0c'
  | 'n' => some '\n'
  | 'r' => some '\r'
  | 't' => some '\t'
  | _ => none

/-- The first of the two units of a character beyond the basic plane. -/
def isLead (unit : Nat) : Bool := 0xD800 ≤ unit && unit < 0xDC00

/-- The second of the two units. -/
def isTrail (unit : Nat) : Bool := 0xDC00 ≤ unit && unit < 0xE000

/-- The character that two units stand for together. -/
def joinUnits (lead trail : Nat) : Char :=
  Char.ofNat (0x10000 + (lead - 0xD800) * 0x400 + (trail - 0xDC00))

/-! ## Number literals -/

/-- How far a number literal has come. -/
inductive Phase where
  | sign
  | zero
  | whole
  | point
  | fraction
  | mark
  | markSign
  | exponent
deriving DecidableEq

/-- The number may end here. -/
def Phase.isComplete : Phase → Bool
  | .zero | .whole | .fraction | .exponent => true
  | _ => false

/-- What a character does to a number literal. -/
inductive NumberStep where
  | goes (l : Literal) (phase : Phase)
  | ends
  | breaks

namespace Literal

/-- A literal before its first digit. -/
def start (negative : Bool) : Literal := ⟨negative, [], [], false, [], false⟩

/-- Appends a digit before the point. -/
def withWhole (l : Literal) (d : Nat) : Literal := { l with whole := l.whole ++ [d] }

/-- Appends a digit after the point. -/
def withFraction (l : Literal) (d : Nat) : Literal := { l with fraction := l.fraction ++ [d] }

/-- Appends a digit of the exponent. -/
def withExponent (l : Literal) (d : Nat) : Literal := { l with exponent := l.exponent ++ [d] }

/-- Reads the first digit, after which a zero stands alone. -/
def first (l : Literal) (c : Char) : NumberStep :=
  match digit? c with
  | some d => .goes (l.withWhole d) (if d = 0 then .zero else .whole)
  | none => .breaks

/-- Reads an exponent mark, which ends the number if it is none. -/
def orMark (l : Literal) (c : Char) : NumberStep :=
  if c = 'e' ∨ c = 'E' then .goes { l with isReal := true } .mark else .ends

/-- Reads a point or an exponent mark. -/
def orPoint (l : Literal) (c : Char) : NumberStep :=
  if c = '.' then .goes { l with isReal := true } .point else l.orMark c

/-- Reads one character of a number literal. -/
def step (l : Literal) (phase : Phase) (c : Char) : NumberStep :=
  match phase, digit? c with
  | .sign, _ => l.first c
  | .zero, some _ => .breaks
  | .zero, none => l.orPoint c
  | .whole, some d => .goes (l.withWhole d) .whole
  | .whole, none => l.orPoint c
  | .point, some d => .goes (l.withFraction d) .fraction
  | .point, none => .breaks
  | .fraction, some d => .goes (l.withFraction d) .fraction
  | .fraction, none => l.orMark c
  | .mark, some d => .goes (l.withExponent d) .exponent
  | .mark, none =>
    if c = '+' then .goes l .markSign
    else if c = '-' then .goes { l with exponentNegative := true } .markSign
    else .breaks
  | .markSign, some d => .goes (l.withExponent d) .exponent
  | .markSign, none => .breaks
  | .exponent, some d => .goes (l.withExponent d) .exponent
  | .exponent, none => .ends

end Literal

/-! ## Modes -/

/-- What the machine is in the middle of. Characters of a string are kept newest first; `ill` says
that a surrogate escape lacked its partner. -/
inductive Mode where
  | between
  /-- a word: its next letter, the letters after that, and what it stands for -/
  | word (next : Char) (rest : List Char) (s : Scalar)
  | number (l : Literal) (phase : Phase)
  | text (chars : List Char) (ill : Bool)
  /-- after a backslash -/
  | escape (chars : List Char) (ill : Bool)
  /-- inside the four bytes of a numeric escape; `value` is none once one is no digit -/
  | hex (chars : List Char) (ill : Bool) (lead : Option Nat) (value : Option Nat) (bytes : Nat)
  /-- after the escape of a lead unit -/
  | afterLead (chars : List Char) (lead : Nat)
  /-- after the escape of a lead unit and a backslash -/
  | afterLeadEscape (chars : List Char) (lead : Nat)
  /-- after a literal that broke off; nothing more is read -/
  | halted

namespace Mode

/-- A string that breaks off with a fault. -/
def breakText (ill : Bool) (fault : Fault) : List Token :=
  [.scalar (.brokenText (if ill then .malformed else fault) fault)]

/-- Reads the first character of a token. What no token starts with is no value, and nothing after
it is read. -/
def begin (c : Char) : List Token × Mode :=
  if isBlank c then ([], .between)
  else match c with
    | '[' => ([.openArray], .between)
    | ']' => ([.closeArray], .between)
    | '\x7b' => ([.openObject], .between)
    | '\x7d' => ([.closeObject], .between)
    | ',' => ([.comma], .between)
    | ':' => ([.colon], .between)
    | '"' => ([], .text [] false)
    | 'n' => ([], .word 'u' ['l', 'l'] .null)
    | 't' => ([], .word 'r' ['u', 'e'] (.bool true))
    | 'f' => ([], .word 'a' ['l', 's', 'e'] (.bool false))
    | '-' => ([], .number (.start true) .sign)
    | _ =>
      match (Literal.start false).first c with
      | .goes l phase => ([], .number l phase)
      | _ => ([.scalar (.absent .malformed)], .halted)

/-- Reads a character of a string. A control character breaks it off. -/
def stepText (chars : List Char) (ill : Bool) (c : Char) : List Token × Mode :=
  if c = '"' then
    ([.scalar (.text (if ill then none else some (String.ofList chars.reverse)))], .between)
  else if c = '\\' then ([], .escape chars ill)
  else if c.toNat < 0x20 then (breakText ill .malformed, .halted)
  else ([], .text (c :: chars) ill)

/-- Reads the character after a backslash. -/
def stepEscape (chars : List Char) (ill : Bool) (c : Char) : List Token × Mode :=
  if c = 'u' then ([], .hex chars ill none (some 0) 0)
  else match escaped? c with
    | some plain => ([], .text (plain :: chars) ill)
    | none => (breakText ill .malformed, .halted)

/-- Takes up the unit of a numeric escape. -/
def takeUnit (chars : List Char) (ill : Bool) (lead : Option Nat) (unit : Nat) : Mode :=
  if ill then .text chars true
  else match lead with
    | some lead =>
      if isTrail unit then .text (joinUnits lead unit :: chars) false else .text chars true
    | none =>
      if isLead unit then .afterLead chars unit
      else if isTrail unit then .text chars true
      else .text (Char.ofNat unit :: chars) false

/-- Reads a character of a numeric escape. Whether it is one of digits is judged once four bytes
are there. -/
def stepHex (chars : List Char) (ill : Bool) (lead value : Option Nat) (bytes : Nat) (c : Char) :
    List Token × Mode :=
  let value : Option Nat := do return 16 * (← value) + (← hexDigit? c)
  let bytes := bytes + c.utf8Size
  if bytes < 4 then ([], .hex chars ill lead value bytes)
  else match value with
    | some unit => ([], takeUnit chars ill lead unit)
    | none => (breakText ill .malformed, .halted)

/-- Reads one character: the tokens it completes, newest first, and the mode after it. -/
def step : Mode → Char → List Token × Mode
  | .between, c => begin c
  | .word next rest s, c =>
    if c = next then
      match rest with
      | [] => ([.scalar s], .between)
      | next :: rest => ([], .word next rest s)
    else ([.scalar (.broken .malformed .malformed)], .halted)
  | .number l phase, c =>
    match l.step phase c with
    | .goes l phase => ([], .number l phase)
    | .breaks => ([.scalar (.broken .malformed .malformed)], .halted)
    | .ends =>
      let (tokens, mode) := begin c
      (tokens ++ [.scalar (.number l.number?)], mode)
  | .text chars ill, c => stepText chars ill c
  | .escape chars ill, c => stepEscape chars ill c
  | .hex chars ill lead value bytes, c => stepHex chars ill lead value bytes c
  | .afterLead chars lead, c =>
    if c = '\\' then ([], .afterLeadEscape chars lead) else stepText chars true c
  | .afterLeadEscape chars lead, c =>
    if c = 'u' then ([], .hex chars false (some lead) (some 0) 0) else stepEscape chars true c
  | .halted, _ => ([], .halted)

/-- The token that the end of the text completes. A number that breaks off there is malformed for
one who ignores it. -/
def finish : Mode → List Token
  | .between | .halted => []
  | .word _ _ _ => [.scalar (.broken .truncated .truncated)]
  | .number l phase =>
    if phase.isComplete then [.scalar (.number l.number?)]
    else [.scalar (.broken .truncated .malformed)]
  | .text _ ill | .escape _ ill | .hex _ ill _ _ _ => breakText ill .truncated
  | .afterLead _ _ | .afterLeadEscape _ _ => breakText false .truncated

end Mode

/-! ## Cutting a text -/

/-- The machine with the tokens so far, newest first. -/
structure Cutter where
  tokens : List Token
  mode : Mode

namespace Cutter

/-- The machine before the first character. -/
def start : Cutter := ⟨[], .between⟩

/-- Reads a character. -/
def step (cutter : Cutter) (c : Char) : Cutter :=
  let (tokens, mode) := cutter.mode.step c
  ⟨tokens ++ cutter.tokens, mode⟩

/-- All tokens in the order of the text, once it has ended. -/
def finish (cutter : Cutter) : List Token := (cutter.mode.finish ++ cutter.tokens).reverse

end Cutter

/-- The tokens of a text. -/
def tokens (text : List Char) : List Token := (text.foldl Cutter.step Cutter.start).finish

end InCallProximity.Json
