import InCallProximity.Proofs.Json.Parts
import InCallProximity.Proofs.Wire.Delay
import InCallProximity.Proofs.Wire.RoundTrip

/-!
# What settings are decoded from

Settings are the defaults with some parts replaced. `Settings.parts` says of each field which
values make it what it is; a field that is not given has to be what it is in the defaults. These
parts decide of members and items whether they are decoded to the settings, whatever they are
decoded from (`Settings.ofMembers_eq_ok_iff`, `Settings.ofItems_eq_ok_iff`).

So a member for the delay among others that are decoded changes the delay alone
(`Settings.ofMembers_delay`). With what is known of delays this says which settings come of which
delay, and what is wrong if none do (`Settings.delay_exact`).
-/

namespace InCallProximity

open Json

/-! ## Parts that are kept -/

namespace Json

variable {δ σ α : Type} [Source δ]

/-- What there is for a part suits it, once it is kept as a value. -/
def Component.SuitsKept (part : Component) : Option δ → Prop
  | some d => ∃ v, Source.keep d = .ok v ∧ part.accepts v
  | none => part.mayLack

omit [Source δ] in
/-- A field is decoded from what there is for it, or nothing is there and it is `spare`. -/
def DecodesOr (decode : δ → Except Problem α) (spare : α) : Option δ → α → Prop
  | some d, a => decode d = .ok a
  | none, a => a = spare

omit [Source δ] in
theorem Record.fill_optional {name : String} {decode : δ → Except Problem α} {set : α → σ → σ}
    (spare : α) {x : σ} (kept : set spare x = x) {there : String → Option δ}
    {fields : List (Field δ σ)} {y : σ} :
    fill there (.optional name decode set :: fields) x = .ok y ↔
      ∃ a, DecodesOr decode spare (there name) a ∧ fill there fields (set a x) = .ok y := by
  cases found : there name with
  | none =>
    have absent : there (Field.optional name decode set).name = none := found
    rw [fill_of_absent absent]
    simp [DecodesOr, kept]
  | some d =>
    have present : there (Field.optional name decode set).name = some d := found
    rw [fill_of_present present]
    simp [DecodesOr, Field.optional, bind_eq_ok_iff, map_eq_ok_iff]

variable (δ) in
/-- Flags are decoded from a source as they are kept. -/
def KeepsFlags : Prop := ∀ (d : δ) (b : Bool), decodeBool d = .ok b ↔ Source.keep d = .ok (.bool b)

theorem Value.keepsFlags : KeepsFlags Value := by
  intro v b
  change _ ↔ Except.ok v = .ok (.bool b)
  cases v with
  | bool a => simp [decodeBool, Source.view, Value.viewAs]
  | _ => exact iff_of_false refuse_ne_ok fun same => by cases same

theorem Document.view_eq_bool_iff {d : Document} {b : Bool} :
    Source.view d = .bool b ↔ d = .scalar (.bool b) := by
  constructor
  · intro viewed
    change Document.view d = .bool b at viewed
    unfold Document.view at viewed
    split at viewed <;> cases viewed
    rfl
  · rintro rfl
    rfl

theorem Document.keep_eq_bool_iff {d : Document} {b : Bool} :
    Source.keep d = .ok (.bool b) ↔ d = .scalar (.bool b) := by
  constructor
  · intro kept
    change Document.keep (nestingLimit - 2 + 1) d = _ at kept
    cases d with
    | scalar s =>
      rw [Document.keep] at kept
      unfold Scalar.keep at kept
      split at kept <;> cases kept
      rfl
    | array items fault =>
      obtain ⟨-, _, -, same⟩ := Document.keep_array_iff.mp kept
      cases same
    | object members fault =>
      obtain ⟨-, _, -, same⟩ := Document.keep_object_iff.mp kept
      cases same
  · rintro rfl
    rfl

theorem Document.keepsFlags : KeepsFlags Document := by
  intro d b
  rw [Document.keep_eq_bool_iff, ← Document.view_eq_bool_iff]
  unfold decodeBool
  cases Source.view d with
  | bool c => simp
  | _ => exact iff_of_false refuse_ne_ok fun same => by cases same

end Json

/-! ## The parts of settings -/

namespace Settings

/-- A flag that may be left out if it is `spare`. -/
def flagPart (name : String) (b spare : Bool) : Component := ⟨name, (· = .bool b), b = spare⟩

/-- A delay that may be left out if it is `spare`. -/
def delayPart (n spare : UInt64) : Component := ⟨"switch_delay_ms", Value.IsDelay n, n = spare⟩

/-- What stands for the fields of settings. A field that is not given is that of the defaults. -/
def parts (s : Settings) : List Component := [
  flagPart "auto_speaker_enabled" s.autoSpeaker Settings.default.autoSpeaker,
  flagPart "in_call_only" s.inCallOnly Settings.default.inCallOnly,
  delayPart s.switchDelay Settings.default.switchDelay]

theorem names_parts (s : Settings) : s.parts.map Component.name = fieldNames := rfl

variable {δ : Type} [Source δ] {s : Settings}

theorem flagPart_suits_iff (flags : KeepsFlags δ) {name : String} {b spare : Bool}
    {d? : Option δ} : (flagPart name b spare).SuitsKept d? ↔ DecodesOr decodeBool spare d? b := by
  cases d? with
  | none => exact Iff.rfl
  | some d => simp [flagPart, Component.SuitsKept, DecodesOr, flags d b]

theorem delayPart_suits_iff {n spare : UInt64} {d? : Option δ} :
    (delayPart n spare).SuitsKept d? ↔ DecodesOr decodeDelay spare d? n := by
  cases d? with
  | none => exact Iff.rfl
  | some d => exact decodeDelay_eq_ok_iff.symm

/-- What there is for the names of the parts suits them. -/
def SuitedBy (s : Settings) (there : String → Option δ) : Prop :=
  ∀ part ∈ s.parts, part.SuitsKept (there part.name)

theorem suitedBy_iff {there : String → Option δ} :
    s.SuitedBy there ↔
      (flagPart "auto_speaker_enabled" s.autoSpeaker Settings.default.autoSpeaker).SuitsKept
          (there "auto_speaker_enabled") ∧
        (flagPart "in_call_only" s.inCallOnly Settings.default.inCallOnly).SuitsKept
          (there "in_call_only") ∧
        (delayPart s.switchDelay Settings.default.switchDelay).SuitsKept
          (there "switch_delay_ms") := by
  simp [SuitedBy, parts, flagPart, delayPart]

theorem suitedBy_congr {there thereToo : String → Option δ}
    (same : ∀ name ∈ fieldNames, there name = thereToo name) :
    s.SuitedBy there ↔ s.SuitedBy thereToo := by
  refine forall₂_congr fun part among => ?_
  rw [same part.name (s.names_parts ▸ List.mem_map_of_mem among)]

theorem fill_eq_ok_iff (flags : KeepsFlags δ) {there : String → Option δ} :
    Record.fill there (@record δ _).fields (@record δ _).start = .ok s ↔ s.SuitedBy there := by
  rw [suitedBy_iff, flagPart_suits_iff flags, flagPart_suits_iff flags, delayPart_suits_iff]
  constructor
  · intro filled
    obtain ⟨a, first, filled⟩ := (Record.fill_optional default.autoSpeaker rfl).mp filled
    obtain ⟨b, second, filled⟩ := (Record.fill_optional default.inCallOnly rfl).mp filled
    obtain ⟨n, third, filled⟩ := (Record.fill_optional default.switchDelay rfl).mp filled
    cases filled
    exact ⟨first, second, third⟩
  · rintro ⟨first, second, third⟩
    exact (Record.fill_optional default.autoSpeaker rfl).mpr ⟨_, first,
      (Record.fill_optional default.inCallOnly rfl).mpr ⟨_, second,
        (Record.fill_optional default.switchDelay rfl).mpr ⟨_, third, rfl⟩⟩⟩

/-! ## Members and items -/

theorem optional_fields : ∀ field ∈ (@record δ _).fields, field.required = false := by
  simp [record, Field.optional]

/-- Members make settings if those of fields do not repeat and suit, and the others can be passed
over. -/
theorem ofMembers_eq_ok_iff (flags : KeepsFlags δ) {named : List (String × δ)} :
    (@record δ _).ofMembers (read named) none = .ok s ↔
      Record.Passes fieldNames named ∧ s.SuitedBy (found named) := by
  rw [Record.ofMembers_eq_ok_iff independent, ← fill_eq_ok_iff flags]
  constructor
  · rintro ⟨-, _, same, passes, -, filled⟩
    obtain rfl := read_injective same
    exact ⟨passes, filled⟩
  · rintro ⟨passes, filled⟩
    refine ⟨rfl, named, rfl, passes, fun field among required => ?_, filled⟩
    rw [optional_fields field among] at required
    cases required

/-- Items make settings as members with the names of the fields do, as long as they are not too
many. -/
theorem ofItems_eq_ok_iff (flags : KeepsFlags δ) {items : List δ} {fault : Option Fault} :
    (@record δ _).ofItems items fault = .ok s ↔
      fault = none ∧ items.length ≤ 3 ∧ s.SuitedBy (found (fieldNames.zip items)) := by
  rw [Record.ofItems_eq_ok_iff, Record.putItems_eq_ok_iff independent.names, ← fill_eq_ok_iff flags]
  refine and_congr_right fun _ => and_congr_right fun _ => ?_
  refine and_iff_right fun field among required => ?_
  rw [optional_fields field among] at required
  cases required

/-! ## A delay among other members -/

/-- A delay among members that make settings replaces the delay of the settings, or is what is wrong
with the members. -/
theorem ofMembers_delay (flags : KeepsFlags δ) {before after : List (String × δ)}
    {others : Settings} (rest : (@record δ _).ofMembers (read (before ++ after)) none = .ok others)
    (only : "switch_delay_ms" ∉ (before ++ after).map Prod.fst) (d : δ) :
    (@record δ _).ofMembers (read (before ++ ("switch_delay_ms", d) :: after)) none =
      (decodeDelay d).map fun switchDelay => { others with switchDelay } := by
  cases decoded : decodeDelay d with
  | error problem =>
    -- The members before the delay are put without a problem, so the delay is the first one.
    obtain ⟨⟨_, _⟩, puts, -⟩ := bind_eq_ok_iff.mp rest
    rw [Json.read, List.map_append, Record.putMembers_append, bind_eq_ok_iff] at puts
    obtain ⟨⟨seen, x⟩, puts, -⟩ := puts
    obtain ⟨named, same, changes⟩ := (Record.putMembers_eq_ok_iff independent).mp puts
    obtain rfl := read_injective same
    have unseen : "switch_delay_ms" ∉ seen := by
      rw [changes.grown, List.append_nil, List.mem_reverse, mem_knownNames]
      rintro ⟨among, -⟩
      exact only (by simp [among])
    let field : Field δ Settings :=
      .optional "switch_delay_ms" decodeDelay fun switchDelay s => { s with switchDelay }
    have known : (@record δ _).fields.find? (·.name = field.name) = some field := rfl
    have fails : field.put d x = .error problem := by
      simp [field, Field.optional, decoded, Except.map]
    rw [Json.read, List.map_append]
    exact Record.ofMembers_eq_error known puts unseen fails none
  | ok n =>
    -- Where the delay stands makes no difference, so it is moved to the front.
    obtain ⟨passes, suited⟩ := (ofMembers_eq_ok_iff flags).mp rest
    have fresh : "switch_delay_ms" ∉ knownNames fieldNames (before ++ after) :=
      fun among => only (mem_knownNames.mp among).1
    have first : (@record δ _).ofMembers (read (("switch_delay_ms", d) :: (before ++ after))) none =
        .ok { others with switchDelay := n } := by
      refine (ofMembers_eq_ok_iff flags).mpr
        ⟨(Record.passes_cons_of_mem (by decide)).mpr ⟨fresh, passes⟩, ?_⟩
      rw [suitedBy_iff] at suited ⊢
      rw [found_cons_of_ne (by decide), found_cons_of_ne (by decide), found_cons_of_eq rfl]
      exact ⟨suited.1, suited.2.1, decodeDelay_eq_ok_iff.mp decoded⟩
    have same : (before ++ ("switch_delay_ms", d) :: after).Perm
        (("switch_delay_ms", d) :: (before ++ after) ++ []) := by
      rw [List.append_nil]
      exact List.perm_middle
    exact Record.ofMembers_extended independent same (List.forall_mem_nil _) (List.forall_mem_nil _)
      first

/-! ## Delays are read exactly -/

/-- A delay is given in an object whose other members make settings: in a text that shows the
object, or in a value whose table it is. It is kept as a value, if it can be, and there is an
outcome. -/
inductive DelayGiven (others : Settings) :
    Except Problem Value → Except Problem Settings → Prop where
  | text {text : List Char} {before after : List (String × Document)} {d : Document}
      (shows : Reading.ofText text =
        ⟨.object (keyed (before ++ ("switch_delay_ms", d) :: after)) none, false⟩)
      (only : "switch_delay_ms" ∉ (before ++ after).map Prod.fst)
      (rest : Wire.decode (Document.object (keyed (before ++ after)) none) = .ok others) :
    DelayGiven others (Source.keep d) (Wire.ofText text)
  | value {w v : Value} {before after : List (String × Value)}
      (table : w.collapse = .object (before ++ ("switch_delay_ms", v) :: after))
      (rest : Wire.decode (Value.object (before ++ after)) = .ok others) :
    DelayGiven others (.ok v) (Wire.ofValue w)

theorem decode_keyed (named : List (String × Document)) :
    (Wire.decode (Document.object (keyed named) none) : Except Problem Settings) =
      record.ofMembers (read named) none := by
  change Record.decode record _ = _
  unfold Record.decode
  rw [view_keyed]

theorem decode_members (members : List (String × Value)) :
    (Wire.decode (Value.object members) : Except Problem Settings) =
      record.ofMembers (read members) none := rfl

theorem ofText_of_reading {text : List Char} {d : Document}
    (reading : Reading.ofText text = ⟨d, false⟩) :
    (Wire.ofText text : Except Problem Settings) = Wire.decode d := by
  unfold Wire.ofText readText
  rw [reading]
  exact bind_pure _

/-- The delay decides, and changes nothing else. -/
theorem DelayGiven.outcome_eq {others : Settings} {kept : Except Problem Value}
    {outcome : Except Problem Settings} (given : DelayGiven others kept outcome) :
    outcome = (kept >>= delayOfValue).map fun switchDelay => { others with switchDelay } := by
  cases given with
  | @text text before after d shows only rest =>
    rw [ofText_of_reading shows, decode_keyed]
    rw [decode_keyed] at rest
    exact ofMembers_delay Document.keepsFlags rest only d
  | @value w v before after table rest =>
    -- The table of a value has every name once, so no other member can give the delay.
    have once := w.unrepeated_collapse fieldNames
    rw [table] at once
    have count := nodup_knownNames_iff.mp once "switch_delay_ms" (by decide)
    rw [List.map_append, List.map_cons, List.count_append, List.count_cons_self] at count
    have only : "switch_delay_ms" ∉ (before ++ after).map Prod.fst := by
      rw [← List.count_eq_zero, List.map_append, List.count_append]
      omega
    rw [Wire.ofValue, table, decode_members]
    rw [decode_members] at rest
    exact ofMembers_delay Value.keepsFlags rest only v

/-- A delay is accepted exactly if it is an unsigned integer of 64 bits or a text that spells one,
and then it is that integer that the settings have. A number is accepted exactly if it is written
with digits alone. Whatever else the delay is, the settings are refused, and of a text the refusal
quotes all. -/
theorem delay_exact {others : Settings} {kept : Except Problem Value}
    {outcome : Except Problem Settings} (given : DelayGiven others kept outcome) :
    (∀ s, outcome = .ok s ↔
      ∃ v n, kept = .ok v ∧ v.IsDelay n ∧ s = { others with switchDelay := n }) ∧
    (∀ (l : Literal) (text : List Char), l.IsText text →
      kept = Source.keep (Document.scalar (.number l.number?)) → ∀ s, outcome = .ok s ↔
        ∃ (digits : List ℕ) (n : UInt64), (∀ d ∈ digits, d < 10) ∧
          text = digits.map Nat.digitChar ∧ Nat.ofDigits 10 digits.reverse = n.toNat ∧
          s = { others with switchDelay := n }) ∧
    (∀ v, kept = .ok v → (∀ n, ¬v.IsDelay n) → outcome = .error (.data (delayCause v))) ∧
    (∀ text, kept = .ok (.text text) → (∀ n : UInt64, ¬Text.Spells text.toList n.toNat) →
      ∃ problem, outcome = .error problem ∧
        problem.message = "invalid switch delay '" ++ text ++ "'") ∧
    ∀ problem, kept = .error problem → outcome = .error problem := by
  have accepted : ∀ s, outcome = .ok s ↔
      ∃ v n, kept = .ok v ∧ v.IsDelay n ∧ s = { others with switchDelay := n } := by
    intro s
    rw [given.outcome_eq]
    simp only [map_eq_ok_iff, bind_eq_ok_iff, delayOfValue_eq_ok_iff]
    constructor
    · rintro ⟨n, ⟨v, same, isDelay⟩, rfl⟩
      exact ⟨v, n, same, isDelay, rfl⟩
    · rintro ⟨v, n, same, isDelay, rfl⟩
      exact ⟨n, ⟨v, same, isDelay⟩, rfl⟩
  have refused : ∀ v, kept = .ok v → (∀ n, ¬v.IsDelay n) →
      outcome = .error (.data (delayCause v)) := by
    rintro v rfl noDelay
    have fails := delayOfValue_of_not_isDelay noDelay
    rw [given.outcome_eq]
    change (delayOfValue v).map _ = _
    rw [fails]
    rfl
  refine ⟨accepted, ?_, refused, ?_, ?_⟩
  · intro l text isText same s
    rw [accepted]
    subst same
    have isDelay := fun n => @Value.isDelay_literal_iff l text isText n
    constructor
    · rintro ⟨v, n, kept, is, rfl⟩
      obtain ⟨digits, small, written, value⟩ := (isDelay n).mp ⟨v, kept, is⟩
      exact ⟨digits, n, small, written, value, rfl⟩
    · rintro ⟨digits, n, small, written, value, rfl⟩
      obtain ⟨v, kept, is⟩ := (isDelay n).mpr ⟨digits, small, written, value⟩
      exact ⟨v, n, kept, is, rfl⟩
  · intro text same unspelled
    refine ⟨_, refused _ same ?_, rfl⟩
    intro n isDelay
    cases isDelay with
    | text spells => exact unspelled n spells
  · rintro problem rfl
    rw [given.outcome_eq]
    rfl

set_option maxRecDepth 8000 in
/-- The largest delay is read from a text among blanks, and the next integer is refused, as a text
and as a number. -/
theorem largest_delay_exact :
    let others : Settings := ⟨false, true, 3000⟩
    let text (delay : String) : List Char :=
      ("\x7b\"in_call_only\": true, \"switch_delay_ms\": " ++ delay ++
        ", \"x\": [1e999]\x7d").toList
    Wire.ofText (text "\"\\u00a0+00018446744073709551615 \"") =
        .ok { others with switchDelay := 18446744073709551615 } ∧
      (∃ problem, (Wire.ofText (text "\" 18446744073709551616\"") : Except Problem Settings) =
          .error problem ∧
        problem.message = "invalid switch delay ' 18446744073709551616'") ∧
      ∀ s : Settings, Wire.ofText (text "18446744073709551616") ≠ .ok s := by
  intro others text
  have given : ∀ {delay : String} {d : Document}, Reading.ofText (text delay) =
      ⟨.object (keyed ([("in_call_only", .scalar (.bool true))] ++ ("switch_delay_ms", d) ::
        [("x", .array [.scalar (.number none)] none)])) none, false⟩ →
      DelayGiven others (Source.keep d) (Wire.ofText (text delay)) :=
    fun shows => .text shows (by decide) rfl
  have largest : delayOfText? "\u00a0+00018446744073709551615 " = some 18446744073709551615 := by
    decide
  have beyond : delayOfText? " 18446744073709551616" = none := by decide
  refine ⟨?_, ?_, ?_⟩
  · have shown := @given "\"\\u00a0+00018446744073709551615 \""
      (.scalar (.text (some "\u00a0+00018446744073709551615 "))) rfl
    exact ((delay_exact shown).1 _).mpr
      ⟨_, _, rfl, .text (delayOfText?_eq_some_iff.mp largest), rfl⟩
  · have shown := @given "\" 18446744073709551616\""
      (.scalar (.text (some " 18446744073709551616"))) rfl
    refine (delay_exact shown).2.2.2.1 _ rfl fun n spells => ?_
    rw [delayOfText?_eq_some_iff.mpr spells] at beyond
    cases beyond
  · intro s accepted
    let l : Literal := .integer false [1, 8, 4, 4, 6, 7, 4, 4, 0, 7, 3, 7, 0, 9, 5, 5, 1, 6, 1, 6]
    have isText : l.IsText "18446744073709551616".toList := @Literal.IsText.plain _ _ .whole rfl rfl
    have shown := @given "18446744073709551616" (.scalar (.number l.number?)) rfl
    obtain ⟨digits, n, small, written, value, -⟩ :=
      ((delay_exact shown).2.1 l _ isText rfl s).mp accepted
    have read : "18446744073709551616".toList.mapM digit? = some l.whole := by decide
    obtain rfl := Option.some.inj ((mapM_digit?_eq_some_iff.mpr ⟨small, written⟩).symm.trans read)
    have bound := n.toNat_lt
    rw [← value] at bound
    revert bound
    decide

end Settings

end InCallProximity
