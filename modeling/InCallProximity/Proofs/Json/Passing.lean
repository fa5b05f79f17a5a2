import InCallProximity.Proofs.Json.Building

/-!
# Objects that can be passed over

A member that is not wanted is gone through without a look at its value. In a text that shows a
closed object, and nothing after it, this never fails: broken literals end the reading, so they
stand nowhere inside the object (`whole_tokens`), and what the machine has built of literals that
are whole has no faults inside (`Document.Builder.IsWhole`). So the members of the object can be
passed over whatever they are (`ignore_of_reading`).
-/

namespace InCallProximity.Json

/-! ## Literals that are whole -/

/-- A token that is no broken literal. -/
def Token.IsWhole : Token → Prop
  | .scalar s => s.ignore = .ok ()
  | _ => True

namespace Mode

/-- The literal that is open here, if any, may be read to its end and is whole then. -/
def Promises : Mode → Prop
  | .word _ _ s => s.ignore = .ok ()
  | .halted => False
  | _ => True

/-- What was cut, newest first, is whole, but perhaps for the token that stops the reading. -/
inductive Tidy : List Token × Mode → Prop where
  | goes {ts : List Token} {mode : Mode} (whole : ∀ t ∈ ts, t.IsWhole) (promises : mode.Promises) :
    Tidy (ts, mode)
  | halts {t : Token} {ts : List Token} (whole : ∀ t ∈ ts, t.IsWhole) : Tidy (t :: ts, .halted)

theorem Tidy.silent {mode : Mode} (promises : mode.Promises) : Tidy ([], mode) :=
  .goes (List.forall_mem_nil _) promises

theorem Tidy.single {t : Token} {mode : Mode} (whole : t.IsWhole) (promises : mode.Promises) :
    Tidy ([t], mode) :=
  .goes (List.forall_mem_singleton.mpr whole) promises

theorem Tidy.breaks (t : Token) : Tidy ([t], .halted) := .halts (List.forall_mem_nil _)

theorem tidy_begin (c : Char) : Tidy (begin c) := by
  unfold begin
  split
  · exact .silent trivial
  · split
    case h_1 | h_2 | h_3 | h_4 | h_5 | h_6 => exact .single trivial trivial
    case h_7 | h_11 => exact .silent trivial
    case h_8 | h_9 | h_10 => exact .silent rfl
    case h_12 =>
      split
      · exact .silent trivial
      · exact .breaks _

theorem tidy_stepText (chars : List Char) (ill : Bool) (c : Char) :
    Tidy (stepText chars ill c) := by
  unfold stepText
  split
  · exact .single rfl trivial
  · split
    · exact .silent trivial
    · split
      · exact .breaks _
      · exact .silent trivial

theorem tidy_stepEscape (chars : List Char) (ill : Bool) (c : Char) :
    Tidy (stepEscape chars ill c) := by
  unfold stepEscape
  split
  · exact .silent trivial
  · split
    · exact .silent trivial
    · exact .breaks _

theorem promises_takeUnit (chars : List Char) (ill : Bool) (lead : Option Nat) (unit : Nat) :
    (takeUnit chars ill lead unit).Promises := by
  unfold takeUnit
  repeat' split
  all_goals trivial

theorem tidy_stepHex (chars : List Char) (ill : Bool) (lead value : Option Nat) (bytes : Nat)
    (c : Char) : Tidy (stepHex chars ill lead value bytes c) := by
  unfold stepHex
  dsimp only
  split
  · exact .silent trivial
  · split
    · exact .silent (promises_takeUnit _ _ _ _)
    · exact .breaks _

theorem Tidy.append {ts before : List Token} {mode : Mode} (tidy : Tidy (ts, mode))
    (whole : ∀ t ∈ before, t.IsWhole) : Tidy (ts ++ before, mode) := by
  cases tidy with
  | goes wholeToo promises => exact .goes (List.forall_mem_append.mpr ⟨wholeToo, whole⟩) promises
  | halts wholeToo => exact .halts (List.forall_mem_append.mpr ⟨wholeToo, whole⟩)

theorem tidy_step {mode : Mode} (promises : mode.Promises) (c : Char) : Tidy (mode.step c) := by
  cases mode with
  | between => exact tidy_begin c
  | word next rest s =>
    unfold step
    dsimp only
    split
    · split
      · exact .single promises trivial
      · exact .silent promises
    · exact .breaks _
  | number l phase =>
    rw [step]
    split
    · exact .silent trivial
    · exact .breaks _
    · exact (tidy_begin c).append (List.forall_mem_singleton.mpr rfl)
  | text chars ill => exact tidy_stepText chars ill c
  | escape chars ill => exact tidy_stepEscape chars ill c
  | hex chars ill lead value bytes => exact tidy_stepHex chars ill lead value bytes c
  | afterLead chars lead =>
    rw [step]
    split
    · exact .silent trivial
    · exact tidy_stepText chars true c
  | afterLeadEscape chars lead =>
    rw [step]
    split
    · exact .silent trivial
    · exact tidy_stepEscape chars true c
  | halted => cases promises

theorem cut_halted (text : List Char) : Mode.halted.cut text = ⟨[], .halted⟩ := by
  induction text with
  | nil => rfl
  | cons c rest ih => exact ih

theorem tidy_cut {mode : Mode} (promises : mode.Promises) (text : List Char) :
    Tidy ((mode.cut text).tokens, (mode.cut text).mode) := by
  induction text generalizing mode with
  | nil => exact .silent promises
  | cons c rest ih =>
    have tidy := tidy_step promises c
    rw [cut_cons]
    generalize mode.step c = outcome at tidy
    cases tidy with
    | goes whole promises => exact (ih promises).append whole
    | halts whole =>
      rw [cut_halted]
      exact .halts whole

theorem finish_cases (mode : Mode) : ∃ last : Option Token, mode.finish = last.toList := by
  cases mode with
  | between | halted => exact ⟨none, rfl⟩
  | number l phase =>
    rw [finish]
    split
    · exact ⟨some _, rfl⟩
    · exact ⟨some _, rfl⟩
  | _ => exact ⟨some _, rfl⟩

end Mode

/-- Only the last token of a text can be broken. -/
theorem whole_tokens (text : List Char) : ∃ ts, ∃ last : Option Token,
    tokens text = ts ++ last.toList ∧ ∀ t ∈ ts, t.IsWhole := by
  have tidy := @Mode.tidy_cut .between trivial text
  rw [tokens_eq]
  generalize Mode.between.cut text = cutter at tidy
  obtain ⟨sofar, mode⟩ := cutter
  cases tidy with
  | goes whole promises =>
    obtain ⟨last, finishes⟩ := mode.finish_cases
    refine ⟨sofar.reverse, last, ?_, fun t among => whole t (List.mem_reverse.mp among)⟩
    rw [finishes, List.reverse_append]
    cases last <;> rfl
  | @halts t ts whole =>
    exact ⟨ts.reverse, some t, List.reverse_cons ..,
      fun t among => whole t (List.mem_reverse.mp among)⟩

/-! ## Documents that can be passed over -/

namespace Document

theorem ignoreItems_eq_ok_iff {items : List Document} :
    ignoreItems items = .ok () ↔ ∀ d ∈ items, d.ignore = .ok () := by
  induction items with
  | nil => exact iff_of_true rfl (List.forall_mem_nil _)
  | cons d rest ih =>
    rw [ignoreItems, List.forall_mem_cons, ← ih, bind_eq_ok_iff]
    exact ⟨fun both => ⟨both.choose_spec.1, both.choose_spec.2⟩, fun both => ⟨(), both⟩⟩

/-- The name and the value of a member can be passed over. -/
def PassesMember (m : Document × Document) : Prop :=
  m.1.ignoreName = .ok () ∧ m.2.ignore = .ok ()

theorem ignoreMembers_eq_ok_iff {members : List (Document × Document)} :
    ignoreMembers members = .ok () ↔ ∀ m ∈ members, PassesMember m := by
  induction members with
  | nil => exact iff_of_true rfl (List.forall_mem_nil _)
  | cons m rest ih =>
    obtain ⟨key, d⟩ := m
    rw [ignoreMembers, List.forall_mem_cons, ← ih]
    simp only [bind_eq_ok_iff, PassesMember]
    constructor
    · rintro ⟨_, named, _, passes, rests⟩
      exact ⟨⟨named, passes⟩, rests⟩
    · rintro ⟨⟨named, passes⟩, rests⟩
      exact ⟨(), named, (), passes, rests⟩

/-- All that was read of an open container can be passed over. -/
def Frame.Passes : Frame → Prop
  | .array items => ∀ d ∈ items, d.ignore = .ok ()
  | .object members key => (∀ m ∈ members, PassesMember m) ∧ key.ignoreName = .ok ()

/-- An array or object that is closed. -/
def IsClosed : Document → Prop
  | .array _ none | .object _ none => True
  | _ => False

namespace Builder

theorem not_isClosed_enclose {d : Document} (unclosed : ¬d.IsClosed) (around : List Frame) :
    ¬(enclose d around).IsClosed := by
  induction around generalizing d with
  | nil => exact unclosed
  | cons frame around ih =>
    cases frame with
    | array items => exact ih id
    | object members key => exact ih id

theorem not_isClosed_halt {b : Builder} (isOpen : b.IsOpen) (fault : Fault) :
    ¬(b.halt fault).IsClosed := by
  cases isOpen with
  | _ => exact not_isClosed_enclose id _

/-! ## What a token does -/

/-- Where a token leads. -/
inductive Moves (t : Token) : Builder → Builder → Prop where
  | value {around : List Frame} {next : Builder} (reads : readValue? around t = some next) :
    Moves t (.value around) next
  | firstItem {around : List Frame} {next : Builder}
      (reads : readValue? (.array [] :: around) t = some next) :
    Moves t (.firstItem around) next
  | noItem {around : List Frame} : Moves t (.firstItem around) (deliver (.array [] none) around)
  | nextItem {items : List Document} {around : List Frame} :
    Moves t (.afterItem items around) (.value (.array items :: around))
  | lastItem {items : List Document} {around : List Frame} :
    Moves t (.afterItem items around) (deliver (.array items.reverse none) around)
  | firstKey {around : List Frame} : Moves t (.firstKey around) (readKey [] around t)
  | noKey {around : List Frame} : Moves t (.firstKey around) (deliver (.object [] none) around)
  | nextKey {members : List (Document × Document)} {around : List Frame} :
    Moves t (.nextKey members around) (readKey members around t)
  | colon {members : List (Document × Document)} {key : Document} {around : List Frame} :
    Moves t (.colon members key around) (.value (.object members key :: around))
  | nextMember {members : List (Document × Document)} {around : List Frame} :
    Moves t (.afterMember members around) (.nextKey members around)
  | lastMember {members : List (Document × Document)} {around : List Frame} :
    Moves t (.afterMember members around) (deliver (.object members.reverse none) around)
  | exceeds {d : Document} : Moves t (.complete d) (.excess d)
  | remains {d : Document} : Moves t (.excess d) (.excess d)
  | rests {d : Document} : Moves t (.stopped d) (.stopped d)
  | halts {b : Builder} (isOpen : b.IsOpen) (fault : Fault) : Moves t b (.stopped (b.halt fault))

theorem moves_of_readValue {t : Token} {b : Builder} {around : List Frame} (isOpen : b.IsOpen)
    (starts : ∀ next, readValue? around t = some next → Moves t b next) :
    Moves t b (match readValue? around t with
      | some next => next
      | none => .stopped (b.halt .malformed)) := by
  cases reads : readValue? around t with
  | some next => exact starts next reads
  | none => exact .halts isOpen _

theorem moves_step (b : Builder) (t : Token) : Moves t b (b.step t) := by
  cases b with
  | value around => exact moves_of_readValue (.value around) fun next reads => .value reads
  | firstItem around =>
    cases t with
    | closeArray => exact .noItem
    | _ => exact moves_of_readValue (.firstItem around) fun next reads => .firstItem reads
  | afterItem items around =>
    cases t with
    | comma => exact .nextItem
    | closeArray => exact .lastItem
    | _ => exact .halts (.afterItem items around) _
  | firstKey around =>
    cases t with
    | closeObject => exact .noKey
    | _ => exact .firstKey
  | nextKey members around => exact .nextKey
  | colon members key around =>
    cases t with
    | colon => exact .colon
    | _ => exact .halts (.colon members key around) _
  | afterMember members around =>
    cases t with
    | comma => exact .nextMember
    | closeObject => exact .lastMember
    | _ => exact .halts (.afterMember members around) _
  | complete d => exact .exceeds
  | excess d => exact .remains
  | stopped d => exact .rests

/-! ## Stops and faults -/

/-- If the reading has stopped, no container was closed. -/
def StopsUnclosed : Builder → Prop
  | .stopped d => ¬d.IsClosed
  | _ => True

theorem stopsUnclosed_deliver (d : Document) (around : List Frame) :
    (deliver d around).StopsUnclosed := by
  rcases around with _ | ⟨items | ⟨members, key⟩, around⟩ <;> trivial

theorem stopsUnclosed_readValue {around : List Frame} {t : Token} {next : Builder}
    (reads : readValue? around t = some next) : next.StopsUnclosed := by
  cases t with
  | scalar s =>
    cases reads
    exact stopsUnclosed_deliver _ _
  | openArray | openObject =>
    cases reads
    trivial
  | _ => cases reads

theorem stopsUnclosed_readKey (members : List (Document × Document)) (around : List Frame)
    (t : Token) : (readKey members around t).StopsUnclosed := by
  have bad : ∀ key, (badKey key members around).StopsUnclosed :=
    fun _ => not_isClosed_enclose id around
  cases t with
  | scalar s =>
    cases s with
    | text s => trivial
    | _ => exact bad _
  | _ => exact bad _

theorem stopsUnclosed_step {b : Builder} (unclosed : b.StopsUnclosed) (t : Token) :
    (b.step t).StopsUnclosed := by
  have moves := moves_step b t
  generalize b.step t = next at moves
  cases moves with
  | value reads | firstItem reads => exact stopsUnclosed_readValue reads
  | noItem | lastItem | noKey | lastMember => exact stopsUnclosed_deliver _ _
  | firstKey | nextKey => exact stopsUnclosed_readKey _ _ _
  | nextItem | colon | nextMember | exceeds | remains => trivial
  | rests => exact unclosed
  | halts isOpen fault => exact not_isClosed_halt isOpen fault

theorem stopsUnclosed_foldl {b : Builder} (unclosed : b.StopsUnclosed) (ts : List Token) :
    (ts.foldl step b).StopsUnclosed := by
  induction ts generalizing b with
  | nil => exact unclosed
  | cons t rest ih => exact ih (stopsUnclosed_step unclosed t)

/-! ## Containers without faults inside -/

/-- All that was read can be passed over. -/
def Passes : Builder → Prop
  | .value around | .firstItem around | .firstKey around => ∀ frame ∈ around, frame.Passes
  | .afterItem items around => (∀ d ∈ items, d.ignore = .ok ()) ∧ ∀ frame ∈ around, frame.Passes
  | .nextKey members around | .afterMember members around =>
    (∀ m ∈ members, PassesMember m) ∧ ∀ frame ∈ around, frame.Passes
  | .colon members key around =>
    ((∀ m ∈ members, PassesMember m) ∧ key.ignoreName = .ok ()) ∧ ∀ frame ∈ around, frame.Passes
  | .complete d => d.ignore = .ok ()
  | .excess _ | .stopped _ => True

theorem passes_deliver {d : Document} {around : List Frame} (passes : d.ignore = .ok ())
    (whole : ∀ frame ∈ around, frame.Passes) : (deliver d around).Passes := by
  rcases around with _ | ⟨items | ⟨members, key⟩, around⟩
  · exact passes
  · obtain ⟨frame, whole⟩ := List.forall_mem_cons.mp whole
    exact ⟨List.forall_mem_cons.mpr ⟨passes, frame⟩, whole⟩
  · obtain ⟨frame, whole⟩ := List.forall_mem_cons.mp whole
    exact ⟨List.forall_mem_cons.mpr ⟨⟨frame.2, passes⟩, frame.1⟩, whole⟩

theorem passes_readValue {around : List Frame} (whole : ∀ frame ∈ around, frame.Passes) {t : Token}
    (wholeToken : t.IsWhole) {next : Builder} (reads : readValue? around t = some next) :
    next.Passes := by
  cases t with
  | scalar s =>
    cases reads
    exact passes_deliver wholeToken whole
  | openArray | openObject =>
    cases reads
    exact whole
  | _ => cases reads

theorem passes_readKey {members : List (Document × Document)} {around : List Frame}
    (passes : ∀ m ∈ members, PassesMember m) (whole : ∀ frame ∈ around, frame.Passes) (t : Token) :
    (readKey members around t).Passes := by
  cases t with
  | scalar s =>
    cases s with
    | text s => exact ⟨⟨passes, rfl⟩, whole⟩
    | _ => trivial
  | _ => trivial

theorem ignore_array {items : List Document} (passes : ∀ d ∈ items, d.ignore = .ok ()) :
    (Document.array items.reverse none).ignore = .ok () := by
  rw [ignore]
  refine bind_eq_ok_iff.mpr ⟨(), ignoreItems_eq_ok_iff.mpr fun d among => ?_, rfl⟩
  exact passes d (List.mem_reverse.mp among)

theorem ignore_object {members : List (Document × Document)}
    (passes : ∀ m ∈ members, PassesMember m) :
    (Document.object members.reverse none).ignore = .ok () := by
  rw [ignore]
  refine bind_eq_ok_iff.mpr ⟨(), ignoreMembers_eq_ok_iff.mpr fun m among => ?_, rfl⟩
  exact passes m (List.mem_reverse.mp among)

theorem passes_step {b : Builder} (passes : b.Passes) {t : Token} (whole : t.IsWhole) :
    (b.step t).Passes := by
  have moves := moves_step b t
  generalize b.step t = next at moves
  cases moves with
  | value reads => exact passes_readValue passes whole reads
  | firstItem reads =>
    have empty : (Frame.array []).Passes := List.forall_mem_nil _
    exact passes_readValue (List.forall_mem_cons.mpr ⟨empty, passes⟩) whole reads
  | noItem => exact passes_deliver rfl passes
  | nextItem => exact List.forall_mem_cons.mpr passes
  | lastItem => exact passes_deliver (ignore_array passes.1) passes.2
  | firstKey => exact passes_readKey (List.forall_mem_nil _) passes t
  | noKey => exact passes_deliver rfl passes
  | nextKey => exact passes_readKey passes.1 passes.2 t
  | colon => exact List.forall_mem_cons.mpr passes
  | nextMember => exact passes
  | lastMember => exact passes_deliver (ignore_object passes.1) passes.2
  | exceeds | remains | rests | halts => trivial

theorem passes_foldl {b : Builder} (passes : b.Passes) {ts : List Token}
    (whole : ∀ t ∈ ts, t.IsWhole) : (ts.foldl step b).Passes := by
  induction ts generalizing b with
  | nil => exact passes
  | cons t rest ih =>
    rw [List.forall_mem_cons] at whole
    exact ih (passes_step passes whole.1) whole.2

end Builder

end Document

open Document Builder

/-- A closed container that a text shows, with nothing after it, was completed. -/
theorem complete_of_reading {text : List Char} {d : Document} (closed : d.IsClosed)
    (shows : Reading.ofText text = ⟨d, false⟩) :
    (tokens text).foldl step (.value []) = .complete d := by
  have unclosed := @stopsUnclosed_foldl (.value []) trivial (tokens text)
  unfold Reading.ofText at shows
  generalize (tokens text).foldl step (.value []) = b at unclosed shows
  obtain ⟨halts, noExcess⟩ := Reading.mk.inj shows
  subst halts
  cases b with
  | complete d => rfl
  | excess d => cases noExcess
  | stopped d => exact absurd closed unclosed
  | _ => exact absurd closed (not_isClosed_halt (by constructor) _)

/-- Of a text that shows a closed object, and nothing after it, all members can be passed over. -/
theorem ignore_of_reading {text : List Char} {members : List (Document × Document)}
    (shows : Reading.ofText text = ⟨.object members none, false⟩) :
    ∀ m ∈ members, m.2.ignore = .ok () := by
  have closed : (Document.object members none).IsClosed := trivial
  have complete := complete_of_reading closed shows
  obtain ⟨ts, last, same, whole⟩ := whole_tokens text
  have passes := @passes_foldl (.value []) (List.forall_mem_nil _) ts whole
  rw [same, List.foldl_append] at complete
  have passesAll : (Builder.complete (.object members none)).Passes := by
    cases last with
    | none => exact complete ▸ passes
    | some t =>
      -- This token closes the object, so it is no literal and nothing in it can be broken.
      change (ts.foldl step (.value [])).step t = _ at complete
      cases t with
      | scalar s => cases eq_of_step_scalar complete
      | _ =>
        rw [← complete]
        exact passes_step passes trivial
  change Document.ignore _ = _ at passesAll
  rw [ignore] at passesAll
  obtain ⟨_, passesAll, -⟩ := bind_eq_ok_iff.mp passesAll
  exact fun m among => (ignoreMembers_eq_ok_iff.mp passesAll m among).2

end InCallProximity.Json
