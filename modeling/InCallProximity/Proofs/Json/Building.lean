import InCallProximity.Proofs.Json.Cutting
import InCallProximity.Proofs.Json.Keeping

/-!
# Building documents that are put together

The machine that builds documents does not look below the containers that it opened itself, so a
text that is the text of a value on its own stands for the same value inside a container
(`Builds.inside`). A text that is read as a value on its own is such a text: everything else leaves
a fault behind, and what has a fault is no value (`exists_builds`).
-/

namespace InCallProximity.Json

/-! ## Documents that are no values -/

/-- However deep values may nest, the document is none. -/
def Document.Unkept (d : Document) : Prop := ∀ depth v, d.keep depth ≠ .ok v

namespace Document

theorem unkept_missing (fault : Fault) : (missing fault).Unkept := fun _ _ => nofun

theorem unkept_array (items : List Document) (fault : Fault) :
    (Document.array items (some fault)).Unkept := by
  intro depth v kept
  rcases depth with _ | depth
  · cases kept
  · cases (keep_array_iff.mp kept).1

theorem unkept_object (members : List (Document × Document)) (fault : Fault) :
    (Document.object members (some fault)).Unkept := by
  intro depth v kept
  rcases depth with _ | depth
  · cases kept
  · cases (keep_object_iff.mp kept).1

namespace Builder

theorem unkept_enclose {d : Document} (unkept : d.Unkept) (around : List Frame) :
    (enclose d around).Unkept := by
  induction around generalizing d with
  | nil => exact unkept
  | cons frame around ih =>
    cases frame with
    | array items => exact ih (unkept_array _ _)
    | object members key => exact ih (unkept_object _ _)

/-- More of the value is to come. -/
inductive IsOpen : Builder → Prop where
  | value (around : List Frame) : IsOpen (.value around)
  | firstItem (around : List Frame) : IsOpen (.firstItem around)
  | afterItem (items : List Document) (around : List Frame) : IsOpen (.afterItem items around)
  | firstKey (around : List Frame) : IsOpen (.firstKey around)
  | nextKey (members : List (Document × Document)) (around : List Frame) :
    IsOpen (.nextKey members around)
  | colon (members : List (Document × Document)) (key : Document) (around : List Frame) :
    IsOpen (.colon members key around)
  | afterMember (members : List (Document × Document)) (around : List Frame) :
    IsOpen (.afterMember members around)

theorem unkept_halt {b : Builder} (isOpen : b.IsOpen) (fault : Fault) : (b.halt fault).Unkept := by
  cases isOpen with
  | value around => exact unkept_enclose (unkept_missing _) around
  | firstItem around | afterItem items around => exact unkept_enclose (unkept_array _ _) around
  | firstKey around | nextKey members around | colon members key around
  | afterMember members around => exact unkept_enclose (unkept_object _ _) around

/-! ## Values inside containers -/

/-- The same place of reading, inside further containers. -/
def under (outer : List Frame) : Builder → Builder
  | .value around => .value (around ++ outer)
  | .firstItem around => .firstItem (around ++ outer)
  | .afterItem items around => .afterItem items (around ++ outer)
  | .firstKey around => .firstKey (around ++ outer)
  | .nextKey members around => .nextKey members (around ++ outer)
  | .colon members key around => .colon members key (around ++ outer)
  | .afterMember members around => .afterMember members (around ++ outer)
  | .complete d => deliver d outer
  | .excess d => .excess d
  | .stopped d => .stopped d

theorem deliver_append (d : Document) (around outer : List Frame) :
    deliver d (around ++ outer) = (deliver d around).under outer := by
  cases around with
  | nil => rfl
  | cons frame around => cases frame <;> rfl

/-- The reading has stopped, at a place where no value comes out. -/
inductive Fails : Builder → Prop where
  | stopped {d : Document} (unkept : d.Unkept) : Fails (.stopped d)

/-- The reading goes on, or a value is complete. -/
def Goes (b : Builder) : Prop := b.IsOpen ∨ ∃ d, b = .complete d

theorem goes_deliver (d : Document) (around : List Frame) : (deliver d around).Goes := by
  rcases around with _ | ⟨items | ⟨members, key⟩, around⟩
  · exact Or.inr ⟨d, rfl⟩
  · exact Or.inl (.afterItem _ around)
  · exact Or.inl (.afterMember _ around)

theorem fails_badKey (key : Document) (members : List (Document × Document)) (around : List Frame) :
    (badKey key members around).Fails :=
  .stopped (unkept_enclose (unkept_object _ _) around)

theorem readKey_under (members : List (Document × Document)) (around outer : List Frame)
    (token : Token) :
    (readKey members around token).Fails ∨ (readKey members around token).Goes ∧
      readKey members (around ++ outer) token = (readKey members around token).under outer := by
  cases token with
  | scalar s =>
    cases s with
    | text s => exact Or.inr ⟨Or.inl (.colon _ _ around), rfl⟩
    | _ => exact Or.inl (fails_badKey _ members around)
  | _ => exact Or.inl (fails_badKey _ members around)

theorem step_firstKey (around : List Frame) {token : Token} (continues : token ≠ .closeObject) :
    (Builder.firstKey around).step token = readKey [] around token := by
  cases token with
  | closeObject => exact absurd rfl continues
  | _ => rfl

/-- A token inside a value is read there as it would be without the containers around. -/
theorem step_under {b : Builder} (isOpen : b.IsOpen) (token : Token) (outer : List Frame) :
    (b.step token).Fails ∨
      (b.step token).Goes ∧ (b.under outer).step token = (b.step token).under outer := by
  have halts : ∀ {b : Builder}, b.IsOpen → (Builder.stopped (b.halt .malformed)).Fails :=
    fun isOpen => .stopped (unkept_halt isOpen _)
  have delivers : ∀ d around, (deliver d around).Goes ∧
      deliver d (around ++ outer) = (deliver d around).under outer :=
    fun d around => ⟨goes_deliver d around, deliver_append d around outer⟩
  cases isOpen with
  | value around =>
    cases token with
    | scalar s => exact Or.inr (delivers _ around)
    | openArray => exact Or.inr ⟨Or.inl (.firstItem around), rfl⟩
    | openObject => exact Or.inr ⟨Or.inl (.firstKey around), rfl⟩
    | _ => exact Or.inl (halts (.value around))
  | firstItem around =>
    cases token with
    | scalar s => exact Or.inr ⟨Or.inl (.afterItem _ around), rfl⟩
    | openArray => exact Or.inr ⟨Or.inl (.firstItem _), rfl⟩
    | openObject => exact Or.inr ⟨Or.inl (.firstKey _), rfl⟩
    | closeArray => exact Or.inr (delivers _ around)
    | _ => exact Or.inl (halts (.firstItem around))
  | afterItem items around =>
    cases token with
    | comma => exact Or.inr ⟨Or.inl (.value _), rfl⟩
    | closeArray => exact Or.inr (delivers _ around)
    | _ => exact Or.inl (halts (.afterItem items around))
  | firstKey around =>
    by_cases closes : token = .closeObject
    · rw [closes]
      exact Or.inr (delivers _ around)
    · rw [under, step_firstKey _ closes, step_firstKey _ closes]
      exact readKey_under [] around outer token
  | nextKey members around => exact readKey_under members around outer token
  | colon members key around =>
    cases token with
    | colon => exact Or.inr ⟨Or.inl (.value _), rfl⟩
    | _ => exact Or.inl (halts (.colon members key around))
  | afterMember members around =>
    cases token with
    | comma => exact Or.inr ⟨Or.inl (.nextKey members around), rfl⟩
    | closeObject => exact Or.inr (delivers _ around)
    | _ => exact Or.inl (halts (.afterMember members around))

theorem foldl_stopped (d : Document) (ts : List Token) :
    ts.foldl step (.stopped d) = .stopped d := by
  induction ts with
  | nil => rfl
  | cons _ _ ih => exact ih

theorem foldl_excess (d : Document) (ts : List Token) : ts.foldl step (.excess d) = .excess d := by
  induction ts with
  | nil => rfl
  | cons _ _ ih => exact ih

/-- Tokens that complete a value complete it inside other containers too. -/
theorem foldl_under {b : Builder} {ts : List Token} {d : Document} (goes : b.Goes)
    (completes : ts.foldl step b = .complete d) (outer : List Frame) :
    ts.foldl step (b.under outer) = deliver d outer := by
  induction ts generalizing b with
  | nil =>
    obtain rfl : b = .complete d := completes
    rfl
  | cons token ts ih =>
    rw [List.foldl_cons] at completes ⊢
    rcases goes with isOpen | ⟨e, rfl⟩
    · rcases step_under isOpen token outer with fails | ⟨goes, same⟩
      · generalize b.step token = next at fails completes
        cases fails
        rw [foldl_stopped] at completes
        cases completes
      · rw [same, ih goes completes]
    · rw [show (Builder.complete e).step token = .excess e from rfl, foldl_excess] at completes
      cases completes

/-- Without excess, a value comes out only where one was completed. -/
theorem complete_of_kept {b : Builder} {ts : List Token} (goes : b.Goes)
    (noExcess : ∀ d, ts.foldl step b ≠ .excess d) {fault : Fault} {depth : Nat} {v : Value}
    (kept : ((ts.foldl step b).halt fault).keep depth = .ok v) :
    ∃ d, ts.foldl step b = .complete d := by
  induction ts generalizing b with
  | nil =>
    rcases goes with isOpen | completes
    · exact absurd kept (unkept_halt isOpen fault depth v)
    · exact completes
  | cons token ts ih =>
    rw [List.foldl_cons] at noExcess kept ⊢
    rcases goes with isOpen | ⟨e, rfl⟩
    · rcases step_under isOpen token [] with fails | ⟨goes, -⟩
      · generalize b.step token = next at fails kept
        obtain ⟨unkept⟩ := fails
        rw [foldl_stopped] at kept
        exact absurd kept (unkept depth v)
      · exact ih goes noExcess kept
    · exact absurd (foldl_excess e ts) (noExcess e)

end Builder

end Document

/-! ## Broken literals -/

/-- A scalar that is no value. -/
def Scalar.Broken (s : Scalar) : Prop := ∀ v, s.keep ≠ .ok v

namespace Mode

theorem breakText_eq (ill : Bool) (fault : Fault) :
    ∃ s, breakText ill fault = [.scalar s] ∧ Scalar.Broken s := ⟨_, rfl, fun _ => nofun⟩

/-- Where nothing more is read, the last token is broken. -/
def Sound (outcome : List Token × Mode) : Prop :=
  outcome.2 = .halted → ∃ s rest, outcome.1 = .scalar s :: rest ∧ Scalar.Broken s

theorem sound_begin (c : Char) : Sound (begin c) := by
  unfold begin
  split
  · exact nofun
  · split
    case h_12 =>
      split
      · exact nofun
      · exact fun _ => ⟨_, [], rfl, fun _ => nofun⟩
    all_goals exact nofun

theorem sound_stepText (chars : List Char) (ill : Bool) (c : Char) :
    Sound (stepText chars ill c) := by
  unfold stepText
  split
  · exact nofun
  · split
    · exact nofun
    · split
      · exact fun _ => ⟨_, [], rfl, fun _ => nofun⟩
      · exact nofun

theorem sound_stepEscape (chars : List Char) (ill : Bool) (c : Char) :
    Sound (stepEscape chars ill c) := by
  unfold stepEscape
  split
  · exact nofun
  · split
    · exact nofun
    · exact fun _ => ⟨_, [], rfl, fun _ => nofun⟩

theorem takeUnit_ne_halted (chars : List Char) (ill : Bool) (lead : Option Nat) (unit : Nat) :
    takeUnit chars ill lead unit ≠ .halted := by
  unfold takeUnit
  repeat' split
  all_goals exact nofun

theorem sound_stepHex (chars : List Char) (ill : Bool) (lead value : Option Nat) (bytes : Nat)
    (c : Char) : Sound (stepHex chars ill lead value bytes c) := by
  unfold stepHex
  dsimp only
  split
  · exact nofun
  · split
    · exact fun halts => absurd halts (takeUnit_ne_halted _ _ _ _)
    · exact fun _ => ⟨_, [], rfl, fun _ => nofun⟩

/-- A step into the mode in which nothing more is read leaves a broken token. -/
theorem sound_step {mode : Mode} (reading : mode ≠ .halted) (c : Char) : Sound (mode.step c) := by
  cases mode with
  | between => exact sound_begin c
  | word next rest s =>
    unfold step
    dsimp only
    split
    · split <;> (intro halts; cases halts)
    · exact fun _ => ⟨_, [], rfl, fun _ kept => by cases kept⟩
  | number l phase =>
    rw [step]
    split
    · intro halts
      cases halts
    · exact fun _ => ⟨_, [], rfl, fun _ kept => by cases kept⟩
    · intro halts
      obtain ⟨s, rest, same, broken⟩ := sound_begin c halts
      exact ⟨s, _, congrArg (· ++ _) same, broken⟩
  | text chars ill => exact sound_stepText chars ill c
  | escape chars ill => exact sound_stepEscape chars ill c
  | hex chars ill lead value bytes => exact sound_stepHex chars ill lead value bytes c
  | afterLead chars lead =>
    rw [step]
    split
    · intro halts
      cases halts
    · exact sound_stepText chars true c
  | afterLeadEscape chars lead =>
    rw [step]
    split
    · intro halts
      cases halts
    · exact sound_stepEscape chars true c
  | halted => exact absurd rfl reading

theorem sound_cut {mode : Mode} (reading : mode ≠ .halted) (text : List Char) :
    Sound ((mode.cut text).tokens, (mode.cut text).mode) := by
  induction text generalizing mode with
  | nil => exact fun halts => absurd halts reading
  | cons c rest ih =>
    rw [cut_cons]
    intro halts
    by_cases halted : (mode.step c).2 = .halted
    · obtain ⟨s, more, same, broken⟩ := sound_step reading c halted
      have idle : Mode.halted.cut rest = ⟨[], .halted⟩ := by
        clear ih halts
        induction rest with
        | nil => rfl
        | cons _ _ ih => exact ih
      rw [halted, idle, same]
      exact ⟨s, more, rfl, broken⟩
    · obtain ⟨s, more, same, broken⟩ := ih halted halts
      exact ⟨s, more ++ (mode.step c).1, congrArg (· ++ _) same, broken⟩

/-- A text at whose end a literal is open, but no number that is complete, ends in a broken
token. -/
theorem exists_broken {text : List Char} (unsettled : ¬(between.cut text).mode.Settled) :
    ∃ ts s, tokens text = ts ++ [.scalar s] ∧ Scalar.Broken s := by
  have sound := @sound_cut .between nofun text
  rw [tokens_eq]
  generalize between.cut text = cutter at unsettled sound
  obtain ⟨sofar, mode⟩ := cutter
  cases mode with
  | between => exact absurd .between unsettled
  | halted =>
    obtain ⟨s, rest, same, broken⟩ := sound rfl
    obtain rfl : sofar = _ := same
    exact ⟨rest.reverse, s, List.reverse_cons .., broken⟩
  | number l phase =>
    by_cases complete : phase.isComplete = true
    · exact absurd (.number l complete) unsettled
    · refine ⟨sofar.reverse, .broken .truncated .malformed, ?_, fun _ kept => by cases kept⟩
      rw [finish, if_neg complete, List.singleton_append, List.reverse_cons]
  | word => exact ⟨sofar.reverse, _, List.reverse_cons .., fun _ kept => by cases kept⟩
  | text | escape | hex | afterLead | afterLeadEscape =>
    obtain ⟨s, same, broken⟩ := breakText_eq _ .truncated
    have ends := congrArg (fun ts => (ts ++ sofar).reverse) same
    exact ⟨sofar.reverse, s, ends.trans List.reverse_cons, broken⟩

end Mode

/-! ## Texts of values -/

/-- The text is the text of this document, and what is open at its end a delimiter could end. -/
structure Builds (text : List Char) (d : Document) : Prop where
  settled : (Mode.between.cut text).mode.Settled
  completes : (tokens text).foldl Document.Builder.step (.value []) = .complete d

namespace Builds

open Document Builder

variable {text : List Char} {d : Document}

theorem of_scalar {s : Scalar} (cuts : Cuts text [.scalar s]) : Builds text (.scalar s) := by
  refine ⟨cuts.settled, ?_⟩
  rw [cuts.tokens]
  rfl

theorem reading (builds : Builds text d) : Reading.ofText text = ⟨d, false⟩ := by
  unfold Reading.ofText
  rw [builds.completes]
  rfl

/-- The value is the same inside a container. -/
theorem inside (builds : Builds text d) (around : List Frame) :
    (tokens text).foldl step (.value around) = deliver d around :=
  foldl_under (Or.inl (.value [])) builds.completes around

end Builds

open Document Builder in
/-- A scalar completes a value only if it is the value. -/
theorem eq_of_step_scalar {b : Builder} {s : Scalar} {d : Document}
    (completes : b.step (.scalar s) = .complete d) : d = .scalar s := by
  cases b with
  | value around =>
    rcases around with _ | ⟨_ | _, _⟩ <;> cases completes
    rfl
  | firstKey around | nextKey members around => cases s <;> cases completes
  | _ => cases completes

open Document Builder in
/-- A text that is read as a value is the text of a document that is kept as the value. -/
theorem exists_builds {depth : Nat} {text : List Char} {v : Value}
    (reads : readText (Document.keep depth) text = .ok v) :
    ∃ d, Builds text d ∧ d.keep depth = .ok v := by
  rw [readText_eq_ok_iff] at reads
  obtain ⟨kept, noExcess⟩ := reads
  have complete : ∃ d, (tokens text).foldl step (.value []) = .complete d := by
    refine complete_of_kept (Or.inl (.value [])) (fun d excess => ?_) kept
    have remains : (Reading.ofText text).excess = true := by
      unfold Reading.ofText
      rw [excess]
    rw [noExcess] at remains
    cases remains
  obtain ⟨d, completes⟩ := complete
  have same : (Reading.ofText text).document = d := by
    unfold Reading.ofText
    rw [completes]
    rfl
  rw [same] at kept
  refine ⟨d, ⟨?_, completes⟩, kept⟩
  by_contra unsettled
  obtain ⟨ts, s, ends, broken⟩ := Mode.exists_broken unsettled
  rw [ends, List.foldl_append] at completes
  obtain rfl := eq_of_step_scalar completes
  exact broken v kept

end InCallProximity.Json
