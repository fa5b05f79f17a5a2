import InCallProximity.Proofs.Binary.Nearest
import InCallProximity.Proofs.Json.Parts
import InCallProximity.Proofs.Wire.RoundTrip

/-!
# What events and commands are decoded from

A value is decoded to an event or command exactly if it denotes its kind and its parts
(`structured_acceptance`). The parts of each are listed once (`Event.parts`, `Command.parts`), and
each says without a decoder which values it accepts: a name alone or with a unit, a boolean, an
unsigned integer, or a number to which a distance is the nearest single.

Members that an event or command does not know make no difference, and a value that denotes none is
refused. A text is decoded like the value that it is read as, if it repeats none of the members that
are known (`Event.ofText_eq_ok_iff`, `Command.ofText_eq_ok_iff`).
-/

namespace InCallProximity

open Json
open Binary (Format)

/-! ## Acceptable values -/

namespace Json

/-- A name as a string, or as the only member of an object, with a value that says nothing. -/
inductive Value.IsName (s : String) : Value → Prop where
  | text : IsName s (.text s)
  | null : IsName s (.object [(s, .null)])
  | empty : IsName s (.object [(s, .object [])])

theorem Kept.isUnit_iff {v : Value} :
    Kept.isUnit ⟨v⟩ = true ↔ v = .null ∨ v = .object [] := by
  cases v with
  | object members => cases members <;> simp [Kept.isUnit]
  | _ => simp [Kept.isUnit]

theorem Kept.names_iff {v : Value} {s : String} : Kept.Names ⟨v⟩ s ↔ v.IsName s := by
  constructor
  · intro names
    cases names with
    | text => exact .text
    | member unit =>
      rcases Kept.isUnit_iff.mp unit with rfl | rfl
      · exact .null
      · exact .empty
  · intro isName
    cases isName with
    | text => exact .text s
    | null => exact .member rfl
    | empty => exact .member rfl

namespace Number

/-- The magnitude that is rounded to a distance: of an integer its own, of any other number that of
the double that it was read as. -/
def magnitude : Number → ℚ
  | .unsigned n => n.toNat
  | .negSucc n => n.val + 1
  | .float x => Format.double.value x.code

/-- The number was read with a minus sign. This makes a zero negative too. -/
def isNegative : Number → Bool
  | .unsigned _ => false
  | .negSucc _ => true
  | .float x => x.negative

/-- The single has the sign of a number and the magnitude nearest to that of the number. -/
structure RoundsTo (n : Number) (x : Single) : Prop where
  negative_eq : x.negative = n.isNegative
  nearest : Format.single.IsNearest n.magnitude x.code

theorem isNearest_natAbs (i : Int) :
    Format.single.IsNearest i.natAbs (Binary.Value.ofInt .single i).code := by
  have nearest := @Format.isNearest_round .single (by decide) i.natAbs 1 one_pos
  rwa [Nat.cast_one, div_one] at nearest

theorem roundsTo_toSingle (n : Number) : n.RoundsTo n.toSingle := by
  cases n with
  | unsigned n =>
    have nonnegative : ¬(n.toNat : Int) < 0 := (Int.natCast_nonneg _).not_gt
    exact ⟨decide_eq_false nonnegative, isNearest_natAbs n.toNat⟩
  | negSucc n =>
    refine ⟨decide_eq_true (Int.negSucc_lt_zero _), ?_⟩
    have nearest := isNearest_natAbs (Int.negSucc n)
    rwa [Int.natAbs_negSucc, Nat.cast_succ] at nearest
  | float x =>
    refine ⟨rfl, ?_⟩
    obtain ⟨num, den, positive, same, value⟩ := Format.convert_eq_round .double .single x.code
    have nearest := @Format.isNearest_round .single (by decide) num den positive
    rwa [← same, value] at nearest

theorem toSingle_eq_iff {n : Number} {x : Single} : n.toSingle = x ↔ n.RoundsTo x := by
  constructor
  · rintro rfl
    exact n.roundsTo_toSingle
  · rintro ⟨negative_eq, nearest⟩
    obtain ⟨negative, code⟩ := x
    obtain ⟨sameSign, nearestToo⟩ := n.roundsTo_toSingle
    have sameCode := nearestToo.unique nearest
    generalize n.toSingle = y at sameSign sameCode
    obtain ⟨negativeToo, codeToo⟩ := y
    exact congr (congrArg _ (sameSign.trans negative_eq.symm)) sameCode

end Number

theorem decodeBool_kept_iff {v : Value} {b : Bool} :
    decodeBool (Kept.mk v) = .ok b ↔ v = .bool b := by
  cases v with
  | bool a => simp [decodeBool, Source.view, Value.viewAs]
  | _ => exact iff_of_false refuse_ne_ok fun same => by cases same

theorem decodeUnsigned_kept_iff {v : Value} {n : UInt64} :
    decodeUnsigned (Kept.mk v) = .ok n ↔ v = .number (.unsigned n) := by
  cases v with
  | number m =>
    cases m with
    | unsigned m => simp [decodeUnsigned, Source.view, Value.viewAs]
    | negSucc m =>
      exact iff_of_false (fun decoded => by cases decoded) fun same => by cases same
    | float x => exact iff_of_false refuse_ne_ok fun same => by cases same
  | _ => exact iff_of_false refuse_ne_ok fun same => by cases same

theorem decodeSingle_kept_iff {v : Value} {x : Single} :
    decodeSingle (Kept.mk v) = .ok x ↔ ∃ n : Number, v = .number n ∧ n.RoundsTo x := by
  cases v with
  | number n => simp [decodeSingle, Source.view, Value.viewAs, ← Number.toSingle_eq_iff]
  | _ =>
    refine iff_of_false refuse_ne_ok ?_
    rintro ⟨_, same, -⟩
    cases same

/-! ## Parts -/

namespace Component

/-- A constant, by its name. -/
def named {α : Type} [Named α] (name : String) (a : α) : Component :=
  ⟨name, Value.IsName (Named.name a), False⟩

/-- One value only. -/
def exactly (name : String) (v : Value) : Component := ⟨name, (· = v), False⟩

/-- A flag that has to be given. -/
def flag (name : String) (b : Bool) : Component := exactly name (.bool b)

/-- A flag that is false when left out. -/
def spareFlag (name : String) (b : Bool) : Component := ⟨name, (· = .bool b), b = false⟩

/-- An integer that has to be given. -/
def unsigned (name : String) (n : UInt64) : Component := exactly name (.number (.unsigned n))

/-- A distance, as any number that it is nearest to. -/
def distance (name : String) (x : Single) : Component :=
  ⟨name, fun v => ∃ n : Number, v = .number n ∧ n.RoundsTo x, False⟩

theorem of_named {α : Type} [Named α] (names : ∀ a : α, ofName (Named.name a) = .ok a)
    (name : String) : Of (@named α _ name) name decodeNamed fun _ => False where
  name_eq _ := rfl
  accepts_iff a v := by
    change v.IsName (Named.name a) ↔ _
    simp only [decodeNamed_eq_ok_iff, Kept.names_iff]
    constructor
    · exact fun isName => ⟨_, isName, names a⟩
    · rintro ⟨s, isName, named⟩
      exact eq_name_of_ofName named ▸ isName
  mayLack_iff _ := Iff.rfl

theorem of_flag (name : String) : Of (flag name) name decodeBool fun _ => False where
  name_eq _ := rfl
  accepts_iff _ _ := decodeBool_kept_iff.symm
  mayLack_iff _ := Iff.rfl

theorem of_spareFlag (name : String) : Of (spareFlag name) name decodeBool (· = false) where
  name_eq _ := rfl
  accepts_iff _ _ := decodeBool_kept_iff.symm
  mayLack_iff _ := Iff.rfl

theorem of_unsigned (name : String) : Of (unsigned name) name decodeUnsigned fun _ => False where
  name_eq _ := rfl
  accepts_iff _ _ := decodeUnsigned_kept_iff.symm
  mayLack_iff _ := Iff.rfl

theorem of_distance (name : String) : Of (distance name) name decodeSingle fun _ => False where
  name_eq _ := rfl
  accepts_iff _ _ := decodeSingle_kept_iff.symm
  mayLack_iff _ := Iff.rfl

end Component

/-- What is made of a record is made of what suits the parts of the record. -/
theorem Record.Takes.map_decode_iff {σ α : Type} {r : Record Kept σ}
    {parts : σ → List Component} (takes : r.Takes parts) {f : σ → α} (injective : f.Injective)
    {content : Content} {y : σ} :
    (content.decode r).map f = .ok (f y) ↔ content.Suits (parts y) := by
  rw [map_eq_ok_iff, ← takes.decode_iff]
  simp only [injective.eq_iff, exists_eq_right]

theorem injective_of_pair {α β γ : Type} {f : α × β → γ}
    (injective : ∀ {a b a' b'}, f (a, b) = f (a', b') → a = a' ∧ b = b') : f.Injective := by
  rintro ⟨a, b⟩ ⟨a', b'⟩ same
  exact Prod.ext_iff.mpr (injective same)

end Json

/-! ## The parts of events and commands -/

namespace Event

/-- What stands on the wire for an event beside its kind. -/
def parts : Event → List Component
  | .callPhaseChanged phase => [.named "phase" phase]
  | .audioRouteChanged route => [.named "route" route]
  | .orientationChanged orientation => [.named "orientation" orientation]
  | .proximityRawSample distance maxRange =>
    [.distance "distance" distance, .distance "max_range" maxRange]
  | .displayStateChanged isOn => [.flag "is_on" isOn]
  | .uiVisibilityChanged showing => [.flag "showing" showing]
  | .dialpadVisibilityChanged visible => [.flag "visible" visible]
  | .videoCallFlagsChanged attempting isVideo =>
    [.spareFlag "attempting" attempting, .spareFlag "is_video" isVideo]

theorem type_notMem (event : Event) : "type" ∉ event.parts.map Component.name := by
  cases event <;>
    simp [parts, Component.named, Component.exactly, Component.flag, Component.spareFlag,
      Component.distance]

/-- A content gives only events of its kind. -/
theorem kind_of_decodeContent {kind : EventKind} {content : Content} {event : Event}
    (decoded : decodeContent kind content = .ok event) : kind = event.kind := by
  cases kind <;> obtain ⟨_, -, rfl⟩ := map_eq_ok_iff.mp decoded <;> rfl

theorem decodeContent_iff {event : Event} {content : Content} :
    decodeContent event.kind content = .ok event ↔ content.Suits event.parts := by
  cases event with
  | callPhaseChanged phase =>
    exact (Record.takes_one _ _ (Component.of_named CallPhase.ofName_name _)).map_decode_iff
      fun _ _ => callPhaseChanged.inj
  | audioRouteChanged route =>
    exact (Record.takes_one _ _ (Component.of_named AudioRoute.ofName_name _)).map_decode_iff
      fun _ _ => audioRouteChanged.inj
  | orientationChanged orientation =>
    exact (Record.takes_one _ _ (Component.of_named Orientation.ofName_name _)).map_decode_iff
      fun _ _ => orientationChanged.inj
  | proximityRawSample distance maxRange =>
    exact (Record.takes_two _ _ (by decide) (Component.of_distance _)
      (Component.of_distance _)).map_decode_iff (y := (distance, maxRange))
        (injective_of_pair proximityRawSample.inj)
  | displayStateChanged isOn =>
    exact (Record.takes_one _ _ (Component.of_flag _)).map_decode_iff
      fun _ _ => displayStateChanged.inj
  | uiVisibilityChanged showing =>
    exact (Record.takes_one _ _ (Component.of_flag _)).map_decode_iff
      fun _ _ => uiVisibilityChanged.inj
  | dialpadVisibilityChanged visible =>
    exact (Record.takes_one _ _ (Component.of_flag _)).map_decode_iff
      fun _ _ => dialpadVisibilityChanged.inj
  | videoCallFlagsChanged attempting isVideo =>
    exact (Record.takes_flags _ (by decide) (Component.of_spareFlag _)
      (Component.of_spareFlag _)).map_decode_iff (y := (attempting, isVideo))
        (injective_of_pair videoCallFlagsChanged.inj)

end Event

namespace Command

/-- What stands on the wire for a command beside its kind. -/
def parts : Command → List Component
  | .releaseBlankTrigger immediate => [.flag "immediate" immediate]
  | .scheduleRouteSwitch target delay => [.named "target" target, .unsigned "delay_ms" delay]
  | .setRoute target => [.named "target" target]
  | .acquireBlankTrigger | .startOrientationSensing | .stopOrientationSensing
  | .startProximitySensing | .stopProximitySensing | .cancelScheduledRouteSwitch => []

theorem type_notMem (command : Command) : "type" ∉ command.parts.map Component.name := by
  cases command <;>
    simp [parts, Component.named, Component.exactly, Component.flag, Component.unsigned]

theorem kind_of_decodeContent {kind : CommandKind} {content : Content} {command : Command}
    (decoded : decodeContent kind content = .ok command) : kind = command.kind := by
  cases kind <;> obtain ⟨_, -, rfl⟩ := map_eq_ok_iff.mp decoded <;> rfl

theorem decodeContent_iff {command : Command} {content : Content} :
    decodeContent command.kind content = .ok command ↔ content.Suits command.parts := by
  cases command with
  | acquireBlankTrigger | startOrientationSensing | stopOrientationSensing
  | startProximitySensing | stopProximitySensing | cancelScheduledRouteSwitch =>
    exact (Record.takes_empty _).map_decode_iff (y := ()) fun _ _ _ => rfl
  | releaseBlankTrigger immediate =>
    exact (Record.takes_one _ _ (Component.of_flag _)).map_decode_iff
      fun _ _ => releaseBlankTrigger.inj
  | scheduleRouteSwitch target delay =>
    exact (Record.takes_two _ _ (by decide) (Component.of_named AudioRoute.ofName_name _)
      (Component.of_unsigned _)).map_decode_iff (y := (target, delay))
        (injective_of_pair scheduleRouteSwitch.inj)
  | setRoute target =>
    exact (Record.takes_one _ _ (Component.of_named AudioRoute.ofName_name _)).map_decode_iff
      fun _ _ => setRoute.inj

end Command

/-! ## Decoding by parts -/

/-- The value denotes something of this kind and with these parts, and repeats no member that they
know. -/
def Json.Value.DenotesOnce (tag : String) (parts : List Component) (v : Value) : Prop :=
  v.Unrepeated ("type" :: parts.map Component.name) ∧ Denotes tag parts v

/-- Contents that are decoded by their parts make tagged values that are. -/
theorem decode_tagged_iff {τ α : Type} [Named τ] {title : String}
    {decodeContent : τ → Content → Except Problem α} {kind : α → τ}
    {parts : α → List Component} {a : α}
    (named : ofName (Named.name (kind a)) = .ok (kind a))
    (untagged : "type" ∉ (parts a).map Component.name)
    (kind_eq : ∀ {t content}, decodeContent t content = .ok a → t = kind a)
    (content_iff : ∀ {content}, decodeContent (kind a) content = .ok a ↔ content.Suits (parts a))
    {v : Value} :
    (Tagged.split title v >>= fun split => decodeContent split.1 split.2) = .ok a ↔
      v.DenotesOnce (Named.name (kind a)) (parts a) := by
  unfold Value.DenotesOnce
  rw [bind_eq_ok_iff, ← @Tagged.split_suits_iff τ _ _ title named _ untagged]
  constructor
  · rintro ⟨⟨t, content⟩, splits, decoded⟩
    obtain rfl := kind_eq decoded
    exact ⟨content, splits, content_iff.mp decoded⟩
  · rintro ⟨content, splits, suits⟩
    exact ⟨_, splits, content_iff.mpr suits⟩

theorem Event.decode_iff {v : Value} {event : Event} :
    (Wire.decode v : Except Problem Event) = .ok event ↔
      v.DenotesOnce (Named.name event.kind) event.parts :=
  @decode_tagged_iff _ _ _ "Event" decodeContent kind parts event event.kind.ofName_name
    event.type_notMem kind_of_decodeContent decodeContent_iff v

theorem Command.decode_iff {v : Value} {command : Command} :
    (Wire.decode v : Except Problem Command) = .ok command ↔
      v.DenotesOnce (Named.name command.kind) command.parts :=
  @decode_tagged_iff _ _ _ "Command" decodeContent kind parts command command.kind.ofName_name
    command.type_notMem kind_of_decodeContent decodeContent_iff v

/-- A tagged value is decoded from a document as from the value that the document is kept as. -/
theorem decode_document_iff {τ α : Type} [Named τ] {title : String}
    {decodeContent : τ → Content → Except Problem α} {d : Document} {a : α} :
    (Tagged.split title d >>= fun split => decodeContent split.1 split.2) = .ok a ↔
      ∃ v, d.keep nestingLimit = .ok v ∧
        (Tagged.split title v >>= fun split => decodeContent split.1 split.2) = .ok a := by
  simp only [bind_eq_ok_iff, Prod.exists, Tagged.split_document_iff]
  constructor
  · rintro ⟨t, content, ⟨v, kept, splits⟩, decoded⟩
    exact ⟨v, kept, t, content, splits, decoded⟩
  · rintro ⟨v, kept, t, content, splits, decoded⟩
    exact ⟨t, content, ⟨v, kept, splits⟩, decoded⟩

theorem ofText_eq_ok_iff {α : Type} [Wire α] {a : α} {denotes : Value → Prop}
    (document : ∀ d : Document, Wire.decode d = .ok a ↔
      ∃ v, d.keep nestingLimit = .ok v ∧ Wire.decode v = .ok a)
    (value : ∀ v : Value, Wire.decode v = .ok a ↔ denotes v) {text : List Char} :
    Wire.ofText text = .ok a ↔ ∃ v, Value.ofText text = .ok v ∧ denotes v := by
  unfold Wire.ofText Value.ofText
  simp only [readText_eq_ok_iff, document, value]
  constructor
  · rintro ⟨⟨v, kept, denotes⟩, complete⟩
    exact ⟨v, ⟨kept, complete⟩, denotes⟩
  · rintro ⟨v, ⟨kept, complete⟩, denotes⟩
    exact ⟨⟨v, kept, denotes⟩, complete⟩

/-- Texts are decoded to an event exactly if they are read as a value that denotes it, with none of
its members twice. -/
theorem Event.ofText_eq_ok_iff {text : List Char} {event : Event} :
    Wire.ofText text = .ok event ↔ ∃ v, Value.ofText text = .ok v ∧
      v.DenotesOnce (Named.name event.kind) event.parts :=
  InCallProximity.ofText_eq_ok_iff (fun _ => decode_document_iff) fun _ => Event.decode_iff

theorem Command.ofText_eq_ok_iff {text : List Char} {command : Command} :
    Wire.ofText text = .ok command ↔ ∃ v, Value.ofText text = .ok v ∧
      v.DenotesOnce (Named.name command.kind) command.parts :=
  InCallProximity.ofText_eq_ok_iff (fun _ => decode_document_iff) fun _ => Command.decode_iff

/-- Values are decoded to an event or command exactly if they denote its kind and its parts, where
the last of repeated members counts. -/
theorem structured_acceptance (v : Value) :
    (∀ event : Event, Wire.ofValue v = .ok event ↔
      Denotes (Named.name event.kind) event.parts v.collapse) ∧
    ∀ command : Command, Wire.ofValue v = .ok command ↔
      Denotes (Named.name command.kind) command.parts v.collapse :=
  ⟨fun _ => Event.decode_iff.trans (and_iff_right (v.unrepeated_collapse _)),
    fun _ => Command.decode_iff.trans (and_iff_right (v.unrepeated_collapse _))⟩

-- The flags of a video call may be left out, also at the end of an array.
example :
    Wire.ofValue (.array [.text "video_call_flags_changed", .bool true]) =
      .ok (Event.videoCallFlagsChanged true false) := rfl

end InCallProximity
