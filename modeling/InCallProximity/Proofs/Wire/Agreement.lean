import InCallProximity.Proofs.Json.Alike
import InCallProximity.Proofs.Json.Keeping
import InCallProximity.Wire.Command
import InCallProximity.Wire.Event

/-!
# Texts and values decode alike

An event or command can be decoded from a text, or from the value that the text was read as, with
every object a table. The two ways meet the parts of an object in different orders, so only their
successes agree, and only as long as no object repeats a name: a table keeps the last of repeated
members, while a reader of the text refuses the second.

The way from the one to the other has two steps. The text splits into the same tag and content as
its value in the order of the text (`Tagged.split_document_iff`). Making tables then rearranges the
content (`Tagged.splitAlike_collapse`), and no record that events and commands are made of can tell
(`Content.Alike.decode_iff`).
-/

namespace InCallProximity

open Json

/-! ## The records of events and commands -/

namespace Json

theorem ReadsTables.map {α σ : Type} {decode : Kept → Except Problem α} (reads : ReadsTables decode)
    {k l : Kept} (tabled : k.Tabled l) {set : α → σ} {y : σ} :
    (decode k).map set = .ok y ↔ (decode l).map set = .ok y := by
  simp only [map_eq_ok_iff, reads tabled]

namespace Record

theorem tame_empty (title : String) : (empty title).Tame where
  independent := independent_empty title
  reads := nofun

theorem tame_one {α : Type} (title : String) (start : α) (name : String)
    {decode : Kept → Except Problem α} (reads : ReadsTables decode) :
    (one title start name decode).Tame where
  independent := independent_one title start name decode
  reads := by
    intro field among k l tabled x y
    obtain rfl := List.mem_singleton.mp among
    exact reads.map tabled

variable {α β : Type} {first second : String}

theorem tame_two (title : String) (start : α × β) {decodeFirst : Kept → Except Problem α}
    {decodeSecond : Kept → Except Problem β} (apart : first ≠ second)
    (readsFirst : ReadsTables decodeFirst) (readsSecond : ReadsTables decodeSecond) :
    (two title start first decodeFirst second decodeSecond).Tame where
  independent := independent_two title start apart decodeFirst decodeSecond
  reads := by
    intro field among k l tabled x y
    rcases List.mem_pair.mp among with rfl | rfl
    · exact readsFirst.map tabled
    · exact readsSecond.map tabled

theorem tame_flags (title : String) (apart : first ≠ second) : (flags title first second).Tame where
  independent := independent_flags title apart
  reads := by
    intro field among k l tabled x y
    rcases List.mem_pair.mp among with rfl | rfl <;> exact decodeBool_readsTables.map tabled

end Record

end Json

variable {content contentToo : Content}

theorem Json.Content.Alike.map_decode_iff {σ α : Type} (alike : content.Alike contentToo)
    {r : Record Kept σ} (tame : r.Tame) {f : σ → α} {a : α} :
    (content.decode r).map f = .ok a ↔ (contentToo.decode r).map f = .ok a := by
  simp only [map_eq_ok_iff, alike.decode_iff tame]

theorem Event.decodeContent_alike (alike : content.Alike contentToo) (kind : EventKind)
    (event : Event) :
    decodeContent kind content = .ok event ↔ decodeContent kind contentToo = .ok event := by
  cases kind with
  | callPhaseChanged | audioRouteChanged | orientationChanged =>
    exact alike.map_decode_iff (Record.tame_one _ _ _ decodeNamed_readsTables)
  | displayStateChanged | uiVisibilityChanged | dialpadVisibilityChanged =>
    exact alike.map_decode_iff (Record.tame_one _ _ _ decodeBool_readsTables)
  | proximityRawSample =>
    exact alike.map_decode_iff
      (Record.tame_two _ _ (by decide) decodeSingle_readsTables decodeSingle_readsTables)
  | videoCallFlagsChanged => exact alike.map_decode_iff (Record.tame_flags _ (by decide))

theorem Command.decodeContent_alike (alike : content.Alike contentToo) (kind : CommandKind)
    (command : Command) :
    decodeContent kind content = .ok command ↔ decodeContent kind contentToo = .ok command := by
  cases kind with
  | acquireBlankTrigger | startOrientationSensing | stopOrientationSensing
  | startProximitySensing | stopProximitySensing | cancelScheduledRouteSwitch =>
    exact alike.map_decode_iff (Record.tame_empty _)
  | releaseBlankTrigger =>
    exact alike.map_decode_iff (Record.tame_one _ _ _ decodeBool_readsTables)
  | scheduleRouteSwitch =>
    exact alike.map_decode_iff
      (Record.tame_two _ _ (by decide) decodeNamed_readsTables decodeUnsigned_readsTables)
  | setRoute => exact alike.map_decode_iff (Record.tame_one _ _ _ decodeNamed_readsTables)

/-! ## The two ways -/

/-- What a document in which no name repeats is decoded to, its table is decoded to. -/
def DecodesTable {α : Type} (decode : {δ : Type} → [Source δ] → δ → Except Problem α) : Prop :=
  ∀ d : Document, (∀ v, d.keep nestingLimit = .ok v → v.Distinct) →
    ∀ a, decode d = .ok a ↔ ∃ v, d.keep nestingLimit = .ok v ∧ decode v.collapse = .ok a

/-- Tagged objects are decoded like their tables if their contents are. -/
theorem decodesTable_of_tagged {τ α : Type} [Named τ] {title : String}
    {decodeContent : τ → Content → Except Problem α}
    (alike : ∀ {content contentToo : Content}, content.Alike contentToo →
      ∀ t a, decodeContent t content = .ok a ↔ decodeContent t contentToo = .ok a) :
    DecodesTable fun d => Tagged.split title d >>= fun parts => decodeContent parts.1 parts.2 := by
  intro d distinct a
  simp only [bind_eq_ok_iff, Prod.exists, Tagged.split_document_iff]
  constructor
  · rintro ⟨t, content, ⟨v, kept, splits⟩, decoded⟩
    obtain ⟨isTag, inOrder, rearranged, same, split, splitToo⟩ :=
      @Tagged.splitAlike_collapse τ _ title _ (distinct v kept)
    obtain ⟨tagged, rfl⟩ := (split t content).mp splits
    exact ⟨v, kept, t, _, (splitToo t rearranged).mpr ⟨tagged, rfl⟩, (alike same t a).mp decoded⟩
  · rintro ⟨v, kept, t, content, splits, decoded⟩
    obtain ⟨isTag, inOrder, rearranged, same, split, splitToo⟩ :=
      @Tagged.splitAlike_collapse τ _ title _ (distinct v kept)
    obtain ⟨tagged, rfl⟩ := (splitToo t content).mp splits
    exact ⟨t, _, ⟨v, kept, (split t inOrder).mpr ⟨tagged, rfl⟩⟩, (alike same t a).mpr decoded⟩

/-- Decoding a text gives something exactly if the text can be read as a value and decoding that
value gives the same. -/
def DecodesAlike (α : Type) [Wire α] (text : List Char) : Prop :=
  ∀ a : α, Wire.ofText text = .ok a ↔ ∃ v, Value.ofText text = .ok v ∧ Wire.ofValue v = .ok a

theorem decodesAlike_of_table {α : Type} [Wire α] {text : List Char}
    (distinct : ∀ v, Value.ofText text = .ok v → v.Distinct)
    (table : DecodesTable fun d => (Wire.decode d : Except Problem α)) : DecodesAlike α text := by
  intro a
  unfold Wire.ofText
  simp only [Value.ofText, readText_eq_ok_iff] at distinct ⊢
  cases complete : (Reading.ofText text).excess with
  | false =>
    simp only [complete, and_true] at distinct ⊢
    exact table _ distinct a
  | true => simp

/-- Events and commands can be decoded from a text or from its value, if no object of the value
repeats a name. -/
theorem events_and_commands_decode_alike (text : List Char)
    (distinct : ∀ v, Value.ofText text = .ok v → v.Distinct) :
    DecodesAlike Event text ∧ DecodesAlike Command text :=
  ⟨decodesAlike_of_table distinct (decodesTable_of_tagged Event.decodeContent_alike),
    decodesAlike_of_table distinct (decodesTable_of_tagged Command.decodeContent_alike)⟩

/-- Members in another order, an unknown one and a double zero are decoded alike. -/
theorem unordered_members_decode_alike :
    let text := "\x7b\"phase\":\"idle\",\"more\":[-0],\"type\":\"call_phase_changed\"\x7d".toList
    (∀ v, Value.ofText text = .ok v → v.Distinct) ∧
      DecodesAlike Event text ∧ DecodesAlike Command text := by
  intro text
  have distinct : ∀ v, Value.ofText text = .ok v → v.Distinct := by decide +kernel
  exact ⟨distinct, events_and_commands_decode_alike text distinct⟩

-- With a repeated name the two ways part: only the value can be decoded.
example :
    let text :=
      "\x7b\"type\":\"call_phase_changed\",\"phase\":\"idle\",\"phase\":\"idle\"\x7d".toList
    Wire.ofText text ≠ .ok (Event.callPhaseChanged .idle) ∧
      (Value.ofText text >>= Wire.ofValue) = .ok (Event.callPhaseChanged .idle) := by
  decide +kernel

end InCallProximity
