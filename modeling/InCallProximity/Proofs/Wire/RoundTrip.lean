import InCallProximity.Proofs.Json.Alike
import InCallProximity.Proofs.Json.Relaid
import InCallProximity.Wire.Command
import InCallProximity.Wire.Event
import InCallProximity.Wire.Settings

/-!
# Decoding undoes encoding

What is written of a command, an event or the settings is decoded to the same, and so is every text
in which the members of the written object are laid out anew, among extra ones
(`layouts_decode_back`). Samples of the proximity sensor are left out here: their distances are
decimals that have to be read back.
-/

namespace InCallProximity

open Json

/-! ## Written fields -/

namespace Json

theorem written_text (s : String) : Builds (Printed.text s).render (.scalar (.text (some s))) :=
  .of_scalar (cuts_quote s)

theorem written_bool (b : Bool) : Builds (Printed.bool b).render (.scalar (.bool b)) :=
  .of_scalar (cuts_bool b)

theorem written_nat (n : UInt64) :
    Builds (Printed.nat n.toNat).render (.scalar (.number (some (.unsigned n)))) := by
  have cuts := cuts_toDigits n.toNat_lt
  rw [UInt64.ofNat_toNat] at cuts
  exact .of_scalar cuts

/-- Members of a content can be rearranged, and members of unknown names come and go. -/
theorem Content.map_decode_extended {σ α : Type} {r : Record Kept σ}
    (independent : Field.Independent r.fields) {own extras kept : List (String × Kept)}
    (same : kept.Perm (own ++ extras))
    (unknown : ∀ member ∈ extras, member.1 ∉ Record.names r.fields)
    {f : σ → α} {a : α} (decodes : ((Content.members own).decode r).map f = .ok a) :
    ((Content.members kept).decode r).map f = .ok a := by
  obtain ⟨x, decoded, same_a⟩ := map_eq_ok_iff.mp decodes
  refine map_eq_ok_iff.mpr ⟨x, ?_, same_a⟩
  exact Record.ofMembers_extended independent same unknown (fun _ _ => rfl) decoded

/-- The written fields of a tagged object are decoded to what they were written of, rearranged and
among members of unknown names too. -/
def Restores {τ α : Type} (decodeContent : τ → Content → Except Problem α) (t : τ)
    (fields : List (String × Printed)) (a : α) : Prop :=
  ∃ docs own, Written fields docs ∧ Tagged.SetAside docs own ∧ ∀ kept extras,
    kept.Perm (own ++ extras) → (∀ member ∈ extras, member.1 ∉ fields.map Prod.fst) →
      decodeContent t (.members kept) = .ok a

/-- Tagged objects whose fields are decoded to what they were written of are, however they are laid
out. -/
theorem Restores.ofText {τ α : Type} [Named τ] [Wire α] {title : String}
    {decodeContent : τ → Content → Except Problem α} {t : τ} {fields : List (String × Printed)}
    {a : α} (restores : Restores decodeContent t fields a)
    (decode : ∀ d : Document, Wire.decode d =
      (Tagged.split title d >>= fun parts => decodeContent parts.1 parts.2))
    (named : ofName (Named.name t) = .ok t) (untagged : ∀ field ∈ fields, field.1 ≠ "type")
    {text : List Char} (relaid : Relaid (("type", Printed.text (Named.name t)) :: fields) text) :
    Wire.ofText text = .ok a := by
  obtain ⟨docs, own, written, aside, decodes⟩ := restores
  obtain ⟨members, extras, reading, same, isExtra⟩ :=
    relaid.reading (List.cons_ne_nil ("type", _) docs) (.cons ⟨rfl, written_text _⟩ written)
  rw [List.map_cons] at isExtra
  have untaggedDocs : ∀ member ∈ docs ++ extras, member.1 ≠ "type" := by
    intro member among
    rcases List.mem_append.mp among with amongDocs | amongExtras
    · obtain ⟨field, amongFields, sameName⟩ :=
        List.mem_map.mp (written.names ▸ List.mem_map_of_mem amongDocs)
      exact sameName ▸ untagged field amongFields
    · exact fun isTag => (isExtra member amongExtras).1 (isTag ▸ List.mem_cons_self)
  have decodesTag : Tagged.decodeTag (Document.scalar (.text (some (Named.name t)))) = .ok t :=
    named
  obtain ⟨kept, keptExtras, splits, rearranged, amongExtras⟩ :=
    Tagged.split_extended title (view_keyed members) decodesTag same untaggedDocs aside
      fun member among => (isExtra member among).2
  rw [Wire.ofText, readText_eq_ok_iff, reading, decode]
  refine ⟨bind_eq_ok_iff.mpr ⟨_, splits, decodes kept keptExtras rearranged ?_⟩, rfl⟩
  intro member among known
  obtain ⟨extra, amongToo, sameName⟩ := List.mem_map.mp (amongExtras member among)
  exact (isExtra extra amongToo).1 (List.mem_cons_of_mem _ (sameName ▸ known))

section Contents

variable {τ α β γ : Type} {decodeContent : τ → Content → Except Problem γ} {t : τ} {title : String}

theorem Restores.of_empty {c : γ}
    (content : ∀ content, decodeContent t content =
      (content.decode (.empty title)).map fun _ => c) :
    Restores decodeContent t [] c := by
  refine ⟨[], [], .nil, .nil, fun kept extras same unknown => ?_⟩
  rw [content]
  exact Content.map_decode_extended (Record.independent_empty title) same unknown rfl

variable {first second : String} {p q : Printed} {d e : Document} {v w : Value} {a : α} {b : β}

theorem Restores.of_one {start : α} {decode : Kept → Except Problem α} {f : α → γ}
    (content : ∀ content, decodeContent t content =
      (content.decode (.one title start first decode)).map f)
    (written : Builds p.render d) (keeps : Source.keep d = .ok v) (decodes : decode ⟨v⟩ = .ok a) :
    Restores decodeContent t [(first, p)] (f a) := by
  refine ⟨[(first, d)], [(first, ⟨v⟩)], .cons ⟨rfl, written⟩ .nil, .cons ⟨rfl, keeps⟩ .nil,
    fun kept extras same unknown => ?_⟩
  rw [content]
  refine Content.map_decode_extended (Record.independent_one ..) same unknown ?_
  simp [Content.decode, Record.ofMembers, Record.putMembers, Record.requireSeen, Record.one,
    Field.needed, decodes, close, Except.map, bind, Except.bind, pure, Except.pure]

theorem Restores.of_two {start : α × β} (apart : first ≠ second) {f : α × β → γ}
    {decodeFirst : Kept → Except Problem α} {decodeSecond : Kept → Except Problem β}
    (content : ∀ content, decodeContent t content =
      (content.decode (.two title start first decodeFirst second decodeSecond)).map f)
    (written : Builds p.render d) (keeps : Source.keep d = .ok v)
    (decodes : decodeFirst ⟨v⟩ = .ok a) (writtenToo : Builds q.render e)
    (keepsToo : Source.keep e = .ok w) (decodesToo : decodeSecond ⟨w⟩ = .ok b) {c : γ}
    (result : f (a, b) = c) : Restores decodeContent t [(first, p), (second, q)] c := by
  refine ⟨[(first, d), (second, e)], [(first, ⟨v⟩), (second, ⟨w⟩)],
    .cons ⟨rfl, written⟩ (.cons ⟨rfl, writtenToo⟩ .nil),
    .cons ⟨rfl, keeps⟩ (.cons ⟨rfl, keepsToo⟩ .nil), fun kept extras same unknown => ?_⟩
  rw [content]
  refine Content.map_decode_extended (Record.independent_two _ _ apart _ _) same unknown ?_
  simp [Content.decode, Record.ofMembers, Record.putMembers, Record.requireSeen, Record.two,
    Field.needed, apart, apart.symm, decodes, decodesToo, result, close, Except.map, bind,
    Except.bind, pure, Except.pure]

theorem Restores.of_flags (apart : first ≠ second) {f : Bool × Bool → γ}
    (content : ∀ content, decodeContent t content =
      (content.decode (.flags title first second)).map f) {flag flagToo : Bool} {c : γ}
    (result : f (flag, flagToo) = c) :
    Restores decodeContent t [(first, .bool flag), (second, .bool flagToo)] c := by
  refine ⟨[(first, .scalar (.bool flag)), (second, .scalar (.bool flagToo))],
    [(first, ⟨.bool flag⟩), (second, ⟨.bool flagToo⟩)],
    .cons ⟨rfl, written_bool flag⟩ (.cons ⟨rfl, written_bool flagToo⟩ .nil),
    .cons ⟨rfl, rfl⟩ (.cons ⟨rfl, rfl⟩ .nil), fun kept extras same unknown => ?_⟩
  rw [content]
  refine Content.map_decode_extended (Record.independent_flags _ apart) same unknown ?_
  simp [Content.decode, Record.ofMembers, Record.putMembers, Record.requireSeen, Record.flags,
    Field.optional, apart, apart.symm, decodeBool, Source.view, Value.viewAs, result, close,
    Except.map, bind, Except.bind, pure, Except.pure]

end Contents

end Json

/-! ## Commands and events -/

theorem decodeNamed_text {α : Type} [Named α] {a : α} (named : ofName (Named.name a) = .ok a) :
    decodeNamed (Kept.mk (.text (Named.name a))) = .ok a :=
  decodeNamed_eq_ok_iff.mpr ⟨_, .text _, named⟩

theorem CallPhase.ofName_name (phase : CallPhase) : ofName (Named.name phase) = .ok phase := by
  cases phase <;> rfl

theorem AudioRoute.ofName_name (route : AudioRoute) : ofName (Named.name route) = .ok route := by
  cases route <;> rfl

theorem Orientation.ofName_name (orientation : Orientation) :
    ofName (Named.name orientation) = .ok orientation := by
  cases orientation <;> rfl

theorem EventKind.ofName_name (kind : EventKind) : ofName (Named.name kind) = .ok kind := by
  cases kind <;> rfl

theorem CommandKind.ofName_name (kind : CommandKind) : ofName (Named.name kind) = .ok kind := by
  cases kind <;> rfl

theorem Command.restores (command : Command) :
    Restores decodeContent command.kind command.printFields command := by
  cases command with
  | acquireBlankTrigger | startOrientationSensing | stopOrientationSensing
  | startProximitySensing | stopProximitySensing | cancelScheduledRouteSwitch =>
    exact .of_empty fun _ => rfl
  | releaseBlankTrigger immediate =>
    exact .of_one (fun _ => rfl) (written_bool immediate) rfl rfl
  | scheduleRouteSwitch target delay =>
    have decodesDelay : decodeUnsigned (Kept.mk (.number (.unsigned delay))) = .ok delay := rfl
    exact .of_two (by decide) (fun _ => rfl) (written_text _) rfl
      (decodeNamed_text target.ofName_name) (written_nat delay) rfl decodesDelay rfl
  | setRoute target =>
    exact .of_one (fun _ => rfl) (written_text _) rfl (decodeNamed_text target.ofName_name)

theorem Event.restores (event : Event)
    (noSample : event.kind ≠ .proximityRawSample) :
    Restores decodeContent event.kind event.printFields event := by
  cases event with
  | callPhaseChanged phase =>
    exact .of_one (fun _ => rfl) (written_text _) rfl (decodeNamed_text phase.ofName_name)
  | audioRouteChanged route =>
    exact .of_one (fun _ => rfl) (written_text _) rfl (decodeNamed_text route.ofName_name)
  | orientationChanged orientation =>
    exact .of_one (fun _ => rfl) (written_text _) rfl (decodeNamed_text orientation.ofName_name)
  | proximityRawSample distance maxRange => exact absurd rfl noSample
  | displayStateChanged flag | uiVisibilityChanged flag | dialpadVisibilityChanged flag =>
    exact .of_one (fun _ => rfl) (written_bool flag) rfl rfl
  | videoCallFlagsChanged attempting isVideo =>
    exact .of_flags (by decide) (fun _ => rfl) rfl

/-- Fields of commands have names of their own beside the tag. -/
theorem Command.untagged (command : Command) : ∀ field ∈ command.printFields, field.1 ≠ "type" := by
  cases command <;> simp [printFields]

theorem Event.untagged (event : Event) : ∀ field ∈ event.printFields, field.1 ≠ "type" := by
  cases event <;> simp [printFields]

/-! ## Settings -/

/-- The names of the fields of settings, in order. -/
def Settings.fieldNames : List String :=
  ["auto_speaker_enabled", "in_call_only", "switch_delay_ms"]

theorem Settings.nodup_fieldNames : fieldNames.Nodup := by decide

theorem Settings.independent {δ : Type} [Source δ] : Field.Independent (@record δ _).fields where
  names := nodup_fieldNames
  commute := by
    refine .cons ?_ (.cons ?_ (List.pairwise_singleton ..))
    · rw [List.forall_mem_cons, List.forall_mem_singleton]
      exact ⟨Field.commutes_of_set rfl rfl fun _ _ _ => rfl,
        Field.commutes_of_set rfl rfl fun _ _ _ => rfl⟩
    · rw [List.forall_mem_singleton]
      exact Field.commutes_of_set rfl rfl fun _ _ _ => rfl

/-- Settings are decoded to what they were written of, however they are laid out. -/
theorem Settings.ofText_relaid {settings : Settings} {members : List (String × Printed)}
    (written : Wire.print settings = .object members) {text : List Char}
    (relaid : Relaid members text) : Wire.ofText text = .ok settings := by
  cases written
  obtain ⟨autoSpeaker, inCallOnly, switchDelay⟩ := settings
  have writes : Written
      [("auto_speaker_enabled", .bool autoSpeaker), ("in_call_only", .bool inCallOnly),
        ("switch_delay_ms", .nat switchDelay.toNat)]
      [("auto_speaker_enabled", .scalar (.bool autoSpeaker)),
        ("in_call_only", .scalar (.bool inCallOnly)),
        ("switch_delay_ms", .scalar (.number (some (.unsigned switchDelay))))] :=
    .cons ⟨rfl, written_bool autoSpeaker⟩ (.cons ⟨rfl, written_bool inCallOnly⟩
      (.cons ⟨rfl, written_nat switchDelay⟩ .nil))
  obtain ⟨members, extras, reading, same, isExtra⟩ := relaid.reading (List.cons_ne_nil _ _) writes
  rw [Wire.ofText, readText_eq_ok_iff, reading]
  refine ⟨?_, rfl⟩
  change Record.decode record _ = _
  unfold Record.decode
  rw [view_keyed]
  refine Record.ofMembers_extended independent same
    (fun member among => (isExtra member among).1) ?_ ?_
  · intro member among
    obtain ⟨v, kept⟩ := (isExtra member among).2
    exact Document.ignore_of_keep kept
  · rfl

/-! ## Layouts -/

/-- The text is a layout of the object that is written of a thing. -/
def Wire.IsLayout {α : Type} [Wire α] (a : α) (text : List Char) : Prop :=
  ∃ members, Wire.print a = .object members ∧ Relaid members text

/-- However a written command, event or record of settings is laid out, it is decoded to what it
was written of. -/
theorem layouts_decode_back :
    (∀ (command : Command) (text : List Char),
      Wire.IsLayout command text → Wire.ofText text = .ok command) ∧
    (∀ event : Event, event.kind ≠ .proximityRawSample → ∀ text : List Char,
      Wire.IsLayout event text → Wire.ofText text = .ok event) ∧
    ∀ (settings : Settings) (text : List Char),
      Wire.IsLayout settings text → Wire.ofText text = .ok settings := by
  refine ⟨?_, ?_, ?_⟩
  · rintro command text ⟨members, written, relaid⟩
    cases written
    exact command.restores.ofText (fun _ => rfl) command.kind.ofName_name command.untagged relaid
  · rintro event noSample text ⟨members, written, relaid⟩
    cases written
    exact (event.restores noSample).ofText (fun _ => rfl) event.kind.ofName_name event.untagged
      relaid
  · rintro settings text ⟨members, written, relaid⟩
    exact settings.ofText_relaid written relaid

/-- A command among repeated extras, an event and settings without blanks. -/
theorem some_layouts_decode_back :
    let text := (" \x7b\"delay_ms\" :7,\"\\u0061\":[1e5,\x7b\x7d],\"a\":null , " ++
      "\"target\": \"speaker\",\"type\":\"schedule_route_switch\"\x7d").toList
    let command : Command := .scheduleRouteSwitch .speaker 7
    let event : Event := .callPhaseChanged .idle
    let settings : Settings := .default
    (Wire.IsLayout command text ∧ Wire.ofText text = .ok command) ∧
      (event.kind ≠ .proximityRawSample ∧ Wire.IsLayout event (Wire.write event) ∧
        Wire.ofText (Wire.write event) = .ok event) ∧
      Wire.IsLayout settings (Wire.write settings) ∧
        Wire.ofText (Wire.write settings) = .ok settings := by
  intro text command event settings
  have commandLaid : Wire.IsLayout command text := by
    let tag : Placed :=
      ⟨[], Printed.quote "type", [], [], Printed.quote "schedule_route_switch", []⟩
    let target : Placed := ⟨[' '], Printed.quote "target", [], [' '], Printed.quote "speaker", []⟩
    let delay : Placed := ⟨[], Printed.quote "delay_ms", [' '], [], ['7'], []⟩
    let array : Placed := ⟨[], "\"\\u0061\"".toList, [], [], "[1e5,\x7b\x7d]".toList, []⟩
    let null : Placed := ⟨[], "\"a\"".toList, [], [], "null".toList, [' ']⟩
    have laid : text = [' '] ++
        '\x7b' :: (membersText [delay, array, null, target, tag] ++ '\x7d' :: []) := by
      decide +kernel
    refine ⟨_, rfl, ?_⟩
    rw [laid]
    refine @Relaid.intro _ _ _ _ [tag, target, delay] [array, null] (by decide) nofun ?_
      (by decide +kernel) (.cons ⟨rfl, rfl⟩ (.cons ⟨rfl, rfl⟩ (.cons ⟨rfl, rfl⟩ .nil))) ?_
    · decide
    · rw [List.forall_mem_cons, List.forall_mem_singleton]
      exact ⟨⟨⟨"a", by decide +kernel, by decide⟩, _, rfl⟩,
        ⟨"a", by decide +kernel, by decide⟩, _, rfl⟩
  have eventLaid : Wire.IsLayout event (Wire.write event) := ⟨_, rfl, relaid_render _⟩
  have settingsLaid : Wire.IsLayout settings (Wire.write settings) := ⟨_, rfl, relaid_render _⟩
  have noSample : event.kind ≠ .proximityRawSample := by decide
  exact ⟨⟨commandLaid, layouts_decode_back.1 _ _ commandLaid⟩,
    ⟨noSample, eventLaid, layouts_decode_back.2.1 _ noSample _ eventLaid⟩,
    settingsLaid, layouts_decode_back.2.2 _ _ settingsLaid⟩

end InCallProximity
