import InCallProximity.Proofs.Json.Grounds
import InCallProximity.Proofs.Json.Passing
import InCallProximity.Proofs.Wire.Settings

/-!
# Texts that tell settings, and what is wrong with others

A text tells settings if it shows a closed object or array, and nothing after it, that suits them
(`Settings.ToldBy`). Members of unknown names play no part in this, whatever they are. These texts
are decoded to what they tell, and all others are refused (`Settings.ofText_eq_ok_iff`).

A refusal has its ground in the text. Either the text has a fault, or there is something in it that
settings object to (`Settings.ObjectsTo`): a member that is there twice, or a value that cannot be
that of the field it is given for.
-/

namespace InCallProximity

open Json

/-! ## Names of members -/

namespace Json

theorem Document.name_eq_ok_iff {key : Document} {s : String} :
    key.name = .ok s ↔ key = .scalar (.text (some s)) := by
  constructor
  · intro named
    unfold name at named
    split at named <;> cases named
    rfl
  · rintro rfl
    rfl

/-- Members whose names are all read have the names as keys. -/
theorem eq_keyed {members : List (Document × Document)} {named : List (String × Document)}
    (same : (members.map fun m => (m.1.name, m.2)) = read named) : members = keyed named := by
  induction members generalizing named with
  | nil =>
    obtain rfl : named = [] := List.map_eq_nil_iff.mp same.symm
    rfl
  | cons m rest ih =>
    obtain ⟨key, d⟩ := m
    cases named with
    | nil => cases same
    | cons member named =>
      obtain ⟨name, e⟩ := member
      obtain ⟨head, tail⟩ := List.cons.inj same
      obtain ⟨sameName, rfl⟩ : key.name = .ok name ∧ d = e := Prod.mk.inj head
      rw [Document.name_eq_ok_iff.mp sameName, ih tail]
      rfl

end Json

namespace Settings

variable {s : Settings}

/-! ## Texts that tell settings -/

/-- The settings are what the members of an object, none of them twice, or the items of an array say
they are, and the defaults in what is not said. -/
inductive ToldBy (s : Settings) : Document → Prop where
  | object {named : List (String × Document)} (unrepeated : (knownNames fieldNames named).Nodup)
      (suits : s.SuitedBy (found named)) : ToldBy s (.object (keyed named) none)
  | array {items : List Document} (most : items.length ≤ 3)
      (suits : ∀ (i : Nat) (part : Component), s.parts[i]? = some part →
        part.SuitsKept items[i]?) :
    ToldBy s (.array items none)

theorem suitedBy_zip_iff {items : List Document} :
    s.SuitedBy (found (fieldNames.zip items)) ↔
      ∀ (i : Nat) (part : Component), s.parts[i]? = some part → part.SuitsKept items[i]? := by
  have named : ∀ {i : Nat} {part : Component}, s.parts[i]? = some part →
      found (fieldNames.zip items) part.name = items[i]? := by
    intro i part there
    refine found_zip nodup_fieldNames items ?_
    rw [← s.names_parts, List.getElem?_map, there, Option.map_some]
  constructor
  · intro suits i part there
    rw [← named there]
    exact suits part (List.mem_of_getElem? there)
  · intro suits part among
    obtain ⟨i, there⟩ := List.mem_iff_getElem?.mp among
    rw [named there]
    exact suits i part there

/-- An object is told apart by its members for fields alone. -/
theorem ofText_object_iff {text : List Char} {named : List (String × Document)}
    (shows : Reading.ofText text = ⟨.object (keyed named) none, false⟩) :
    Wire.ofText text = .ok s ↔
      (knownNames fieldNames named).Nodup ∧ s.SuitedBy (found named) := by
  rw [ofText_of_reading shows, decode_keyed, ofMembers_eq_ok_iff Document.keepsFlags]
  refine and_congr_left fun _ => ⟨Record.Passes.unrepeated, fun unrepeated => ⟨unrepeated, ?_⟩⟩
  intro member among _
  exact ignore_of_reading shows _ (List.mem_map_of_mem among)

theorem ofText_eq_ok_iff {text : List Char} :
    Wire.ofText text = .ok s ↔ ∃ d, Reading.ofText text = ⟨d, false⟩ ∧ s.ToldBy d := by
  constructor
  · intro decoded
    obtain ⟨decodes, noExcess⟩ := readText_eq_ok_iff.mp decoded
    obtain ⟨d, shows⟩ : ∃ d, Reading.ofText text = ⟨d, false⟩ := ⟨_, by rw [← noExcess]⟩
    refine ⟨d, shows, ?_⟩
    rw [shows] at decodes
    change Record.decode record d = .ok s at decodes
    unfold Record.decode at decodes
    split at decodes
    · next members fault viewed =>
      obtain ⟨inside, rfl, rfl⟩ := Document.exists_object viewed
      obtain ⟨rfl, named, same, -⟩ := (Record.ofMembers_eq_ok_iff independent).mp decodes
      obtain rfl := eq_keyed same
      obtain ⟨unrepeated, suits⟩ := (ofText_object_iff shows).mp decoded
      exact .object unrepeated suits
    · next items fault viewed =>
      obtain rfl := Document.view_eq_array_iff.mp viewed
      obtain ⟨rfl, most, suits⟩ := (ofItems_eq_ok_iff Document.keepsFlags).mp decodes
      exact .array most (suitedBy_zip_iff.mp suits)
    · exact absurd decodes refuse_ne_ok
  · rintro ⟨d, shows, told⟩
    cases told with
    | object unrepeated suits => exact (ofText_object_iff shows).mpr ⟨unrepeated, suits⟩
    | array most suits =>
      rw [ofText_of_reading shows]
      exact (ofItems_eq_ok_iff Document.keepsFlags).mpr ⟨rfl, most, suitedBy_zip_iff.mpr suits⟩

/-! ## Members of fields -/

/-- The members that are for fields. -/
def ownMembers (named : List (String × Document)) : List (String × Document) :=
  named.filter (·.1 ∈ fieldNames)

theorem knownNames_ownMembers (named : List (String × Document)) :
    knownNames fieldNames (ownMembers named) = knownNames fieldNames named := by
  unfold knownNames ownMembers
  rw [List.filter_map, List.filter_map, List.filter_filter]
  simp only [Function.comp_apply, Bool.and_self]
  rfl

theorem found_ownMembers (named : List (String × Document)) {name : String}
    (isKnown : name ∈ fieldNames) : found (ownMembers named) name = found named name := by
  unfold found ownMembers
  rw [List.find?_filter]
  congr 2
  funext member
  by_cases same : member.1 = name
  · simp [same, isKnown]
  · simp [same]

/-- Neither the order of the members nor the members of unknown names make a difference. -/
theorem ofText_eq_ok_iff_of_perm {text textToo : List Char}
    {named namedToo : List (String × Document)}
    (shows : Reading.ofText text = ⟨.object (keyed named) none, false⟩)
    (showsToo : Reading.ofText textToo = ⟨.object (keyed namedToo) none, false⟩)
    (same : (ownMembers named).Perm (ownMembers namedToo)) :
    Wire.ofText text = .ok s ↔ Wire.ofText textToo = .ok s := by
  have unrepeated := (knownNames_perm same fieldNames).nodup_iff
  rw [ofText_object_iff shows, ofText_object_iff showsToo, ← knownNames_ownMembers named,
    ← knownNames_ownMembers namedToo, ← unrepeated]
  refine and_congr_right fun nodup => suitedBy_congr fun name isKnown => ?_
  rw [← found_ownMembers named isKnown, ← found_ownMembers namedToo isKnown]
  exact found_perm same nodup isKnown

/-! ## Values that are allowed -/

/-- The values that a field can have: a delay, or else a flag. -/
def Allows (name : String) (v : Value) : Prop :=
  if name = "switch_delay_ms" then ∃ n, v.IsDelay n else ∃ b, v = .bool b

/-- The value of a member is kept as one that its field can have. -/
def AllowsMember (member : String × Document) : Prop :=
  ∃ v, Source.keep member.2 = .ok v ∧ Allows member.1 v

theorem exists_suits {α : Type} {part : α → Component} {spare : α} (lacks : (part spare).mayLack)
    {d? : Option Document}
    (accepted : ∀ d ∈ d?, ∃ v, Source.keep d = .ok v ∧ ∃ a, (part a).accepts v) :
    ∃ a, (part a).SuitsKept d? := by
  cases d? with
  | none => exact ⟨spare, lacks⟩
  | some d =>
    obtain ⟨v, kept, a, accepts⟩ := accepted d rfl
    exact ⟨a, v, kept, accepts⟩

theorem exists_suitedBy_iff {there : String → Option Document} :
    (∃ s : Settings, s.SuitedBy there) ↔
      ∀ name ∈ fieldNames, ∀ d ∈ there name, AllowsMember (name, d) := by
  simp only [suitedBy_iff]
  constructor
  · rintro ⟨s, first, second, third⟩ name isKnown d given
    simp only [fieldNames, List.mem_cons, List.not_mem_nil, or_false] at isKnown
    rcases isKnown with rfl | rfl | rfl
    · rw [given] at first
      obtain ⟨v, kept, flag⟩ := first
      exact ⟨v, kept, s.autoSpeaker, flag⟩
    · rw [given] at second
      obtain ⟨v, kept, flag⟩ := second
      exact ⟨v, kept, s.inCallOnly, flag⟩
    · rw [given] at third
      obtain ⟨v, kept, isDelay⟩ := third
      exact ⟨v, kept, s.switchDelay, isDelay⟩
  · intro allowed
    obtain ⟨autoSpeaker, first⟩ : ∃ b, (flagPart "auto_speaker_enabled" b
        Settings.default.autoSpeaker).SuitsKept (there "auto_speaker_enabled") :=
      exists_suits rfl (allowed _ (by decide))
    obtain ⟨inCallOnly, second⟩ : ∃ b, (flagPart "in_call_only" b
        Settings.default.inCallOnly).SuitsKept (there "in_call_only") :=
      exists_suits rfl (allowed _ (by decide))
    obtain ⟨switchDelay, third⟩ : ∃ n, (delayPart n Settings.default.switchDelay).SuitsKept
        (there "switch_delay_ms") :=
      exists_suits rfl (allowed _ (by decide))
    exact ⟨⟨autoSpeaker, inCallOnly, switchDelay⟩, first, second, third⟩

/-- An object tells settings exactly if no field is there twice and every field that is there can
have its value. -/
theorem exists_ofText_object_iff {text : List Char} {named : List (String × Document)}
    (shows : Reading.ofText text = ⟨.object (keyed named) none, false⟩) :
    (∃ s : Settings, Wire.ofText text = .ok s) ↔
      (knownNames fieldNames named).Nodup ∧ ∀ member ∈ ownMembers named, AllowsMember member := by
  simp only [ofText_object_iff shows, exists_and_left, exists_suitedBy_iff]
  refine and_congr_right fun unrepeated => ?_
  constructor
  · intro allowed member among
    obtain ⟨name, d⟩ := member
    obtain ⟨among, isKnown⟩ := List.mem_filter.mp among
    have isKnown := of_decide_eq_true isKnown
    exact allowed name isKnown d ((found_eq_some_iff isKnown unrepeated).mpr among)
  · intro allowed name isKnown d given
    have among := (found_eq_some_iff isKnown unrepeated).mp given
    exact allowed (name, d) (List.mem_filter.mpr ⟨among, decide_eq_true isKnown⟩)

/-! ## What settings object to -/

/-- A document gives a value for a field: as a member of its name, or as an item in its place. -/
inductive Gives : Document → String → Document → Prop where
  | member {members : List (Document × Document)} {fault : Option Fault} {key e : Document}
      {name : String} (among : (key, e) ∈ members) (named : key.name = .ok name) :
    Gives (.object members fault) name e
  | item {items : List Document} {fault : Option Fault} {i : Nat} {name : String} {e : Document}
      (named : fieldNames[i]? = some name) (item : items[i]? = some e) :
    Gives (.array items fault) name e

/-- What is wrong with a document that is read without a fault: it is no object and no array, it has
a member for a field twice, or what it gives for a field is no flag or no delay. -/
inductive ObjectsTo : Document → Cause → Prop where
  | kind {d : Document} {found : Found} (shown : (Source.view d).found = .ok found)
      (noMap : found ≠ .map) (noSequence : found ≠ .sequence) :
    ObjectsTo d (.wrongType found "struct ProximitySettings")
  | repeated {members : List (Document × Document)} {fault : Option Fault} {name : String}
      (known : name ∈ fieldNames)
      (twice : List.Duplicate (.ok name) (members.map fun m => m.1.name)) :
    ObjectsTo (.object members fault) (.repeatedMember name)
  | flag {d e : Document} {name : String} {found : Found} (known : name ∈ fieldNames)
      (isFlag : name ≠ "switch_delay_ms") (gives : Gives d name e)
      (shown : (Source.view e).found = .ok found) (noFlag : ∀ b, found ≠ .bool b) :
    ObjectsTo d (.wrongType found "a boolean")
  | delay {d e : Document} {v : Value} (gives : Gives d "switch_delay_ms" e)
      (kept : Source.keep e = .ok v) (noDelay : ∀ n, ¬v.IsDelay n) :
    ObjectsTo d (delayCause v)

/-- Of what settings are told by, every value for a field is one that the field can have. -/
theorem ToldBy.allowsMember {d e : Document} {name : String} (told : s.ToldBy d)
    (known : name ∈ fieldNames) (gives : Gives d name e) : AllowsMember (name, e) := by
  cases told with
  | object unrepeated suits =>
    cases gives with
    | member among named =>
      obtain ⟨⟨other, e⟩, amongNamed, same⟩ := List.mem_map.mp among
      cases same
      obtain rfl : other = name := Except.ok.inj named
      exact exists_suitedBy_iff.mp ⟨s, suits⟩ other known e
        ((found_eq_some_iff known unrepeated).mpr amongNamed)
  | array most suits =>
    cases gives with
    | item named item =>
      refine exists_suitedBy_iff.mp ⟨s, suitedBy_zip_iff.mpr suits⟩ name known e ?_
      rw [found_zip nodup_fieldNames _ named]
      exact item

/-- What settings are told by, they do not object to. -/
theorem ToldBy.not_objectsTo {d : Document} (told : s.ToldBy d) (cause : Cause) :
    ¬ObjectsTo d cause := by
  intro objects
  cases objects with
  | kind shown noMap noSequence =>
    cases told with
    | object => exact noMap (Except.ok.inj shown).symm
    | array => exact noSequence (Except.ok.inj shown).symm
  | @repeated members fault name known twice =>
    cases told with
    | @object named unrepeated suits =>
      have names : (keyed named).map (fun m => m.1.name) =
          (named.map Prod.fst).map (Except.ok : String → Except Problem String) := by
        simp [keyed, Document.name]
      rw [names, List.duplicate_iff_sublist] at twice
      obtain ⟨pair, sublist, same⟩ := List.sublist_map_iff.mp twice
      have injective : (List.map (Except.ok : String → Except Problem String)).Injective :=
        List.map_injective_iff.mpr fun _ _ => Except.ok.inj
      obtain rfl : [name, name] = pair := injective same
      have both := sublist.filter (· ∈ fieldNames)
      simp only [List.filter_cons, known, decide_true, if_true, List.filter_nil] at both
      exact (List.duplicate_iff_sublist.mpr both).not_nodup unrepeated
  | flag known isFlag gives shown noFlag =>
    obtain ⟨v, kept, allows⟩ := told.allowsMember known gives
    obtain ⟨b, rfl⟩ : ∃ b, v = .bool b := by simpa [Allows, isFlag] using allows
    obtain rfl := Document.keep_eq_bool_iff.mp kept
    exact noFlag b (Except.ok.inj shown).symm
  | @delay d e v gives kept noDelay =>
    obtain ⟨w, keptToo, allows⟩ := told.allowsMember (by decide) gives
    obtain rfl := Except.ok.inj (kept.symm.trans keptToo)
    obtain ⟨n, isDelay⟩ : ∃ n, v.IsDelay n := by simpa [Allows] using allows
    exact noDelay n isDelay

/-- A problem is a fault, or something that settings object to. -/
def Explains (d : Document) (problem : Problem) : Prop :=
  problem.IsFault ∨ ∃ cause, problem = .data cause ∧ ObjectsTo d cause

variable {problem : Problem}

theorem decodeBool_eq_error {e : Document}
    (fails : (decodeBool e : Except Problem Bool) = .error problem) :
    problem.IsFault ∨ ∃ found, (Source.view e).found = .ok found ∧ (∀ b, found ≠ .bool b) ∧
      problem = .data (.wrongType found "a boolean") := by
  unfold decodeBool at fails
  split at fails
  · cases fails
  · next noBool =>
    refine (Document.refuse_eq_error fails).imp_right ?_
    rintro ⟨found, shown, same⟩
    refine ⟨found, shown, ?_, same⟩
    rintro b rfl
    generalize Source.view e = view at shown noBool
    cases view with
    | bool c => exact noBool c rfl
    | number n => cases n <;> cases shown
    | _ => cases shown

theorem decodeDelay_eq_error {e : Document}
    (fails : (decodeDelay e : Except Problem UInt64) = .error problem) :
    problem.IsFault ∨ ∃ v, Source.keep e = .ok v ∧ (∀ n, ¬v.IsDelay n) ∧
      problem = .data (delayCause v) := by
  rcases bind_eq_error_iff.mp fails with fails | ⟨v, kept, fails⟩
  · exact Or.inl (Document.isFault_of_keep fails)
  · have noDelay : ∀ n, ¬v.IsDelay n := by
      intro n isDelay
      rw [delayOfValue_eq_ok_iff.mpr isDelay] at fails
      cases fails
    rw [delayOfValue_of_not_isDelay noDelay] at fails
    cases fails
    exact Or.inr ⟨v, kept, noDelay, rfl⟩

theorem explains_of_put {field : Field Document Settings}
    (known : field ∈ (@record Document _).fields) {d e : Document} (gives : Gives d field.name e)
    {x : Settings} (fails : field.put e x = .error problem) : Explains d problem := by
  have flag : ∀ {name}, name ∈ fieldNames → name ≠ "switch_delay_ms" → Gives d name e →
      (decodeBool e : Except Problem Bool) = .error problem → Explains d problem := by
    intro name isKnown isFlag gives fails
    refine (decodeBool_eq_error fails).imp_right ?_
    rintro ⟨found, shown, noFlag, rfl⟩
    exact ⟨_, rfl, .flag isKnown isFlag gives shown noFlag⟩
  simp only [record, List.mem_cons, List.not_mem_nil, or_false] at known
  rcases known with rfl | rfl | rfl
  · exact flag (by decide) (by decide) gives (map_eq_error_iff.mp fails)
  · exact flag (by decide) (by decide) gives (map_eq_error_iff.mp fails)
  · refine (decodeDelay_eq_error (map_eq_error_iff.mp fails)).imp_right ?_
    rintro ⟨v, kept, noDelay, rfl⟩
    exact ⟨_, rfl, .delay gives kept noDelay⟩

theorem explains_of_trouble {members : List (Document × Document)} {fault : Option Fault}
    (trouble : Record.Trouble (@record Document _).fields []
      (members.map fun m => (m.1.name, m.2)) problem) :
    Explains (.object members fault) problem := by
  have names : (members.map fun m => (m.1.name, m.2)).map Prod.fst =
      members.map fun m => m.1.name := List.map_map
  have gives : ∀ {name e}, (.ok name, e) ∈ (members.map fun m => (m.1.name, m.2)) →
      Gives (.object members fault) name e := by
    intro name e among
    obtain ⟨⟨key, d⟩, amongMembers, same⟩ := List.mem_map.mp among
    obtain ⟨named, rfl⟩ : key.name = .ok name ∧ d = e := Prod.mk.inj same
    exact .member amongMembers named
  cases trouble with
  | name among =>
    rw [names] at among
    obtain ⟨m, -, fails⟩ := List.mem_map.mp among
    exact Or.inl (Document.isFault_of_name fails)
  | ignored among fails => exact Or.inl (Document.isFault_of_ignore fails)
  | seen known before => cases before
  | @repeated field known twice same =>
    rw [names] at twice
    exact Or.inr ⟨_, same, .repeated (List.mem_map_of_mem known) twice⟩
  | value known among fails => exact explains_of_put known (gives among) fails

theorem explains_of_items {items : List Document} {fault : Option Fault}
    (fails : (@record Document _).ofItems items fault = .error problem) :
    Explains (.array items fault) problem := by
  rcases bind_eq_error_iff.mp fails with fails | ⟨⟨rest, x⟩, -, fails⟩
  · rcases Record.exists_of_putItems optional_fields fails with
      isFault | ⟨i, field, e, x, there, item, fails⟩
    · exact Or.inl isFault
    · have known := List.mem_of_getElem? there
      refine explains_of_put known (.item ?_ item) fails
      change ((@record Document _).fields.map Field.name)[i]? = some field.name
      rw [List.getElem?_map, there, Option.map_some]
  · -- All fields have their items: what is left fails by its end, or by being there at all.
    dsimp only at fails
    split at fails
    · exact Or.inl (isFault_of_bind fails isFault_of_close fun _ fails => by cases fails)
    · cases fails
      exact Or.inl ⟨_, rfl⟩

theorem ne_of_found {view : View Document} {found : Found} (shown : view.found = .ok found)
    (noObject : ∀ members fault, view = .object members fault → False)
    (noArray : ∀ items fault, view = .array items fault → False) :
    found ≠ .map ∧ found ≠ .sequence := by
  cases view with
  | object members fault => exact (noObject _ _ rfl).elim
  | array items fault => exact (noArray _ _ rfl).elim
  | number n => cases n <;> cases shown <;> simp
  | _ => cases shown <;> simp

theorem explains_of_decode {d : Document}
    (fails : (Wire.decode d : Except Problem Settings) = .error problem) : Explains d problem := by
  change Record.decode record d = .error problem at fails
  unfold Record.decode at fails
  split at fails
  · next members fault viewed =>
    obtain ⟨inside, rfl, rfl⟩ := Document.exists_object viewed
    rcases Record.trouble_of_ofMembers optional_fields fails with isFault | trouble
    · exact Or.inl isFault
    · exact explains_of_trouble trouble
  · next items fault viewed =>
    obtain rfl := Document.view_eq_array_iff.mp viewed
    exact explains_of_items fails
  · next noObject noArray =>
    refine (Document.refuse_eq_error fails).imp_right ?_
    rintro ⟨found, shown, rfl⟩
    obtain ⟨noMap, noSequence⟩ := ne_of_found shown noObject noArray
    exact ⟨_, rfl, .kind shown noMap noSequence⟩

/-- Whatever a text is refused for as settings is in it. -/
theorem explains_of_ofText {text : List Char}
    (fails : (Wire.ofText text : Except Problem Settings) = .error problem) :
    Explains (Reading.ofText text).document problem := by
  unfold Wire.ofText readText at fails
  rcases bind_eq_error_iff.mp fails with fails | ⟨s, -, fails⟩
  · exact explains_of_decode fails
  · split at fails
    · cases fails
      exact Or.inl ⟨_, rfl⟩
    · cases fails

end Settings

end InCallProximity
