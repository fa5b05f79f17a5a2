import InCallProximity.Proofs.Wire.SettingsText
import InCallProximity.SettingsFile

/-!
# Settings files override the defaults, or do nothing

A file is taken over as a whole or not at all. What can be taken over is said without loading
(`Holds`): no file holds the defaults, and a text holds the settings that it tells. Everything else
is refused for a reason (`Refuses`), with the path of the file, and then the defaults stand, also in
the fields that were read before the reason was found (`override_or_default`).

Objects are spoken of by their members (`ShowsObject`), since their layout makes no difference: a
text that is written as an object of some members shows these, whatever blanks there are and however
its strings are escaped (`showsObject_of_objectText`).
-/

namespace InCallProximity

open Json

/-- The file was read and its bytes are this text. -/
def FileContent.IsText (content : FileContent) (text : String) : Prop :=
  ∃ bytes, content = .ok bytes ∧ String.fromUTF8? bytes = some text

theorem FileContent.isText_toUTF8 (text : String) : IsText (.ok text.toUTF8) text :=
  ⟨_, rfl, dif_pos text.isValidUTF8⟩

namespace SettingsFile

variable {path : String} {content : FileContent} {s : Settings}

/-! ## What files hold -/

/-- No file holds the defaults; a text holds the settings that it tells. -/
inductive Holds : FileContent → Settings → Prop where
  | missing : Holds (.error .missing) .default
  | text {content : FileContent} {text : String} {d : Document} {s : Settings}
      (isText : content.IsText text) (shows : Reading.ofText text.toList = ⟨d, false⟩)
      (told : s.ToldBy d) : Holds content s

/-- Why nothing can be taken over: the file is there and cannot be read, its bytes are no text, or
the text tells no settings, because it has a fault or because settings object to something in it. -/
inductive Refuses (path : String) : FileContent → LoadProblem → Prop where
  | unreadable {failure : ReadFailure} (there_is : failure ≠ .missing) :
    Refuses path (.error failure) (.unreadable path failure)
  | noText {bytes : ByteArray} (invalid : String.fromUTF8? bytes = none) :
    Refuses path (.ok bytes) (.unreadable path .badText)
  | malformed {content : FileContent} {text : String} {problem : Problem}
      (isText : content.IsText text)
      (explains : Settings.Explains (Reading.ofText text.toList).document problem) :
    Refuses path content (.malformed path problem)

/-- The file is a text that shows an object with these members, and nothing after it. -/
def ShowsObject (content : FileContent) (named : List (String × Document)) : Prop :=
  ∃ text, content.IsText text ∧
    Reading.ofText text.toList = ⟨.object (keyed named) none, false⟩

/-- However an object is laid out, a file with that text shows it. -/
theorem showsObject_of_objectText {text : String} {named : List (String × Document)}
    (isText : content.IsText text) (object : ObjectText named text.toList) :
    ShowsObject content named :=
  ⟨text, isText, object.reading⟩

/-- A file is one text at most. -/
theorem eq_of_isText {text textToo : String} (isText : content.IsText text)
    (isTextToo : content.IsText textToo) : text = textToo := by
  obtain ⟨bytes, rfl, valid⟩ := isText
  obtain ⟨_, ⟨⟩, validToo⟩ := isTextToo
  exact Option.some.inj (valid.symm.trans validToo)

theorem Holds.not_objectsTo (holds : Holds content s) {text : String}
    (isText : content.IsText text) (cause : Cause) :
    ¬Settings.ObjectsTo (Reading.ofText text.toList).document cause := by
  cases holds with
  | missing => obtain ⟨_, ⟨⟩, -⟩ := isText
  | text isTextToo shows told =>
    rw [eq_of_isText isText isTextToo, shows]
    exact told.not_objectsTo cause

/-! ## Loading -/

/-- What comes of loading a file. -/
inductive Loading (path : String) : FileContent → Except LoadProblem Settings → Prop where
  | missing : Loading path (.error .missing) (.ok .default)
  | unreadable {failure : ReadFailure} (there_is : failure ≠ .missing) :
    Loading path (.error failure) (.error (.unreadable path failure))
  | noText {bytes : ByteArray} (invalid : String.fromUTF8? bytes = none) :
    Loading path (.ok bytes) (.error (.unreadable path .badText))
  | told {content : FileContent} {text : String} {s : Settings} (isText : content.IsText text)
      (decodes : Wire.ofText text.toList = .ok s) : Loading path content (.ok s)
  | malformed {content : FileContent} {text : String} {problem : Problem}
      (isText : content.IsText text)
      (fails : (Wire.ofText text.toList : Except Problem Settings) = .error problem) :
    Loading path content (.error (.malformed path problem))

theorem loading (path : String) (content : FileContent) :
    Loading path content (load path content) := by
  unfold load FileContent.text
  cases content with
  | error failure =>
    cases failure with
    | missing => exact .missing
    | _ => exact .unreadable (by simp)
  | ok bytes =>
    cases read : String.fromUTF8? bytes with
    | none =>
      simp only [read]
      exact .noText read
    | some text =>
      simp only [read]
      cases decoded : (Wire.ofText text.toList : Except Problem Settings) with
      | ok s => exact .told ⟨bytes, rfl, read⟩ decoded
      | error problem => exact .malformed ⟨bytes, rfl, read⟩ decoded

theorem load_eq_ok_iff_of_isText {text : String} (isText : content.IsText text) :
    load path content = .ok s ↔ Wire.ofText text.toList = .ok s := by
  have loads := loading path content
  generalize load path content = outcome at loads
  cases loads with
  | missing | unreadable => obtain ⟨_, ⟨⟩, -⟩ := isText
  | noText invalid =>
    obtain ⟨_, ⟨⟩, valid⟩ := isText
    rw [invalid] at valid
    cases valid
  | told isTextToo decodes => rw [eq_of_isText isText isTextToo, decodes]; simp
  | malformed isTextToo fails => rw [eq_of_isText isText isTextToo, fails]; simp

theorem load_eq_ok_iff : load path content = .ok s ↔ Holds content s := by
  constructor
  · intro loaded
    have loads := loading path content
    rw [loaded] at loads
    cases loads with
    | missing => exact .missing
    | told isText decodes =>
      obtain ⟨d, shows, told⟩ := Settings.ofText_eq_ok_iff.mp decodes
      exact .text isText shows told
  · intro holds
    cases holds with
    | missing => rfl
    | text isText shows told =>
      exact (load_eq_ok_iff_of_isText isText).mpr (Settings.ofText_eq_ok_iff.mpr ⟨_, shows, told⟩)

theorem refuses_of_load {problem : LoadProblem} (fails : load path content = .error problem) :
    Refuses path content problem := by
  have loads := loading path content
  rw [fails] at loads
  cases loads with
  | unreadable there_is => exact .unreadable there_is
  | noText invalid => exact .noText invalid
  | malformed isText undecoded => exact .malformed isText (Settings.explains_of_ofText undecoded)

theorem Refuses.path_eq {problem : LoadProblem} (refuses : Refuses path content problem) :
    problem.path = path := by
  cases refuses <;> rfl

/-- A message names the file. -/
theorem LoadProblem.exists_message_eq (problem : LoadProblem) :
    ∃ before after, problem.message = before ++ problem.path ++ after := by
  cases problem with
  | unreadable path failure =>
    exact ⟨_, "': " ++ failure.message, String.append_assoc ..⟩
  | malformed path problem =>
    exact ⟨_, "': " ++ problem.message, String.append_assoc ..⟩

/-- The file at the usual place is loaded, and if it cannot be, the defaults stand. -/
theorem loadUsual_eq {read : String → FileContent} {configFolder : Option String}
    (place : path? configFolder = some path) (content_eq : read path = content) :
    @loadUsual Id _ read configFolder =
      match load path content with
      | .ok s => s
      | .error _ => .default := by
  unfold loadUsual
  rw [place]
  subst content_eq
  rfl

/-- **A settings file overrides the defaults or does nothing.** For every path and whatever comes of
reading it:

* loading gives exactly the settings that the file holds, and a problem if it holds none, as it does
  whenever settings object to something in it;
* a problem says why, and names the path, which stands in its message too;
* what is loaded from the usual place is what the file there holds, and if it holds nothing, the
  defaults as they are;
* an object is loaded exactly if it has no member for a field twice and every field that it has can
  have its value, whatever its other members are. Then each field is what the object says, or that
  of the defaults if it says nothing. Only its members for fields make a difference, in any
  order. -/
theorem override_or_default (path : String) (content : FileContent) :
    (∀ s, load path content = .ok s ↔ Holds content s) ∧
    ((∀ s, ¬Holds content s) → ∃ problem, load path content = .error problem) ∧
    (∀ text cause, content.IsText text →
      Settings.ObjectsTo (Reading.ofText text.toList).document cause → ∀ s, ¬Holds content s) ∧
    (∀ problem, load path content = .error problem →
      Refuses path content problem ∧ problem.path = path ∧
        ∃ before after, problem.message = before ++ path ++ after) ∧
    (∀ read configFolder, path? configFolder = some path → read path = content →
      (∀ s, Holds content s → @loadUsual Id _ read configFolder = s) ∧
        ((∀ s, ¬Holds content s) → @loadUsual Id _ read configFolder = Settings.default)) ∧
    ∀ named, ShowsObject content named →
      ((∃ s, load path content = .ok s) ↔ (knownNames Settings.fieldNames named).Nodup ∧
        ∀ member ∈ Settings.ownMembers named, Settings.AllowsMember member) ∧
      (∀ s, load path content = .ok s → s.SuitedBy (found named)) ∧
      ∀ other namedToo, ShowsObject other namedToo →
        (Settings.ownMembers named).Perm (Settings.ownMembers namedToo) →
        ∀ s, load path content = .ok s ↔ load path other = .ok s := by
  have refused : (∀ s, ¬Holds content s) → ∃ problem, load path content = .error problem := by
    intro nothing
    cases loaded : load path content with
    | ok s => exact absurd (load_eq_ok_iff.mp loaded) (nothing s)
    | error problem => exact ⟨problem, rfl⟩
  refine ⟨fun s => load_eq_ok_iff, refused, ?_, ?_, ?_, ?_⟩
  · intro text cause isText objects s holds
    exact holds.not_objectsTo isText cause objects
  · intro problem fails
    have refuses := refuses_of_load fails
    refine ⟨refuses, refuses.path_eq, ?_⟩
    rw [← refuses.path_eq]
    exact problem.exists_message_eq
  · intro read configFolder place content_eq
    rw [loadUsual_eq place content_eq]
    constructor
    · intro s holds
      rw [load_eq_ok_iff.mpr holds]
    · intro nothing
      obtain ⟨problem, fails⟩ := refused nothing
      rw [fails]
  · rintro named ⟨text, isText, shows⟩
    simp only [load_eq_ok_iff_of_isText isText]
    refine ⟨Settings.exists_ofText_object_iff shows, ?_, ?_⟩
    · intro s decoded
      exact ((Settings.ofText_object_iff shows).mp decoded).2
    · rintro other namedToo ⟨textToo, isTextToo, showsToo⟩ same s
      rw [load_eq_ok_iff_of_isText isTextToo]
      exact Settings.ofText_eq_ok_iff_of_perm shows showsToo same

set_option maxRecDepth 8000 in
/-- A file among whose members are broken ones of unknown names overrides two fields. One whose last
member is wrong does nothing, though its first one is right. -/
theorem override_and_default :
    let path := "/home/user/.config/proxcall/settings.json"
    let configFolder := some "/home/user/.config"
    let right : FileContent := .ok ("\x7b\"x\": [\"\\ud800\", 1e999], " ++
      "\"switch_delay_ms\": \" +0500\", \"auto_speaker_enabled\": true\x7d").toUTF8
    let wrong : FileContent := .ok
      "\x7b\"auto_speaker_enabled\": true, \"switch_delay_ms\": -1\x7d".toUTF8
    load path right = .ok ⟨true, false, 500⟩ ∧
      (∃ problem, load path wrong = .error problem ∧ problem.path = path) ∧
      @loadUsual Id _ (fun _ => wrong) configFolder = Settings.default := by
  intro path configFolder right wrong
  have spelled : Settings.delayOfText? " +0500" = some 500 := by decide
  have holds : Holds right ⟨true, false, 500⟩ := by
    let named : List (String × Document) :=
      [("x", .array [.scalar (.text none), .scalar (.number none)] none),
        ("switch_delay_ms", .scalar (.text (some " +0500"))),
        ("auto_speaker_enabled", .scalar (.bool true))]
    have suits : (⟨true, false, 500⟩ : Settings).SuitedBy (found named) :=
      Settings.suitedBy_iff.mpr ⟨⟨_, rfl, rfl⟩, rfl,
        ⟨_, rfl, .text (Settings.delayOfText?_eq_some_iff.mp spelled)⟩⟩
    exact .text (FileContent.isText_toUTF8 _) rfl (.object (by decide) suits)
  have nothing : ∀ s, ¬Holds wrong s := by
    have noDelay : ∀ n, ¬(Value.number (.negSucc 0)).IsDelay n := by
      rintro n ⟨⟩
    let named : List (String × Document) := [("auto_speaker_enabled", .scalar (.bool true)),
      ("switch_delay_ms", .scalar (.number (some (.negSucc 0))))]
    have objects : Settings.ObjectsTo (.object (keyed named) none) .noDelay :=
      .delay (.member (List.mem_cons_of_mem _ List.mem_cons_self) rfl) rfl noDelay
    exact (override_or_default path wrong).2.2.1 _ _ (FileContent.isText_toUTF8 _) objects
  obtain ⟨problem, fails⟩ := (override_or_default path wrong).2.1 nothing
  refine ⟨((override_or_default path right).1 _).mpr holds, ⟨problem, fails, ?_⟩, ?_⟩
  · exact ((override_or_default path wrong).2.2.2.1 problem fails).2.1
  · have usual := (override_or_default path wrong).2.2.2.2.1 (fun _ => wrong) configFolder rfl rfl
    exact usual.2 nothing

end SettingsFile

end InCallProximity
