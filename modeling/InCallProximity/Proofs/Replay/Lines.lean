import InCallProximity.Replay

/-!
# What the lines of a script hold

A line holds a step or only white space, or something is wrong with it. `Holds` and `Wrong` say
which, by the JSON value of the line and what can be decoded from it; a line is trimmed before it is
judged. `Reads` says it of a script: the lines up to the first wrong one hold steps, and that line
is counted from one, blank lines included. Every script reads as some steps
(`exists_reads`), and a replay takes just those (`follow_of_holding`, `follow_of_wrong`).

`cutBefore` is what stands before a line.
-/

namespace InCallProximity

namespace Text

/-! ## Lines -/

theorem lines_cons {c : Char} (inside : c ≠ '\n') (text : List Char) :
    ∃ line rest, lines (c :: text) = (c :: line) :: rest ∧
      (lines text = line :: rest ∨ lines text = [] ∧ line = [] ∧ rest = []) := by
  unfold lines
  rw [List.foldr_cons, if_neg inside]
  generalize List.foldr _ [] text = parts
  cases parts with
  | nil => exact ⟨[], [], rfl, Or.inr ⟨rfl, rfl, rfl⟩⟩
  | cons line rest => exact ⟨line, rest, rfl, Or.inl rfl⟩

/-- No line has a line feed. -/
theorem not_mem_of_mem_lines (text : List Char) : ∀ line ∈ lines text, '\n' ∉ line := by
  induction text with
  | nil => nofun
  | cons c text ih =>
    by_cases feed : c = '\n'
    · have unfolded : lines (c :: text) = [] :: lines text := if_pos feed
      intro line among
      rw [unfolded, List.mem_cons] at among
      rcases among with rfl | among
      · exact List.not_mem_nil
      · exact ih line among
    · obtain ⟨first, rest, split, before⟩ := lines_cons feed text
      have clean : ∀ line ∈ first :: rest, '\n' ∉ line := by
        rcases before with before | ⟨-, rfl, rfl⟩
        · rw [← before]
          exact ih
        · intro line among
          rw [List.mem_singleton.mp among]
          exact List.not_mem_nil
      intro line among
      rw [split, List.mem_cons] at among
      rcases among with rfl | among
      · rw [List.mem_cons, not_or]
        exact ⟨fun same => feed same.symm, clean first (List.mem_cons_self ..)⟩
      · exact clean line (List.mem_cons_of_mem _ among)

/-- A line feed ends a line. -/
theorem lines_append_feed {line : List Char} (inside : '\n' ∉ line) (text : List Char) :
    lines (line ++ '\n' :: text) = line :: lines text := by
  induction line with
  | nil => rfl
  | cons c line ih =>
    rw [List.mem_cons, not_or] at inside
    obtain ⟨part, rest, whole, parts⟩ := lines_cons (Ne.symm inside.1) (line ++ '\n' :: text)
    rw [ih inside.2] at parts
    rcases parts with same | ⟨empty, -⟩
    · cases same
      exact whole
    · cases empty

/-- Lines written one after another, each with a line feed, are those lines. -/
theorem lines_flatMap_feed {parts : List (List Char)} (inside : ∀ line ∈ parts, '\n' ∉ line) :
    lines (parts.flatMap (· ++ ['\n'])) = parts := by
  induction parts with
  | nil => rfl
  | cons line rest ih =>
    rw [List.forall_mem_cons] at inside
    rw [List.flatMap_cons, List.append_assoc, List.singleton_append,
      lines_append_feed inside.1, ih inside.2]

end Text

namespace Replay

open Json

/-! ## What a line holds -/

/-- The value is a wait. -/
def IsWait (v : Value) : Prop := v.member? "type" = some (.text "wait")

/-- How long a wait is: what its `ms` says, or no time at all if that is no unsigned integer. -/
def Lasts (v : Value) (span : UInt64) : Prop :=
  v.member? "ms" = some (.number (.unsigned span)) ∨
    (∀ n, v.member? "ms" ≠ some (.number (.unsigned n))) ∧ span = 0

/-- A line holds a step. -/
inductive Holds (line : List Char) : Step → Prop where
  | wait {v : Value} {span : UInt64} (json : Value.ofText line = .ok v) (waits : IsWait v)
      (lasts : Lasts v span) : Holds line (.wait span)
  | event {v : Value} {event : Event} (json : Value.ofText line = .ok v) (other : ¬ IsWait v)
      (decoded : Wire.ofValue v = .ok event) : Holds line (.event event)

/-- Something is wrong with a line: it is not JSON, or it is neither a wait nor an event. -/
inductive Wrong (line : List Char) : LineProblem → Prop where
  | notJson {problem : Problem} (refused : Value.ofText line = .error problem) :
      Wrong line (.notJson problem)
  | notEvent {v : Value} {problem : Problem} (json : Value.ofText line = .ok v) (other : ¬ IsWait v)
      (refused : (Wire.ofValue v : Except Problem Event) = .error problem) :
      Wrong line (.notEvent problem)

theorem isWait_iff (v : Value) : Step.isWait v = true ↔ IsWait v := by
  unfold Step.isWait IsWait
  split
  · next kind found =>
    rw [found, decide_eq_true_iff, Option.some.injEq, Value.text.injEq]
  · next other =>
    refine ⟨nofun, fun found => ?_⟩
    exact absurd found (other "wait")

theorem lasts_span (v : Value) : Lasts v (Step.span v) := by
  unfold Lasts Step.span
  split
  · next span found => exact Or.inl found
  · next other => exact Or.inr ⟨other, rfl⟩

theorem ofLine_cases (line : List Char) :
    (∃ step, Step.ofLine line = .ok step ∧ Holds line step) ∨
      ∃ problem, Step.ofLine line = .error problem ∧ Wrong line problem := by
  unfold Step.ofLine
  cases json : Value.ofText line with
  | error problem => exact Or.inr ⟨_, rfl, .notJson json⟩
  | ok v =>
    dsimp only
    unfold Step.ofValue
    by_cases waits : Step.isWait v = true
    · simp only [if_pos waits]
      exact Or.inl ⟨_, rfl, .wait json ((isWait_iff v).mp waits) (lasts_span v)⟩
    · simp only [if_neg waits]
      have other : ¬ IsWait v := fun isWait => waits ((isWait_iff v).mpr isWait)
      cases decoded : (Wire.ofValue v : Except Problem Event) with
      | ok event => exact Or.inl ⟨_, rfl, .event json other decoded⟩
      | error problem => exact Or.inr ⟨_, rfl, .notEvent json other decoded⟩

/-! ## What a script reads as -/

/-- Lines hold steps, apart from those that are only white space. -/
inductive Holding : List (List Char) → List Step → Prop where
  | nil : Holding [] []
  | blank {line rest steps} (blank : Text.trim line = []) (holding : Holding rest steps) :
      Holding (line :: rest) steps
  | step {line rest step steps} (full : Text.trim line ≠ []) (holds : Holds (Text.trim line) step)
      (holding : Holding rest steps) : Holding (line :: rest) (step :: steps)

/-- The lines up to the first wrong one, if there is one, hold the steps. -/
def Reads (lines : List (List Char)) (steps : List Step) : Option BadLine → Prop
  | none => Holding lines steps
  | some bad => ∃ before line after, lines = before ++ line :: after ∧ Holding before steps ∧
      Text.trim line ≠ [] ∧ Wrong (Text.trim line) bad.problem ∧ bad.number = before.length + 1

/-- The lines with steps among lines that are counted from a number. -/
def numbered (number : Nat) (lines : List (List Char)) : List (Nat × List Char) :=
  ((lines.map Text.trim).zipIdx number).filterMap fun (line, number) =>
    if line.isEmpty then none else some (number, line)

theorem numbered_cons_of_blank {line : List Char} (blank : Text.trim line = []) (number : Nat)
    (rest : List (List Char)) : numbered number (line :: rest) = numbered (number + 1) rest := by
  unfold numbered
  rw [List.map_cons, List.zipIdx_cons, List.filterMap_cons_none]
  rw [blank]
  rfl

theorem numbered_cons_of_full {line : List Char} (full : Text.trim line ≠ []) (number : Nat)
    (rest : List (List Char)) :
    numbered number (line :: rest) = (number, Text.trim line) :: numbered (number + 1) rest := by
  unfold numbered
  rw [List.map_cons, List.zipIdx_cons, List.filterMap_cons_some]
  exact if_neg fun empty => full (List.isEmpty_iff.mp empty)

/-- Every script reads as some steps, up to its first wrong line. -/
theorem exists_reads (lines : List (List Char)) : ∃ steps stopped, Reads lines steps stopped := by
  induction lines with
  | nil => exact ⟨[], none, .nil⟩
  | cons line rest ih =>
    -- one line more in front: its steps come first, and a wrong line after it has moved on by one
    have shifted : ∀ more, (∀ {lines steps}, Holding lines steps →
        Holding (line :: lines) (more ++ steps)) →
          ∃ steps stopped, Reads (line :: rest) steps stopped := by
      intro more grows
      obtain ⟨steps, stopped, reads⟩ := ih
      cases stopped with
      | none => exact ⟨more ++ steps, none, grows reads⟩
      | some bad =>
        obtain ⟨before, wrong, after, rfl, holding, full, isWrong, number⟩ := reads
        refine ⟨more ++ steps, some ⟨bad.number + 1, bad.problem⟩, line :: before, wrong, after,
          rfl, grows holding, full, isWrong, ?_⟩
        rw [number, List.length_cons]
    by_cases blank : Text.trim line = []
    · exact shifted [] (Holding.blank blank)
    · rcases ofLine_cases (Text.trim line) with ⟨step, -, holds⟩ | ⟨problem, -, wrong⟩
      · exact shifted [step] (Holding.step blank holds)
      · exact ⟨[], some ⟨1, problem⟩, [], line, rest, rfl, .nil, blank, wrong, rfl⟩

theorem Holds.ofLine {line : List Char} {step : Step} (holds : Holds line step) :
    Step.ofLine line = .ok step := by
  unfold Step.ofLine
  cases holds with
  | @wait v span json waits lasts =>
    have same : Step.span v = span := by
      unfold Step.span
      rcases lasts with found | ⟨other, rfl⟩
      · rw [found]
      · split
        · next n found => exact absurd found (other n)
        · rfl
    simp only [json, Step.ofValue, if_pos ((isWait_iff v).mpr waits), same]
  | @event v event json other decoded =>
    simp only [json, Step.ofValue, if_neg fun waits => other ((isWait_iff v).mp waits), decoded]

theorem Wrong.ofLine {line : List Char} {problem : LineProblem} (wrong : Wrong line problem) :
    Step.ofLine line = .error problem := by
  unfold Step.ofLine
  cases wrong with
  | notJson refused => simp only [refused]
  | @notEvent v problem json other refused =>
    simp only [json, Step.ofValue, if_neg fun waits => other ((isWait_iff v).mp waits), refused]

/-! ## What a replay follows -/

theorem follow_of_ok {line : List Char} {step : Step} (held : Step.ofLine line = .ok step)
    (s : Session Platform) (number : Nat) (rest : List (Nat × List Char)) :
    follow s ((number, line) :: rest) =
      { follow (take s step) rest with
        entries := (s.clock, .step step) :: callsSince s (take s step) ++
          (follow (take s step) rest).entries } := by
  simp only [follow, held]

theorem follow_of_error {line : List Char} {problem : LineProblem}
    (refused : Step.ofLine line = .error problem) (s : Session Platform) (number : Nat)
    (rest : List (Nat × List Char)) :
    follow s ((number, line) :: rest) = conclude s (some ⟨number, problem⟩) := by
  simp only [follow, refused]

/-- Lines that hold steps are followed by taking the steps. -/
theorem follow_of_holding {before : List (List Char)} {steps : List Step}
    (holding : Holding before steps) (s : Session Platform) (number : Nat)
    (rest : List (List Char)) :
    let outcome := follow s (numbered number (before ++ rest))
    let later := follow (steps.foldl take s) (numbered (number + before.length) rest)
    outcome.session = later.session ∧ outcome.stopped = later.stopped := by
  induction holding generalizing s number with
  | nil => exact ⟨rfl, rfl⟩
  | @blank line before steps blank holding ih =>
    have shifted : number + (line :: before).length = number + 1 + before.length := by
      rw [List.length_cons]
      omega
    rw [List.cons_append, numbered_cons_of_blank blank, shifted]
    exact ih s (number + 1)
  | @step line before step steps full holds holding ih =>
    have shifted : number + (line :: before).length = number + 1 + before.length := by
      rw [List.length_cons]
      omega
    rw [List.cons_append, numbered_cons_of_full full, shifted, follow_of_ok holds.ofLine]
    exact ih (take s step) (number + 1)

/-- A replay takes the steps up to the first wrong line, and then the call screen ends. -/
theorem run_of_reads {settings : Settings} {script : List Char} {steps : List Step}
    {stopped : Option BadLine} (reads : Reads (Text.lines script) steps stopped) :
    (run settings script).session = finish (steps.foldl take (start settings)) ∧
      (run settings script).stopped = stopped := by
  have unfolded : run settings script =
      follow (start settings) (numbered 1 (Text.lines script)) := rfl
  rw [unfolded]
  cases stopped with
  | none =>
    have followed := follow_of_holding reads (start settings) 1 []
    rw [List.append_nil] at followed
    exact followed
  | some bad =>
    obtain ⟨before, line, after, split, holding, full, wrong, number⟩ := reads
    have followed := follow_of_holding holding (start settings) 1 (line :: after)
    have numberToo : 1 + before.length = bad.number := by omega
    rw [numberToo, numbered_cons_of_full full, follow_of_error wrong.ofLine] at followed
    rw [split]
    exact followed

/-! ## What stands before a line -/

/-- What stands before the line of a number. -/
def cutBefore (script : List Char) (number : Nat) : List Char :=
  ((Text.lines script).take (number - 1)).flatMap (· ++ ['\n'])

theorem lines_cutBefore (script : List Char) (number : Nat) :
    Text.lines (cutBefore script number) = (Text.lines script).take (number - 1) :=
  Text.lines_flatMap_feed fun line among =>
    Text.not_mem_of_mem_lines script line (List.mem_of_mem_take among)

/-- What stands before the first wrong line reads as the same steps, and nothing is wrong in it. -/
theorem Reads.cutBefore {script : List Char} {steps : List Step} {bad : BadLine}
    (reads : Reads (Text.lines script) steps (some bad)) :
    Reads (Text.lines (cutBefore script bad.number)) steps none := by
  obtain ⟨before, line, after, split, holding, -, -, number⟩ := reads
  rw [lines_cutBefore, split, number, Nat.add_sub_cancel, List.take_left]
  exact holding

end Replay

end InCallProximity
