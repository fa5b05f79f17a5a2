import InCallProximity.Proofs.Json.Keeping
import Mathlib.Data.List.Duplicate

/-!
# Grounds of refusals

What is wrong with a document is always something in it. Names, values that are kept and values that
are passed over fail by faults alone. Members of a record fail by one of themselves: by its name, by
a value that cannot be passed over, by a name that is there twice, or by a value that cannot be put
into the field (`Record.trouble_of_putMembers`).
-/

namespace InCallProximity.Json

theorem bind_eq_error_iff {ε α β : Type} {first : Except ε α} {next : α → Except ε β} {e : ε} :
    (first >>= next) = .error e ↔ first = .error e ∨ ∃ a, first = .ok a ∧ next a = .error e := by
  cases first with
  | error problem =>
    simp [bind, Except.bind]
  | ok a =>
    constructor
    · exact fun fails => Or.inr ⟨a, rfl, fails⟩
    · rintro (same | ⟨_, same, fails⟩)
      · cases same
      · cases same
        exact fails

theorem map_eq_error_iff {ε α β : Type} {first : Except ε α} {f : α → β} {e : ε} :
    first.map f = .error e ↔ first = .error e := by
  cases first <;> simp [Except.map]

/-! ## Faults of documents -/

/-- The text is wrong as JSON. -/
def Problem.IsFault (problem : Problem) : Prop := ∃ fault, problem = .fault fault

variable {problem : Problem}

theorem isFault_of_bind {α β : Type} {first : Except Problem α} {next : α → Except Problem β}
    (fails : (first >>= next) = .error problem)
    (atFirst : first = .error problem → problem.IsFault)
    (atNext : ∀ a, next a = .error problem → problem.IsFault) : problem.IsFault := by
  rcases bind_eq_error_iff.mp fails with fails | ⟨a, -, fails⟩
  · exact atFirst fails
  · exact atNext a fails

theorem isFault_of_close {fault : Option Fault} (fails : close fault = .error problem) :
    problem.IsFault := by
  cases fault with
  | none => cases fails
  | some fault =>
    cases fails
    exact ⟨fault, rfl⟩

namespace Document

theorem isFault_of_name {key : Document} (fails : key.name = .error problem) : problem.IsFault := by
  unfold name at fails
  split at fails <;> cases fails <;> exact ⟨_, rfl⟩

theorem isFault_of_ignoreName {key : Document} (fails : key.ignoreName = .error problem) :
    problem.IsFault := by
  unfold ignoreName at fails
  split at fails <;> cases fails <;> exact ⟨_, rfl⟩

mutual

theorem isFault_of_keep {depth : Nat} : ∀ {d : Document}, keep depth d = .error problem →
    problem.IsFault
  | .scalar s, fails => by
    rw [keep] at fails
    unfold Scalar.keep at fails
    split at fails <;> cases fails <;> exact ⟨_, rfl⟩
  | .array items fault, fails => by
    rcases depth with _ | depth
    · cases fails
      exact ⟨_, rfl⟩
    · rw [keep] at fails
      refine isFault_of_bind fails (fun fails => isFault_of_keepItems fails) fun _ fails => ?_
      refine isFault_of_bind fails isFault_of_close fun _ fails => ?_
      cases fails
  | .object members fault, fails => by
    rcases depth with _ | depth
    · cases fails
      exact ⟨_, rfl⟩
    · rw [keep] at fails
      refine isFault_of_bind fails (fun fails => isFault_of_keepMembers fails) fun _ fails => ?_
      refine isFault_of_bind fails isFault_of_close fun _ fails => ?_
      cases fails

theorem isFault_of_keepItems {depth : Nat} : ∀ {items : List Document},
    keepItems depth items = .error problem → problem.IsFault
  | [], fails => by cases fails
  | d :: rest, fails => by
    rw [keepItems] at fails
    refine isFault_of_bind fails (fun fails => isFault_of_keep fails) fun _ fails => ?_
    refine isFault_of_bind fails (fun fails => isFault_of_keepItems fails) fun _ fails => ?_
    cases fails

theorem isFault_of_keepMembers {depth : Nat} : ∀ {members : List (Document × Document)},
    keepMembers depth members = .error problem → problem.IsFault
  | [], fails => by cases fails
  | (key, d) :: rest, fails => by
    rw [keepMembers] at fails
    refine isFault_of_bind fails isFault_of_name fun _ fails => ?_
    refine isFault_of_bind fails (fun fails => isFault_of_keep fails) fun _ fails => ?_
    refine isFault_of_bind fails (fun fails => isFault_of_keepMembers fails) fun _ fails => ?_
    cases fails

end

mutual

theorem isFault_of_ignore : ∀ {d : Document}, ignore d = .error problem → problem.IsFault
  | .scalar s, fails => by
    rw [ignore] at fails
    unfold Scalar.ignore at fails
    split at fails <;> cases fails <;> exact ⟨_, rfl⟩
  | .array items fault, fails => by
    rw [ignore] at fails
    exact isFault_of_bind fails (fun fails => isFault_of_ignoreItems fails)
      fun _ fails => isFault_of_close fails
  | .object members fault, fails => by
    rw [ignore] at fails
    exact isFault_of_bind fails (fun fails => isFault_of_ignoreMembers fails)
      fun _ fails => isFault_of_close fails

theorem isFault_of_ignoreItems : ∀ {items : List Document},
    ignoreItems items = .error problem → problem.IsFault
  | [], fails => by cases fails
  | d :: rest, fails => by
    rw [ignoreItems] at fails
    exact isFault_of_bind fails (fun fails => isFault_of_ignore fails)
      fun _ fails => isFault_of_ignoreItems fails

theorem isFault_of_ignoreMembers : ∀ {members : List (Document × Document)},
    ignoreMembers members = .error problem → problem.IsFault
  | [], fails => by cases fails
  | (key, d) :: rest, fails => by
    rw [ignoreMembers] at fails
    refine isFault_of_bind fails isFault_of_ignoreName fun _ fails => ?_
    exact isFault_of_bind fails (fun fails => isFault_of_ignore fails)
      fun _ fails => isFault_of_ignoreMembers fails

end

theorem isFault_of_found {d : Document} (fails : (Source.view d).found = .error problem) :
    problem.IsFault := by
  change (Document.view d).found = _ at fails
  unfold Document.view at fails
  split at fails
  case h_3 n => cases n <;> cases fails
  case h_5 | h_6 | h_7 | h_8 | h_9 =>
    cases fails
    exact ⟨_, rfl⟩
  all_goals cases fails

/-- What is found in place of something else is told, unless it is broken. -/
theorem refuse_eq_error {α : Type} {d : Document} {expected : String}
    (fails : ((Source.view d).refuse expected : Except Problem α) = .error problem) :
    problem.IsFault ∨ ∃ found, (Source.view d).found = .ok found ∧
      problem = .data (.wrongType found expected) := by
  unfold View.refuse at fails
  rcases bind_eq_error_iff.mp fails with fails | ⟨found, shown, fails⟩
  · exact Or.inl (isFault_of_found fails)
  · cases fails
    exact Or.inr ⟨found, shown, rfl⟩

end Document

/-! ## Problems of members -/

namespace Record

variable {δ σ : Type} [Source δ]

/-- What is wrong with the members of a record, if some names were seen before them. -/
inductive Trouble (fields : List (Field δ σ)) (seen : List String)
    (members : List (Except Problem String × δ)) (problem : Problem) : Prop where
  | name (among : .error problem ∈ members.map Prod.fst)
  | ignored {name : String} {d : δ} (among : (.ok name, d) ∈ members)
      (fails : Source.ignore d = .error problem)
  | seen {field : Field δ σ} (known : field ∈ fields) (before : field.name ∈ seen)
      (among : .ok field.name ∈ members.map Prod.fst)
      (same : problem = .data (.repeatedMember field.name))
  | repeated {field : Field δ σ} (known : field ∈ fields)
      (twice : List.Duplicate (.ok field.name) (members.map Prod.fst))
      (same : problem = .data (.repeatedMember field.name))
  | value {field : Field δ σ} (known : field ∈ fields) {d : δ}
      (among : (.ok field.name, d) ∈ members) {x : σ} (fails : field.put d x = .error problem)

variable {fields : List (Field δ σ)} {members : List (Except Problem String × δ)}
  {seen : List String}

theorem Trouble.cons (trouble : Trouble fields seen members problem)
    (head : Except Problem String × δ) : Trouble fields seen (head :: members) problem := by
  cases trouble with
  | name among => exact .name (List.mem_cons_of_mem _ among)
  | ignored among fails => exact .ignored (List.mem_cons_of_mem _ among) fails
  | seen known before among same => exact .seen known before (List.mem_cons_of_mem _ among) same
  | repeated known twice same => exact .repeated known (twice.duplicate_cons _) same
  | value known among fails => exact .value known (List.mem_cons_of_mem _ among) fails

/-- A name that was seen by the members after it is there twice, if it was not seen before. -/
theorem Trouble.unseen {name : String} {d : δ}
    (trouble : Trouble fields (name :: seen) members problem) :
    Trouble fields seen ((.ok name, d) :: members) problem := by
  cases trouble with
  | name among => exact .name (List.mem_cons_of_mem _ among)
  | ignored among fails => exact .ignored (List.mem_cons_of_mem _ among) fails
  | seen known before among same =>
    rcases List.mem_cons.mp before with rfl | before
    · exact .repeated known (List.Mem.duplicate_cons_self among) same
    · exact .seen known before (List.mem_cons_of_mem _ among) same
  | repeated known twice same => exact .repeated known (twice.duplicate_cons _) same
  | value known among fails => exact .value known (List.mem_cons_of_mem _ among) fails

theorem trouble_of_putMembers {x : σ} (fails : putMembers fields members seen x = .error problem) :
    Trouble fields seen members problem := by
  induction members generalizing seen x with
  | nil => cases fails
  | cons head rest ih =>
    obtain ⟨key, d⟩ := head
    cases key with
    | error problem =>
      cases fails
      exact .name List.mem_cons_self
    | ok name =>
      rcases @putMembers_cons _ _ _ fields name d rest seen x with
        ⟨-, put⟩ | ⟨field, known, rfl, put⟩
      · rw [put] at fails
        rcases bind_eq_error_iff.mp fails with fails | ⟨_, -, fails⟩
        · exact .ignored List.mem_cons_self fails
        · exact (ih fails).cons _
      · rw [put] at fails
        split at fails
        · next before =>
          cases fails
          exact .seen known before List.mem_cons_self rfl
        · rcases bind_eq_error_iff.mp fails with fails | ⟨_, -, fails⟩
          · exact .value known List.mem_cons_self fails
          · exact (ih fails).unseen

theorem trouble_of_ofMembers {r : Record δ σ}
    (optional : ∀ field ∈ r.fields, field.required = false) {fault : Option Fault}
    (fails : r.ofMembers members fault = .error problem) :
    problem.IsFault ∨ Trouble r.fields [] members problem := by
  unfold ofMembers at fails
  rcases bind_eq_error_iff.mp fails with fails | ⟨put, -, fails⟩
  · exact Or.inr (trouble_of_putMembers fails)
  · rcases bind_eq_error_iff.mp fails with fails | ⟨_, -, fails⟩
    · exact Or.inl (isFault_of_close fails)
    · have complete : requireSeen r.fields put.1 = .ok () := by
        refine requireSeen_eq_ok_iff.mpr fun field known required => ?_
        rw [optional field known] at required
        cases required
      rw [complete] at fails
      cases fails

omit [Source δ] in
/-- Items that are not too many fail by one that cannot be put into its field. -/
theorem exists_of_putItems {title : String} {count : Nat} {fault : Option Fault}
    {fields : List (Field δ σ)} (optional : ∀ field ∈ fields, field.required = false)
    {items : List δ} {x : σ} (fails : putItems title count fault fields items x = .error problem) :
    problem.IsFault ∨ ∃ (i : Nat) (field : Field δ σ) (d : δ) (x : σ), fields[i]? = some field ∧
      items[i]? = some d ∧ field.put d x = .error problem := by
  induction fields generalizing items x with
  | nil => cases fails
  | cons field fields ih =>
    rw [List.forall_mem_cons] at optional
    cases items with
    | nil =>
      unfold putItems at fails
      rw [optional.1] at fails
      rcases bind_eq_error_iff.mp fails with fails | ⟨_, -, fails⟩
      · exact Or.inl (isFault_of_close fails)
      · rcases ih optional.2 fails with isFault | ⟨_, _, _, _, _, none, _⟩
        · exact Or.inl isFault
        · cases none
    | cons d rest =>
      rcases bind_eq_error_iff.mp fails with fails | ⟨x₁, -, fails⟩
      · exact Or.inr ⟨0, field, d, x, rfl, rfl, fails⟩
      · refine (ih optional.2 fails).imp_right ?_
        rintro ⟨i, other, e, y, known, item, fails⟩
        exact ⟨i + 1, other, e, y, known, item, fails⟩

end Record

end InCallProximity.Json
