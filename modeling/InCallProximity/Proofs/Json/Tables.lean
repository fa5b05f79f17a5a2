import InCallProximity.Json.Value
import Mathlib.Data.List.Perm.Basic
import Mathlib.Data.List.Nodup
import Mathlib.Data.String.Basic

/-!
# Values as tables

`Value.collapse` makes a table of every object: its members in the order of their names, the last of
repeated ones. In a value in which no object repeats a name (`Value.Distinct`) nothing is lost that
way: each object only has its members rearranged (`Value.collapse_object`).
-/

namespace InCallProximity.Json.Value

/-! ## Values in which no name repeats -/

mutual

/-- No object in a value repeats a name. -/
def Distinct : Value → Prop
  | .array items => DistinctItems items
  | .object members => (members.map Prod.fst).Nodup ∧ DistinctMembers members
  | .null | .bool _ | .number _ | .text _ => True

/-- No object inside any item has a name twice. -/
def DistinctItems : List Value → Prop
  | [] => True
  | v :: rest => Distinct v ∧ DistinctItems rest

/-- No object inside the value of any member has a name twice. -/
def DistinctMembers : List (String × Value) → Prop
  | [] => True
  | (_, v) :: rest => Distinct v ∧ DistinctMembers rest

end

theorem distinctItems_iff {items : List Value} :
    DistinctItems items ↔ ∀ v ∈ items, v.Distinct := by
  induction items with
  | nil => simp [DistinctItems]
  | cons v rest ih => simp [DistinctItems, ih]

theorem distinctMembers_iff {members : List (String × Value)} :
    DistinctMembers members ↔ ∀ member ∈ members, member.2.Distinct := by
  induction members with
  | nil => simp [DistinctMembers]
  | cons member rest ih =>
    obtain ⟨name, v⟩ := member
    simp only [DistinctMembers, ih, List.forall_mem_cons]

mutual

/-- Whether no object in a value repeats a name. -/
def decideDistinct : (v : Value) → Decidable v.Distinct
  | .array items => decideDistinctItems items
  | .object members =>
    have := decideDistinctMembers members
    inferInstanceAs (Decidable ((members.map Prod.fst).Nodup ∧ DistinctMembers members))
  | .null | .bool _ | .number _ | .text _ => .isTrue trivial

/-- Goes through the items. -/
def decideDistinctItems : (items : List Value) → Decidable (DistinctItems items)
  | [] => .isTrue trivial
  | v :: rest =>
    have := decideDistinct v
    have := decideDistinctItems rest
    inferInstanceAs (Decidable (v.Distinct ∧ DistinctItems rest))

/-- Goes through the values of the members. -/
def decideDistinctMembers :
    (members : List (String × Value)) → Decidable (DistinctMembers members)
  | [] => .isTrue trivial
  | (_, v) :: rest =>
    have := decideDistinct v
    have := decideDistinctMembers rest
    inferInstanceAs (Decidable (v.Distinct ∧ DistinctMembers rest))

end

instance : DecidablePred Distinct := decideDistinct

/-- Whether all that a reading gives has a property. -/
instance {ε α : Type} {reading : Except ε α} {holds : α → Prop} [DecidablePred holds] :
    Decidable (∀ a, reading = .ok a → holds a) :=
  match reading with
  | .error _ => .isTrue nofun
  | .ok a => decidable_of_iff (holds a) ⟨fun h _ same => Except.ok.inj same ▸ h, fun h => h a rfl⟩

/-! ## Tables -/

theorem collapseItems_eq_map (items : List Value) : collapseItems items = items.map collapse := by
  induction items with
  | nil => rfl
  | cons v rest ih => rw [collapseItems, ih, List.map_cons]

/-- The members with their values as tables. -/
abbrev collapsed (members : List (String × Value)) : List (String × Value) :=
  members.map fun member => (member.1, member.2.collapse)

theorem collapseMembers_eq_collapsed (members : List (String × Value)) :
    collapseMembers members = collapsed members := by
  induction members with
  | nil => rfl
  | cons member rest ih =>
    obtain ⟨name, v⟩ := member
    rw [collapseMembers, ih, collapsed, collapsed, List.map_cons]

/-- A new member is only added. -/
theorem insert_perm {name : String} {members : List (String × Value)}
    (fresh : name ∉ members.map Prod.fst) (v : Value) :
    (insert name v members).Perm ((name, v) :: members) := by
  induction members with
  | nil => exact .refl _
  | cons head rest ih =>
    obtain ⟨other, w⟩ := head
    rw [List.map_cons, List.mem_cons, not_or] at fresh
    unfold insert
    rw [if_neg fresh.1]
    split
    · exact .refl _
    · exact ((ih fresh.2).cons _).trans (.swap ..)

/-- A table of members that do not repeat names is the members, rearranged. -/
theorem table_perm {members : List (String × Value)} (distinct : (members.map Prod.fst).Nodup) :
    (table members).Perm members := by
  have grown : ∀ sofar : List (String × Value), ((sofar ++ members).map Prod.fst).Nodup →
      (members.foldl (fun table member => insert member.1 member.2 table) sofar).Perm
        (sofar ++ members) := by
    clear distinct
    induction members with
    | nil =>
      intro sofar _
      rw [List.append_nil]
      exact .refl _
    | cons member rest ih =>
      intro sofar distinct
      have moved : (sofar ++ member :: rest).Perm (member :: sofar ++ rest) := List.perm_middle
      have fresh : member.1 ∉ sofar.map Prod.fst := by
        have apart := (moved.map Prod.fst).nodup_iff.mp distinct
        rw [List.cons_append, List.map_cons, List.nodup_cons, List.map_append] at apart
        exact fun among => apart.1 (List.mem_append_left _ among)
      have inserted := (insert_perm fresh member.2).append_right rest
      have distinctToo := ((inserted.trans moved.symm).map Prod.fst).nodup_iff.mpr distinct
      exact (ih _ distinctToo).trans (inserted.trans moved.symm)
  exact grown [] distinct

theorem mem_names_insert {name other : String} {v : Value} {members : List (String × Value)}
    (among : other ∈ (insert name v members).map Prod.fst) :
    other = name ∨ other ∈ members.map Prod.fst := by
  induction members with
  | nil => exact Or.inl (List.mem_singleton.mp among)
  | cons head rest ih =>
    obtain ⟨first, w⟩ := head
    unfold insert at among
    split_ifs at among with same before
    · rw [List.map_cons, List.mem_cons] at among ⊢
      exact among.imp_right Or.inr
    · rw [List.map_cons, List.mem_cons] at among
      exact among
    · rw [List.map_cons, List.mem_cons] at among ⊢
      rcases among with rfl | later
      · exact Or.inr (Or.inl rfl)
      · exact (ih later).imp_right Or.inr

/-- Members in the order of their names stay so. -/
theorem insert_sorted {members : List (String × Value)}
    (sorted : (members.map Prod.fst).Pairwise (· < ·)) (name : String) (v : Value) :
    ((insert name v members).map Prod.fst).Pairwise (· < ·) := by
  induction members with
  | nil => exact List.pairwise_singleton ..
  | cons head rest ih =>
    obtain ⟨first, w⟩ := head
    rw [List.map_cons, List.pairwise_cons] at sorted
    unfold insert
    split_ifs with same before
    · subst same
      rw [List.map_cons, List.pairwise_cons]
      exact sorted
    · rw [List.map_cons, List.map_cons, List.pairwise_cons, List.pairwise_cons]
      refine ⟨List.forall_mem_cons.mpr ⟨before, fun other later => ?_⟩, sorted⟩
      exact before.trans (sorted.1 other later)
    · rw [List.map_cons, List.pairwise_cons]
      refine ⟨fun other among => ?_, ih sorted.2⟩
      rcases mem_names_insert among with rfl | later
      · exact lt_of_le_of_ne (not_lt.mp before) (Ne.symm same)
      · exact sorted.1 other later

/-- A table has each name once. -/
theorem table_distinct (members : List (String × Value)) :
    ((table members).map Prod.fst).Nodup := by
  have grown : ∀ sofar : List (String × Value), (sofar.map Prod.fst).Pairwise (· < ·) →
      ((members.foldl (fun table member => insert member.1 member.2 table) sofar).map
        Prod.fst).Pairwise (· < ·) := by
    induction members with
    | nil => exact fun _ sorted => sorted
    | cons member rest ih => exact fun sofar sorted => ih _ (insert_sorted sorted ..)
  exact (grown [] .nil).imp ne_of_lt

/-- An object that repeats no name has only its members rearranged. -/
theorem collapse_object {members : List (String × Value)}
    (distinct : (members.map Prod.fst).Nodup) :
    ∃ rearranged, (Value.object members).collapse = .object rearranged ∧
      rearranged.Perm (collapsed members) := by
  refine ⟨table (collapseMembers members), rfl, ?_⟩
  rw [collapseMembers_eq_collapsed]
  refine table_perm ?_
  rw [List.map_map]
  exact distinct

theorem collapse_array (items : List Value) :
    (Value.array items).collapse = .array (items.map collapse) :=
  congrArg Value.array (collapseItems_eq_map items)

end InCallProximity.Json.Value
