import Mathlib.Data.List.Basic
import Statecraft.Graph.Convert

/-!
# Ids for repeated states

The first state of a name has its name as id (`self_mem_nodeIdsOf`). The id of any other is that of
a copy (`eq_or_copy_of_mem_nodeIdsOf`) and no state's name, so an id that is one belongs to a state
of that name (`eq_of_mem_nodeIdsOf`). No two states have one id (`nodup_nodeIdsOf`). What the ids
are is said place by place, without the run that gives them (`nodeIdsOf_names_or_numbers`).
-/

namespace Statecraft

theorem freshCopy_not_mem (name : String) (taken : List String) : freshCopy name taken ∉ taken := by
  have numbered {i j : Nat} (h : name ++ "#" ++ Decimal.natText (i + 2) =
      name ++ "#" ++ Decimal.natText (j + 2)) : i = j := by
    have same : i + 2 = j + 2 := Decimal.natText_injective ((String.append_right_inj _).1 h)
    omega
  exact Text.firstFree_not_mem numbered

/-- The id of a copy: the name of its state with a number, from two on. -/
def IsCopyOf (id name : String) : Prop := ∃ k, 2 ≤ k ∧ id = name ++ "#" ++ Decimal.natText k

theorem freshCopy_isCopyOf (name : String) (taken : List String) :
    IsCopyOf (freshCopy name taken) name :=
  ⟨_, Nat.le_add_left 2 _, rfl⟩

theorem length_assignIds (taken seen states : List String) :
    (assignIds taken seen states).length = states.length := by
  induction states generalizing taken seen with
  | nil => rfl
  | cons s r ih =>
    unfold assignIds
    split <;> simp [ih]

/-- A state has its name as id, or an id that was free. -/
theorem eq_or_free_of_mem_assignIds {taken seen states : List String} {id s : String}
    (h : (id, s) ∈ (assignIds taken seen states).zip states) : id = s ∨ id ∉ taken := by
  induction states generalizing taken seen with
  | nil => simp at h
  | cons x r ih =>
    unfold assignIds at h
    split at h
    · rcases List.mem_cons.mp h with same | h
      · obtain ⟨rfl, rfl⟩ := Prod.mk.inj same
        exact Or.inr (freshCopy_not_mem s taken)
      · rcases ih h with same | free
        · exact Or.inl same
        · exact Or.inr fun used => free (List.mem_cons_of_mem _ used)
    · rcases List.mem_cons.mp h with same | h
      · obtain ⟨rfl, rfl⟩ := Prod.mk.inj same
        exact Or.inl rfl
      · exact ih h

theorem eq_or_copy_of_mem_assignIds {taken seen states : List String} {id s : String}
    (h : (id, s) ∈ (assignIds taken seen states).zip states) : id = s ∨ IsCopyOf id s := by
  induction states generalizing taken seen with
  | nil => simp at h
  | cons x r ih =>
    unfold assignIds at h
    split at h
    · rcases List.mem_cons.mp h with same | h
      · obtain ⟨rfl, rfl⟩ := Prod.mk.inj same
        exact Or.inr (freshCopy_isCopyOf s taken)
      · exact ih h
    · rcases List.mem_cons.mp h with same | h
      · obtain ⟨rfl, rfl⟩ := Prod.mk.inj same
        exact Or.inl rfl
      · exact ih h

/-- An id is the name of a state that has not occurred, or it was free. -/
theorem of_mem_assignIds {taken seen states : List String} {id : String}
    (h : id ∈ assignIds taken seen states) : id ∈ states ∧ id ∉ seen ∨ id ∉ taken := by
  induction states generalizing taken seen with
  | nil => simp [assignIds] at h
  | cons s r ih =>
    unfold assignIds at h
    split at h
    · rcases List.mem_cons.mp h with rfl | h
      · exact Or.inr (freshCopy_not_mem s taken)
      · rcases ih h with ⟨later, new⟩ | free
        · exact Or.inl ⟨List.mem_cons_of_mem _ later, new⟩
        · exact Or.inr fun used => free (List.mem_cons_of_mem _ used)
    · rename_i first
      rcases List.mem_cons.mp h with rfl | h
      · exact Or.inl ⟨List.mem_cons_self, by simpa using first⟩
      · rcases ih h with ⟨later, new⟩ | free
        · exact Or.inl ⟨List.mem_cons_of_mem _ later, fun old => new (List.mem_cons_of_mem _ old)⟩
        · exact Or.inr free

theorem nodup_assignIds {taken seen states : List String} (known : ∀ s ∈ states, s ∈ taken) :
    (assignIds taken seen states).Nodup := by
  induction states generalizing taken seen with
  | nil => simp [assignIds]
  | cons s r ih =>
    rw [List.forall_mem_cons] at known
    unfold assignIds
    split
    · refine List.nodup_cons.mpr ⟨fun again => ?_, ih fun t ht => ?_⟩
      · rcases of_mem_assignIds again with ⟨later, _⟩ | free
        · exact freshCopy_not_mem s taken (known.2 _ later)
        · exact free List.mem_cons_self
      · exact List.mem_cons_of_mem _ (known.2 t ht)
    · refine List.nodup_cons.mpr ⟨fun again => ?_, ih known.2⟩
      rcases of_mem_assignIds again with ⟨_, new⟩ | free
      · exact new List.mem_cons_self
      · exact free known.1

/-- The first state of a name that has not occurred has its name as id. -/
theorem self_mem_assignIds {taken seen states : List String} {s : String} (hs : s ∈ states)
    (new : s ∉ seen) : (s, s) ∈ (assignIds taken seen states).zip states := by
  induction states generalizing taken seen with
  | nil => cases hs
  | cons x r ih =>
    unfold assignIds
    split
    · rename_i old
      have later : s ∈ r := by
        rcases List.mem_cons.mp hs with rfl | later
        · exact absurd (by simpa using old) new
        · exact later
      exact List.mem_cons_of_mem _ (ih later new)
    · by_cases same : s = x
      · subst same
        exact List.mem_cons_self
      · have later : s ∈ r := (List.mem_cons.mp hs).resolve_left same
        exact List.mem_cons_of_mem _ (ih later (by simp [same, new]))

/-- What ids are free after the first states depends on these: on their names and their ids. -/
theorem assignIds_append (taken seen front rest : List String) :
    ∃ taken' seen', assignIds taken seen (front ++ rest) =
        assignIds taken seen front ++ assignIds taken' seen' rest ∧
      (∀ s, s ∈ seen' ↔ s ∈ seen ∨ s ∈ front) ∧
      (∀ id ∈ taken, id ∈ taken') ∧ ∀ id ∈ taken', id ∈ taken ∨ id ∈ assignIds taken seen front := by
  induction front generalizing taken seen with
  | nil => exact ⟨taken, seen, rfl, by simp, fun _ h => h, fun _ h => Or.inl h⟩
  | cons s r ih =>
    rw [List.cons_append, assignIds, assignIds]
    split
    · rename_i old
      obtain ⟨taken', seen', run, occurred, kept, new⟩ := ih (freshCopy s taken :: taken) seen
      refine ⟨taken', seen', congrArg _ run, fun t => ?_,
        fun id h => kept id (List.mem_cons_of_mem _ h), fun id h => ?_⟩
      · -- the repeated name has occurred already
        have known : s ∈ seen := by simpa using old
        rw [occurred t, List.mem_cons]
        constructor
        · exact Or.imp_right Or.inr
        · rintro (h | rfl | h)
          · exact Or.inl h
          · exact Or.inl known
          · exact Or.inr h
      · rcases new id h with h | h
        · rcases List.mem_cons.mp h with rfl | h
          · exact Or.inr List.mem_cons_self
          · exact Or.inl h
        · exact Or.inr (List.mem_cons_of_mem _ h)
    · obtain ⟨taken', seen', run, occurred, kept, new⟩ := ih taken (s :: seen)
      refine ⟨taken', seen', congrArg _ run, fun t => ?_, kept, fun id h => ?_⟩
      · rw [occurred t, List.mem_cons, List.mem_cons, or_left_comm, or_assoc]
      · exact (new id h).imp_right (List.mem_cons_of_mem _)

variable {states : List String} {id s : String}

theorem self_mem_nodeIdsOf (hs : s ∈ states) : (s, s) ∈ (nodeIdsOf states).zip states :=
  self_mem_assignIds hs (by simp)

theorem eq_of_mem_nodeIdsOf (h : (id, s) ∈ (nodeIdsOf states).zip states) (declared : id ∈ states) :
    id = s :=
  (eq_or_free_of_mem_assignIds h).resolve_right fun free => free (List.mem_eraseDups.mpr declared)

theorem eq_or_copy_of_mem_nodeIdsOf (h : (id, s) ∈ (nodeIdsOf states).zip states) :
    id = s ∨ IsCopyOf id s :=
  eq_or_copy_of_mem_assignIds h

theorem nodup_nodeIdsOf (states : List String) : (nodeIdsOf states).Nodup :=
  nodup_assignIds fun _ hs => List.mem_eraseDups.mpr hs

theorem map_fst_nodeIdsOf (states : List String) :
    ((nodeIdsOf states).zip states).map Prod.fst = nodeIdsOf states :=
  List.map_fst_zip (Nat.le_of_eq (length_assignIds _ _ _))

/-- Each state has an id. -/
theorem map_snd_nodeIdsOf (states : List String) :
    ((nodeIdsOf states).zip states).map Prod.snd = states :=
  List.map_snd_zip (Nat.le_of_eq (length_assignIds _ _ _).symm)

/-- `k` is where counting the copies of a name from two on ends: the first of them that is neither
the name of a state nor an id that was given before. -/
structure EndsCount (states given : List String) (name : String) (k : Nat) : Prop where
  two_le : 2 ≤ k
  undeclared : name ++ "#" ++ Decimal.natText k ∉ states
  new : name ++ "#" ++ Decimal.natText k ∉ given
  passed : ∀ j, 2 ≤ j → j < k →
    name ++ "#" ++ Decimal.natText j ∈ states ∨ name ++ "#" ++ Decimal.natText j ∈ given

theorem endsCount_freshCopy {given taken : List String} {name : String}
    (known : ∀ s ∈ states, s ∈ taken) (only : ∀ id ∈ taken, id ∈ states ∨ id ∈ given)
    (new : freshCopy name taken ∉ given) :
    ∃ k, EndsCount states given name k ∧ freshCopy name taken = name ++ "#" ++ Decimal.natText k := by
  refine ⟨_, ⟨Nat.le_add_left 2 _, fun h => freshCopy_not_mem name taken (known _ h), new, ?_⟩, rfl⟩
  intro j two_le lt
  obtain ⟨m, rfl⟩ := Nat.exists_eq_add_of_le' two_le
  exact only _ (Text.mem_of_lt_firstFree (Nat.lt_of_add_lt_add_right lt))

/-- **Ids of states.** There is one id for each state, and no id is given twice. The first state of
a name has the name itself. For any other one counting the copies of the name ends, and it has the
copy at which it ends, which is no state's name. -/
theorem nodeIdsOf_names_or_numbers (states : List String) :
    (nodeIdsOf states).length = states.length ∧ (nodeIdsOf states).Nodup ∧
    ∀ front s rest, states = front ++ s :: rest →
      ∃ given id later, nodeIdsOf states = given ++ id :: later ∧ given.length = front.length ∧
        (s ∉ front → id = s) ∧
        (s ∈ front → ∃ k, EndsCount states given s k ∧ id = s ++ "#" ++ Decimal.natText k) := by
  have distinct := nodup_nodeIdsOf states
  refine ⟨length_assignIds _ _ _, distinct, fun front s rest split => ?_⟩
  obtain ⟨taken, seen, run, occurred, kept, only⟩ :=
    assignIds_append states.eraseDups [] front (s :: rest)
  rw [← split, assignIds] at run
  change nodeIdsOf states = _ at run
  have old : seen.contains s = true ↔ s ∈ front := by simp [occurred]
  rw [run] at distinct
  split at run
  · rename_i repeated
    refine ⟨_, _, _, run, length_assignIds _ _ _, fun first => absurd (old.mp repeated) first,
      fun _ => ?_⟩
    refine endsCount_freshCopy (fun t ht => kept t (List.mem_eraseDups.mpr ht))
      (fun id h => (only id h).imp_left List.mem_eraseDups.mp) fun again => ?_
    rw [if_pos repeated] at distinct
    exact (List.nodup_append.mp distinct).2.2 _ again _ List.mem_cons_self rfl
  · rename_i first
    exact ⟨_, _, _, run, length_assignIds _ _ _, fun _ => rfl, fun h => absurd (old.mpr h) first⟩

/-- States of which the third has the name that the second one would be given. -/
def lookalikes : List String := ["a", "a", "a#2", "a"]

theorem nodeIdsOf_names_or_numbers_lookalikes :
    lookalikes = ["a", "a", "a#2"] ++ "a" :: [] ∧ "a" ∈ ["a", "a", "a#2"] ∧
    nodeIdsOf lookalikes = ["a", "a#3", "a#2"] ++ "a#4" :: [] ∧
    ∃ k, EndsCount lookalikes ["a", "a#3", "a#2"] "a" k ∧
      "a#4" = "a" ++ "#" ++ Decimal.natText k := by
  have split : lookalikes = ["a", "a", "a#2"] ++ "a" :: [] := rfl
  have repeated : "a" ∈ ["a", "a", "a#2"] := List.mem_cons_self
  have ids : nodeIdsOf lookalikes = ["a", "a#3", "a#2"] ++ "a#4" :: [] := by decide
  obtain ⟨given, id, later, run, length, -, numbered⟩ :=
    (nodeIdsOf_names_or_numbers lookalikes).2.2 _ _ _ split
  obtain ⟨rfl, same⟩ := List.append_inj (run.symm.trans ids) length
  cases same
  exact ⟨split, repeated, ids, numbered repeated⟩

end Statecraft
