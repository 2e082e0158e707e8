import Mathlib.Data.List.Nodup
import Mathlib.Order.Bounds.Defs
import Statecraft.Edit

/-!
# The search for a free name

A search tries the base, then the base with one, with two and so on. No candidate comes twice
(`Search.candidate_injective`), so a search passes no more candidates than there are taken names
(`Search.length_le`) and ends at the first that is free (`Search.ends_after`). This is the name that
a new node is given (`Graph.search_ends_at_freshName`).
-/

namespace Statecraft

/-- The base with a number. -/
def numbered (base : String) (k : Nat) : String := base ++ "_" ++ Decimal.natText k

/-- A search for a free name: the name that it tries, and the number of the next one. -/
structure Search where
  name : String
  next : Nat

namespace Search

/-- One round of a search: a taken name is given up for the base with the next number. -/
def round? (base : String) (taken : List String) (s : Search) : Option Search :=
  if s.name ∈ taken then some ⟨numbered base s.next, s.next + 1⟩ else none

/-- A search is over after so many rounds, and this is where. -/
inductive Ends (base : String) (taken : List String) : Search → Nat → Search → Prop
  | here {s : Search} (stop : s.round? base taken = none) : Ends base taken s 0 s
  | later {s t u : Search} {rounds : Nat} (round : s.round? base taken = some t)
      (rest : Ends base taken t rounds u) : Ends base taken s (rounds + 1) u

/-- The name that is tried after so many rounds. -/
def candidate (base : String) : Nat → String
  | 0 => base
  | k + 1 => numbered base (k + 1)

/-- Where a search is after so many rounds. -/
def after (base : String) (k : Nat) : Search := ⟨candidate base k, k + 1⟩

variable {base : String} {taken : List String}

theorem numbered_ne (base : String) (k : Nat) : numbered base k ≠ base := by
  intro same
  have length := congrArg String.length same
  have underscore : "_".length = 1 := rfl
  unfold numbered at length
  rw [String.length_append, String.length_append] at length
  omega

theorem candidate_injective : Function.Injective (candidate base) := by
  intro i j same
  cases i with
  | zero =>
    cases j with
    | zero => rfl
    | succ j => exact absurd same.symm (numbered_ne base _)
  | succ i =>
    cases j with
    | zero => exact absurd same (numbered_ne base _)
    | succ j => exact Decimal.natText_injective ((String.append_right_inj _).1 same)

/-- After a round at a taken candidate the next one is tried. -/
theorem round?_of_taken {k : Nat} (h : candidate base k ∈ taken) :
    (after base k).round? base taken = some (after base (k + 1)) :=
  if_pos h

theorem round?_of_free {k : Nat} (h : candidate base k ∉ taken) :
    (after base k).round? base taken = none :=
  if_neg h

/-- A search passes the candidates that are taken and ends at the first free one. -/
theorem ends_after {k rounds : Nat} (passed : ∀ j < rounds, candidate base (k + j) ∈ taken)
    (free : candidate base (k + rounds) ∉ taken) :
    Ends base taken (after base k) rounds (after base (k + rounds)) := by
  induction rounds generalizing k with
  | zero => exact .here (round?_of_free free)
  | succ rounds ih =>
    have here : candidate base k ∈ taken := passed 0 (Nat.succ_pos _)
    have rest : Ends base taken (after base (k + 1)) rounds (after base (k + 1 + rounds)) := by
      apply ih
      · intro j hj
        rw [Nat.add_right_comm, Nat.add_assoc]
        exact passed (j + 1) (Nat.succ_lt_succ hj)
      · rwa [Nat.add_right_comm, Nat.add_assoc]
    rw [Nat.add_right_comm, Nat.add_assoc] at rest
    exact .later (round?_of_taken here) rest

/-- Candidates differ, so no more can be passed than there are taken names. -/
theorem length_le {rounds : Nat} (passed : ∀ j < rounds, candidate base j ∈ taken) :
    rounds ≤ taken.length := by
  have distinct : ((List.range rounds).map (candidate base)).Nodup :=
    List.nodup_range.map candidate_injective
  have shorter := distinct.length_le_of_subset fun name hname => by
    obtain ⟨j, hj, rfl⟩ := List.mem_map.mp hname
    exact passed j (List.mem_range.mp hj)
  rwa [List.length_map, List.length_range] at shorter

end Search

namespace Graph

open Search (candidate)

/-- The fresh name is a candidate before which all others are taken. -/
theorem freshName_eq_candidate (g : Graph) (base : String) :
    ∃ rounds, g.freshName base = candidate base rounds ∧
      ∀ j < rounds, candidate base j ∈ g.nodes.map Node.label := by
  by_cases taken : base ∈ g.nodes.map Node.label
  · refine ⟨Text.firstFree (fun k => numbered base (k + 1)) (g.nodes.map Node.label) + 1, ?_, ?_⟩
    · exact if_pos (List.contains_iff_mem.mpr taken)
    · intro j hj
      cases j with
      | zero => exact taken
      | succ j =>
        exact @Text.mem_of_lt_firstFree (fun k => numbered base (k + 1)) _ j
          (Nat.lt_of_succ_lt_succ hj)
  · exact ⟨0, if_neg fun h => taken (List.contains_iff_mem.mp h), by simp⟩

/-- **The search for a free name ends, at the least one.** It takes at most one round for each node.
The name where it ends is no node's: it is the base if that is free, and otherwise the base with the
least number from one on for which it is. -/
theorem search_ends_at_freshName (g : Graph) (base : String) :
    ∃ rounds ≤ g.nodes.length,
      Search.Ends base (g.nodes.map Node.label) ⟨base, 1⟩ rounds ⟨g.freshName base, rounds + 1⟩ ∧
      g.freshName base ∉ g.nodes.map Node.label ∧
      (base ∉ g.nodes.map Node.label → g.freshName base = base) ∧
      (base ∈ g.nodes.map Node.label → g.freshName base = numbered base rounds ∧
        IsLeast {k | 1 ≤ k ∧ numbered base k ∉ g.nodes.map Node.label} rounds) := by
  have free := g.freshName_not_mem base
  obtain ⟨rounds, fresh, passed⟩ := g.freshName_eq_candidate base
  have few := Search.length_le passed
  rw [List.length_map] at few
  rw [fresh] at free ⊢
  have ends := Search.ends_after (k := 0) (fun j hj => by rw [Nat.zero_add]; exact passed j hj)
    (by rwa [Nat.zero_add])
  rw [Nat.zero_add] at ends
  refine ⟨rounds, few, ends, free, fun base_free => ?_, fun base_taken => ?_⟩
  · cases rounds with
    | zero => rfl
    | succ rounds => exact absurd (passed 0 (Nat.succ_pos _)) base_free
  · cases rounds with
    | zero => exact absurd base_taken free
    | succ rounds =>
      refine ⟨rfl, ⟨Nat.succ_pos _, free⟩, fun k ⟨one_le, k_free⟩ => ?_⟩
      by_contra less
      obtain ⟨j, rfl⟩ := Nat.exists_eq_add_of_le' one_le
      exact k_free (passed (j + 1) (Nat.lt_of_not_le less))

end Graph

end Statecraft
