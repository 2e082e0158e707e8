import Mathlib.Data.List.Perm.Subperm
import Mathlib.Logic.Relation
import Statecraft.Proofs.Keyed

/-!
# Which states reach each other

The arcs of a graph are the pairs of a source and a target that are different nodes (`mem_arcs`).
Leaving one state after the other finds all that can be reached along them: no step leads to a state
that is not there (`spread_sound`), and at the end no arc leads out of what was seen
(`spread_closed`), since there are enough steps for each arc to be new once (`length_add_unseen`).
So two states are found to reach each other just if they do (`mutual_iff`).
-/

namespace Statecraft.Layout

open Relation (ReflTransGen)

/-- An edge leads from a node to a different one. -/
def Leads (nodes : List Node) (edges : List Edge) (s t : String) : Prop :=
  s ∈ nodes.map Node.id ∧ t ∈ nodes.map Node.id ∧ s ≠ t ∧ ∃ e ∈ edges, e.target = t ∧ s ∈ e.sources

/-- There is an arc from a state to another. -/
abbrev Follows (arcs : List Arc) (s t : String) : Prop := (s, t) ∈ arcs

/-- The states reach each other. -/
def Mutual (R : String → String → Prop) (s t : String) : Prop :=
  ReflTransGen R s t ∧ ReflTransGen R t s

theorem mem_arcs {nodes : List Node} {edges : List Edge} {s t : String} :
    (s, t) ∈ arcs nodes edges ↔ Leads nodes edges s t := by
  have known (x : String) : (nodes.map Node.id).contains x = true ↔ x ∈ nodes.map Node.id := by
    simp
  unfold arcs Leads
  dsimp only
  rw [List.mem_flatMap]
  constructor
  · rintro ⟨e, he, hm⟩
    split at hm
    · rename_i target
      obtain ⟨u, hu, same⟩ := List.mem_map.mp hm
      obtain ⟨rfl, rfl⟩ := Prod.mk.inj same
      obtain ⟨hs, source⟩ := List.mem_filter.mp hu
      rw [Bool.and_eq_true, bne_iff_ne] at source
      exact ⟨(known _).mp source.1, (known _).mp target, source.2, e, he, rfl, hs⟩
    · cases hm
  · rintro ⟨source, target, other, e, he, rfl, hs⟩
    refine ⟨e, he, ?_⟩
    rw [if_pos ((known _).mpr target)]
    refine List.mem_map.mpr ⟨s, List.mem_filter.mpr ⟨hs, ?_⟩, rfl⟩
    rw [Bool.and_eq_true, bne_iff_ne]
    exact ⟨(known _).mpr source, other⟩

theorem follows_arcs (nodes : List Node) (edges : List Edge) :
    Follows (arcs nodes edges) = Leads nodes edges :=
  funext fun _ => funext fun _ => propext mem_arcs

section Spread

variable {arcs : List Arc} {start : String}

/-- The states one arc away that were not seen before. -/
def fresh (arcs : List Arc) (seen : List String) (s : String) : List String :=
  ((successors arcs s).filter (!seen.contains ·)).eraseDups

theorem mem_fresh {seen : List String} {s t : String} :
    t ∈ fresh arcs seen s ↔ Follows arcs s t ∧ t ∉ seen := by
  simp [fresh, successors, List.mem_eraseDups]

theorem spread_cons (fuel : Nat) (seen frontier : List String) (s : String) :
    spread arcs (fuel + 1) seen (s :: frontier) =
      spread arcs fuel (seen ++ fresh arcs seen s) (frontier ++ fresh arcs seen s) := rfl

theorem subset_spread (fuel : Nat) (seen frontier : List String) :
    seen ⊆ spread arcs fuel seen frontier := by
  induction fuel generalizing seen frontier with
  | zero => exact fun _ hs => hs
  | succ fuel ih =>
    cases frontier with
    | nil => exact fun _ hs => hs
    | cons s frontier => exact fun u hu => ih _ _ (List.mem_append_left _ hu)

theorem spread_sound {fuel : Nat} {seen frontier : List String} (front : frontier ⊆ seen)
    (sound : ∀ t ∈ seen, ReflTransGen (Follows arcs) start t) :
    ∀ t ∈ spread arcs fuel seen frontier, ReflTransGen (Follows arcs) start t := by
  induction fuel generalizing seen frontier with
  | zero => exact sound
  | succ fuel ih =>
    cases frontier with
    | nil => exact sound
    | cons s frontier =>
      rw [List.cons_subset] at front
      refine ih (List.append_subset.mpr ⟨?_, List.subset_append_right _ _⟩) fun t ht => ?_
      · exact fun u hu => List.mem_append_left _ (front.2 hu)
      · rcases List.mem_append.mp ht with old | new
        · exact sound t old
        · exact (sound s front.1).tail (mem_fresh.mp new).1

/-- States that are seen for the first time take an arc each from those that lead to what is not
seen. -/
theorem length_add_unseen {seen new : List String} (distinct : new.Nodup)
    (targets : ∀ t ∈ new, t ∉ seen ∧ ∃ s, Follows arcs s t) :
    new.length + arcs.countP (fun a => decide (a.2 ∉ seen ++ new)) ≤
      arcs.countP fun a => decide (a.2 ∉ seen) := by
  let taken := arcs.filter fun a => decide (a.2 ∈ new)
  have each : new.length ≤ taken.countP fun a => decide (a.2 ∉ seen) := by
    rw [List.countP_eq_length_filter, ← List.length_map Prod.snd]
    refine (distinct.subperm fun t ht => ?_).length_le
    obtain ⟨unseen, s, follows⟩ := targets t ht
    refine List.mem_map.mpr ⟨(s, t), ?_, rfl⟩
    simp [taken, follows, ht, unseen]
  have others : arcs.countP (fun a => decide (a.2 ∉ seen ++ new)) =
      (arcs.filter fun a => !decide (a.2 ∈ new)).countP fun a => decide (a.2 ∉ seen) := by
    rw [List.countP_filter]
    simp
  rw [others, List.countP_eq_countP_filter_add arcs _ fun a => decide (a.2 ∈ new)]
  exact Nat.add_le_add_right each _

/-- After enough steps no arc leads out of what was seen. -/
theorem spread_closed {fuel : Nat} {seen frontier : List String} (front : frontier ⊆ seen)
    (left : ∀ s ∈ seen, s ∉ frontier → ∀ t, Follows arcs s t → t ∈ seen)
    (enough : frontier.length + arcs.countP (fun a => decide (a.2 ∉ seen)) ≤ fuel) :
    ∀ s ∈ spread arcs fuel seen frontier, ∀ t, Follows arcs s t →
      t ∈ spread arcs fuel seen frontier := by
  induction fuel generalizing seen frontier with
  | zero =>
    have none_waits : frontier = [] := List.length_eq_zero_iff.mp (by omega)
    subst none_waits
    exact fun s hs => left s hs List.not_mem_nil
  | succ fuel ih =>
    cases frontier with
    | nil => exact fun s hs => left s hs List.not_mem_nil
    | cons s frontier =>
      rw [List.cons_subset] at front
      rw [spread_cons]
      have arrived : ∀ t, Follows arcs s t → t ∈ seen ++ fresh arcs seen s := by
        intro t follows
        by_cases old : t ∈ seen
        · exact List.mem_append_left _ old
        · exact List.mem_append_right _ (mem_fresh.mpr ⟨follows, old⟩)
      apply ih
      · refine List.append_subset.mpr ⟨?_, List.subset_append_right _ _⟩
        exact fun u hu => List.mem_append_left _ (front.2 hu)
      · intro u hu waits t follows
        rw [List.mem_append, not_or] at waits
        by_cases here : u = s
        · exact arrived t (here ▸ follows)
        · have old : u ∈ seen := (List.mem_append.mp hu).resolve_right waits.2
          exact List.mem_append_left _ (left u old (by simp [here, waits.1]) t follows)
      · have distinct : (fresh arcs seen s).Nodup := nodup_eraseDups _
        have fewer := length_add_unseen distinct
          fun t ht => ⟨(mem_fresh.mp ht).2, s, (mem_fresh.mp ht).1⟩
        simp only [List.length_cons, List.length_append] at enough ⊢
        omega

/-- The states found are those that can be reached. -/
theorem mem_reachable {s t : String} :
    t ∈ reachable arcs s ↔ ReflTransGen (Follows arcs) s t := by
  constructor
  · refine spread_sound (List.Subset.refl _) (fun u hu => ?_) t
    rw [List.mem_singleton.mp hu]
  · intro reaches
    have bound : arcs.countP (fun a => decide (a.2 ∉ [s])) ≤ arcs.length := List.countP_le_length
    have enough : [s].length + arcs.countP (fun a => decide (a.2 ∉ [s])) ≤ arcs.length + 1 := by
      rw [List.length_singleton]
      omega
    have closed := spread_closed (List.Subset.refl [s]) (fun u hu waits => absurd hu waits) enough
    induction reaches with
    | refl => exact subset_spread _ _ _ (List.mem_singleton_self s)
    | tail _ follows ih => exact closed _ ih _ follows

end Spread

section Mutual

variable {states : List String} {arcs : List Arc} {s t u : String}

theorem leads_iff (hs : s ∈ states) :
    (reachOf states arcs).leads s t = true ↔ ReflTransGen (Follows arcs) s t := by
  have found : (reachOf states arcs).lookup s = some (reachable arcs s) := by
    unfold reachOf
    induction states with
    | nil => cases hs
    | cons u r ih =>
      by_cases here : s = u
      · simp [here]
      · rw [List.map_cons, List.lookup_cons, beq_false_of_ne here]
        exact ih ((List.mem_cons.mp hs).resolve_left here)
  unfold Reach.leads
  rw [found, ← mem_reachable]
  simp

theorem mutual_iff (hs : s ∈ states) (ht : t ∈ states) :
    (reachOf states arcs).mutual s t = true ↔ Mutual (Follows arcs) s t := by
  unfold Reach.mutual Mutual
  rw [Bool.and_eq_true, leads_iff hs, leads_iff ht]

variable {R : String → String → Prop}

theorem Mutual.refl (s : String) : Mutual R s s := ⟨.refl, .refl⟩

theorem Mutual.symm (h : Mutual R s t) : Mutual R t s := ⟨h.2, h.1⟩

theorem Mutual.trans (h : Mutual R s t) (k : Mutual R t u) : Mutual R s u :=
  ⟨h.1.trans k.1, k.2.trans h.2⟩

end Mutual

end Statecraft.Layout
