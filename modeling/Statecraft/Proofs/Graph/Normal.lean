import Statecraft.Proofs.Graph.Gather

/-!
# Edges merged at once

Merging edges one by one makes an edge for each event and target of all edges that have these
(`Edge.normalize_eq_groups`). So it loses no source and keeps the first guard that says something
(`Edge.normalize_merges`), and edges that were merged before can be merged with more of them.
-/

namespace Statecraft

namespace Edge

/-- The guard, if it says something. -/
def guardText (e : Edge) : Option String := Bundle.take.guardText e.guard

variable {e f : Edge} {edges : List Edge} {k : String × String} {s : String}

theorem absorb_guardText (e f : Edge) :
    (e.absorb f).guardText = e.guardText.or f.guardText := by
  unfold absorb guardText Bundle.take.guardText
  cases e.guard with
  | none => rfl
  | some g => by_cases empty : g.isEmpty <;> simp [Option.filter, empty]

theorem mem_foldl_absorb (e : Edge) (r : List Edge) :
    s ∈ (r.foldl absorb e).sources ↔ ∃ f ∈ e :: r, s ∈ f.sources := by
  induction r generalizing e with
  | nil => simp
  | cons f r ih => simp [ih, or_assoc, List.mem_eraseDups]

/-- The sources of edges that are merged stand in order of first mention. -/
theorem foldl_absorb_sources (h : e.sources.Nodup) (r : List Edge) :
    (r.foldl absorb e).sources = ((e :: r).flatMap sources).eraseDups := by
  induction r generalizing e with
  | nil => simp [eraseDups_of_nodup h]
  | cons f r ih =>
    rw [List.foldl_cons, ih (nodup_eraseDups _), List.flatMap_cons, absorb_sources,
      eraseDups_eraseDups_append]
    simp

theorem foldl_absorb_guardText (e : Edge) (r : List Edge) :
    (r.foldl absorb e).guardText = (e :: r).findSome? guardText := by
  induction r generalizing e with
  | nil => cases said : e.guardText <;> simp [said]
  | cons f r ih =>
    rw [List.foldl_cons, ih, List.findSome?_cons, List.findSome?_cons, absorb_guardText,
      List.findSome?_cons]
    cases e.guardText <;> rfl

/-- The edges with one event and target make one edge, the first of them with all others. -/
theorem mem_normalize :
    f ∈ normalize edges ↔ ∃ e r, edges.filter (·.key == f.key) = e :: r ∧ r.foldl absorb e = f := by
  rw [normalize_eq_groups]
  exact Keyed.mem_groups (fun _ => rfl) fun f e => absorb_key e f

/-- Merging loses no source and makes none up. -/
theorem normalize_moves (edges : List Edge) (k : String × String) (s : String) :
    Keyed.Holds key sources (normalize edges) k s ↔ Keyed.Holds key sources edges k s := by
  constructor
  · rintro ⟨f, hf, rfl, hs⟩
    obtain ⟨e, r, group, rfl⟩ := mem_normalize.mp hf
    obtain ⟨g, hg, hs⟩ := (mem_foldl_absorb e r).mp hs
    rw [← group, List.mem_filter, beq_iff_eq] at hg
    exact ⟨g, hg.1, hg.2, hs⟩
  · rintro ⟨g, hg, rfl, hs⟩
    have known : g.key ∈ (normalize edges).map key := by
      rw [keys_normalize, List.mem_eraseDups]
      exact List.mem_map_of_mem hg
    obtain ⟨f, hf, same⟩ := List.mem_map.mp known
    refine ⟨f, hf, same, ?_⟩
    obtain ⟨e, r, group, rfl⟩ := mem_normalize.mp hf
    refine (mem_foldl_absorb e r).mpr ⟨g, ?_, hs⟩
    rw [← group, List.mem_filter, beq_iff_eq]
    exact ⟨hg, same.symm⟩

/-- A merged edge has the first guard that says something. -/
theorem normalize_guard (h : f ∈ normalize edges) :
    f.guardText = (edges.filter (·.key == f.key)).findSome? guardText := by
  obtain ⟨e, r, group, rfl⟩ := mem_normalize.mp h
  rw [group, foldl_absorb_guardText]

/-- What is left of edges that are merged without loss: one edge for each event and target, in order
of first occurrence, fired from the same sources in order of first occurrence, under the first guard
that says something. -/
structure IsMerge (edges merged : List Edge) : Prop where
  keys_eq : merged.map key = (edges.map key).eraseDups
  moves_iff : ∀ k s, Keyed.Holds key sources merged k s ↔ Keyed.Holds key sources edges k s
  sources_eq : ∀ f ∈ merged,
    f.sources = ((edges.filter (·.key == f.key)).flatMap sources).eraseDups
  guard_first : ∀ f ∈ merged,
    f.guardText = (edges.filter (·.key == f.key)).findSome? guardText

theorem isMerge_normalize (distinct : ∀ e ∈ edges, e.sources.Nodup) :
    IsMerge edges (normalize edges) where
  keys_eq := keys_normalize edges
  moves_iff := normalize_moves edges
  sources_eq := by
    intro f hf
    obtain ⟨e, r, group, rfl⟩ := mem_normalize.mp hf
    have own : e ∈ edges.filter (·.key == (r.foldl absorb e).key) := group ▸ List.mem_cons_self
    rw [group, foldl_absorb_sources (distinct e (List.mem_filter.mp own).1)]
  guard_first := fun _ hf => normalize_guard hf

/-- **Merging loses nothing, and merging step by step is merging at once.** Edges, as they are
stored with no source twice, are merged into one for each event and target, with all their sources
and the first guard that says something, all in order of first occurrence; and any edges can be
merged before others are added. -/
theorem normalize_merges (edges : List Edge) :
    ((∀ e ∈ edges, e.sources.Nodup) → IsMerge edges (normalize edges)) ∧
      ∀ more, normalize (edges ++ more) = normalize (normalize edges ++ more) := by
  refine ⟨isMerge_normalize, fun more => ?_⟩
  have again : normalize (normalize edges) = normalize edges :=
    normalize_of_nodup (nodup_keys_normalize edges)
  calc normalize (edges ++ more)
      = more.foldl insert (normalize edges) := List.foldl_append ..
    _ = more.foldl insert (normalize (normalize edges)) := by rw [again]
    _ = normalize (normalize edges ++ more) := (List.foldl_append ..).symm

/-- Two edges into one node, with an edge into another between them. The first has no guard, and
they share a source. -/
def interleaved : List Edge :=
  [.of "b" "go" none ["a", "c"], .of "c" "go" (some "ctx.x") ["a"],
    .of "b" "go" (some "ctx.y") ["d", "a"], .of "b" "go" (some "ctx.z") ["e"]]

theorem normalize_merges_interleaved :
    (∀ e ∈ interleaved, e.sources.Nodup) ∧ IsMerge interleaved (normalize interleaved) ∧
      normalize interleaved =
        [.of "b" "go" (some "ctx.y") ["a", "c", "d", "e"], .of "c" "go" (some "ctx.x") ["a"]] := by
  have distinct : ∀ e ∈ interleaved, e.sources.Nodup := by decide
  exact ⟨distinct, (normalize_merges interleaved).1 distinct, by decide⟩

end Edge

end Statecraft
