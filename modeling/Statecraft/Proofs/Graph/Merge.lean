import Statecraft.Proofs.Keyed

/-!
# What merging keeps

The three merges as keyed steps (`insert_eq_put`, `insert_fst_eq_put`,
`add_eq_put`), hence as merges group by group, and what a whole run of each leaves:

* `nodup_keys_normalize`, `normalize_sound`: edges with different keys, all sound
  if those that went in were;
* `Bundle.collected`: one bundle for each event and target, with the sources of all transitions
  to it and the guard of the first;
* `merge_keys_sources`: an edge for each of these that has a source. So edges have different keys
  and just the transitions' sources (`nodup_keys_merge`, `merge_moves`, `merge_guard`,
  `merge_sound`).
-/

namespace Statecraft

/-- An edge between known nodes, fired from at least one source and from none twice,
whose guard says something. -/
structure Edge.Sound (ids : List String) (e : Edge) : Prop where
  sources_nonempty : e.sources ≠ []
  sources_distinct : e.sources.Nodup
  target_known : e.target ∈ ids
  sources_known : ∀ s ∈ e.sources, s ∈ ids
  guard_stored : guardText? e.guard = e.guard

namespace Edge

@[simp] theorem absorb_key (e f : Edge) : (e.absorb f).key = e.key := rfl

@[simp] theorem absorb_target (e f : Edge) : (e.absorb f).target = e.target := rfl

@[simp] theorem absorb_sources (e f : Edge) :
    (e.absorb f).sources = (e.sources ++ f.sources).eraseDups := rfl

theorem absorb_guard (e f : Edge) :
    (e.absorb f).guard = e.guard ∨ (e.absorb f).guard = f.guard := by
  unfold absorb
  cases e.guard with
  | none => exact Or.inr rfl
  | some g => by_cases hg : g.isEmpty <;> simp [hg]

theorem Sound.absorb {ids : List String} {e f : Edge} (he : e.Sound ids) (hf : f.Sound ids) :
    (e.absorb f).Sound ids where
  sources_nonempty := by
    simp only [absorb_sources, ne_eq, eraseDups_eq_nil, List.append_eq_nil_iff, not_and]
    exact fun h => absurd h he.sources_nonempty
  sources_distinct := nodup_eraseDups _
  target_known := he.target_known
  sources_known := by
    intro s hs
    rcases List.mem_append.mp (List.mem_eraseDups.mp hs) with h | h
    · exact he.sources_known s h
    · exact hf.sources_known s h
  guard_stored := by
    rcases absorb_guard e f with h | h <;> rw [h]
    · exact he.guard_stored
    · exact hf.guard_stored

theorem insert_eq_put (edges : List Edge) (e : Edge) :
    insert edges e = Keyed.put key e.key e (·.absorb e) edges := by
  induction edges with
  | nil => rfl
  | cons f r ih => simp only [insert, Keyed.put, beq_iff_eq, ih]

theorem normalize_eq_groups (edges : List Edge) :
    normalize edges = Keyed.groups key (fun e => e) (fun f e => e.absorb f) edges := by
  have steps : insert = fun acc e => Keyed.put key e.key e (·.absorb e) acc :=
    funext fun acc => funext fun e => insert_eq_put acc e
  rw [normalize, steps]
  exact Keyed.foldl_put_eq_groups (fun _ => rfl) (fun f e => absorb_key e f) edges

theorem keys_normalize (edges : List Edge) :
    (normalize edges).map key = (edges.map key).eraseDups := by
  rw [normalize_eq_groups]
  exact Keyed.keys_groups (fun _ => rfl) (fun f e => absorb_key e f) edges

theorem nodup_keys_normalize (edges : List Edge) : ((normalize edges).map key).Nodup := by
  rw [keys_normalize]
  exact nodup_eraseDups _

theorem normalize_sound {ids : List String} {edges : List Edge} (h : ∀ e ∈ edges, e.Sound ids) :
    ∀ e ∈ normalize edges, e.Sound ids := by
  rw [normalize_eq_groups]
  exact Keyed.forall_mem_groups h fun f hf _ he => he.absorb (h f hf)

end Edge

namespace Transition

/-- The events with their targets, each once, in order of first mention. -/
def keys (ts : List Transition) : List (String × String) := (ts.map key).eraseDups

/-- The states that fire an event into a target, each once, in order of first mention. -/
def sourcesOf (ts : List Transition) (k : String × String) : List String :=
  ((ts.filter (·.key == k)).flatMap sources).eraseDups

theorem mem_sourcesOf {ts : List Transition} {k : String × String} {s : String} :
    s ∈ sourcesOf ts k ↔ ∃ t ∈ ts, t.key = k ∧ s ∈ t.sources := by
  simp [sourcesOf, List.mem_eraseDups, and_assoc]

end Transition

open Transition (keys sourcesOf)

namespace Bundle

@[simp] theorem ofTransition_key (t : Transition) : (ofTransition t).key = t.key := rfl

@[simp] theorem join_key (b : Bundle) (t : Transition) : (b.join t).key = b.key := rfl

@[simp] theorem join_sources (b : Bundle) (t : Transition) :
    (b.join t).sources = (b.sources ++ t.sources).eraseDups := rfl

@[simp] theorem join_guard (b : Bundle) (t : Transition) : (b.join t).guard = b.guard := rfl

theorem insert_fst_eq_put (bundles : List Bundle) (t : Transition) :
    (insert bundles t).1 = Keyed.put key t.key (ofTransition t) (·.join t) bundles := by
  induction bundles with
  | nil => rfl
  | cons b r ih =>
    simp only [insert, Keyed.put, beq_iff_eq, ← ih]
    split <;> rfl

theorem collect_fst (bundles : List Bundle) (ts : List Transition) : (collect bundles ts).1 =
    ts.foldl (fun acc t => Keyed.put key t.key (ofTransition t) (·.join t) acc) bundles := by
  induction ts generalizing bundles with
  | nil => rfl
  | cons t r ih =>
    show (collect (insert bundles t).1 r).1 = _
    rw [ih, insert_fst_eq_put, List.foldl_cons]

theorem collect_eq_groups (ts : List Transition) : (collect [] ts).1 =
    Keyed.groups Transition.key ofTransition (fun t b => b.join t) ts := by
  rw [collect_fst]
  exact Keyed.foldl_put_eq_groups ofTransition_key (fun t b => join_key b t) ts

/-- The bundle of some transitions has the sources of all and the guard of the first. -/
theorem foldl_join_spec (t : Transition) (r : List Transition) :
    (r.foldl join (ofTransition t)).sources =
      ((t :: r).flatMap Transition.sources).eraseDups ∧
    (r.foldl join (ofTransition t)).guard = t.guard := by
  induction r using List.reverseRecOn with
  | nil => simp [ofTransition]
  | append_singleton r u ih =>
    rw [List.foldl_append, List.foldl_cons, List.foldl_nil, join_sources, ih.1,
      eraseDups_eraseDups_append, join_guard, ih.2]
    simp

/-- What the bundles of the transitions seen so far are: one for each key, fired from the sources of
all transitions with the key, and with the guard of the first of them. -/
structure Collected (seen : List Transition) (bundles : List Bundle) : Prop where
  keys_eq : bundles.map key = keys seen
  sources_eq : ∀ b ∈ bundles, b.sources = sourcesOf seen b.key
  guard_first : ∀ b ∈ bundles,
    (seen.find? (·.key == b.key)).map Transition.guard = some b.guard

namespace Collected

variable {seen : List Transition} {bundles : List Bundle}

theorem mem_keys (h : Collected seen bundles) {k : String × String} :
    k ∈ bundles.map key ↔ k ∈ seen.map Transition.key := by
  rw [h.keys_eq, keys, List.mem_eraseDups]

end Collected

/-- What the bundles of transitions are. -/
theorem collected (ts : List Transition) : Collected ts (collect [] ts).1 := by
  have made : ∀ b ∈ (collect [] ts).1, ∃ t r, ts.filter (·.key == b.key) = t :: r ∧
      r.foldl join (ofTransition t) = b := by
    intro b hb
    rw [collect_eq_groups] at hb
    exact (Keyed.mem_groups ofTransition_key fun t b => join_key b t).mp hb
  constructor
  · rw [collect_eq_groups]
    exact Keyed.keys_groups ofTransition_key (fun t b => join_key b t) ts
  · intro b hb
    obtain ⟨t, r, group, same⟩ := made b hb
    rw [sourcesOf, group, ← same, (foldl_join_spec t r).1]
  · intro b hb
    obtain ⟨t, r, group, same⟩ := made b hb
    rw [← List.head?_filter, group, ← same, (foldl_join_spec t r).2]
    rfl

theorem toEdge?_eq_some {b : Bundle} {e : Edge} :
    b.toEdge? = some e ↔ b.sources ≠ [] ∧ Edge.of b.target b.event b.guard b.sources = e := by
  unfold toEdge?
  cases h : b.sources <;> simp

/-- A bundle's edge, if there is one, as far as it is known from the transitions. -/
theorem toEdge?_map {b : Bundle} {ts : List Transition} (h : b.sources = sourcesOf ts b.key) :
    b.toEdge?.map (fun e => (e.key, e.sources)) =
      (Option.guard (fun k => !(sourcesOf ts k).isEmpty) b.key).map
        fun k => (k, sourcesOf ts k) := by
  have distinct : b.sources.eraseDups = b.sources :=
    eraseDups_of_nodup (h ▸ nodup_eraseDups _)
  unfold toEdge?
  rw [Option.guard, ← h]
  split
  · simp_all
  · rename_i some_source
    simp only [some_source, Bool.not_false, if_true, Option.map_some, ← h]
    rw [Edge.of, distinct]
    rfl

end Bundle

/-- The edges of transitions: one for each event and target that has a source, fired from the
sources of all transitions with that key. -/
theorem merge_keys_sources (ts : List Transition) :
    (mergeTransitions ts).1.map (fun e => (e.key, e.sources)) =
      ((keys ts).filter fun k => !(sourcesOf ts k).isEmpty).map fun k => (k, sourcesOf ts k) := by
  obtain ⟨keys_eq, sources_eq, _⟩ := Bundle.collected ts
  show ((Bundle.collect [] ts).1.filterMap Bundle.toEdge?).map _ = _
  rw [← keys_eq, ← List.filterMap_eq_filter, List.map_filterMap, List.map_filterMap,
    List.filterMap_map]
  exact List.filterMap_congr fun b hb => Bundle.toEdge?_map (sources_eq b hb)

theorem nodup_keys_merge (ts : List Transition) : ((mergeTransitions ts).1.map Edge.key).Nodup := by
  have keys_eq := congrArg (List.map Prod.fst) (merge_keys_sources ts)
  rw [List.map_map, List.map_map] at keys_eq
  have distinct : (keys ts).Nodup := nodup_eraseDups _
  show ((mergeTransitions ts).1.map (Prod.fst ∘ fun e => (e.key, e.sources))).Nodup
  rw [keys_eq]
  simpa [Function.comp_def] using distinct.filter _

theorem mem_merge {ts : List Transition} {e : Edge} :
    e ∈ (mergeTransitions ts).1 ↔
      ∃ b ∈ (Bundle.collect [] ts).1,
        b.sources ≠ [] ∧ Edge.of b.target b.event b.guard b.sources = e := by
  show e ∈ (Bundle.collect [] ts).1.filterMap Bundle.toEdge? ↔ _
  simp only [List.mem_filterMap, Bundle.toEdge?_eq_some]

/-- An edge lists the sources of all transitions with its key. -/
theorem merge_sources {ts : List Transition} {e : Edge} (he : e ∈ (mergeTransitions ts).1) :
    e.sources = sourcesOf ts e.key := by
  have mem := List.mem_map_of_mem (f := fun e : Edge => (e.key, e.sources)) he
  rw [merge_keys_sources] at mem
  obtain ⟨k, _, same⟩ := List.mem_map.mp mem
  obtain ⟨rfl, sources⟩ := Prod.mk.inj same
  exact sources.symm

/-- Merging keeps the sources of each event and target. -/
theorem merge_moves (ts : List Transition) (k : String × String) (s : String) :
    Keyed.Holds Edge.key Edge.sources (mergeTransitions ts).1 k s ↔
      Keyed.Holds Transition.key Transition.sources ts k s := by
  unfold Keyed.Holds
  rw [← Transition.mem_sourcesOf]
  constructor
  · rintro ⟨e, he, rfl, hs⟩
    exact merge_sources he ▸ hs
  · intro hs
    obtain ⟨t, ht, hk, _⟩ := Transition.mem_sourcesOf.mp hs
    have mentioned : k ∈ keys ts := List.mem_eraseDups.mpr (List.mem_map.mpr ⟨t, ht, hk⟩)
    have fired : (sourcesOf ts k).isEmpty = false :=
      List.isEmpty_eq_false_iff.mpr (List.ne_nil_of_mem hs)
    have mem : (k, sourcesOf ts k) ∈ (mergeTransitions ts).1.map fun e => (e.key, e.sources) := by
      rw [merge_keys_sources]
      exact List.mem_map_of_mem (List.mem_filter.mpr ⟨mentioned, by rw [fired]; rfl⟩)
    obtain ⟨e, he, same⟩ := List.mem_map.mp mem
    obtain ⟨rfl, sources⟩ := Prod.mk.inj same
    exact ⟨e, he, rfl, sources ▸ hs⟩

/-- An edge has the guard of the first transition with its key. -/
theorem merge_guard {ts : List Transition} {e : Edge} (he : e ∈ (mergeTransitions ts).1) :
    ∃ t ∈ ts, ts.find? (·.key == e.key) = some t ∧ t.key = e.key ∧ t.guard = e.guard := by
  obtain ⟨b, hb, _, rfl⟩ := mem_merge.mp he
  have first := (Bundle.collected ts).guard_first b hb
  obtain ⟨t, found, hg⟩ := Option.map_eq_some_iff.mp first
  refine ⟨t, List.mem_of_find?_eq_some found, found, ?_, ?_⟩
  · have same_key : t.key = b.key := by simpa using List.find?_some found
    exact same_key
  · show t.guard = guardText? b.guard
    rw [← hg, t.guard_stored]

theorem merge_sources_ne_nil {ts : List Transition} {e : Edge} (he : e ∈ (mergeTransitions ts).1) :
    e.sources ≠ [] := by
  obtain ⟨b, _, some_source, rfl⟩ := mem_merge.mp he
  show b.sources.eraseDups ≠ []
  rwa [ne_eq, eraseDups_eq_nil]

theorem merge_sound {ts : List Transition} {ids : List String}
    (targets : ∀ t ∈ ts, t.target ∈ ids) (sources : ∀ t ∈ ts, ∀ s ∈ t.sources, s ∈ ids) :
    ∀ e ∈ (mergeTransitions ts).1, e.Sound ids := by
  intro e he
  have moves : ∀ s ∈ e.sources, ∃ t ∈ ts, t.key = e.key ∧ s ∈ t.sources :=
    fun s hs => (merge_moves ts e.key s).mp ⟨e, he, rfl, hs⟩
  have nonempty := merge_sources_ne_nil he
  obtain ⟨b, hb, _, rfl⟩ := mem_merge.mp he
  refine ⟨nonempty, nodup_eraseDups _, ?_, ?_, guardText?_guardText? b.guard⟩
  · obtain ⟨s, hs⟩ := List.exists_mem_of_ne_nil _ nonempty
    obtain ⟨t, ht, hk, _⟩ := moves s hs
    have same_target : t.target = b.target := congrArg Prod.snd hk
    exact same_target ▸ targets t ht
  · intro s hs
    obtain ⟨t, ht, _, hst⟩ := moves s hs
    exact sources t ht s hst

end Statecraft
