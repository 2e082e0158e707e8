import Statecraft.Proofs.Graph.WellFormed

/-!
# Edges gathered one after the other

An edge that is merged into others leaves one for each event and target, fired from the sources of
all edges with these and with the first guard that any of them has (`Gathered.insert`). An edge with
several sources can also be merged with the first of them alone and be given the others afterwards
(`grow_insert`): that is one edit for each source, which finds the edge by an id that stays the same
(`Graph.WellFormed.addSource_eq`).
-/

namespace Statecraft

namespace Edge

/-- No guard that says nothing is kept. -/
def HasStoredGuard (e : Edge) : Prop := guardText? e.guard = e.guard

/-- The first guard that an edge with the key has. -/
def firstGuard (edges : List Edge) (k : String × String) : Option String :=
  (edges.filter (·.key == k)).findSome? guard

section Guards

variable {edges : List Edge} {e f : Edge} {k : String × String}

theorem absorb_guard_of_stored (h : e.HasStoredGuard) :
    (e.absorb f).guard = e.guard.or f.guard := by
  unfold HasStoredGuard guardText? at h
  unfold absorb
  cases guard : e.guard with
  | none => rfl
  | some g =>
    have not_blank : Text.isBlankText g = false := by simpa [guard, Option.filter] using h
    have not_empty : g ≠ "" := by
      rintro rfl
      simp [Text.isBlankText] at not_blank
    simp [not_empty]

theorem firstGuard_concat_same (edges : List Edge) (e : Edge) :
    firstGuard (edges ++ [e]) e.key = (firstGuard edges e.key).or e.guard := by
  simp [firstGuard, List.findSome?_append]

theorem firstGuard_concat_other (edges : List Edge) (h : e.key ≠ k) :
    firstGuard (edges ++ [e]) k = firstGuard edges k := by
  simp [firstGuard, h]

theorem firstGuard_of_new (h : k ∉ edges.map key) : firstGuard edges k = none := by
  have none_left : edges.filter (·.key == k) = [] := by simpa using h
  rw [firstGuard, none_left]
  rfl

end Guards

/-- What the merged edges are: one for each key that was seen, with the sources of all edges that
have it and the first guard. -/
structure Gathered (seen edges : List Edge) : Prop where
  keys_distinct : (edges.map key).Nodup
  keys_iff : ∀ k, k ∈ edges.map key ↔ k ∈ seen.map key
  sources_iff : ∀ f ∈ edges, ∀ s, s ∈ f.sources ↔ ∃ e ∈ seen, e.key = f.key ∧ s ∈ e.sources
  guard_first : ∀ f ∈ edges, f.guard = firstGuard seen f.key
  guards_stored : ∀ f ∈ edges, f.HasStoredGuard

namespace Gathered

variable {seen edges : List Edge}

theorem nil : Gathered [] [] := by
  constructor <;> simp

/-- An edge is merged into those that were gathered before it. -/
theorem insert (h : Gathered seen edges) {e : Edge} (stored : e.HasStoredGuard) :
    Gathered (seen ++ [e]) (Edge.insert edges e) := by
  rw [insert_eq_put]
  have joined_guard : ∀ a ∈ edges, a.key = e.key →
      (a.absorb e).guard = firstGuard (seen ++ [e]) e.key := by
    intro a ha same
    rw [absorb_guard_of_stored (h.guards_stored a ha), h.guard_first a ha, same,
      firstGuard_concat_same]
  constructor
  · exact Keyed.nodup_keys_put rfl (absorb_key · e) h.keys_distinct
  · intro k
    rw [Keyed.keys_put rfl (absorb_key · e), List.map_append, List.mem_append, ← h.keys_iff]
    split
    · rename_i old
      constructor
      · exact Or.inl
      · rintro (hk | hk)
        · exact hk
        · exact List.mem_singleton.mp hk ▸ old
    · rw [List.mem_append]
      rfl
  · intro f hf s
    simp only [List.mem_append, List.mem_singleton, or_and_right, exists_or, exists_eq_left]
    rcases Keyed.mem_put_of_nodup h.keys_distinct hf with
      ⟨rfl, new⟩ | ⟨old, other⟩ | ⟨a, ha, same, rfl⟩
    · have unseen : ¬ ∃ e ∈ seen, e.key = f.key ∧ s ∈ e.sources := by
        rintro ⟨e, he, hk, _⟩
        exact new ((h.keys_iff _).mpr (List.mem_map.mpr ⟨e, he, hk⟩))
      simp [unseen]
    · simp [h.sources_iff f old, Ne.symm other]
    · simp [List.mem_eraseDups, h.sources_iff a ha, same]
  · intro f hf
    rcases Keyed.mem_put_of_nodup h.keys_distinct hf with
      ⟨rfl, new⟩ | ⟨old, other⟩ | ⟨a, ha, same, rfl⟩
    · rw [firstGuard_concat_same, firstGuard_of_new (new ∘ (h.keys_iff _).mpr), Option.none_or]
    · rw [firstGuard_concat_other seen (Ne.symm other)]
      exact h.guard_first f old
    · rw [absorb_key, same]
      exact joined_guard a ha same
  · intro f hf
    refine Keyed.forall_mem_put (P := HasStoredGuard) stored h.guards_stored ?_ f hf
    intro a _ _ ha
    rcases absorb_guard a e with guard | guard <;> unfold HasStoredGuard <;> rw [guard]
    · exact ha
    · exact stored

end Gathered

theorem normalize_concat (edges : List Edge) (e : Edge) :
    normalize (edges ++ [e]) = insert (normalize edges) e := by
  simp [normalize]

theorem normalize_of_nodup {edges : List Edge} (h : (edges.map key).Nodup) :
    normalize edges = edges := by
  have steps : insert = fun acc e => Keyed.put key e.key e (·.absorb e) acc :=
    funext fun acc => funext fun e => insert_eq_put acc e
  rw [normalize, steps, Keyed.foldl_put_new (fun _ => rfl) edges [] (by simpa using h)]
  simp

/-- The edges with more sources for a key. -/
def grow (k : String × String) (sources : List String) (edges : List Edge) : List Edge :=
  edges.map fun e =>
    if e.key = k then { e with sources := (e.sources ++ sources).eraseDups } else e

section Grow

variable {k : String × String} {edges : List Edge}

theorem keys_grow (k : String × String) (sources : List String) (edges : List Edge) :
    (grow k sources edges).map key = edges.map key := by
  rw [grow, List.map_map]
  refine List.map_congr_left fun e _ => ?_
  simp only [Function.comp_apply]
  split <;> rfl

theorem grow_of_new {sources : List String} (h : k ∉ edges.map key) :
    grow k sources edges = edges := by
  refine map_eq_self fun e he => ?_
  rw [if_neg fun same => h (List.mem_map.mpr ⟨e, he, same⟩)]

theorem grow_nil (h : ∀ e ∈ edges, e.sources.Nodup) : grow k [] edges = edges := by
  refine map_eq_self fun e he => ?_
  rw [List.append_nil, eraseDups_of_nodup (h e he), ite_self]

theorem grow_grow (k : String × String) (ss ts : List String) (edges : List Edge) :
    grow k ts (grow k ss edges) = grow k (ss ++ ts) edges := by
  rw [grow, grow, grow, List.map_map]
  refine List.map_congr_left fun e _ => ?_
  by_cases same : e.key = k
  · have kept : ({ e with sources := (e.sources ++ ss).eraseDups } : Edge).key = k := same
    simp [same, kept, eraseDups_eraseDups_append]
  · simp [same]

/-- More sources do not change where an edge is drawn from. -/
theorem id_grown {e : Edge} (nonempty : e.sources ≠ []) (sources : List String) :
    ({ e with sources := (e.sources ++ sources).eraseDups } : Edge).id = e.id := by
  obtain ⟨s, r, own⟩ := List.exists_cons_of_ne_nil nonempty
  simp [id, source, own, List.eraseDups_cons]

theorem insert_here {a e : Edge} (r : List Edge) (same : a.key = e.key) :
    insert (a :: r) e = a.absorb e :: r := by
  rw [insert, if_pos (beq_iff_eq.mpr same)]

theorem insert_past {a e : Edge} (r : List Edge) (other : a.key ≠ e.key) :
    insert (a :: r) e = a :: insert r e := by
  rw [insert, if_neg (by simpa using other)]

/-- The sources of an edge that is merged are kept. -/
theorem exists_mem_insert (edges : List Edge) (e : Edge) :
    ∃ f ∈ insert edges e, f.key = e.key ∧ ∀ s ∈ e.sources, s ∈ f.sources := by
  induction edges with
  | nil => exact ⟨e, List.mem_singleton_self e, rfl, fun _ hs => hs⟩
  | cons a r ih =>
    by_cases same : a.key = e.key
    · rw [insert_here r same]
      refine ⟨_, List.mem_cons_self, same, fun s hs => ?_⟩
      rw [absorb_sources, List.mem_eraseDups]
      exact List.mem_append_right _ hs
    · rw [insert_past r same]
      obtain ⟨f, hf, found⟩ := ih
      exact ⟨f, List.mem_cons_of_mem _ hf, found⟩

/-- An edge that is merged with its first source alone and then given the others is merged as a
whole. -/
theorem grow_insert (distinct : (edges.map key).Nodup) (target event : String)
    (guard : Option String) {s : String} {ss : List String} (nodup : (s :: ss).Nodup) :
    grow (event, target) ss (insert edges ⟨target, event, guard, [s]⟩) =
      insert edges ⟨target, event, guard, s :: ss⟩ := by
  induction edges with
  | nil => simp [grow, insert, key, eraseDups_of_nodup nodup]
  | cons a r ih =>
    obtain ⟨new, rest⟩ := List.nodup_cons.mp distinct
    by_cases same : a.key = (event, target)
    · have tail : grow (event, target) ss r = r := grow_of_new (same ▸ new)
      have sources : ((a.sources ++ [s]).eraseDups ++ ss).eraseDups =
          (a.sources ++ s :: ss).eraseDups := by
        rw [eraseDups_eraseDups_append, List.append_assoc]
        rfl
      rw [insert_here r same, insert_here r same, grow, List.map_cons, absorb_key, if_pos same]
      simp only [absorb_sources, sources]
      exact congrArg _ tail
    · rw [insert_past r same, insert_past r same, ← ih rest, grow, List.map_cons, if_neg same]
      rfl

end Grow

end Edge

namespace Graph.WellFormed

variable {g : Graph} {f : Edge}

theorem grow_nil (h : g.WellFormed) (k : String × String) : Edge.grow k [] g.edges = g.edges :=
  Edge.grow_nil fun e he => (h.edges_sound e he).sources_distinct

theorem eq_of_key (h : g.WellFormed) {e : Edge} (he : e ∈ g.edges) (hf : f ∈ g.edges)
    (same : e.key = f.key) : e = f :=
  List.inj_on_of_nodup_map h.keys_distinct he hf same

theorem edge?_id (h : g.WellFormed) (hf : f ∈ g.edges) : g.edge? f.id = some f :=
  (edge?_eq_some_iff h.keys_distinct).mpr ⟨hf, rfl⟩

/-- A source that is added to an edge changes the edge with its key, and no other. -/
theorem addSource_eq (h : g.WellFormed) (hf : f ∈ g.edges) {s : String} (hs : s ∈ g.nodeIds) :
    (g.addSource f.id s).getD g = { g with edges := Edge.grow f.key [s] g.edges } := by
  have distinct := (h.edges_sound f hf).sources_distinct
  unfold Graph.addSource
  rw [h.edge?_id hf, hasNode_iff.mpr hs]
  by_cases old : s ∈ f.sources
  · have same : Edge.grow f.key [s] g.edges = g.edges := by
      refine map_eq_self fun e he => ?_
      split
      · rename_i key
        obtain rfl := h.eq_of_key he hf key
        rw [eraseDups_concat_of_mem old, eraseDups_of_nodup distinct]
      · rfl
    simp [old, same]
  · have grown : (g.edges.map fun e =>
        if e.id = f.id then { e with sources := f.sources ++ [s] } else e) =
          Edge.grow f.key [s] g.edges := by
      refine List.map_congr_left fun e he => ?_
      by_cases key : e.key = f.key
      · obtain rfl := h.eq_of_key he hf key
        rw [eraseDups_concat_of_notMem old, eraseDups_of_nodup distinct]
        simp
      · rw [if_neg fun same => key (Edge.id_eq same).2, if_neg key]
    have keys : ((Edge.grow f.key [s] g.edges).map Edge.key).Nodup :=
      Edge.keys_grow f.key [s] g.edges ▸ h.keys_distinct
    simp [old, Graph.updateEdge, h.edge?_id hf, grown, Edge.normalize_of_nodup keys]

theorem connect_eq (h : g.WellFormed) {source target event : String} {guard : Option String}
    (stored : guardText? guard = guard) (hs : source ∈ g.nodeIds) (ht : target ∈ g.nodeIds) :
    g.connect source target event guard =
      some { g with edges := Edge.insert g.edges ⟨target, event, guard, [source]⟩ } := by
  have edge : Edge.of target event guard [source] = ⟨target, event, guard, [source]⟩ := by
    unfold guardText? at stored
    rw [Edge.of, stored]
    rfl
  unfold Graph.connect
  rw [hasNode_iff.mpr hs, hasNode_iff.mpr ht, edge, Edge.normalize_concat,
    Edge.normalize_of_nodup h.keys_distinct]
  rfl

/-- A sound edge that is merged leaves the graph well-formed. -/
theorem insert (h : g.WellFormed) (sound : f.Sound g.nodeIds) :
    ({ g with edges := Edge.insert g.edges f } : Graph).WellFormed := by
  rw [← Edge.normalize_of_nodup h.keys_distinct, ← Edge.normalize_concat]
  refine of_normalize h.ids_are_labels h.ids_distinct h.one_initial fun e he => ?_
  rcases List.mem_append.mp he with old | new
  · exact h.edges_sound e old
  · exact List.mem_singleton.mp new ▸ sound

end Graph.WellFormed

end Statecraft
