import Statecraft.Proofs.Graph.WellFormed

/-!
# Names under edits

An edit that is carried out adds a node, gives one another name, or names nothing
(`Graph.named_of_edit`). So ids stay different exactly under the edits that do not give a node the
id of another one (`Graph.nodup_edit_iff`), and while they are different each node is edited alone
(`Graph.addressed_of_nodup`).
-/

namespace Statecraft

namespace Edit

/-- The name that an edit gives to a node. -/
def givenName? (g : Graph) : Edit → Option String
  | .addState name _ fallback _ =>
    let wanted := Text.strip (name.getD "")
    some (g.freshName (if wanted.isEmpty then fallback else wanted))
  | .renameState _ name => some (Text.strip name)
  | _ => none

/-- The node that is there already and is given the name. -/
def renamed? : Edit → Option String
  | .renameState node _ => some node
  | _ => none

/-- The edit is carried out, and the name it gives is the id of another node. -/
def Clashes (g : Graph) (e : Edit) : Prop :=
  (g.edit? e).isSome ∧ ∃ x, e.givenName? g = some x ∧ x ∈ g.nodeIds ∧ e.renamed? ≠ some x

end Edit

namespace Graph

/-- The id and the label of each node. -/
def names (g : Graph) : List (String × String) := g.nodes.map fun n => (n.id, n.label)

/-- What an edit has done to the names. -/
inductive Named (g : Graph) (e : Edit) (g' : Graph) : Prop
  | nothing (unnamed : e.givenName? g = none) (fewer : g'.names.Sublist g.names)
  | added (x : String) (given : e.givenName? g = some x) (anew : e.renamed? = none)
      (free : ∀ p ∈ g.names, p.2 ≠ x) (names : g'.names = g.names ++ [(x, x)])
  | renamed (x node : String) (given : e.givenName? g = some x) (old : e.renamed? = some node)
      (known : node ∈ g.nodeIds) (free : ∀ p ∈ g.names, p.2 = x → p.1 = node)
      (names : g'.names = g.names.map fun p => if p.1 = node then (x, x) else p)

variable {g g' : Graph}

theorem map_fst_names (g : Graph) : g.names.map Prod.fst = g.nodeIds := List.map_map

theorem updateEdge_nodes {edge : String} {change : Edge → Edge}
    (h : g.updateEdge edge change = some g') : g'.nodes = g.nodes := by
  unfold updateEdge at h
  split at h
  · rw [← Option.some.inj h]
  · cases h

theorem names_of_nodes (h : g'.nodes = g.nodes) : g'.names = g.names := by
  rw [names, names, h]

/-- Nodes that are changed apart from their names. -/
theorem names_map_nodes {f : Node → Node} {edges : List Edge}
    (hf : ∀ n, (f n).id = n.id ∧ (f n).label = n.label) :
    (⟨g.nodes.map f, edges⟩ : Graph).names = g.names := by
  rw [names, names, List.map_map]
  exact List.map_congr_left fun n _ => Prod.ext (hf n).1 (hf n).2

theorem named_of_addState (name : Option String) (position : Option Position) (fallback : String)
    (distance : Float) :
    g.Named (.addState name position fallback distance)
      (g.addState name position fallback distance) := by
  refine .added _ rfl rfl ?_ ?_
  · intro p hp same
    obtain ⟨n, hn, rfl⟩ := List.mem_map.mp hp
    apply g.freshName_not_mem
    rw [← same]
    exact List.mem_map_of_mem hn
  · rw [names, names, addState, List.map_append]
    rfl

theorem named_of_renameState {node name : String} (h : g.renameState node name = some g') :
    g.Named (.renameState node name) g' := by
  unfold renameState at h
  dsimp only at h
  split at h
  · cases h
  · rename_i ok
    obtain rfl := Option.some.inj h
    simp only [Bool.or_eq_true, Bool.not_eq_true', not_or, List.any_eq_true, Bool.and_eq_true,
      bne_iff_ne, beq_iff_eq, not_exists, not_and] at ok
    obtain ⟨⟨known, _⟩, free⟩ := ok
    refine .renamed _ node rfl rfl (hasNode_iff.mp (by simpa using known)) ?_ ?_
    · intro p hp same
      obtain ⟨n, hn, rfl⟩ := List.mem_map.mp hp
      by_contra other
      exact free n hn other same
    · rw [names, names, renameNodes, List.map_map, List.map_map]
      apply List.map_congr_left
      intro n _
      simp only [Function.comp_apply, beq_iff_eq]
      split <;> rfl

theorem names_deleteState {node : String} (h : g.deleteState node = some g') :
    g'.names = g.names.filter (·.1 != node) := by
  unfold deleteState at h
  split at h
  · rw [← Option.some.inj h, names, names, List.filter_map]
    rfl
  · cases h

theorem names_setInitial {node : String} (h : g.setInitial node = some g') :
    g'.names = g.names := by
  unfold setInitial at h
  split at h
  · rw [← Option.some.inj h]
    exact names_map_nodes fun _ => ⟨rfl, rfl⟩
  · cases h

theorem names_moveState {node : String} {position : Position}
    (h : g.moveState node position = some g') : g'.names = g.names := by
  unfold moveState at h
  split at h
  · rw [← Option.some.inj h]
    apply names_map_nodes
    intro n
    split <;> exact ⟨rfl, rfl⟩
  · cases h

theorem connect_nodes {source target event : String} {guard : Option String}
    (h : g.connect source target event guard = some g') : g'.nodes = g.nodes := by
  unfold connect at h
  split at h
  · rw [← Option.some.inj h]
  · cases h

theorem retarget_nodes {edge target : String} (h : g.retarget edge target = some g') :
    g'.nodes = g.nodes := by
  unfold retarget at h
  split at h
  · exact updateEdge_nodes h
  · cases h

theorem addSource_nodes {edge state : String} (h : g.addSource edge state = some g') :
    g'.nodes = g.nodes := by
  unfold addSource at h
  split at h
  · cases h
  · split at h
    · exact updateEdge_nodes h
    · cases h

theorem removeSource_nodes {edge state : String} (h : g.removeSource edge state = some g') :
    g'.nodes = g.nodes := by
  unfold removeSource at h
  split at h
  · cases h
  · split at h
    · exact updateEdge_nodes h
    · cases h

/-- An edit of edges leaves the names as they are, and one of nodes names at most one. -/
theorem named_of_edit {e : Edit} (h : g.edit? e = some g') : g.Named e g' := by
  have same (unnamed : e.givenName? g = none) (kept : g'.names = g.names) : g.Named e g' :=
    .nothing unnamed (kept ▸ List.Sublist.refl _)
  cases e with
  | addState name position fallback distance =>
    exact Option.some.inj h ▸ named_of_addState name position fallback distance
  | renameState node name => exact named_of_renameState h
  | deleteState node => exact .nothing rfl (names_deleteState h ▸ List.filter_sublist)
  | setInitial node => exact same rfl (names_setInitial h)
  | moveState node position => exact same rfl (names_moveState h)
  | connect source target event guard => exact same rfl (names_of_nodes (connect_nodes h))
  | retarget edge target => exact same rfl (names_of_nodes (retarget_nodes h))
  | deleteEdge edge => exact same rfl (names_of_nodes (Option.some.inj h ▸ rfl))
  | setEvent edge event => exact same rfl (names_of_nodes (updateEdge_nodes h))
  | setGuard edge guard => exact same rfl (names_of_nodes (updateEdge_nodes h))
  | addSource edge state => exact same rfl (names_of_nodes (addSource_nodes h))
  | removeSource edge state => exact same rfl (names_of_nodes (removeSource_nodes h))
  | layout direction config =>
    exact same rfl (Option.some.inj h ▸ names_map_nodes fun _ => ⟨rfl, rfl⟩)

/-- Of different names one is replaced: the names stay different unless the new one was there. -/
theorem nodup_replace_iff {ids : List String} {node x : String} (distinct : ids.Nodup)
    (known : node ∈ ids) :
    (ids.map fun s => if s = node then x else s).Nodup ↔ (x ∈ ids → x = node) := by
  constructor
  · intro replaced used
    by_contra other
    have twice := List.inj_on_of_nodup_map replaced known used
    exact other (twice (by simp [other])).symm
  · intro own
    apply distinct.map_on
    intro a ha b hb same
    by_cases hna : a = node <;> by_cases hnb : b = node <;> simp only [hna, hnb, if_true,
      if_false] at same ⊢
    · subst same
      exact (own hb).symm
    · subst same
      exact hna (own ha)
    · exact same

/-- **Ids stay different exactly under the edits that do not clash.** -/
theorem nodup_edit_iff {e : Edit} (distinct : g.nodeIds.Nodup) (h : g.edit? e = some g') :
    g'.nodeIds.Nodup ↔ ¬ e.Clashes g := by
  have done : (g.edit? e).isSome := by rw [h]; rfl
  cases named_of_edit h with
  | nothing unnamed fewer =>
    have fewer' : g'.nodeIds.Sublist g.nodeIds := by
      rw [← map_fst_names, ← map_fst_names]
      exact fewer.map _
    simp [Edit.Clashes, unnamed, fewer'.nodup distinct]
  | added x given anew _ names =>
    have ids : g'.nodeIds = g.nodeIds ++ [x] := by
      rw [← map_fst_names, ← map_fst_names, names, List.map_append]
      rfl
    rw [ids, List.nodup_append_comm, List.singleton_append, List.nodup_cons]
    simp [Edit.Clashes, given, anew, done, distinct]
  | renamed x node given old known _ names =>
    have ids : g'.nodeIds = g.nodeIds.map fun s => if s = node then x else s := by
      rw [← map_fst_names, ← map_fst_names, names, List.map_map, List.map_map]
      apply List.map_congr_left
      intro p _
      simp only [Function.comp_apply]
      split <;> rfl
    rw [ids, nodup_replace_iff distinct known]
    simp [Edit.Clashes, given, old, done, eq_comm]

/-- An edit by the id of a node changes that node and no other. -/
structure Addressed (g : Graph) (n : Node) (before after : List Node) : Prop where
  moved : ∀ p, ∃ g', g.moveState n.id p = some g' ∧
    g'.nodes = before ++ { n with position := p } :: after
  flagged : ∃ g', g.setInitial n.id = some g' ∧
    g'.nodes = before.map (fun m => { m with isInitial := false }) ++
      { n with isInitial := true } :: after.map fun m => { m with isInitial := false }
  renamed : ∀ name g', g.renameState n.id name = some g' →
    g'.nodes = before ++ { n with id := Text.strip name, label := Text.strip name } :: after
  deleted : ∃ g', g.deleteState n.id = some g' ∧ g'.nodes = before ++ after

/-- Where ids differ, only one node has the id of a given one. -/
theorem id_ne_of_nodup {before after : List Node} {n : Node} (distinct : g.nodeIds.Nodup)
    (h : g.nodes = before ++ n :: after) :
    (∀ m ∈ before, m.id ≠ n.id) ∧ ∀ m ∈ after, m.id ≠ n.id := by
  rw [nodeIds, h, List.map_append, List.map_cons] at distinct
  obtain ⟨_, last, apart⟩ := List.nodup_append.mp distinct
  constructor
  · intro m hm
    exact apart m.id (List.mem_map_of_mem hm) n.id List.mem_cons_self
  · intro m hm same
    exact (List.nodup_cons.mp last).1 (same ▸ List.mem_map_of_mem hm)

theorem map_at_id {before after : List Node} {n : Node} (distinct : g.nodeIds.Nodup)
    (h : g.nodes = before ++ n :: after) (change : Node → Node) :
    g.nodes.map (fun m => if m.id == n.id then change m else m) =
      before ++ change n :: after := by
  obtain ⟨earlier, later⟩ := id_ne_of_nodup distinct h
  have left : ∀ l : List Node, (∀ m ∈ l, m.id ≠ n.id) →
      l.map (fun m => if m.id == n.id then change m else m) = l := by
    intro l apart
    refine map_eq_self fun m hm => ?_
    simp [apart m hm]
  rw [h, List.map_append, List.map_cons, left before earlier, left after later]
  simp

/-- **While ids are different each node is edited alone.** -/
theorem addressed_of_nodup {before after : List Node} {n : Node} (distinct : g.nodeIds.Nodup)
    (h : g.nodes = before ++ n :: after) : g.Addressed n before after := by
  have known : g.hasNode n.id = true := by
    rw [hasNode_iff, nodeIds, h]
    simp
  obtain ⟨earlier, later⟩ := id_ne_of_nodup distinct h
  constructor
  · intro p
    exact ⟨_, by rw [moveState, if_pos known], map_at_id distinct h _⟩
  · refine ⟨_, by rw [setInitial, if_pos known], ?_⟩
    have unflagged : ∀ l : List Node, (∀ m ∈ l, m.id ≠ n.id) →
        l.map (fun m => { m with isInitial := m.id == n.id }) =
          l.map fun m => { m with isInitial := false } :=
      fun l apart => List.map_congr_left fun m hm => by simp [apart m hm]
    dsimp only
    rw [h, List.map_append, List.map_cons, unflagged before earlier, unflagged after later]
    simp
  · intro name g' renamed
    unfold renameState at renamed
    dsimp only at renamed
    split at renamed
    · cases renamed
    · rw [← Option.some.inj renamed]
      exact map_at_id distinct h _
  · refine ⟨_, by rw [deleteState, if_pos known], ?_⟩
    have kept : ∀ l : List Node, (∀ m ∈ l, m.id ≠ n.id) → l.filter (·.id != n.id) = l :=
      fun l apart => List.filter_eq_self.mpr fun m hm => by simp [apart m hm]
    dsimp only
    rw [h, List.filter_append, kept before earlier, List.filter_cons_of_neg (by simp),
      kept after later]

end Graph

end Statecraft
