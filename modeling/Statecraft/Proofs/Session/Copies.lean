import Statecraft.Proofs.Definition.Relaid
import Statecraft.Proofs.Graph.Names
import Statecraft.Session

/-!
# Repeated states under edits

A definition that repeats a state gives each copy an id of its own. Edits choose names by looking
at labels, so they can give a node the id of a copy, and only that: `nodup_nodeIds_run`. The ids
of a session stay different exactly as long as no edit does so, and while they are different each
node is edited alone.
-/

namespace Statecraft

namespace Session

/-- The session after some edits. -/
def run (s : Session) (es : List Edit) : Session := es.foldl (fun s e => (s.apply e).1) s

theorem run_concat (s : Session) (es : List Edit) (e : Edit) :
    s.run (es ++ [e]) = ((s.run es).apply e).1 := by
  rw [run, List.foldl_concat]
  rfl

/-- Each node has its label as id, or an id that the definition gave to a copy. -/
def NamedIn (d : Definition) (g : Graph) : Prop :=
  ∀ p ∈ g.names, p.1 = p.2 ∨ p ∈ (nodeIdsOf d.states).zip d.states

/-- A state and its copy. -/
def twins : Definition where
  states := ["a", "a"]
  initial := "a"
  transitions := [.of (.one "a") "go" "a" none]
  annotations := []

variable {d : Definition}

theorem namedIn_load (s : Session) (d : Definition) (layout : Bool) :
    NamedIn d (s.load d layout).1.graph := by
  intro p hp
  right
  rw [← (Graph.shows_toGraph d _).pairs_eq]
  exact hp

/-- No edit makes a copy. -/
theorem NamedIn.edit {g g' : Graph} {e : Edit} (h : NamedIn d g) (he : g.edit? e = some g') :
    NamedIn d g' := by
  intro p hp
  cases Graph.named_of_edit he with
  | nothing _ fewer => exact h p (fewer.subset hp)
  | added x _ _ _ names =>
    rw [names] at hp
    rcases List.mem_append.mp hp with hp | hp
    · exact h p hp
    · rw [List.mem_singleton.mp hp]
      exact Or.inl rfl
  | renamed x node _ _ _ _ names =>
    rw [names] at hp
    obtain ⟨q, hq, rfl⟩ := List.mem_map.mp hp
    split
    · exact Or.inl rfl
    · exact h q hq

theorem NamedIn.run {s : Session} (h : NamedIn d s.graph) (es : List Edit) :
    NamedIn d (s.run es).graph := by
  induction es using List.reverseRecOn with
  | nil => exact h
  | append_singleton es e ih =>
    rw [run_concat, apply]
    split
    · exact ih
    · rename_i he
      exact ih.edit he

/-- The only names that clash are ids of copies. -/
theorem NamedIn.copy_of_clashes {g : Graph} {e : Edit} (h : NamedIn d g) (clash : e.Clashes g) :
    ∃ n ∈ g.nodes, e.givenName? g = some n.id ∧ IsCopyOf n.id n.label ∧
      (n.id, n.label) ∈ (nodeIdsOf d.states).zip d.states := by
  obtain ⟨done, x, given, used, other⟩ := clash
  obtain ⟨g', he⟩ := Option.isSome_iff_exists.mp done
  obtain ⟨n, hn, rfl⟩ := List.mem_map.mp used
  have mem : (n.id, n.label) ∈ g.names := List.mem_map_of_mem hn
  -- a node with its label as id is seen by the edit
  have unlike : n.id ≠ n.label := by
    intro same
    cases Graph.named_of_edit he with
    | nothing unnamed => rw [unnamed] at given; cases given
    | added y given' _ free =>
      obtain rfl := Option.some.inj (given.symm.trans given')
      exact free _ mem same.symm
    | renamed y node given' old _ free =>
      obtain rfl := Option.some.inj (given.symm.trans given')
      exact other (old.trans (congrArg some (free _ mem same.symm).symm))
  have copied := (h _ mem).resolve_left unlike
  exact ⟨n, hn, given, (eq_or_copy_of_mem_nodeIdsOf copied).resolve_left unlike, copied⟩

theorem nodup_nodeIds_load (s : Session) (d : Definition) (layout : Bool) :
    (s.load d layout).1.graph.nodeIds.Nodup := by
  have shown : (s.load d layout).1.graph.Shows d := Graph.shows_toGraph d _
  have names : (s.load d layout).1.graph.names = (nodeIdsOf d.states).zip d.states := shown.pairs_eq
  rw [← Graph.map_fst_names, names, map_fst_nodeIdsOf]
  exact nodup_nodeIdsOf d.states

theorem nodup_apply_iff {s : Session} (distinct : s.graph.nodeIds.Nodup) (e : Edit) :
    (s.apply e).1.graph.nodeIds.Nodup ↔ ¬ e.Clashes s.graph := by
  unfold apply
  split
  · rename_i refused
    simp [Edit.Clashes, refused, distinct]
  · rename_i he
    exact Graph.nodup_edit_iff distinct he

/-- Ids are different all along a run exactly if no edit of it clashes. -/
theorem nodup_run_iff {s : Session} (distinct : s.graph.nodeIds.Nodup) (es : List Edit) :
    (∀ before, before <+: es → (s.run before).graph.nodeIds.Nodup) ↔
      ∀ before e, before ++ [e] <+: es → ¬ e.Clashes (s.run before).graph := by
  constructor
  · intro all before e given
    have start : before <+: es := (List.prefix_append before [e]).trans given
    rw [← nodup_apply_iff (all before start), ← run_concat]
    exact all _ given
  · intro unclashed before given
    induction before using List.reverseRecOn with
    | nil => exact distinct
    | append_singleton before e ih =>
      have start : before <+: es := (List.prefix_append before [e]).trans given
      rw [run_concat, nodup_apply_iff (ih start)]
      exact unclashed before e given

/-- **Copies stay addressable until the id of one is given away**: along a run the ids are
different exactly if no edit gives a node the id of another; that other node is one of the copies
that the definition had; and while the ids are different each node is edited alone. -/
theorem nodup_nodeIds_run (s : Session) (d : Definition) (layout : Bool) (es : List Edit) :
    let t := (s.load d layout).1
    ((∀ before, before <+: es → (t.run before).graph.nodeIds.Nodup) ↔
      ∀ before e, before ++ [e] <+: es → ¬ e.Clashes (t.run before).graph) ∧
    (∀ e : Edit, e.Clashes (t.run es).graph → ∃ n ∈ (t.run es).graph.nodes,
      e.givenName? (t.run es).graph = some n.id ∧ IsCopyOf n.id n.label ∧
        (n.id, n.label) ∈ (nodeIdsOf d.states).zip d.states) ∧
    ((t.run es).graph.nodeIds.Nodup → ∀ before n after,
      (t.run es).graph.nodes = before ++ n :: after →
        (t.run es).graph.Addressed n before after) := by
  intro t
  exact ⟨nodup_run_iff (nodup_nodeIds_load s d layout) es,
    fun e => ((namedIn_load s d layout).run es).copy_of_clashes,
    fun distinct before n after => Graph.addressed_of_nodup distinct⟩

/-- A copy is renamed, and then its id is free. -/
theorem nodup_nodeIds_run_renamed :
    let t := ((start .default).load twins true).1
    let es : List Edit := [.renameState "a#2" "b", t.addingState (some "a#2") none]
    (t.run es).graph.nodeIds = ["a", "b", "a#2"] ∧
      (∀ before e, before ++ [e] <+: es → ¬ e.Clashes (t.run before).graph) ∧
      ∀ before n after, (t.run es).graph.nodes = before ++ n :: after →
        (t.run es).graph.Addressed n before after := by
  intro t es
  obtain ⟨unclashed, _, alone⟩ := nodup_nodeIds_run (start .default) twins true es
  have distinct : ∀ before, before <+: es → (t.run before).graph.nodeIds.Nodup := by
    intro before given
    rw [← List.mem_inits] at given
    have runs : ∀ before ∈ es.inits, (t.run before).graph.nodeIds.Nodup := by decide +kernel
    exact runs before given
  exact ⟨by decide +kernel, unclashed.mp distinct, alone (distinct es (List.prefix_refl es))⟩

/-- A state is named as the copy of another is addressed: both go when one is deleted. -/
theorem copy_id_given_again :
    let t := (ofDefinition .default twins).1
    let u := (t.apply (t.addingState (some "a#2") none)).1
    t.graph.nodeIds = ["a", "a#2"] ∧ u.graph.nodeIds = ["a", "a#2", "a#2"] ∧
      ¬ u.graph.nodeIds.Nodup ∧ (u.apply (.deleteState "a#2")).1.graph.nodeIds = ["a"] ∧
      (t.apply (.renameState "a" "a#2")).1.graph.nodeIds = ["a#2", "a#2"] := by
  decide +kernel

end Session

end Statecraft
