import Statecraft.Proofs.Graph.Reload
import Statecraft.Proofs.Session.Reachable

/-!
# Saving and loading again

A session's definition says all about its graph (`reload_same`): made a graph again it gives the
same nodes in the same places and the same edges, and a session that loads it has the same
definition.
-/

namespace Statecraft

/-- The nodes say the same, the coordinates being compared as numbers. -/
structure Node.Same (m n : Node) : Prop where
  id : m.id = n.id
  label : m.label = n.label
  isInitial : m.isInitial = n.isInitial
  position : m.position.Same n.position

/-- The same nodes and the same edges, in the same order. -/
structure Graph.Same (g h : Graph) : Prop where
  nodes : List.Forall₂ Node.Same g.nodes h.nodes
  edges : g.edges = h.edges

/-- The same states, initial state and transitions, and equal values under the same keys. -/
structure Definition.Same (d e : Definition) : Prop where
  states : d.states = e.states
  initial : d.initial = e.initial
  transitions : d.transitions = e.transitions
  annotations : List.Forall₂ (fun a b => a.1 = b.1 ∧ (a.2 = b.2 ∨ a.2.same b.2 = true))
    d.annotations e.annotations

namespace Graph.WellFormed

variable {g : Graph}

/-- With one initial node the flags come back. -/
theorem flag_iff (h : g.WellFormed) (one : g.nodes.countP Node.isInitial = 1) {n : Node}
    (hn : n ∈ g.nodes) : (n.label == g.initial) = n.isInitial := by
  obtain ⟨m, hm, flag⟩ := List.countP_pos_iff.mp (by omega : 0 < g.nodes.countP Node.isInitial)
  have initial := h.initial_eq hm flag
  cases hf : n.isInitial with
  | true => simp [h.initial_eq hn hf]
  | false =>
    have other : n.label ≠ m.label := by
      intro e
      rw [h.eq_of_label hn hm e, flag] at hf
      cases hf
    simpa [initial] using other

theorem reloaded_same (h : g.WellFormed) (one : g.nodes = [] ∨ g.nodes.countP Node.isInitial = 1)
    (numbers : ∀ n ∈ g.nodes, n.position.IsNumber) :
    (⟨g.nodes.map g.reloaded, g.edges⟩ : Graph).Same g where
  nodes := by
    rw [List.forall₂_map_left_iff, List.forall₂_same]
    intro n hn
    rcases one with none | one
    · rw [none] at hn
      cases hn
    · exact ⟨rfl, rfl, h.flag_iff one hn, Position.given_same (numbers n hn)⟩
  edges := rfl

end Graph.WellFormed

namespace Graph

/-- The initial state comes back, also where none was flagged. -/
theorem initial_reloaded (g : Graph) (edges : List Edge) :
    (⟨g.nodes.map g.reloaded, edges⟩ : Graph).initial = g.initial := by
  by_cases h : g.nodes = []
  · simp [initial, h]
  · obtain ⟨n, hn, hl⟩ := List.mem_map.mp (initial_mem h)
    have flagged : (g.nodes.map g.reloaded).find? Node.isInitial ≠ none := by
      rw [ne_eq, List.find?_eq_none]
      intro none
      exact none _ (List.mem_map_of_mem hn) (by simp [reloaded, hl])
    obtain ⟨m, hm⟩ := Option.ne_none_iff_exists'.mp flagged
    obtain ⟨k, hk, rfl⟩ := List.mem_map.mp (List.mem_of_find?_eq_some hm)
    have label : k.label = g.initial := by simpa [reloaded] using List.find?_some hm
    unfold initial at label ⊢
    dsimp only
    rw [hm]
    exact label

end Graph

namespace Positions

/-- Positions under the same names in the same order are equal as stored values if they are one
by one. -/
theorem documentOf_same {α : Type} {l : List α} {name : α → String} {place place' : α → Position}
    (names : (l.map name).Nodup)
    (h : ∀ a ∈ l, (place a).toDocument.same (place' a).toDocument = true) :
    (documentOf (l.map fun a => (name a, place a))).same
      (documentOf (l.map fun a => (name a, place' a))) = true := by
  have distinct : ∀ place : α → Position,
      ((l.map fun a => (name a, place a)).map Prod.fst).Nodup := by
    intro place
    rw [List.map_map]
    exact names
  have within : ∀ (r t : Document.Entries),
      (∀ e ∈ r, ∃ f ∈ t, e.1.same f.1 = true ∧ e.2.same f.2 = true) →
        Document.within r t = true := by
    intro r t
    induction r with
    | nil => simp [Document.within]
    | cons e r ih =>
      intro h
      obtain ⟨f, hf, hk, hv⟩ := h e List.mem_cons_self
      have head : (t.any fun f => e.1.same f.1 && e.2.same f.2) = true :=
        List.any_eq_true.mpr ⟨f, hf, by rw [hk, hv]; rfl⟩
      obtain ⟨k, v⟩ := e
      rw [Document.within, head, ih fun e he => h e (List.mem_cons_of_mem _ he)]
      rfl
  unfold documentOf
  rw [ofList_of_nodup (distinct place), ofList_of_nodup (distinct place')]
  simp only [Document.object, List.map_map, Document.same, Document.content, List.length_map,
    beq_self_eq_true, Bool.true_and]
  apply within
  intro e he
  obtain ⟨a, ha, rfl⟩ := List.mem_map.mp he
  exact ⟨_, List.mem_map_of_mem ha, by simp [Document.same, Document.content], h a ha⟩

end Positions

namespace Session

variable {settings : Settings} {s : Session}

/-- A session keeps what others have noted, and nothing under the key of the positions. -/
theorem Reachable.no_positions (h : Reachable settings s) :
    ∀ a ∈ s.annotations, a.1 ≠ s.settings.editor.positionsKey := by
  induction h with
  | start => exact fun a ha => absurd ha List.not_mem_nil
  | load layout _ _ _ => exact fun a ha => Annotations.ne_of_mem_erase ha
  | @apply s e _ ih =>
    unfold Session.apply
    cases s.graph.edit? e <;> exact ih

/-- The graph of a session that loads a session's definition. -/
theorem load_definition (h : Reachable settings s) {t : Session}
    (key : t.settings.editor.positionsKey = s.settings.editor.positionsKey) (layout : Bool) :
    (t.load s.definition layout).1 =
      ⟨t.settings, s.annotations, ⟨s.graph.nodes.map s.graph.reloaded, s.graph.edges⟩⟩ := by
  have graph := fun layered => h.wellFormed.reload s.annotations
    ⟨layered, t.settings.grid, s.settings.editor.positionsKey⟩
  have annotations := Annotations.erase_set h.no_positions
    (Positions.documentOf (s.graph.nodes.map fun n => (n.label, n.position)))
  unfold load
  rw [key]
  simp only [Session.mk.injEq, true_and]
  exact ⟨annotations, graph _⟩

/-- **Saving and loading again changes nothing.** In whatever way a session came about, its
definition gives its graph again, and every session that loads the definition has the same one,
if there is an initial state, or no state at all, and no coordinate is undefined. -/
theorem reload_same (h : Reachable settings s)
    (one : s.graph.nodes = [] ∨ s.graph.nodes.countP Node.isInitial = 1)
    (numbers : ∀ n ∈ s.graph.nodes, n.position.IsNumber) :
    (∀ p : Placement, p.key = s.settings.editor.positionsKey →
      (s.definition.toGraph p).1.Same s.graph) ∧
    ∀ (t : Session) (layout : Bool),
      t.settings.editor.positionsKey = s.settings.editor.positionsKey →
      (t.load s.definition layout).1.definition.Same s.definition := by
  constructor
  · intro p hp
    have again := h.wellFormed.reload s.annotations p
    rw [hp] at again
    unfold definition
    rw [again]
    exact h.wellFormed.reloaded_same one numbers
  · intro t layout key
    rw [load_definition h key layout]
    unfold definition
    dsimp only
    rw [key]
    have positions := @Positions.documentOf_same _ s.graph.nodes Node.label
      (fun n => n.position.given) Node.position h.wellFormed.labels_distinct
      fun n hn => Position.given_toDocument_same (numbers n hn)
    refine ⟨?_, s.graph.initial_reloaded _, ?_, ?_⟩
    · exact List.map_map
    · simp only [Graph.toDefinition, Graph.transitions, Graph.labels, List.map_map]
      rfl
    · simp only [Graph.toDefinition, Annotations.set_new h.no_positions, List.map_map]
      apply List.rel_append
      · exact List.forall₂_same.mpr fun a _ => ⟨rfl, Or.inl rfl⟩
      · exact .cons ⟨rfl, Or.inr positions⟩ .nil

/-- Two states, of which one is moved and the other is made the initial one. -/
theorem reload_same_moved :
    let s := (ofDefinition .default .twoStates).1
    let t := ((s.apply (.moveState "a" (.of 1.5 (-2)))).1.apply (.setInitial "b")).1
    Reachable .default t ∧ t.graph.nodes.countP Node.isInitial = 1 ∧
      (∀ n ∈ t.graph.nodes, n.position.IsNumber) ∧
      (∀ p : Placement, p.key = t.settings.editor.positionsKey →
        (t.definition.toGraph p).1.Same t.graph) ∧
      ∀ (u : Session) (layout : Bool),
        u.settings.editor.positionsKey = t.settings.editor.positionsKey →
        (u.load t.definition layout).1.definition.Same t.definition := by
  intro s t
  have reached : Reachable .default t :=
    .apply (.setInitial "b") (.apply (.moveState "a" (.of 1.5 (-2)))
      (ofDefinition_reachable .default Definition.twoStates_namesFit))
  have one : t.graph.nodes.countP Node.isInitial = 1 := by decide +kernel
  have numbers : ∀ n ∈ t.graph.nodes, n.position.IsNumber := by
    have each : (t.graph.nodes.all fun n => !n.position.x.value.isNaN && !n.position.y.value.isNaN)
        = true := by decide +kernel
    intro n hn
    have both := List.all_eq_true.mp each n hn
    simp only [Bool.and_eq_true, Bool.not_eq_true'] at both
    exact ⟨both.1, both.2⟩
  exact ⟨reached, one, numbers, reload_same reached (Or.inr one) numbers⟩

end Session

end Statecraft
