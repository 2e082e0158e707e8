import Statecraft.Proofs.Graph.WellFormed

/-!
# Edges by their ids

An id belongs to one triple of names, whatever the names are, since each hyphen and each backslash
in them is escaped (`escapeName_eq_replaceChar`). So in a graph with one edge for each event and
target an id finds the only edge that has it, and deleting that edge takes out nothing else
(`edge_ids_name_edges`).
-/

namespace Statecraft

/-- The text with others put for one of its characters. -/
def replaceChar (old : Char) (new : List Char) (text : List Char) : List Char :=
  text.flatMap fun c => if c = old then new else [c]

/-- A name is escaped in two passes. The backslashes come first, so those that the hyphens get are
not escaped again. -/
theorem escapeName_eq_replaceChar (name : List Char) :
    escapeName name =
      replaceChar '-' ['\\', '-'] (replaceChar '\\' ['\\', '\\'] name) := by
  induction name with
  | nil => rfl
  | cons c r ih =>
    rw [escapeName_cons, ih]
    by_cases backslash : c = '\\'
    · subst backslash
      rfl
    · by_cases hyphen : c = '-'
      · subst hyphen
        rfl
      · simp [replaceChar, backslash, hyphen]

namespace Graph

variable {g : Graph} {id : String}

/-- The edge that an id finds is deleted, and no other. -/
theorem deleteEdge_of_found (keys : (g.edges.map Edge.key).Nodup) {f : Edge}
    (found : g.edge? id = some f) : ∃ before after, g.edges = before ++ f :: after ∧
      (∀ e ∈ before ++ after, e.id ≠ id) ∧
      g.deleteEdge id = { g with edges := before ++ after } := by
  obtain ⟨hf, rfl⟩ := (edge?_eq_some_iff keys).mp found
  obtain ⟨before, after, split⟩ := List.append_of_mem hf
  have others : ∀ e ∈ before ++ after, e.id ≠ f.id := by
    intro e he same
    have distinct := Edge.nodup_ids keys
    rw [split, List.map_append, List.map_cons, List.nodup_middle, List.nodup_cons,
      ← List.map_append] at distinct
    exact distinct.1 (List.mem_map.mpr ⟨e, he, same⟩)
  have kept : g.edges.filter (·.id != f.id) = before ++ after := by
    rw [split, List.filter_append, List.filter_cons_of_neg (by simp), ← List.filter_append]
    exact List.filter_eq_self.mpr fun e he => bne_iff_ne.mpr (others e he)
  exact ⟨before, after, split, others, by rw [deleteEdge, kept]⟩

theorem deleteEdge_of_missing (missing : g.edge? id = none) : g.deleteEdge id = g := by
  have kept : g.edges.filter (·.id != id) = g.edges :=
    List.filter_eq_self.mpr fun f hf => by simpa using List.find?_eq_none.mp missing f hf
  rw [deleteEdge, kept]

end Graph

/-- **An id names one edge.** Two triples of names have one id only if they are the same. So in a
graph with one edge for each event and target the edge that an id finds is the only one that has it,
and deleting by an id takes out that edge and leaves everything else. -/
theorem edge_ids_name_edges :
    (∀ s e t s' e' t', edgeId s e t = edgeId s' e' t' ↔ s = s' ∧ e = e' ∧ t = t') ∧
    ∀ g : Graph, (g.edges.map Edge.key).Nodup →
      (∀ id f, g.edge? id = some f ↔ f ∈ g.edges ∧ f.id = id) ∧
      (∀ id f, g.edge? id = some f → ∃ before after, g.edges = before ++ f :: after ∧
        (∀ e ∈ before ++ after, e.id ≠ id) ∧
        g.deleteEdge id = { g with edges := before ++ after }) ∧
      ∀ id, g.edge? id = none → g.deleteEdge id = g := by
  refine ⟨fun s e t s' e' t' => ⟨edgeId_injective, ?_⟩, fun g keys => ⟨?_, ?_, ?_⟩⟩
  · rintro ⟨rfl, rfl, rfl⟩
    rfl
  · exact fun id f => Graph.edge?_eq_some_iff keys
  · exact fun id f => Graph.deleteEdge_of_found keys
  · exact fun id => Graph.deleteEdge_of_missing

/-- Joined by hyphens without escaping, the names of the first two edges make one text, and so do
those of the next three. Those of the last two do if only hyphens are escaped. -/
def Graph.lookalikes : Graph where
  nodes := ["a", "a-x", "b", "", "-", "\\"].map fun s => ⟨s, s, false, .origin⟩
  edges := [.of "b" "x-y" none ["a"], .of "b" "y" none ["a-x"], .of "\\" "-" none [""],
    .of "\\" "" none ["-"], .of "-\\" "" none [""], .of "-" "" none ["\\"],
    .of "" "\\" none ["-"]]

theorem edge_ids_name_edges_lookalikes :
    (Graph.lookalikes.edges.map Edge.key).Nodup ∧
    Graph.lookalikes.edge? "\\\\--\\-" = some (.of "-" "" none ["\\"]) ∧
    (∃ before after, Graph.lookalikes.edges = before ++ .of "-" "" none ["\\"] :: after ∧
      (∀ e ∈ before ++ after, e.id ≠ "\\\\--\\-") ∧
      Graph.lookalikes.deleteEdge "\\\\--\\-" =
        { Graph.lookalikes with edges := before ++ after }) ∧
    Graph.lookalikes.edge? "a-x-y-b" = none ∧
    Graph.lookalikes.deleteEdge "a-x-y-b" = Graph.lookalikes := by
  have keys : (Graph.lookalikes.edges.map Edge.key).Nodup := by decide
  have missing : Graph.lookalikes.edge? "a-x-y-b" = none := by decide
  obtain ⟨finds, deletes, keeps⟩ := edge_ids_name_edges.2 Graph.lookalikes keys
  have found : Graph.lookalikes.edge? "\\\\--\\-" = some (.of "-" "" none ["\\"]) :=
    (finds _ _).mpr ⟨by decide, by decide⟩
  exact ⟨keys, found, deletes _ _ found, missing, keeps _ missing⟩

end Statecraft
