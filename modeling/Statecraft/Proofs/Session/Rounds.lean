import Mathlib.Data.List.DropRight
import Statecraft.Command.Create
import Statecraft.Proofs.Definition.RoundTrip
import Statecraft.Proofs.Graph.Gather
import Statecraft.Proofs.Session.Notices

/-!
# Machines built transition by transition

A session that starts on distinct names and is given one transition after the other holds the
transitions merged (`Command.connectAll_eq`: each of them is a single edge that is merged, although
it is connected from one source and given the others). Its definition has a move for each source of
each of them, under the first guard for the event and the target
(`Session.definition_of_gathered`).
-/

namespace Statecraft

namespace Text

theorem trim_trim (s : List Char) : trim (trim s) = trim s := by
  have start : trimStart (trim s) = trim s := by
    obtain ⟨rest, begins⟩ : trim s <+: trimStart s := List.rdropWhile_prefix isBlank _
    cases trimmed : trim s with
    | nil => rfl
    | cons c r =>
      have first := List.head?_dropWhile_not isBlank s
      rw [← trimStart, ← begins, trimmed] at first
      exact List.dropWhile_cons_of_neg (by simpa using first)
  have stop : trimEnd (trim s) = trim s := List.rdropWhile_idempotent isBlank _
  rw [trim, start, stop]

theorem strip_strip (s : String) : strip (strip s) = strip s := by
  simp [strip, trim_trim]

end Text

namespace Session

/-- The session with other edges. -/
def withEdges (s : Session) (edges : List Edge) : Session :=
  { s with graph := { s.graph with edges := edges } }

theorem apply_fst (s : Session) (e : Edit) :
    (s.apply e).1 = { s with graph := (s.graph.edit? e).getD s.graph } := by
  unfold apply
  cases s.graph.edit? e <;> rfl

/-- Sources that are added to an edge one by one: its id stays the same all along. -/
theorem addSources_eq {s : Session} {f : Edge} (h : s.graph.WellFormed) (hf : f ∈ s.graph.edges)
    {sources : List String} (known : ∀ x ∈ sources, x ∈ s.graph.nodeIds) :
    sources.foldl (fun s x => (s.apply (.addSource f.id x)).1) s =
      s.withEdges (Edge.grow f.key sources s.graph.edges) := by
  induction sources generalizing s f with
  | nil => rw [h.grow_nil]; rfl
  | cons x r ih =>
    rw [List.forall_mem_cons] at known
    have step : (s.apply (.addSource f.id x)).1 =
        s.withEdges (Edge.grow f.key [x] s.graph.edges) := by
      rw [apply_fst, Graph.edit?, h.addSource_eq hf known.1]
      rfl
    have next := apply_wellFormed h (.addSource f.id x)
    let grown : Edge := { f with sources := (f.sources ++ [x]).eraseDups }
    have id : grown.id = f.id := Edge.id_grown (h.edges_sound f hf).sources_nonempty [x]
    have there : grown ∈ (s.withEdges (Edge.grow f.key [x] s.graph.edges)).graph.edges :=
      List.mem_map.mpr ⟨f, hf, if_pos rfl⟩
    rw [step] at next
    rw [List.foldl_cons, step, ← id, ih next there known.2]
    exact congrArg s.withEdges (Edge.grow_grow f.key [x] r s.graph.edges)

/-- A name that states can have: trimmed, and not empty. -/
def IsName (s : String) : Prop := Text.strip s = s ∧ s ≠ ""

/-- The names in a list are trimmed and not empty. -/
theorem isName_of_mem_splitStates {text name : String} (h : name ∈ splitStates text) :
    IsName name := by
  have kept := List.mem_eraseDups.mp h
  obtain ⟨trimmed, full⟩ := List.mem_filter.mp kept
  obtain ⟨piece, _, rfl⟩ := List.mem_map.mp trimmed
  exact ⟨Text.strip_strip piece, by simpa using full⟩

theorem nodup_splitStates (text : String) : (splitStates text).Nodup := nodup_eraseDups _

/-- A new state takes a name that is free. -/
theorem addState_named {s : Session} {name : String} (named : IsName name)
    (free : name ∉ s.graph.nodes.map Node.label) :
    (s.apply (s.addingState (some name) none)).1.graph.nodes.map Node.label =
      s.graph.nodes.map Node.label ++ [name] ∧
    (s.apply (s.addingState (some name) none)).1.graph.edges = s.graph.edges ∧
    (s.apply (s.addingState (some name) none)).1.settings = s.settings := by
  have fresh : s.graph.freshName name = name := by
    unfold Graph.freshName
    simp [free]
  simp [apply_fst, addingState, Graph.edit?, Graph.addState, named.1, named.2, fresh]

/-- States that are added to a session one by one. -/
theorem addStates {s : Session} {names : List String} (h : s.graph.WellFormed)
    (named : ∀ n ∈ names, IsName n)
    (distinct : (s.graph.nodes.map Node.label ++ names).Nodup) :
    let t := names.foldl (fun s name => (s.apply (s.addingState (some name) none)).1) s
    t.graph.WellFormed ∧ t.graph.nodes.map Node.label = s.graph.nodes.map Node.label ++ names ∧
      t.graph.edges = s.graph.edges ∧ t.settings = s.settings := by
  induction names generalizing s with
  | nil => exact ⟨h, by simp, rfl, rfl⟩
  | cons n r ih =>
    rw [List.forall_mem_cons] at named
    have free : n ∉ s.graph.nodes.map Node.label := fun old =>
      (List.nodup_append.mp distinct).2.2 n old n List.mem_cons_self rfl
    obtain ⟨labels, edges, settings⟩ := addState_named named.1 free
    have rest := ih (apply_wellFormed h _) named.2 (by rw [labels]; simpa using distinct)
    rw [labels, edges, settings] at rest
    simpa using rest

theorem setInitial_kept (s : Session) (name : String) :
    (s.apply (.setInitial name)).1.graph.nodes.map Node.label = s.graph.nodes.map Node.label ∧
    (s.apply (.setInitial name)).1.graph.edges = s.graph.edges ∧
    (s.apply (.setInitial name)).1.settings = s.settings := by
  rw [apply_fst, Graph.edit?, Graph.setInitial]
  split <;> simp

theorem initial_setInitial {s : Session} {name : String} (h : s.graph.WellFormed)
    (there : name ∈ s.graph.nodes.map Node.label) :
    (s.apply (.setInitial name)).1.graph.initial = name := by
  obtain ⟨n, hn, label⟩ := List.mem_map.mp there
  have id : n.id = name := (h.ids_are_labels n hn).trans label
  have known : s.graph.hasNode name = true := Graph.hasNode_iff.mpr (List.mem_map.mpr ⟨n, hn, id⟩)
  have wellFormed := apply_wellFormed h (.setInitial name)
  rw [apply_fst, Graph.edit?, Graph.setInitial, if_pos known] at wellFormed ⊢
  have flagged := wellFormed.initial_eq (List.mem_map_of_mem hn) (by simp [id])
  exact flagged.trans label

/-- What a session on given names holds. -/
theorem ofStates_spec (settings : Settings) {names : List String} (named : ∀ n ∈ names, IsName n)
    (distinct : names.Nodup) (initial : String) :
    let s := ofStates settings names (some initial)
    s.graph.WellFormed ∧ s.graph.nodes.map Node.label = names ∧ s.graph.edges = [] ∧
      s.settings = settings ∧ (initial ∈ names → s.graph.initial = initial) := by
  obtain ⟨wellFormed, labels, edges, kept⟩ :=
    addStates (s := start settings) Graph.WellFormed.empty named distinct
  by_cases empty : initial = ""
  · subst empty
    exact ⟨wellFormed, labels, edges, kept, fun member => absurd rfl (named _ member).2⟩
  · have given : ofStates settings names (some initial) =
        ((names.foldl (fun s name => (s.apply (s.addingState (some name) none)).1)
          (start settings)).apply (.setInitial initial)).1 := by
      unfold ofStates
      split
      · rename_i none
        cases none
      · rename_i other
        exact absurd (Option.some.inj other) empty
      · rename_i other
        rw [Option.some.inj other]
    obtain ⟨labels', edges', kept'⟩ := setInitial_kept
      (names.foldl (fun s name => (s.apply (s.addingState (some name) none)).1)
        (start settings)) initial
    rw [given]
    refine ⟨apply_wellFormed wellFormed _, labels'.trans labels, edges'.trans edges,
      kept'.trans kept, fun member => initial_setInitial wellFormed ?_⟩
    rw [labels]
    exact member

/-- **A definition has the moves of the transitions that its edges were gathered from**, under the
first guard that any of them has for the event and the target. -/
theorem definition_of_gathered {s : Session} {seen : List Edge} (h : s.graph.WellFormed)
    (gathered : Edge.Gathered seen s.graph.edges) (source event target : String)
    (guard : Option String) :
    s.definition.Moves source event target guard ↔
      (∃ e ∈ seen, e.key = (event, target) ∧ source ∈ e.sources) ∧
        guard = Edge.firstGuard seen (event, target) := by
  have transitions : s.definition.transitions = s.graph.edges.map Edge.toTransition :=
    h.transitions_eq
  unfold Definition.Moves
  rw [transitions]
  constructor
  · rintro ⟨_, ht, hs, rfl, rfl, rfl⟩
    obtain ⟨f, hf, rfl⟩ := List.mem_map.mp ht
    rw [Edge.toTransition_sources] at hs
    rw [(h.edges_sound f hf).toTransition_guard]
    exact ⟨(gathered.sources_iff f hf source).mp hs, gathered.guard_first f hf⟩
  · rintro ⟨⟨e, he, key, hs⟩, rfl⟩
    obtain ⟨f, hf, same⟩ := List.mem_map.mp
      ((gathered.keys_iff e.key).mpr (List.mem_map_of_mem he))
    rw [key] at same
    refine ⟨f.toTransition, List.mem_map_of_mem hf, ?_, congrArg Prod.fst same,
      congrArg Prod.snd same, ?_⟩
    · rw [Edge.toTransition_sources, gathered.sources_iff f hf]
      exact ⟨e, he, key.trans same.symm, hs⟩
    · rw [(h.edges_sound f hf).toTransition_guard, gathered.guard_first f hf, same]

end Session

namespace Command

variable {s : Session} {source target event guard : String} {others : List String}

/-- **A transition from several states is one edge that is merged with the others.** -/
theorem connectAll_eq (h : s.graph.WellFormed) (nodup : (source :: others).Nodup)
    (known : ∀ x ∈ source :: others, x ∈ s.graph.nodeIds) (ht : target ∈ s.graph.nodeIds)
    (named : event ≠ "") (trimmed : Text.isBlankText guard = guard.isEmpty) :
    connectAll s (source :: others) target event guard =
      some (s.withEdges (Edge.insert s.graph.edges
        ⟨target, event, if guard.isEmpty then none else some guard, source :: others⟩)) := by
  rw [List.forall_mem_cons] at known
  let kept : Option String := if guard.isEmpty then none else some guard
  have stored : guardText? kept = kept := by
    unfold kept
    split
    · rfl
    · rename_i full
      simp [guardText?, Option.filter, trimmed, full]
  let one : Edge := ⟨target, event, kept, [source]⟩
  let next := s.withEdges (Edge.insert s.graph.edges one)
  have event_kept : s.eventOr (some event) = event := by
    unfold Session.eventOr
    split
    · rename_i empty
      cases empty
    · rename_i empty
      exact absurd (Option.some.inj empty) named
    · rename_i same
      exact (Option.some.inj same).symm
  have connected : (s.apply (s.connecting source target (some event) kept)).1 = next := by
    rw [Session.apply_fst, Session.connecting, event_kept, Graph.edit?,
      h.connect_eq stored known.1 ht]
    rfl
  have wellFormed : next.graph.WellFormed := connected ▸ Session.apply_wellFormed h _
  have carried : (next.carrier? source target event).isSome := by
    obtain ⟨f, hf, key, sources⟩ := Edge.exists_mem_insert s.graph.edges one
    refine List.find?_isSome.mpr ⟨f, hf, ?_⟩
    rw [key, List.contains_iff_mem.mpr (sources source (List.mem_singleton_self source))]
    simp [one, Edge.key]
  obtain ⟨f, found⟩ := Option.isSome_iff_exists.mp carried
  have key : f.key = (event, target) := by
    have both := List.find?_some found
    simp only [Bool.and_eq_true, beq_iff_eq] at both
    exact both.1
  have rest := Session.addSources_eq wellFormed (List.mem_of_find?_eq_some found) known.2
  unfold connectAll
  show ((s.apply (s.connecting source target (some event) kept)).1.carrier? source target
    event).map _ = _
  rw [connected, found, Option.map_some, rest, key]
  exact congrArg (some ∘ s.withEdges)
    (Edge.grow_insert h.keys_distinct target event kept nodup)

/-- No transition leads to a state that is not there. -/
theorem connectAll_unknown (h : s.graph.WellFormed) (ht : target ∉ s.graph.nodeIds)
    (sources : List String) (event guard : String) :
    connectAll s sources target event guard = none := by
  cases sources with
  | nil => rfl
  | cons source others =>
    have refused : ∀ event guard, (s.apply (s.connecting source target event guard)).1 = s := by
      intro event guard
      have none : s.graph.connect source target (s.eventOr event) guard = none :=
        Graph.connect_eq_none_iff.mpr (Or.inr ht)
      rw [Session.apply_fst, Session.connecting, Graph.edit?, none]
      rfl
    have uncarried : s.carrier? source target event = none := by
      refine List.find?_eq_none.mpr fun e he both => ht ?_
      simp only [Bool.and_eq_true, beq_iff_eq] at both
      have same : e.target = target := congrArg Prod.snd both.1
      exact same ▸ (h.edges_sound e he).target_known
    unfold connectAll
    simp only [refused, uncarried]
    rfl

end Command

end Statecraft
