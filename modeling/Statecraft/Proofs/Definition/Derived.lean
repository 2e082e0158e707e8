import Statecraft.Proofs.Definition.Valid
import Statecraft.Proofs.Graph.Reload
import Statecraft.Proofs.Guard.Acceptance

/-!
# Reports on derived definitions

The definition of a graph names its own states only, whatever the graph looks like, and has one
transition for each event and target (`Graph.names_closed`). So a report on it finds the states
missing, or some of them repeated, and nothing else (`Graph.report_toDefinition`).
-/

namespace Statecraft

open Report (Complaint)

namespace Report

/-- A key's value in a mapping, null counting as absent. -/
theorem given?_eq {d : Document} {entries : Document.Entries} (h : d.content = .map entries)
    (key : String) : given? entries key = (d.get? key).bind fun d =>
      match d.content with
      | .null => none
      | d => some d := by
  have get : d.get? key = Document.Entries.get? entries key := by
    simp [Document.get?, h]
  rw [get]
  rfl

theorem isText_text (s : String) : isText (.text s) = true := rfl

theorem checkText_given {entries : Document.Entries} {key s : String} {missing wrong : Complaint}
    (h : given? entries key = some (.text s)) : checkText entries key missing wrong = [] := by
  simp [checkText, h, isText_text]

theorem checkTransition_toDocument (i : Nat) (t : Transition) :
    checkTransition i t.toDocument = [] := by
  obtain ⟨entries, content⟩ : ∃ entries, t.toDocument.content = .map entries := ⟨_, rfl⟩
  have event : given? entries "event" = some (.text t.event) := by
    rw [given?_eq content, Definition.get?_event]
    rfl
  have target : given? entries "to" = some (.text t.target) := by
    rw [given?_eq content, Definition.get?_to]
    rfl
  have origin : checkOrigin i entries = [] := by
    unfold checkOrigin
    rw [given?_eq content, Definition.get?_from]
    cases t.origin with
    | one s => rfl
    | many ss => simp [Origin.toDocument, Document.texts, Document.content, isText_text]
  have guard : checkGuard i entries = [] := by
    unfold checkGuard
    rw [given?_eq content, Definition.get?_guard]
    cases t.guard <;> rfl
  unfold checkTransition
  rw [content]
  dsimp only
  rw [origin, checkText_given event, checkText_given target, guard]
  rfl

/-- The document of a definition has the shape of one, but for the states that may be missing. -/
theorem checkShape_toDocument (d : Definition) :
    checkShape d.toDocument = if d.states = [] then [.noStates] else [] := by
  obtain ⟨entries, content⟩ : ∃ entries, d.toDocument.content = .map entries := ⟨_, rfl⟩
  have states : checkStates entries = if d.states = [] then [.noStates] else [] := by
    unfold checkStates
    rw [given?_eq content, Definition.get?_states]
    cases d.states with
    | nil => rfl
    | cons s r =>
      rw [if_neg (List.cons_ne_nil s r)]
      show (((s :: r).map Document.text).mapIdx fun i d =>
        if isText d then [] else [Complaint.stateNotText i]).flatten = []
      rw [List.flatten_eq_nil_iff]
      intro l hl
      obtain ⟨i, hi, rfl⟩ := List.mem_mapIdx.mp hl
      rw [List.getElem_map, isText_text, if_pos rfl]
  have initial : given? entries "initial" = some (.text d.initial) := by
    rw [given?_eq content, Definition.get?_initial]
    rfl
  have transitions : checkTransitions entries = [] := by
    unfold checkTransitions
    rw [given?_eq content, Definition.get?_transitions]
    show ((d.transitions.map Transition.toDocument).mapIdx checkTransition).flatten = []
    rw [List.flatten_eq_nil_iff]
    intro l hl
    obtain ⟨i, hi, rfl⟩ := List.mem_mapIdx.mp hl
    rw [List.getElem_map, checkTransition_toDocument]
  have annotations : checkAnnotations entries = [] := by
    unfold checkAnnotations
    rw [given?_eq content, Definition.get?_meta]
    cases d.annotations <;> rfl
  unfold checkShape
  rw [content]
  dsimp only
  rw [states, checkText_given initial, transitions, annotations, List.append_nil, List.append_nil,
    List.append_nil]

theorem guardWarnings_ok {arrows : List Arrow} (h : ∀ a ∈ arrows, ∀ text, a.guard = some text →
    Guard.HasShortIntegers text) (i : Nat) : ∃ ws, guardWarnings i arrows = .ok ws := by
  induction arrows generalizing i with
  | nil => exact ⟨[], rfl⟩
  | cons a r ih =>
    obtain ⟨first, warned⟩ : ∃ ws, guardWarning i a = .ok ws := by
      unfold guardWarning
      split
      · exact ⟨_, rfl⟩
      · rename_i text guard
        split
        · exact ⟨_, rfl⟩
        · exact ⟨_, rfl⟩
        · rename_i read
          obtain ⟨f, ⟨⟩⟩ := (h a List.mem_cons_self text guard).refusal read
    obtain ⟨others, rest⟩ := ih (fun b hb => h b (List.mem_cons_of_mem _ hb)) (i + 1)
    exact ⟨first ++ others, by simp [guardWarnings, warned, rest, Except.map]⟩

/-- The report on a document of sound shape is about its names. -/
theorem ofDocument_eq {d : Document} (sound : checkShape d = []) : ofDocument d =
    (Names.ofDocument d).warnings.map fun ws => ⟨(Names.ofDocument d).errors, ws⟩ := by
  rw [ofDocument, sound]

/-- The report on a definition that has a state is about its names. -/
theorem ofDefinition_eq {d : Definition} (some_state : d.states ≠ []) :
    ofDefinition d = d.names.warnings.map fun ws => ⟨d.names.errors, ws⟩ := by
  have sound : checkShape d.toDocument = [] := by
    rw [checkShape_toDocument, if_neg some_state]
  rw [ofDefinition, ofDocument_eq sound, Definition.names_toDocument]

theorem findings_of_ofDefinition {d : Definition} {r : Report} (some_state : d.states ≠ [])
    (h : ofDefinition d = .ok r) : r.errors = d.names.errors ∧ d.names.warnings = .ok r.warnings := by
  rw [ofDefinition_eq some_state] at h
  cases warned : d.names.warnings with
  | error e =>
    rw [warned] at h
    cases h
  | ok ws =>
    rw [warned] at h
    obtain rfl := Except.ok.inj h
    exact ⟨rfl, rfl⟩

/-- There is a report on every definition whose guards have no integer that is too long. -/
theorem ofDefinition_ok {d : Definition} (short : ∀ t ∈ d.transitions, ∀ text,
    t.guard = some text → Guard.HasShortIntegers text) : ∃ warnings, ofDefinition d =
      .ok ⟨if d.states = [] then [.noStates] else d.names.errors, warnings⟩ := by
  have readable : ∀ a ∈ d.names.arrows, ∀ text, a.guard = some text →
      Guard.HasShortIntegers text := by
    intro a ha
    obtain ⟨t, ht, rfl⟩ := List.mem_map.mp ha
    exact short t ht
  obtain ⟨ws, warned⟩ := guardWarnings_ok readable 0
  by_cases none : d.states = []
  · exact ⟨[], by rw [if_pos none, ofDefinition, ofDocument, checkShape_toDocument, if_pos none]⟩
  · rw [if_neg none, ofDefinition_eq none]
    simp only [Names.warnings, warned, Except.map]
    exact ⟨_, rfl⟩

end Report

/-- The bundle has names of the graph's states, and its guard from an edge. -/
structure Bundle.ComesFrom (g : Graph) (b : Bundle) : Prop where
  target_known : b.target ∈ g.nodes.map Node.label
  sources_known : ∀ s ∈ b.sources, s ∈ g.nodes.map Node.label
  guard_given : b.guard = none ∨ ∃ e ∈ g.edges, e.guard = b.guard

namespace Bundle.ComesFrom

variable {g : Graph} {b c : Bundle}

theorem alone (h : b.ComesFrom g) : b.alone.ComesFrom g :=
  ⟨h.target_known, fun s hs => h.sources_known s (List.mem_eraseDups.mp hs), h.guard_given⟩

theorem take (hb : b.ComesFrom g) (hc : c.ComesFrom g) :
    (b.take c.sources c.guard).ComesFrom g where
  target_known := hb.target_known
  sources_known := by
    intro s hs
    rcases List.mem_append.mp (List.mem_eraseDups.mp hs) with h | h
    · exact hb.sources_known s h
    · exact hc.sources_known s h
  guard_given := by
    unfold Bundle.take
    dsimp only
    split
    · rename_i guard _ given
      have from_c : c.guard = some guard := (Option.filter_eq_some_iff.mp given).1
      exact from_c ▸ hc.guard_given
    · exact hb.guard_given

/-- An edge in the names of the states has names of states. -/
theorem of_named? {e : Edge} (he : e ∈ g.edges) (named : e.named? g.labels = some b) :
    b.ComesFrom g := by
  have known : ∀ {id label : String}, g.labels.lookup id = some label →
      label ∈ g.nodes.map Node.label := by
    intro id label found
    obtain ⟨n, hn, _, rfl⟩ := Graph.exists_node_of_lookup found
    exact List.mem_map_of_mem hn
  unfold Edge.named? at named
  split at named
  · rename_i target s ss found sources
    cases named
    refine ⟨known found, fun x hx => ?_, Or.inr ⟨e, he, rfl⟩⟩
    dsimp only at hx
    rw [← sources, List.mem_filterMap] at hx
    obtain ⟨_, _, found⟩ := hx
    exact known found
  · cases named

end Bundle.ComesFrom

namespace Bundle

/-- What is grouped anew has different keys. -/
theorem nodup_keys_group (bundles : List Bundle) : ((bundles.foldl add []).map key).Nodup := by
  rw [foldl_add_eq_groups, Keyed.keys_groups alone_key fun c b => take_key b c.sources c.guard]
  exact nodup_eraseDups _

theorem comesFrom_group {g : Graph} {bundles : List Bundle} (h : ∀ b ∈ bundles, b.ComesFrom g) :
    ∀ b ∈ bundles.foldl add [], b.ComesFrom g := by
  rw [foldl_add_eq_groups]
  exact Keyed.forall_mem_groups (fun b hb => (h b hb).alone) fun c hc _ hb => hb.take (h c hc)

end Bundle

namespace Graph

/-- Each transition is that of a bundle from the graph. -/
theorem mem_transitions {g : Graph} {t : Transition} (h : t ∈ g.transitions) :
    ∃ b : Bundle, b.ComesFrom g ∧ t = b.toTransition := by
  obtain ⟨b, hb, rfl⟩ := List.mem_map.mp h
  refine ⟨b, Bundle.comesFrom_group (fun c hc => ?_) b hb, rfl⟩
  obtain ⟨e, he, named⟩ := List.mem_filterMap.mp hc
  exact .of_named? he named

/-- One transition for each event and target. -/
theorem nodup_keys_transitions (g : Graph) : (g.transitions.map Transition.key).Nodup := by
  unfold transitions
  rw [List.map_map]
  exact Bundle.nodup_keys_group _

/-- A transition's guard is that of an edge. -/
theorem guard_of_mem_transitions {g : Graph} {t : Transition} (h : t ∈ g.transitions)
    {text : String} (guard : t.guard = some text) : ∃ e ∈ g.edges, e.guard = some text := by
  obtain ⟨b, from_g, rfl⟩ := mem_transitions h
  have stored : b.guard = some text := (Option.filter_eq_some_iff.mp guard).1
  rcases from_g.guard_given with none | ⟨e, he, same⟩
  · rw [none] at stored
    cases stored
  · exact ⟨e, he, same.trans stored⟩

/-- **The definition of a graph is closed.** It names its own states only, and gives each event
with its target one guard. -/
theorem names_closed {g : Graph} (some_node : g.nodes ≠ []) (prior : Annotations) (key : String) :
    (g.toDefinition prior key).names.Closed where
  initial_declared := initial_mem some_node
  sources_declared := by
    intro a ha
    obtain ⟨t, ht, rfl⟩ := List.mem_map.mp ha
    obtain ⟨b, from_g, rfl⟩ := mem_transitions ht
    intro s hs
    exact from_g.sources_known s (Origin.states_ofStates b.sources ▸ hs)
  targets_declared := by
    intro a ha
    obtain ⟨t, ht, rfl⟩ := List.mem_map.mp ha
    obtain ⟨b, from_g, rfl⟩ := mem_transitions ht
    exact from_g.target_known
  guards_agree := by
    intro a ha b hb event target
    obtain ⟨t, ht, rfl⟩ := List.mem_map.mp ha
    obtain ⟨u, hu, rfl⟩ := List.mem_map.mp hb
    have same : t = u :=
      List.inj_on_of_nodup_map g.nodup_keys_transitions ht hu (Prod.ext event target)
    rw [same]

/-- **A report on a derived definition** finds that there is no state, where the graph has no node,
and each label that an earlier node has; it finds no other error. -/
theorem report_toDefinition (g : Graph) (prior : Annotations) (key : String)
    (short : ∀ e ∈ g.edges, ∀ text, e.guard = some text → Guard.HasShortIntegers text) :
    ∃ r, Report.ofDefinition (g.toDefinition prior key) = .ok r ∧ r.errors.Nodup ∧
      ∀ c, c ∈ r.errors ↔ c = .noStates ∧ g.nodes = [] ∨
        ∃ i s, c = .repeatedState i s ∧ (g.nodes.map Node.label)[i]? = some s ∧
          s ∈ (g.nodes.map Node.label).take i := by
  obtain ⟨ws, reported⟩ := Report.ofDefinition_ok (d := g.toDefinition prior key)
    fun t ht text hg =>
    let ⟨e, he, given⟩ := guard_of_mem_transitions ht hg
    short e he text given
  refine ⟨_, reported, ?_⟩
  have states : (g.toDefinition prior key).states = g.nodes.map Node.label := rfl
  simp only [states, List.map_eq_nil_iff]
  by_cases none : g.nodes = []
  · simp [none]
  · have errors := (names_closed none prior key).errors_eq
    rw [if_neg none, errors]
    refine ⟨Report.nodup_repeated _, fun c => ?_⟩
    simp only [Report.mem_repeated, none, and_false, false_or]
    rfl

/-- Four nodes, two of one id and two of one label, both of these flagged. Two edges come to have
one event and target, and one ends nowhere. -/
def tangled : Graph where
  nodes := [⟨"a", "a", true, .origin⟩, ⟨"b", "b", false, .origin⟩, ⟨"c", "a", true, .origin⟩,
    ⟨"b", "d", false, .origin⟩]
  edges := [.of "a" "go" (some "ctx.x > 10") ["b", "gone"], .of "c" "go" (some "ctx.y") ["c", "a"],
    .of "gone" "halt" none ["a"]]

theorem report_toDefinition_tangled :
    (∀ e ∈ tangled.edges, ∀ text, e.guard = some text → Guard.HasShortIntegers text) ∧
    ∃ r, Report.ofDefinition (tangled.toDefinition [] positionsKey) = .ok r ∧ r.errors.Nodup ∧
      ∀ c, c ∈ r.errors ↔ c = .noStates ∧ tangled.nodes = [] ∨
        ∃ i s, c = .repeatedState i s ∧ (tangled.nodes.map Node.label)[i]? = some s ∧
          s ∈ (tangled.nodes.map Node.label).take i := by
  have guards : ∀ e ∈ tangled.edges, ∀ text ∈ e.guard, Guard.HasShortIntegers text := by
    decide +kernel
  have short : ∀ e ∈ tangled.edges, ∀ text, e.guard = some text → Guard.HasShortIntegers text :=
    guards
  exact ⟨short, report_toDefinition tangled [] positionsKey short⟩

end Graph

end Statecraft
