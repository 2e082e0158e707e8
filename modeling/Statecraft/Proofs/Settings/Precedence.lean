import Statecraft.Proofs.Settings.Configured
import Statecraft.Proofs.Settings.Variables
import Statecraft.Proofs.Yaml.Dictionary

/-!
# The first layer that has a setting wins

Layers are laid over each other one by one. What a leaf has in the layers so far stays as it is,
and what it does not have comes from the next one (`Leaf.given_overlay`): so after all of them it is
what the first layer that has it gives (`outcome_foldl`), as long as no text or list stands where a
section belongs. The settings of the surroundings follow (`load_takes_first`): those that are given
directly, the configuration file, the variables and the file of variables, then the defaults. Other
keys play no part.
-/

namespace Statecraft.Settings

open Document (Entries IsDictionary stacked)

variable {acc upper lower : Entries} {layers : List Entries}

/-- What the first of several layers has in a place. -/
def first (get : Entries → Option Document) (layers : List Entries) : Option Document :=
  layers.findSome? get

theorem first_nil (get : Entries → Option Document) : first get [] = none := rfl

theorem first_cons (get : Entries → Option Document) (es : Entries) (r : List Entries) :
    first get (es :: r) = (get es).or (first get r) := by
  unfold first
  cases found : get es <;> simp [found]

namespace Leaf

variable {l : Leaf}

/-- What overlaid entries give is the upper value over the lower one. -/
theorem given_overlay (above : IsDictionary upper) (below : IsDictionary lower)
    (mapped : ∀ sec : Section, ∀ d ∈ upper.get? sec.name, d.IsMapping) :
    l.given (upper.overlay lower) = stacked (l.given upper) (l.given lower) := by
  cases part : l.part with
  | none =>
    simp only [given_of_outside part]
    exact Entries.get?_overlay above.distinct lower l.key
  | some sec =>
    simp only [given_of_inside part]
    rw [Entries.get?_overlay above.distinct]
    cases found : upper.get? sec.name with
    | none => rfl
    | some d =>
      obtain ⟨es, content⟩ := mapped sec d found
      obtain rfl : d = .map es := (above.bare _ d found).symm.trans content
      exact Document.get?_onTop (above.inner _ es found) (fun d => below.bare _ d) l.key

theorem outcome_stacked (known : l ∈ leaves) (a b c : Option Document) :
    l.outcome ((stacked a b).or c) = l.outcome ((a.or b).or c) := by
  cases a with
  | none => rfl
  | some d => exact check_onTop known b d

end Leaf

/-- A section of overlaid layers is a mapping if it is one in the first layer that has it. -/
theorem isMapping_foldl (sec : Section) (dict : IsDictionary acc)
    (dicts : ∀ es ∈ layers, IsDictionary es) :
    (∀ d ∈ (layers.foldl (fun u es => u.overlay es) acc).get? sec.name, d.IsMapping) ↔
      ∀ d ∈ (acc.get? sec.name).or (first (·.get? sec.name) layers), d.IsMapping := by
  induction layers generalizing acc with
  | nil => simp [first]
  | cons es r ih =>
    obtain ⟨here, rest⟩ := List.forall_mem_cons.mp dicts
    rw [List.foldl_cons, ih (dict.overlay here) rest, Entries.get?_overlay dict.distinct,
      first_cons, ← Option.or_assoc]
    cases acc.get? sec.name with
    | none => rfl
    | some d => simp [stacked, Document.isMapping_onTop]

/-- A leaf of overlaid layers comes out as the first layer that has it gives it. The invariant of
the induction is in `mapped`: what has been laid so far, over what comes first below it. -/
theorem outcome_foldl {l : Leaf} (known : l ∈ leaves) (dict : IsDictionary acc)
    (dicts : ∀ es ∈ layers, IsDictionary es)
    (mapped : ∀ sec : Section, ∀ d ∈ (acc.get? sec.name).or (first (·.get? sec.name) layers),
      d.IsMapping) :
    l.outcome (l.given (layers.foldl (fun u es => u.overlay es) acc)) =
      l.outcome ((l.given acc).or (first l.given layers)) := by
  induction layers generalizing acc with
  | nil => simp [first]
  | cons es r ih =>
    obtain ⟨here, rest⟩ := List.forall_mem_cons.mp dicts
    have above : ∀ sec : Section, ∀ d ∈ acc.get? sec.name, d.IsMapping := by
      intro sec d found
      exact mapped sec d (by rw [Option.mem_def.mp found]; rfl)
    rw [List.foldl_cons, ih (dict.overlay here) rest, Leaf.given_overlay dict here above,
      Leaf.outcome_stacked known, first_cons, Option.or_assoc]
    -- The section is a mapping after this layer as well, in the first layer that has it.
    intro sec
    have step := mapped sec
    rw [first_cons, ← Option.or_assoc] at step
    rw [Entries.get?_overlay dict.distinct]
    cases found : acc.get? sec.name with
    | none => rwa [found] at step
    | some d =>
      rw [found] at step
      simpa [stacked, Document.isMapping_onTop] using step

/-- **Layers give settings** exactly if every section is a mapping in the first layer that has it,
and each leaf takes what the first layer that has it gives. -/
theorem ofDocument_combined (dicts : ∀ es ∈ layers, IsDictionary es) (s : Settings) :
    ofDocument (.map (combined layers)) = .ok s ↔
      (∀ sec : Section, ∀ d ∈ first (·.get? sec.name) layers, d.IsMapping) ∧
        ∀ l ∈ leaves, l.Takes (first l.given layers) s := by
  have sections : (∀ sec : Section, ∀ d ∈ (combined layers).get? sec.name, d.IsMapping) ↔
      ∀ sec : Section, ∀ d ∈ first (·.get? sec.name) layers, d.IsMapping :=
    forall_congr' fun sec => isMapping_foldl sec .nil dicts
  rw [ofDocument_eq_ok, sections]
  refine and_congr_right fun mapped => forall₂_congr fun l known => ?_
  unfold Leaf.Takes combined
  rw [outcome_foldl known .nil dicts mapped, Leaf.given_nil, Option.none_or]

/-! ## Surroundings -/

/-- What settings are taken from, the uppermost layer first. -/
structure Layers where
  direct : Entries
  config : Entries
  outer : Entries
  inner : Entries

namespace Layers

/-- The layers are what is given directly and what there is in the surroundings. -/
structure Found (layers : Layers) (s : Surroundings) (path : Option String) (direct : Entries) :
    Prop where
  direct : layers.direct = direct
  config : ∃ warnings, configEntries s path = .ok (layers.config, warnings)
  outer : ofVariables (s.environment.map fun v => (v.1, some v.2)) = .ok layers.outer
  inner : ∃ assigned, fileVariables s = .ok assigned ∧ ofVariables assigned = .ok layers.inner

/-- The layers as they are laid over each other. -/
def list (layers : Layers) : List Entries :=
  [layers.direct, (ofConfig layers.config).1, layers.outer, layers.inner]

/-- Every section is a mapping in the first layer that has it. -/
def Mapped (layers : Layers) : Prop :=
  ∀ sec : Section, ∀ d ∈ first (·.get? sec.name) layers.list, d.IsMapping

end Layers

/-- What the first layer that has the leaf gives for it. -/
def Leaf.provided (l : Leaf) (layers : Layers) : Option Document :=
  (l.given layers.direct).or <| (l.configured layers.config).or <|
    (l.given layers.outer).or (l.given layers.inner)

theorem isDictionary_configEntries {s : Surroundings} {path : Option String} {entries : Entries}
    {warnings : List Warning} (h : configEntries s path = .ok (entries, warnings)) :
    IsDictionary entries := by
  unfold configEntries at h
  cases file : configPath? s path with
  | error e =>
    rw [file] at h
    cases h
  | ok p? =>
    rw [file] at h
    dsimp only [bind, Except.bind] at h
    split at h
    · cases h
      exact .nil
    · split at h
      · cases h
        exact .nil
      · split at h
        · cases h
          exact .nil
        · rename_i read
          split at h
          · rename_i plain
            cases h
            exact Yaml.isDictionary_of_read read plain
          · cases h
            exact .nil

section Loading

variable {s : Surroundings} {path : Option String} {direct : Entries} {layers : Layers}

theorem Layers.Found.dictionaries (found : layers.Found s path direct)
    (dict : IsDictionary direct) : ∀ es ∈ layers.list, IsDictionary es := by
  obtain ⟨_, config⟩ := found.config
  obtain ⟨_, _, inner⟩ := found.inner
  simp only [Layers.list, List.forall_mem_cons, List.not_mem_nil, false_implies, implies_true,
    and_true]
  exact ⟨found.direct ▸ dict, isDictionary_ofConfig (isDictionary_configEntries config),
    isDictionary_ofVariables found.outer, isDictionary_ofVariables inner⟩

theorem Layers.Found.first_given (found : layers.Found s path direct) {l : Leaf}
    (known : l ∈ leaves) : first l.given layers.list = l.provided layers := by
  obtain ⟨_, config⟩ := found.config
  simp only [Layers.list, first_cons, Leaf.provided,
    given_ofConfig (isDictionary_configEntries config) known, first_nil, Option.or_none]

/-- What is loaded is what the layers give. -/
theorem Layers.Found.result_eq (found : layers.Found s path direct) (settings : Settings) :
    (load s path direct).result = .ok settings ↔
      ofDocument (.map (combined layers.list)) = .ok settings := by
  obtain ⟨_, config⟩ := found.config
  obtain ⟨_, file, inner⟩ := found.inner
  obtain rfl := found.direct
  unfold load
  simp only [file, config, ofLayers, found.outer, inner]
  cases laid : ofDocument (.map (combined layers.list)) with
  | ok settings =>
    unfold Layers.list at laid
    simp [laid]
  | bad issues =>
    unfold Layers.list at laid
    simp [laid]

/-- **The first layer that has a setting wins.** Settings are loaded exactly if sections are
mappings and what the first layers provide passes the checks; each leaf then has this value, or its
default if no layer provides one. -/
theorem load_takes_first (found : layers.Found s path direct) (dict : IsDictionary direct) :
    (∀ settings, (load s path direct).result = .ok settings ↔
      layers.Mapped ∧ ∀ l ∈ leaves, l.Takes (l.provided layers) settings) ∧
    ((∃ settings, (load s path direct).result = .ok settings) ↔
      layers.Mapped ∧ ∀ l ∈ leaves, (l.outcome (l.provided layers)).IsOk) := by
  have result : ∀ settings, (load s path direct).result = .ok settings ↔
      layers.Mapped ∧ ∀ l ∈ leaves, l.Takes (l.provided layers) settings := by
    intro settings
    rw [found.result_eq, ofDocument_combined (found.dictionaries dict)]
    refine and_congr_right fun _ => forall₂_congr fun l known => ?_
    rw [found.first_given known]
  refine ⟨result, ?_⟩
  rw [← exists_takes]
  constructor
  · rintro ⟨settings, loaded⟩
    obtain ⟨mapped, takes⟩ := (result settings).mp loaded
    exact ⟨mapped, settings, takes⟩
  · rintro ⟨mapped, settings, takes⟩
    exact ⟨settings, (result settings).mpr ⟨mapped, takes⟩⟩

end Loading

/-- The layers that there are, nothing where they cannot be read. -/
def layersOf (s : Surroundings) (path : Option String) (direct : Entries) : Layers where
  direct := direct
  config := (configEntries s path).toOption.elim [] Prod.fst
  outer := (ofVariables (s.environment.map fun v => (v.1, some v.2))).toOption.getD []
  inner := ((fileVariables s).toOption.bind fun v => (ofVariables v).toOption).getD []

theorem found_layersOf {s : Surroundings} {path : Option String}
    (config : (configEntries s path).isOk = true)
    (outer : (ofVariables (s.environment.map fun v => (v.1, some v.2))).isOk = true)
    (inner : ((fileVariables s).toOption.bind fun v => (ofVariables v).toOption).isSome = true)
    (direct : Entries) : (layersOf s path direct).Found s path direct where
  direct := rfl
  config := by
    cases read : configEntries s path with
    | error e => simp [read, Except.isOk, Except.toBool] at config
    | ok c => exact ⟨c.2, by simp [layersOf, read, Except.toOption]⟩
  outer := by
    cases read : ofVariables (s.environment.map fun v => (v.1, some v.2)) with
    | error e => simp [read, Except.isOk, Except.toBool] at outer
    | ok es => simp [layersOf, read, Except.toOption]
  inner := by
    cases file : fileVariables s with
    | error e => simp [file, Except.toOption] at inner
    | ok v =>
      cases read : ofVariables v with
      | error e => simp [file, read, Except.toOption] at inner
      | ok es => exact ⟨v, rfl, by simp [layersOf, file, read, Except.toOption]⟩

/-- A direction outside the sections, a list for a layout, and variables for the same leaves. -/
def layeredSurroundings : Surroundings where
  folder := ⟨[(Path.ofText "fsmstudio.yaml", .file "direction: TB\nlayout: [1]\n".toUTF8.toList),
    (Path.ofText ".env", .file "FSMSTUDIO_DEBUG=0\nFSMSTUDIO_LOG_LEVEL=INFO\n".toUTF8.toList)]⟩
  environment := [("FSMSTUDIO_LAYOUT__DIRECTION", "LR"), ("FSMSTUDIO_DEBUG", "1")]

def layeredDirect : Entries :=
  Entries.ofNamed [("editor", some (.map [(.text "default_event", .text "go")]))]

def layered : Layers := layersOf layeredSurroundings none layeredDirect

theorem found_layered : layered.Found layeredSurroundings none layeredDirect :=
  found_layersOf (by decide +kernel) (by decide +kernel) (by decide +kernel) layeredDirect

theorem isDictionary_layeredDirect : IsDictionary layeredDirect := by
  refine IsDictionary.ofNamed (by decide) fun f hf d hd => ?_
  obtain rfl := List.mem_singleton.mp hf
  obtain rfl := Option.some.inj hd
  refine ⟨rfl, ?_⟩
  rintro _ ⟨⟩
  decide

/-- The variable says `true` over the file of variables, which alone has a level. The direction
outside the sections of the configuration file counts, as its layout is a list. -/
theorem provided_layered :
    (∀ sec ∈ Section.all, ∀ d ∈ first (·.get? sec.name) layered.list, d.IsMapping) ∧
    (∀ l ∈ leaves, (l.outcome (l.provided layered)).IsOk) ∧
    (Shape.outcome false Shape.boolean (leaves[0].provided layered)).value? = some true ∧
    (Shape.outcome .warning LogLevel.ofDocument (leaves[1].provided layered)).value? =
      some .info ∧
    (Shape.outcome .leftToRight Layout.Direction.ofDocument (leaves[2].provided layered)).value? =
      some .topToBottom ∧
    (Shape.outcome positionsKey nonEmptyText (leaves[13].provided layered)).value? =
      some positionsKey ∧
    (Shape.outcome "event" nonEmptyText (leaves[14].provided layered)).value? = some "go" := by
  decide +kernel

theorem load_takes_first_layered : ∃ settings,
    (load layeredSurroundings none layeredDirect).result = .ok settings ∧ settings.debug = true ∧
      settings.logLevel = .info ∧ settings.layout.direction = .topToBottom ∧
      settings.editor.positionsKey = positionsKey ∧ settings.editor.defaultEvent = "go" := by
  obtain ⟨sections, valid, debug, level, direction, key, event⟩ := provided_layered
  obtain ⟨result, loads⟩ := load_takes_first found_layered isDictionary_layeredDirect
  obtain ⟨settings, loaded⟩ := loads.mpr ⟨fun sec => sections sec (by cases sec <;> decide), valid⟩
  have takes := ((result settings).mp loaded).2
  have leaf : ∀ i, (h : i < leaves.length) →
      leaves[i].Takes (leaves[i].provided layered) settings :=
    fun i h => takes _ (List.getElem_mem h)
  exact ⟨settings, loaded, Shape.Checked.eq_of_value? debug (leaf 0 (by decide)),
    Shape.Checked.eq_of_value? level (leaf 1 (by decide)),
    Shape.Checked.eq_of_value? direction (leaf 2 (by decide)),
    Shape.Checked.eq_of_value? key (leaf 13 (by decide)),
    Shape.Checked.eq_of_value? event (leaf 14 (by decide))⟩

end Statecraft.Settings
