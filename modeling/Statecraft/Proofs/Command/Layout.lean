import Statecraft.Command.Graph
import Statecraft.Proofs.Console.Act
import Statecraft.Proofs.Definition.Relaid
import Statecraft.Proofs.Definition.Stored

/-!
# Storing a layout

The command reads a definition, makes it a graph and writes down the definition of that graph
(`run_layOutFile_ok`). So what is in the file afterwards has kept what graphs keep
(`layOutFile_relaid`), and that is less than all where the definition is not valid
(`stray_not_kept`).
-/

namespace Statecraft.Command

open Console

variable {t t' : Terminal} {r : Rendering}

theorem laidOut_graph (settings : Settings) (d : Definition) (direction : Layout.Direction) :
    (laidOut settings d direction).1.graph =
      (d.toGraph ⟨none, settings.grid, settings.editor.positionsKey⟩).1.arranged direction
        settings.layout := rfl

theorem laidOut_relaid (settings : Settings) (d : Definition) (direction : Layout.Direction) :
    d.Relaid settings.editor.positionsKey (laidOut settings d direction).1.definition := by
  have shown : (laidOut settings d direction).1.graph.Shows d := by
    rw [laidOut_graph]
    exact (Graph.shows_toGraph d _).arranged direction settings.layout
  exact shown.toDefinition_relaid settings.editor.positionsKey

theorem laidOut_nodup (settings : Settings) {d : Definition} (direction : Layout.Direction)
    (distinct : (d.annotations.map Prod.fst).Nodup) :
    ((laidOut settings d direction).1.definition.annotations.map Prod.fst).Nodup :=
  Annotations.nodup_set (distinct.sublist (List.filter_sublist.map Prod.fst)) _ _

/-- Of two guards the first is kept. A target that is undeclared goes, unless it is the id of a
repeated state. -/
example :
    let d : Definition :=
      ⟨["a", "b", "a"], "gone", [.of (.one "a") "go" "b" (some "ctx.x"),
        .of (.one "b") "go" "b" (some "ctx.y"), .of (.one "b") "back" "a#2" none,
        .of (.one "a") "halt" "gone" none], []⟩
    let kept := (laidOut Settings.default d .leftToRight).1.definition
    kept.states = ["a", "b", "a"] ∧ kept.initial = "a" ∧
      kept.transitions = [.of (.many ["a", "b"]) "go" "b" (some "ctx.x"),
        .of (.one "b") "back" "a" none] := by
  decide +kernel

/-- What a layout has read and stored that comes to its end. -/
theorem run_layOutFile_ok (h : (layOutFile r).run.run t = (.ok (), t')) :
    ∃ settings data d,
      (Settings.load ⟨t.folder, t.environment⟩ (r.config.map Path.text) []).result = .ok settings ∧
      t.folder.readSource r.source = .ok data ∧ Definition.ofDocument data = .ok d ∧
      t.folder.store (r.output.getD r.source)
        (laidOut settings d (Rendering.directionOr r settings)).1.definition = .ok t'.folder := by
  obtain ⟨⟨settings, d⟩, u, opened, rest⟩ := run_bind_ok h
  obtain ⟨_, u₁, loading, opened⟩ := run_bind_ok opened
  obtain ⟨loaded, folder₁⟩ := run_loadSettings_ok loading
  obtain ⟨_, u₂, levelled, opened⟩ := run_bind_ok opened
  cases levelled
  obtain ⟨_, u₃, reading, opened⟩ := run_bind_ok opened
  obtain ⟨⟨data, read, shaped⟩, rfl⟩ := run_readDefinition_ok reading
  cases opened
  obtain ⟨_, u₄, warned, rest⟩ := run_bind_ok rest
  have folder₄ : u₄.folder = t.folder :=
    ((keepsFolder_warnLost _).folder_eq warned).trans folder₁
  obtain ⟨_, u₅, storing, rest⟩ := run_bind_ok rest
  have stored := run_storeDefinition_ok storing
  obtain ⟨_, u₆, told, rest⟩ := run_bind_ok rest
  have folder' : t'.folder = u₅.folder :=
    ((keepsFolder_line _).folder_eq rest).trans ((keepsFolder_line _).folder_eq told)
  rw [folder₄, ← folder'] at stored
  exact ⟨settings, data, d, loaded, folder₁ ▸ read, shaped, stored⟩

/-- **A layout stores what graphs keep of the definition it has read**: its states, its annotations
but for the positions, its initial state if that is declared and its moves between declared states,
each with the first guard of its event and target. This is in the file afterwards, and nothing else
in the folder has changed. -/
theorem layOutFile_relaid (h : (layOutFile r).run.run t = (.ok (), t')) :
    ∃ settings data d kept,
      (Settings.load ⟨t.folder, t.environment⟩ (r.config.map Path.text) []).result = .ok settings ∧
      t.folder.readSource r.source = .ok data ∧ Definition.ofDocument data = .ok d ∧
      d.Relaid settings.editor.positionsKey kept ∧
      t.folder.Stores (r.output.getD r.source) kept t'.folder := by
  obtain ⟨settings, data, d, loaded, read, shaped, stored⟩ := run_layOutFile_ok h
  have distinct := laidOut_nodup settings (Rendering.directionOr r settings)
    (Definition.nodup_of_ofDocument shaped)
  exact ⟨settings, data, d, _, loaded, read, shaped, laidOut_relaid settings d _,
    Folder.stores_of_store distinct stored⟩

/-- One state, with a transition from it to an undeclared one, which is initial. -/
def strayText : String :=
  "\x7b\"states\":[\"a\"],\"initial\":\"b\"," ++
    "\"transitions\":[\x7b\"from\":\"a\",\"event\":\"go\",\"to\":\"b\"\x7d]\x7d"

def strayFile : Path := ⟨"", ["m.json"]⟩

/-- A terminal with that file, and nothing else. -/
def strayTerminal : Terminal := .start ⟨[(strayFile, .file (Text.encode strayText))]⟩ [] none

/-- The definition in that file, without its annotations. -/
def strayParts (f : Folder) : Option (List String × String × List Transition) :=
  (f.readSource strayFile).toOption.bind fun data =>
    (Definition.ofDocument data).value?.map fun d => (d.states, d.initial, d.transitions)

theorem of_strayParts {f : Folder} {states : List String} {initial : String}
    {transitions : List Transition} (h : strayParts f = some (states, initial, transitions)) :
    ∃ data d, f.readSource strayFile = .ok data ∧ Definition.ofDocument data = .ok d ∧
      d.states = states ∧ d.initial = initial ∧ d.transitions = transitions := by
  obtain ⟨data, read, parts⟩ := Option.bind_eq_some_iff.mp h
  obtain ⟨d, loaded, same⟩ := Option.map_eq_some_iff.mp parts
  obtain ⟨rfl, moves⟩ := Prod.mk.inj same
  obtain ⟨rfl, rfl⟩ := Prod.mk.inj moves
  cases source : f.readSource strayFile with
  | error e =>
    rw [source] at read
    cases read
  | ok data' =>
    rw [source] at read
    cases read
    exact ⟨data, d, rfl, Shape.Checked.value?_eq_some.mp loaded, rfl, rfl, rfl⟩

theorem run_layOutFile_stray : ∃ t',
    (layOutFile ⟨strayFile, none, none, none⟩).run.run strayTerminal = (.ok (), t') ∧
      strayParts t'.folder = some (["a"], "a", []) := by
  have check : (match (layOutFile ⟨strayFile, none, none, none⟩).run.run strayTerminal with
      | (.ok (), t') => decide (strayParts t'.folder = some (["a"], "a", []))
      | (.error _, _) => false) = true := by decide +kernel
  split at check
  · rename_i t' ended
    exact ⟨t', ended, of_decide_eq_true check⟩
  · cases check

theorem strayParts_before :
    strayParts strayTerminal.folder = some (["a"], "b", [.of (.one "a") "go" "b" none]) := by
  decide +kernel

theorem layOutFile_relaid_stray : ∃ t',
    (layOutFile ⟨strayFile, none, none, none⟩).run.run strayTerminal = (.ok (), t') ∧
    (∃ settings data d kept,
      (Settings.load ⟨strayTerminal.folder, []⟩ none []).result = .ok settings ∧
      strayTerminal.folder.readSource strayFile = .ok data ∧ Definition.ofDocument data = .ok d ∧
      d.Relaid settings.editor.positionsKey kept ∧
      strayTerminal.folder.Stores strayFile kept t'.folder ∧ ∀ s e t, d.MovesApart s e t) ∧
    strayParts t'.folder = some (["a"], "a", []) := by
  obtain ⟨t', run, parts⟩ := run_layOutFile_stray
  obtain ⟨settings, data, d, kept, loaded, read, shaped, relaid, stores⟩ := layOutFile_relaid run
  obtain ⟨data', d', read', shaped', states, -, -⟩ := of_strayParts strayParts_before
  obtain rfl : data = data' := Except.ok.inj (read.symm.trans read')
  obtain rfl : d = d' := Shape.Checked.ok.inj (shaped.symm.trans shaped')
  have distinct : d.states.Nodup := by
    rw [states]
    exact List.nodup_singleton "a"
  exact ⟨t', run, ⟨settings, data, d, kept, loaded, read, shaped, relaid, stores,
    Definition.movesApart_of_nodup distinct⟩, parts⟩

/-- The layout comes to its end, but what is in the file then has another initial state and lacks
the transition. -/
theorem stray_not_kept : ∃ t' data d data' d',
    (layOutFile ⟨strayFile, none, none, none⟩).run.run strayTerminal = (.ok (), t') ∧
    strayTerminal.folder.readSource strayFile = .ok data ∧ Definition.ofDocument data = .ok d ∧
    t'.folder.readSource strayFile = .ok data' ∧ Definition.ofDocument data' = .ok d' ∧
    d.initial = "b" ∧ d'.initial = "a" ∧
    d.Moves "a" "go" "b" none ∧ ¬ d'.Moves "a" "go" "b" none := by
  obtain ⟨t', run, after⟩ := run_layOutFile_stray
  obtain ⟨data, d, read, loaded, -, initial, transitions⟩ := of_strayParts strayParts_before
  obtain ⟨data', d', read', loaded', -, initial', transitions'⟩ := of_strayParts after
  refine ⟨t', data, d, data', d', run, read, loaded, read', loaded', initial, initial', ?_, ?_⟩
  · exact ⟨_, by rw [transitions]; exact List.mem_singleton_self _, List.mem_singleton_self _, rfl,
      rfl, rfl⟩
  · rintro ⟨_, mem, _⟩
    rw [transitions'] at mem
    cases mem

end Statecraft.Command
