import Statecraft.Command.Run
import Statecraft.Proofs.Console.Show
import Statecraft.Proofs.Guard.Message
import Statecraft.Proofs.Session.States

/-!
# New files of given states

Before a definition is written, a note is shown for each of its states that has no transitions. With
states alone that is all but the initial one, and a note can fail to be shown, as the name in it
counts as markup (`Notable`). If all can be shown the file is written (`run_writeMachine`); if not,
the command crashes first (`run_writeMachine_crash`).
-/

namespace Statecraft

theorem mem_intercalate {α : Type} {x a : α} {l : List (List α)} {p : List α} (hp : p ∈ l)
    (ha : a ∈ p) : a ∈ [x].intercalate l := by
  induction l with
  | nil => cases hp
  | cons first r ih =>
    cases r with
    | nil =>
      obtain rfl := List.mem_singleton.mp hp
      simpa [List.intercalate] using ha
    | cons second r =>
      rw [List.intercalate_cons_cons, List.mem_append, List.mem_append]
      rcases List.mem_cons.mp hp with rfl | hp
      · exact Or.inl (Or.inl ha)
      · exact Or.inr (ih hp)

/-- A trimmed piece of a text has no other characters. -/
theorem Text.mem_of_mem_strip_piece {separator c : Char} {s p : String}
    (hp : p ∈ Text.pieces separator s) (hc : c ∈ (strip p).toList) : c ∈ s.toList := by
  obtain ⟨piece, hs, rfl⟩ := List.mem_map.mp hp
  rw [strip, String.toList_ofList, String.toList_ofList] at hc
  have start : c ∈ trimStart piece := (List.rdropWhile_prefix isBlank _).subset hc
  have within : c ∈ piece := (List.dropWhile_suffix _).subset start
  have joined := mem_intercalate (x := separator) hs within
  rwa [List.intercalate_splitOn] at joined

namespace Command

open Console

variable {c : Creation} {t : Terminal} {settings : Settings} {text : String}

/-- The note that a state has no transitions can be shown. -/
def Notable (name : String) : Prop :=
  ∃ s, render ("  [muted]" ++ (Check.Isolated.mk name).message ++ "[/]") = .ok s

theorem notable_of_no_bracket {name : String} (h : '[' ∉ name.toList) : Notable name := by
  refine exists_render_aside ⟨?_, ?_⟩
  · simp only [Check.Isolated.message, String.toList_append, List.mem_append, not_or]
    exact ⟨⟨by decide, h⟩, by decide⟩
  · rw [Check.Isolated.message, String.toList_append, List.getLast?_append_of_ne_nil _ (by decide)]
    decide

theorem notable_of_mem_splitStates {n : String} (h : '[' ∉ text.toList)
    (member : n ∈ splitStates text) : Notable n := by
  have kept := (List.mem_filter.mp (List.mem_eraseDups.mp member)).1
  obtain ⟨piece, hp, rfl⟩ := List.mem_map.mp kept
  exact notable_of_no_bracket fun opens => h (Text.mem_of_mem_strip_piece hp opens)

theorem completes_notes {names : List String} (h : ∀ n ∈ names, Notable n) :
    Completes ((names.map fun n => (Check.Isolated.mk n).message).forM aside) :=
  completes_forM (List.forall_mem_map.mpr fun n hn => completes_line (h n hn))

/-- Notes are shown up to the first that cannot be. -/
theorem run_notes_crash {names : List String} (h : ∃ n ∈ names, ¬ Notable n) (t : Terminal) :
    ∃ fault outputs, ((names.map fun n => (Check.Isolated.mk n).message).forM aside).run.run t =
      (.error (.crash (.markup fault)), t.showing outputs) := by
  induction names generalizing t with
  | nil => simp at h
  | cons n r ih =>
    have note := run_line ("  [muted]" ++ (Check.Isolated.mk n).message ++ "[/]") t
    show ∃ fault outputs, ((aside (Check.Isolated.mk n).message >>= fun _ =>
      (r.map fun n => (Check.Isolated.mk n).message).forM aside : Act Unit).run.run t) = _
    rw [run_bind, aside, note]
    cases shown : render ("  [muted]" ++ (Check.Isolated.mk n).message ++ "[/]") with
    | error fault => exact ⟨fault, [], by rw [Terminal.showing_nil]⟩
    | ok line =>
      have rest : ∃ m ∈ r, ¬ Notable m := by
        obtain ⟨m, hm, silent⟩ := h
        rcases List.mem_cons.mp hm with rfl | hm
        · exact absurd ⟨line, shown⟩ silent
        · exact ⟨m, hm, silent⟩
      obtain ⟨fault, outputs, run⟩ := ih rest (t.showing [.shown (.line line)])
      exact ⟨fault, _, run.trans (by rw [Terminal.showing_showing])⟩

theorem run_warnings (warnings : List Settings.Warning) (t : Terminal) :
    ∃ u, (warnings.forM fun w => warn w.message).run.run t = (.ok (), u) := by
  induction warnings generalizing t with
  | nil => exact ⟨t, rfl⟩
  | cons w r ih =>
    show ∃ u, ((warn w.message >>= fun _ => r.forM fun w => warn w.message : Act Unit).run.run t) =
      (.ok (), u)
    rw [run_bind]
    exact ih _

theorem run_loadSettings_of_loaded {config : Option Path}
    (loaded : (Settings.load ⟨t.folder, t.environment⟩ (config.map Path.text) []).result =
      .ok settings) :
    ∃ u, (loadSettings config).run.run t = (.ok settings, u) := by
  obtain ⟨u, warned⟩ := run_warnings
    (Settings.load ⟨t.folder, t.environment⟩ (config.map Path.text) []).warnings t
  refine ⟨u, ?_⟩
  unfold loadSettings
  rw [run_bind]
  show ((List.forM _ _ >>= fun _ => orCrash _ _ : Act Settings).run.run t) = _
  rw [run_bind, warned, loaded]
  rfl

theorem run_checkTarget_new {place : Path} (found : t.folder.place c.output = .ok place)
    (free : t.folder.stored? place = none) : (checkTarget c).run.run t = (.ok (), t) := by
  have absent : t.folder.contains c.output = .ok false := by
    rw [Folder.contains, Folder.find?, found]
    simp only [free]
    rfl
  unfold checkTarget
  rw [run_bind]
  show ((orCrash (t.folder.contains c.output) _ >>= _ : Act Unit).run.run t) = _
  rw [absent]
  rfl

/-- The session on the states that are given. -/
def created (c : Creation) (settings : Settings) (text : String) : Session :=
  let session := Session.ofStates settings (splitStates text) c.initial
  if c.layout then arranged session else session

theorem created_holdsStates (some_name : splitStates text ≠ []) :
    (created c settings text).HoldsStates (splitStates text) := by
  have holds := Session.ofStates_holdsStates settings
    (fun _ => Session.isName_of_mem_splitStates) (Session.nodup_splitStates text) some_name
    c.initial
  unfold created
  dsimp only
  split
  · exact holds.layout _ _
  · exact holds

theorem run_machineOf_given (given : c.states = some text) (some_name : splitStates text ≠ [])
    (known : ∀ i ∈ c.initial, i = "" ∨ i ∈ splitStates text) :
    (machineOf c settings).run.run t =
      (.ok (Session.ofStates settings (splitStates text) c.initial), t) := by
  have full : (splitStates text).isEmpty = false := by simpa using some_name
  unfold machineOf
  rw [given]
  unfold givenMachine
  simp only [full, Bool.false_eq_true, if_false]
  have allowed : (!(c.initial.getD "").isEmpty &&
      !(splitStates text).contains (c.initial.getD "")) = false := by
    cases wanted : c.initial with
    | none => rfl
    | some i =>
      rcases known i wanted with rfl | member
      · rfl
      · simp [member]
  rw [allowed]
  rfl

theorem completes_preview {title : String} (h : '[' ∉ title.toList) (body : String)
    (format : Format) : Completes (preview body format title) :=
  completes_bind (completes_put _) fun _ =>
    completes_bind (completes_orCrash (exists_render h) _) fun _ => completes_put _

theorem completes_nextSteps {steps : List String} (h : ∀ s ∈ steps, '[' ∉ s.toList) :
    Completes (nextSteps steps) := by
  have title : render "[bold]Next steps:[/]" = .ok "Next steps:" := by decide +kernel
  refine completes_bind (completes_put _) fun _ => completes_bind (completes_line ⟨_, title⟩)
    fun _ => completes_bind (completes_forM ?_) fun _ => completes_put _
  rintro ⟨step, i⟩ member
  have clear := h step (List.fst_mem_of_mem_zipIdx member)
  have number := (Decimal.isPlain_natText i).no_bracket
  refine completes_line (exists_render ?_)
  simp only [String.toList_append, List.mem_append, not_or]
  exact ⟨⟨⟨by decide, number⟩, by decide⟩, clear⟩

section Writing

variable {path place : Path} {s : Session} {names : List String}

theorem store_new {d : Definition} {content : String} (suffix : path.suffix = ".yaml")
    (found : t.folder.place path = .ok place) (free : t.folder.stored? place = none)
    (written : d.write .yaml = .ok content) : t.folder.store path d =
      .ok ⟨t.folder.entries ++ [(place, .file (Text.encode content))]⟩ := by
  have format : Format.ofSuffix? ".yaml" = some .yaml := by decide
  have text : t.folder.writeText path content =
      .ok ⟨t.folder.entries ++ [(place, .file (Text.encode content))]⟩ := by
    unfold Folder.writeText
    simp only [found, bind, Except.bind, free]
  rw [Folder.store, suffix, format]
  simp only [written, text]

theorem run_storeDefinition_of_stored {d : Definition} {folder : Folder} (hint : Option String)
    (stored : t.folder.store path d = .ok folder) :
    (storeDefinition path d hint).run.run t = (.ok (), { t with folder := folder }) := by
  have here : (get : Act Terminal).run.run t = (.ok t, t) := rfl
  unfold storeDefinition
  rw [run_bind, here]
  simp only [stored]
  rfl

theorem notes_of_holdsStates (holds : s.HoldsStates names) : s.check.warningMessages =
    (names.filter (· != s.definition.initial)).map fun n => (Check.Isolated.mk n).message := by
  rw [Check.warningMessages, holds.warnings, List.map_map]
  rfl

/-- What is said of a definition that has been written. -/
theorem completes_announcement {d : Definition} (clear : '[' ∉ path.text.toList)
    (written : ∀ format, ∃ text, d.write format = .ok text) :
    Completes (do
      success ("Created " ++ path.text)
      let format := if path.suffix == ".json" then Format.json else .yaml
      preview (← orCrash (d.write format) .target) format path.text
      nextSteps ["Check it: " ++ programName ++ " validate " ++ path.text,
        "Inspect the graph: " ++ programName ++ " graph " ++ path.text]) := by
  have said : ∀ front : String, '[' ∉ front.toList → '[' ∉ (front ++ path.text).toList := by
    intro front hf
    simp only [String.toList_append, List.mem_append, not_or]
    exact ⟨hf, clear⟩
  refine completes_bind (completes_line (exists_render_success (said _ (by decide)))) fun _ =>
    completes_bind (completes_orCrash (written _) _) fun text =>
    completes_bind (completes_preview clear text _) fun _ => completes_nextSteps ?_
  simp only [List.forall_mem_cons]
  exact ⟨said _ (by decide), said _ (by decide), List.forall_mem_nil _⟩

/-- The definition is written if all notes can be shown. -/
theorem run_writeMachine (holds : s.HoldsStates names) (suffix : path.suffix = ".yaml")
    (clear : '[' ∉ path.text.toList) (found : t.folder.place path = .ok place)
    (free : t.folder.stored? place = none)
    (noted : ∀ n ∈ names, n ≠ s.definition.initial → Notable n) :
    ∃ u content, (writeMachine path s).run.run t = (.ok (), u) ∧
      s.definition.write .yaml = .ok content ∧
      u.folder = ⟨t.folder.entries ++ [(place, .file (Text.encode content))]⟩ := by
  obtain ⟨content, written⟩ := holds.exists_write .yaml
  have notes : Completes (s.check.warningMessages.forM aside) := by
    rw [notes_of_holdsStates holds]
    refine completes_notes fun n hn => ?_
    obtain ⟨member, other⟩ := List.mem_filter.mp hn
    exact noted n member (by simpa using other)
  obtain ⟨_, first, shown⟩ := notes t
  have stored := store_new (t := t.showing first) suffix found free written
  unfold writeMachine
  rw [run_bind, shown]
  simp only
  rw [run_bind, run_storeDefinition_of_stored _ stored]
  obtain ⟨_, rest, ended⟩ := completes_announcement clear holds.exists_write
    { t.showing first with
      folder := ⟨t.folder.entries ++ [(place, .file (Text.encode content))]⟩ }
  exact ⟨_, content, ended, written, rfl⟩

/-- Nothing is written if a note cannot be shown. -/
theorem run_writeMachine_crash (path : Path) (holds : s.HoldsStates names)
    (silent : ∃ n ∈ names, n ≠ s.definition.initial ∧ ¬ Notable n) :
    ∃ fault outputs, (writeMachine path s).run.run t =
      (.error (.crash (.markup fault)), t.showing outputs) := by
  obtain ⟨n, member, other, silent⟩ := silent
  have kept : n ∈ names.filter (· != s.definition.initial) :=
    List.mem_filter.mpr ⟨member, by simpa using other⟩
  obtain ⟨fault, outputs, run⟩ := run_notes_crash ⟨n, kept, silent⟩ t
  refine ⟨fault, outputs, ?_⟩
  unfold writeMachine
  rw [run_bind, notes_of_holdsStates holds, run]

end Writing

/-- States are given for a file that is new, with a name that shows itself. -/
structure NewFile (t : Terminal) (c : Creation) (settings : Settings) (text : String)
    (place : Path) : Prop where
  given : c.states = some text
  some_name : splitStates text ≠ []
  known : ∀ i ∈ c.initial, i = "" ∨ i ∈ splitStates text
  loaded : (Settings.load ⟨t.folder, t.environment⟩ (c.config.map Path.text) []).result =
    .ok settings
  suffix : c.output.suffix = ".yaml"
  clear : '[' ∉ c.output.text.toList
  found : t.folder.place c.output = .ok place
  free : t.folder.stored? place = none

/-- What comes before the definition is written changes no file. -/
theorem run_createFile {place : Path} (new : NewFile t c settings text place) :
    ∃ u, u.folder = t.folder ∧
      (createFile c).run.run t = (writeMachine c.output (created c settings text)).run.run u := by
  obtain ⟨u, run⟩ := run_loadSettings_of_loaded new.loaded
  have folder : u.folder = t.folder := (run_loadSettings_ok run).2
  let v : Terminal := { u with level := some (settings.shownLevel c.debug) }
  have checked : (checkTarget c).run.run v = (.ok (), v) :=
    run_checkTarget_new (t := v) (folder ▸ new.found) (folder ▸ new.free)
  have machine : (machineOf c settings).run.run v = _ :=
    run_machineOf_given new.given new.some_name new.known
  refine ⟨v, folder, ?_⟩
  unfold createFile
  rw [run_bind, run]
  show ((checkTarget c >>= fun _ => _ : Act Unit).run.run v) = _
  rw [run_bind, checked]
  simp only
  rw [run_bind, machine]
  rfl

end Command

end Statecraft
