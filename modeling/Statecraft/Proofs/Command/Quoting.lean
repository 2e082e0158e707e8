import Statecraft.Proofs.Command.Create
import Statecraft.Proofs.Guard.Overlong

/-!
# Given texts in messages

Messages are markup, and what they quote of a guard's text or name of the states they are about
stands in them as it was given. So a tag in such a text is not shown, and one that cannot be closed
crashes the command (`run_given_text`).
-/

namespace Statecraft.Command

open Console

section Guards

variable {text : String} {t : Terminal}

/-- A refusal shows what the markup of its message shows, and crashes if that is nothing. -/
theorem run_refuse_eq {α : Type} (message : String) (t : Terminal) :
    (refuse message : Act α).run.run t =
      match renderFrom [] 12 message.toList with
      | .ok shown => (.error (.exit 1), t.showing [.shown (.line ("  ✗ " ++ String.ofList shown))])
      | .error fault => (.error (.crash (.markup fault)), t) := by
  unfold refuse Console.failure
  simp only [run_bind, run_line, render_failure]
  cases renderFrom [] 12 message.toList <;> rfl

theorem renderFrom_refusal (s : List Char) :
    renderFrom [] 12 ("Cannot parse guard: ".toList ++ s) =
      (renderFrom [] 32 s).map ("Cannot parse guard: ".toList ++ ·) := by
  have apart : ∀ x, seen ("Cannot parse guard: ".toList ++ x) =
      "Cannot parse guard: ".toList ++ seen x := by
    intro x
    have words : IsPlain "Cannot parse guard".toList := by decide
    show seen ("Cannot parse guard".toList ++ (':' :: ' ' :: x)) = _
    rw [seen_append (by decide) (by decide), words.seen_eq, seen_colon_blank]
    rfl
  have alone : seen "Cannot parse guard: ".toList = "Cannot parse guard: ".toList := by
    have none := apart []
    rwa [seen_nil, List.append_nil] at none
  rw [renderFrom_text ⟨by decide, by decide⟩ (by rw [alone]; exact apart), alone]
  rfl

/-- **How a guard's text is answered**: with its tree, or with a refusal, in which the text cited
counts as markup. -/
theorem run_showTree (short : ¬ Guard.Overlong text) (t : Terminal) :
    (∃ g tree, Guard.Group.ofText text = .ok g ∧ treeStyle.write g.toDocument = .ok tree ∧
      (showTree text).run.run t =
        (.ok (), t.showing [.text (String.ofList (withoutCodes tree.toList) ++ "\n")])) ∨
    ∃ f, Guard.Group.ofText text = .error (.failure f) ∧
      (showTree text).run.run t =
        match renderFrom [] 32 f.text.toList with
        | .ok shown => (.error (.exit 1),
            t.showing [.shown (.line ("  ✗ Cannot parse guard: " ++ String.ofList shown))])
        | .error fault => (.error (.crash (.markup fault)), t) := by
  unfold showTree
  rcases (Guard.Group.answers_iff text).mpr short with ⟨g, read⟩ | ⟨f, read⟩
  · obtain ⟨tree, written⟩ := Guard.Group.exists_write_ofText read treeStyle
    refine Or.inl ⟨g, tree, read, written, ?_⟩
    rw [read]
    simp only
    rw [written]
    rfl
  · refine Or.inr ⟨f, read, ?_⟩
    rw [read]
    refine (run_refuse_eq ("Cannot parse guard: " ++ f.text) t).trans ?_
    rw [String.toList_append, renderFrom_refusal]
    cases renderFrom [] 32 f.text.toList with
    | error fault => rfl
    | ok shown =>
      have joined : "  ✗ " ++ String.ofList ("Cannot parse guard: ".toList ++ shown) =
          "  ✗ Cannot parse guard: " ++ String.ofList shown := by
        rw [String.ofList_append, String.ofList_toList, ← String.append_assoc]
        rfl
      simp only [Except.map, joined]

/-- A guard's text without brackets and colons is refused in so many words. -/
theorem renderFrom_text_of_unmarked {f : Guard.Failure} (unmarked : IsUnmarked text.toList)
    (refused : Guard.Group.ofText text = .error (.failure f)) :
    renderFrom [] 32 f.text.toList = .ok f.text.toList := by
  have cites := (Guard.Group.cites_of_ofText refused).mono fun s within =>
    (⟨fun hs => unmarked.1 (within.subset hs), fun hs => unmarked.2 (within.subset hs)⟩ :
      IsUnmarked s)
  exact renderFrom_plain (Guard.Failure.isPlain_text cites)

end Guards

section Runs

variable {t : Terminal} {arguments : List String}

/-- A run that is asked for a command ends as the command does. -/
theorem run_of_request {command : Command}
    (asks : Request.ofArguments t.folder arguments = .ok (.command command)) :
    run t arguments = match (perform command).run.run t with
      | (.ok (), u) => (.done, u)
      | (.error (.exit code), u) => (.exit code, u)
      | (.error (.crash fault), u) => (.crash fault, u) := by
  unfold run
  rw [asks]
  rfl

theorem run_parseGuard {text : String}
    (asks : Request.ofArguments t.folder arguments = .ok (.command (.parseGuard text)))
    (short : ¬ Guard.Overlong text) :
    (∃ g tree, Guard.Group.ofText text = .ok g ∧ treeStyle.write g.toDocument = .ok tree ∧
      run t arguments =
        (.done, t.showing [.text (String.ofList (withoutCodes tree.toList) ++ "\n")])) ∨
    ∃ f, Guard.Group.ofText text = .error (.failure f) ∧
      run t arguments = match renderFrom [] 32 f.text.toList with
        | .ok shown => (.exit 1,
            t.showing [.shown (.line ("  ✗ Cannot parse guard: " ++ String.ofList shown))])
        | .error fault => (.crash (.markup fault), t) := by
  rcases run_showTree short t with ⟨g, tree, read, written, ended⟩ | ⟨f, read, ended⟩
  · refine Or.inl ⟨g, tree, read, written, ?_⟩
    have performed : (perform (.parseGuard text)).run.run t = _ := ended
    rw [run_of_request asks, performed]
  · refine Or.inr ⟨f, read, ?_⟩
    have performed : (perform (.parseGuard text)).run.run t = _ := ended
    rw [run_of_request asks, performed]
    cases renderFrom [] 32 f.text.toList <;> rfl

/-- A new file is written, unless there is a state that a note cannot name. -/
theorem run_create {c : Creation} {settings : Settings} {text : String} {place : Path}
    (asks : Request.ofArguments t.folder arguments = .ok (.command (.create c)))
    (new : NewFile t c settings text place) :
    let d := (created c settings text).definition
    d.states = splitStates text ∧
    ((∀ n ∈ d.states, n ≠ d.initial → Notable n) → ∃ u content, run t arguments = (.done, u) ∧
      d.write .yaml = .ok content ∧
      u.folder = ⟨t.folder.entries ++ [(place, .file (Text.encode content))]⟩) ∧
    ((∃ n ∈ d.states, n ≠ d.initial ∧ ¬ Notable n) → ∃ fault u,
      run t arguments = (.crash (.markup fault), u) ∧ u.folder = t.folder) := by
  intro d
  have holds : (created c settings text).HoldsStates (splitStates text) :=
    created_holdsStates new.some_name
  obtain ⟨u, folder, started⟩ := run_createFile new
  have performed : (perform (.create c)).run.run t = _ := started
  have states : d.states = splitStates text := holds.states_eq
  rw [run_of_request asks, performed, states]
  refine ⟨rfl, fun noted => ?_, fun silent => ?_⟩
  · obtain ⟨v, content, ended, written, stored⟩ := run_writeMachine (t := u) holds new.suffix
      new.clear (folder ▸ new.found) (folder ▸ new.free) noted
    rw [ended]
    exact ⟨v, content, rfl, written, folder ▸ stored⟩
  · obtain ⟨fault, outputs, ended⟩ := run_writeMachine_crash (t := u) c.output holds silent
    rw [ended]
    exact ⟨fault, _, rfl, folder⟩

/-- **Given text counts as markup.** A guard's text is answered with its tree, or with a refusal
that shows what the markup of its message shows; where that is nothing, the run crashes. Without
brackets and colons in the text the refusal is shown word for word. A new file of states is written,
unless there is a note about one of them that cannot be shown; then the run crashes and the folder
stays as it was. Names without brackets can always be shown. -/
theorem run_given_text (t : Terminal) (arguments : List String) :
    (∀ text, Request.ofArguments t.folder arguments = .ok (.command (.parseGuard text)) →
      ¬ Guard.Overlong text →
      (∃ g tree, Guard.Group.ofText text = .ok g ∧ treeStyle.write g.toDocument = .ok tree ∧
        run t arguments =
          (.done, t.showing [.text (String.ofList (withoutCodes tree.toList) ++ "\n")])) ∨
      ∃ f, Guard.Group.ofText text = .error (.failure f) ∧
        (run t arguments = match renderFrom [] 32 f.text.toList with
          | .ok shown => (.exit 1,
              t.showing [.shown (.line ("  ✗ Cannot parse guard: " ++ String.ofList shown))])
          | .error fault => (.crash (.markup fault), t)) ∧
        (IsUnmarked text.toList → renderFrom [] 32 f.text.toList = .ok f.text.toList)) ∧
    ∀ c settings text place, Request.ofArguments t.folder arguments = .ok (.command (.create c)) →
      NewFile t c settings text place →
      let d := (created c settings text).definition
      d.states = splitStates text ∧
      ((∀ n ∈ d.states, n ≠ d.initial → Notable n) → ∃ u content, run t arguments = (.done, u) ∧
        d.write .yaml = .ok content ∧
        u.folder = ⟨t.folder.entries ++ [(place, .file (Text.encode content))]⟩) ∧
      ((∃ n ∈ d.states, n ≠ d.initial ∧ ¬ Notable n) → ∃ fault u,
        run t arguments = (.crash (.markup fault), u) ∧ u.folder = t.folder) ∧
      ('[' ∉ text.toList → ∀ n ∈ d.states, Notable n) := by
  refine ⟨fun text asks short => ?_, fun c settings text place asks new => ?_⟩
  · rcases run_parseGuard asks short with answered | ⟨f, refused, ended⟩
    · exact Or.inl answered
    · exact Or.inr ⟨f, refused, ended, fun unmarked => renderFrom_text_of_unmarked unmarked refused⟩
  · obtain ⟨states, noted, silent⟩ := run_create asks new
    exact ⟨states, noted, silent,
      fun clear n hn => notable_of_mem_splitStates clear (states ▸ hn)⟩

/-- A file of two states. -/
def twoStates : Creation := ⟨Path.ofText "m.yaml", some "a,b", none, false, true, none, false⟩

theorem exists_newFile_twoStates : ∃ settings,
    NewFile (.start ⟨[]⟩ [] none) twoStates settings "a,b" ⟨"", ["m.yaml"]⟩ := by
  have loads : (match (Settings.load ⟨⟨[]⟩, []⟩ none []).result with
      | .ok _ => true
      | .error _ => false) = true := by decide +kernel
  split at loads
  · rename_i settings loaded
    exact ⟨settings, rfl, by decide +kernel, by simp [twoStates], loaded, by decide +kernel,
      by decide +kernel, by decide +kernel, by decide +kernel⟩
  · cases loads

theorem ofText_twoFields : Guard.Group.ofText "ctx.a x" =
    .error (.failure ⟨.unexpectedToken ['x'], 6⟩) := by
  have check : (match Guard.Group.ofText "ctx.a x" with
      | .error (.failure f) => f == ⟨.unexpectedToken ['x'], 6⟩
      | _ => false) = true := by decide +kernel
  split at check
  · rename_i f refused
    rw [refused, beq_iff_eq.mp check]
  · cases check

/-- Words without a meaning in markup: a refusal, and a new file. -/
theorem run_given_text_words :
    let t := Terminal.start ⟨[]⟩ [] none
    run t ["guard", "parse", "ctx.a x"] = (.exit 1, t.showing
      [.shown (.line "  ✗ Cannot parse guard: unexpected 'x' (at column 7)")]) ∧
    ∃ u content, run t ["new", "--states", "a,b", "--output", "m.yaml"] = (.done, u) ∧
      u.folder = ⟨[(⟨"", ["m.yaml"]⟩, .file (Text.encode content))]⟩ := by
  intro t
  have parse : Request.ofArguments t.folder ["guard", "parse", "ctx.a x"] =
      .ok (.command (.parseGuard "ctx.a x")) := by decide +kernel
  have create : Request.ofArguments t.folder ["new", "--states", "a,b", "--output", "m.yaml"] =
      .ok (.command (.create twoStates)) := by decide +kernel
  have short : ¬ Guard.Overlong "ctx.a x" :=
    (Guard.Group.answers_iff _).mp (Or.inr ⟨_, ofText_twoFields⟩)
  obtain ⟨settings, new⟩ := exists_newFile_twoStates
  constructor
  · rcases (run_given_text t _).1 _ parse short with ⟨g, tree, read, _⟩ | ⟨f, refused, ended, plain⟩
    · cases ofText_twoFields.symm.trans read
    · cases ofText_twoFields.symm.trans refused
      rw [ended, plain ⟨by decide, by decide⟩]
      rfl
  · obtain ⟨_, written, _, clear⟩ := (run_given_text t _).2 _ _ _ _ create new
    obtain ⟨u, content, ended, _, stored⟩ := written fun n hn _ => clear (by decide) n hn
    exact ⟨u, content, ended, stored⟩

/-- A closing tag in a guard's text, or in the name of a state, crashes the run; an opening one is
not shown. -/
theorem tags_not_shown :
    let t := Terminal.start ⟨[]⟩ [] none
    (run t ["guard", "parse", "ctx.a [/x]"]).1 = .crash (.markup (.unmatched "/x" 44)) ∧
    (run t ["guard", "parse", "ctx.a [x]"]).2.outputs =
      [.shown (.line "  ✗ Cannot parse guard: unexpected '' (at column 7)")] ∧
    (run t ["new", "--states", "a,[/x]", "--output", "m.yaml"]).1 =
      .crash (.markup (.unmatched "/x" 16)) ∧
    (run t ["new", "--states", "a,[/x]", "--output", "m.yaml"]).2.folder.entries = [] := by
  refine ⟨?_, ?_, ?_, ?_⟩ <;> decide +kernel

end Runs

end Statecraft.Command
