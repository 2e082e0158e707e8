import Statecraft.Proofs.Console.Show
import Statecraft.Proofs.Session.Rounds

/-!
# The machine that was told

Answers tell a machine (`Tells`): names until some are given, the initial state, and transitions as
long as more are wanted, of which those are left out that lack a source, an event or a known target.
The relation reads answers only; it knows neither graphs nor edits, and it reads them in one way
(`Tells.unique`). Main statement: `askMachine_builds`, a wizard that comes to its end has built the
machine that its answers tell.
-/

namespace Statecraft

open Console

namespace Command

/-! ## What answers tell -/

/-- The state names in answers, and the answers behind them. A list without names is passed over. -/
inductive NamesTold : List Answer → List String → List Answer → Prop
  | blank {text : String} {answers rest : List Answer} {names : List String} :
      splitStates text = [] → NamesTold answers names rest →
      NamesTold (.text text :: answers) names rest
  | told {text : String} {rest : List Answer} :
      splitStates text ≠ [] → NamesTold (.text text :: rest) (splitStates text) rest

/-- A guard in answers. A text that is no guard is kept only if that is agreed to. -/
inductive GuardTold : List Answer → Option String → List Answer → Prop
  | blank {text : String} {rest : List Answer} :
      Text.strip text = "" → GuardTold (.text text :: rest) none rest
  | read {text : String} {rest : List Answer} {g : Guard.Group} :
      Text.strip text ≠ "" → Guard.Group.ofText (Text.strip text) = .ok g →
      GuardTold (.text text :: rest) (some (Text.strip text)) rest
  | unread {text : String} {a : Answer} {rest : List Answer} {f : Guard.Failure} :
      Text.strip text ≠ "" → Guard.Group.ofText (Text.strip text) = .error (.failure f) →
      GuardTold (.text text :: a :: rest)
        (if a.agrees then some (Text.strip text) else none) rest

/-- A transition in answers about given states, or none if something is missing. -/
inductive TransitionTold (states : List String) :
    List Answer → Option Edge → List Answer → Prop
  | unpicked {a : Answer} {rest : List Answer} :
      a.picked states = [] → TransitionTold states (a :: rest) none rest
  | unnamed {a b : Answer} {text : String} {rest : List Answer} :
      a.picked states ≠ [] → Text.strip text = "" →
      TransitionTold states (a :: b :: .text text :: rest) none rest
  | unknown {a b : Answer} {text : String} {answers rest : List Answer} {guard : Option String} :
      a.picked states ≠ [] → Text.strip text ≠ "" → GuardTold answers guard rest →
      b.choice ∉ states → TransitionTold states (a :: b :: .text text :: answers) none rest
  | told {a b : Answer} {text : String} {answers rest : List Answer} {guard : Option String} :
      a.picked states ≠ [] → Text.strip text ≠ "" → GuardTold answers guard rest →
      b.choice ∈ states → TransitionTold states (a :: b :: .text text :: answers)
        (some ⟨b.choice, Text.strip text, guard, a.picked states⟩) rest

/-- The transitions in answers, until no more are wanted. -/
inductive TransitionsTold (states : List String) : List Answer → List Edge → List Answer → Prop
  | done {a : Answer} {rest : List Answer} :
      a.agrees = false → TransitionsTold states (a :: rest) [] rest
  | more {a : Answer} {answers between rest : List Answer} {told : Option Edge}
      {others : List Edge} :
      a.agrees = true → TransitionTold states answers told between →
      TransitionsTold states between others rest →
      TransitionsTold states (a :: answers) (told.toList ++ others) rest

/-- A machine as it is told, with the answers that are left. -/
structure Account where
  names : List String
  initial : String
  transitions : List Edge
  rest : List Answer

/-- The answers tell a machine. -/
inductive Tells : List Answer → Account → Prop
  | of {answers between rest : List Answer} {a : Answer} {names : List String}
      {transitions : List Edge} :
      NamesTold answers names (a :: between) →
      TransitionsTold names between transitions rest →
      Tells answers ⟨names, a.choice, transitions, rest⟩

section Unique

variable {answers : List Answer} {rest rest' : List Answer}

theorem NamesTold.unique {names names' : List String} (h : NamesTold answers names rest)
    (h' : NamesTold answers names' rest') : names = names' ∧ rest = rest' := by
  induction h with
  | blank none _ ih =>
    cases h' with
    | blank _ told => exact ih told
    | told some_name => exact absurd none some_name
  | told some_name =>
    cases h' with
    | blank none _ => exact absurd none some_name
    | told _ => exact ⟨rfl, rfl⟩

theorem GuardTold.unique {guard guard' : Option String} (h : GuardTold answers guard rest)
    (h' : GuardTold answers guard' rest') : guard = guard' ∧ rest = rest' := by
  cases h with
  | blank none =>
    cases h' with
    | blank _ => exact ⟨rfl, rfl⟩
    | read full _ | unread full _ => exact absurd none full
  | read full read =>
    cases h' with
    | blank none => exact absurd none full
    | read _ _ => exact ⟨rfl, rfl⟩
    | unread _ failed => cases read.symm.trans failed
  | unread full failed =>
    cases h' with
    | blank none => exact absurd none full
    | read _ read => cases read.symm.trans failed
    | unread _ _ => exact ⟨rfl, rfl⟩

theorem TransitionTold.unique {states : List String} {told told' : Option Edge}
    (h : TransitionTold states answers told rest) (h' : TransitionTold states answers told' rest') :
    told = told' ∧ rest = rest' := by
  cases h with
  | unpicked none =>
    cases h' with
    | unpicked _ => exact ⟨rfl, rfl⟩
    | unnamed some_source _ | unknown some_source _ _ _ | told some_source _ _ _ =>
      exact absurd none some_source
  | unnamed some_source none =>
    cases h' with
    | unpicked none => exact absurd none some_source
    | unnamed _ _ => exact ⟨rfl, rfl⟩
    | unknown _ named _ _ | told _ named _ _ => exact absurd none named
  | unknown some_source named guard missing =>
    cases h' with
    | unpicked none => exact absurd none some_source
    | unnamed _ none => exact absurd none named
    | unknown _ _ guard' _ => exact ⟨rfl, (guard.unique guard').2⟩
    | told _ _ _ known => exact absurd known missing
  | told some_source named guard known =>
    cases h' with
    | unpicked none => exact absurd none some_source
    | unnamed _ none => exact absurd none named
    | unknown _ _ _ missing => exact absurd known missing
    | told _ _ guard' _ =>
      obtain ⟨rfl, rfl⟩ := guard.unique guard'
      exact ⟨rfl, rfl⟩

theorem TransitionsTold.unique {states : List String} {told told' : List Edge}
    (h : TransitionsTold states answers told rest)
    (h' : TransitionsTold states answers told' rest') : told = told' ∧ rest = rest' := by
  induction h generalizing told' with
  | done no =>
    cases h' with
    | done _ => exact ⟨rfl, rfl⟩
    | more yes _ _ => cases no.symm.trans yes
  | more yes one _ ih =>
    cases h' with
    | done no => cases no.symm.trans yes
    | more _ one' others =>
      obtain ⟨rfl, rfl⟩ := one.unique one'
      obtain ⟨rfl, rfl⟩ := ih others
      exact ⟨rfl, rfl⟩

/-- Answers tell one machine at most. -/
theorem Tells.unique {m m' : Account} (h : Tells answers m) (h' : Tells answers m') : m = m' := by
  obtain ⟨names, transitions⟩ := h
  obtain ⟨names', transitions'⟩ := h'
  obtain ⟨rfl, same⟩ := names.unique names'
  obtain ⟨rfl, rfl⟩ := List.cons.inj same
  obtain ⟨rfl, rfl⟩ := transitions.unique transitions'
  rfl

end Unique

/-! ## Runs of the wizard -/

/-- The session shows the transitions that were told so far, between the nodes that it began
with. -/
structure Built (nodes : List Node) (told : List Edge) (s : Session) : Prop where
  nodes_eq : s.graph.nodes = nodes
  wellFormed : s.graph.WellFormed
  gathered : Edge.Gathered told s.graph.edges

section Runs

variable {t t' : Terminal} {nodes : List Node} {told : List Edge} {s s' : Session}

theorem run_askStates_ok {fuel : Nat} {names : List String}
    (h : (askStates fuel).run.run t = (.ok names, t')) :
    ∃ answers rest, t.answers = some answers ∧ t'.answers = some rest ∧
      NamesTold answers names rest := by
  induction fuel generalizing t with
  | zero => cases h
  | succ fuel ih =>
    obtain ⟨text, u, asked, h⟩ := run_bind_ok h
    obtain ⟨rest, before, after⟩ := run_askText_ok asked
    dsimp only at h
    split at h
    · rename_i none
      obtain ⟨_, v, warned, h⟩ := run_bind_ok h
      obtain ⟨answers, left, before', after', names⟩ := ih h
      rw [(onlyShows_caution _).answers_eq warned, after, Option.some.injEq] at before'
      subst before'
      exact ⟨_, left, before, after', .blank (List.isEmpty_iff.mp none) names⟩
    · rename_i some_name
      cases h
      exact ⟨_, rest, before, after, .told (by simpa using some_name)⟩

theorem run_askGuard_ok {guard : String} (h : askGuard.run.run t = (.ok guard, t')) :
    (∃ answers rest, t.answers = some answers ∧ t'.answers = some rest ∧
      GuardTold answers (if guard.isEmpty then none else some guard) rest) ∧
    Text.isBlankText guard = guard.isEmpty := by
  obtain ⟨text, u, asked, h⟩ := run_bind_ok h
  obtain ⟨rest, before, after⟩ := run_askText_ok asked
  have trimmed := Text.isBlankText_strip text
  dsimp only at h
  split at h
  · rename_i blank
    cases h
    rw [if_pos blank]
    exact ⟨⟨_, rest, before, after, .blank (String.isEmpty_iff.mp blank)⟩, trimmed⟩
  · rename_i full
    have named : Text.strip text ≠ "" := fun blank => full (String.isEmpty_iff.mpr blank)
    split at h
    · cases h
    · rename_i g read
      cases h
      rw [if_neg full]
      exact ⟨⟨_, rest, before, after, .read named read⟩, trimmed⟩
    · rename_i f failed
      obtain ⟨_, v, warned, h⟩ := run_bind_ok h
      obtain ⟨keep, w, confirmed, h⟩ := run_bind_ok h
      obtain ⟨a, left, before', after', agreed⟩ := run_confirm_ok confirmed
      rw [(onlyShows_caution _).answers_eq warned, after, Option.some.injEq] at before'
      subst before'
      have told : GuardTold (.text text :: a :: left) _ left := .unread named failed
      rw [agreed] at told
      cases keep with
      | true =>
        cases h
        rw [if_neg full]
        exact ⟨⟨_, left, before, after', told⟩, trimmed⟩
      | false =>
        cases h
        exact ⟨⟨_, left, before, after', told⟩, rfl⟩

theorem Built.nodeIds_eq (h : Built nodes told s) : s.graph.nodeIds = nodes.map Node.label := by
  rw [← h.wellFormed.labels_eq_ids, h.nodes_eq]

/-- A transition between known states is built. -/
theorem Built.connectAll (h : Built nodes told s) {sources : List String}
    {target event guard : String} (some_source : sources ≠ [])
    (offered : sources.Sublist (nodes.map Node.label)) (known : target ∈ nodes.map Node.label)
    (named : event ≠ "") (trimmed : Text.isBlankText guard = guard.isEmpty) :
    ∃ next, connectAll s sources target event guard = some next ∧
      Built nodes
        (told ++ [⟨target, event, if guard.isEmpty then none else some guard, sources⟩]) next := by
  have distinct : sources.Nodup := offered.nodup (h.nodeIds_eq ▸ h.wellFormed.ids_distinct)
  rw [← h.nodeIds_eq] at offered known
  have stored : Edge.HasStoredGuard
      ⟨target, event, if guard.isEmpty then none else some guard, sources⟩ := by
    show guardText? (if guard.isEmpty then none else some guard) = _
    split
    · rfl
    · rename_i full
      simp [guardText?, Option.filter, trimmed, full]
  obtain ⟨source, others, rfl⟩ := List.exists_cons_of_ne_nil some_source
  refine ⟨_, connectAll_eq h.wellFormed distinct offered.subset known named trimmed, ?_⟩
  exact ⟨h.nodes_eq,
    h.wellFormed.insert ⟨some_source, distinct, known, offered.subset, stored⟩,
    h.gathered.insert stored⟩

/-- **A transition that is told is built**, and one that lacks something changes nothing. -/
theorem Built.run_askTransition_ok (h : Built nodes told s)
    (run : (askTransition s).run.run t = (.ok s', t')) :
    ∃ answers next rest, t.answers = some answers ∧ t'.answers = some rest ∧
      TransitionTold (nodes.map Node.label) answers next rest ∧
      Built nodes (told ++ next.toList) s' := by
  have unchanged : Built nodes (told ++ Option.toList none) s := by simpa using h
  obtain ⟨sources, u, picked, run⟩ := run_bind_ok run
  obtain ⟨a, r, before, after, rfl⟩ := run_checkbox_ok picked
  rw [h.nodes_eq] at run
  split at run
  · rename_i no_source
    obtain ⟨_, v, warned, run⟩ := run_bind_ok run
    cases run
    rw [(onlyShows_caution _).answers_eq warned]
    exact ⟨_, _, r, before, after, .unpicked (List.isEmpty_iff.mp no_source), unchanged⟩
  · rename_i some_source
    have some_source : a.picked (nodes.map Node.label) ≠ [] := by simpa using some_source
    obtain ⟨target, v, selected, run⟩ := run_bind_ok run
    obtain ⟨b, r₂, before₂, after₂, rfl⟩ := run_select_ok selected
    obtain rfl := Option.some.inj (after.symm.trans before₂)
    obtain ⟨text, w, asked, run⟩ := run_bind_ok run
    obtain ⟨r₃, before₃, after₃⟩ := run_askText_ok asked
    obtain rfl := Option.some.inj (after₂.symm.trans before₃)
    dsimp only at run
    split at run
    · rename_i no_event
      obtain ⟨_, x, warned, run⟩ := run_bind_ok run
      cases run
      rw [(onlyShows_caution _).answers_eq warned]
      exact ⟨_, _, r₃, before, after₃, .unnamed some_source (String.isEmpty_iff.mp no_event),
        unchanged⟩
    · rename_i some_event
      have named : Text.strip text ≠ "" := fun none => some_event (String.isEmpty_iff.mpr none)
      obtain ⟨guard, x, guarded, run⟩ := run_bind_ok run
      obtain ⟨⟨_, r₄, before₄, after₄, guard_told⟩, trimmed⟩ := run_askGuard_ok guarded
      obtain rfl := Option.some.inj (after₃.symm.trans before₄)
      by_cases known : b.choice ∈ nodes.map Node.label
      · obtain ⟨next, connected, built⟩ := h.connectAll some_source (a.picked_sublist _) known
          named trimmed
        rw [connected] at run
        obtain ⟨_, y, shown, run⟩ := run_bind_ok run
        cases run
        rw [(onlyShows_success _).answers_eq shown]
        exact ⟨_, some _, r₄, before, after₄, .told some_source named guard_told known, built⟩
      · rw [connectAll_unknown h.wellFormed (h.nodeIds_eq ▸ known)] at run
        obtain ⟨_, y, warned, run⟩ := run_bind_ok run
        cases run
        rw [(onlyShows_caution _).answers_eq warned]
        exact ⟨_, _, r₄, before, after₄, .unknown some_source named guard_told known, unchanged⟩

/-- **The transitions that are told are built**, one after the other. -/
theorem Built.run_askTransitions_ok {fuel : Nat} (h : Built nodes told s)
    (run : (askTransitions fuel s).run.run t = (.ok s', t')) :
    ∃ answers others rest, t.answers = some answers ∧ t'.answers = some rest ∧
      TransitionsTold (nodes.map Node.label) answers others rest ∧
      Built nodes (told ++ others) s' := by
  induction fuel generalizing t told s with
  | zero => cases run
  | succ fuel ih =>
    obtain ⟨more, u, confirmed, run⟩ := run_bind_ok run
    obtain ⟨a, r, before, after, agreed⟩ := run_confirm_ok confirmed
    cases more with
    | false =>
      cases run
      exact ⟨_, [], r, before, after, .done agreed, by simpa using h⟩
    | true =>
      obtain ⟨next, v, asked, run⟩ := run_bind_ok run
      obtain ⟨_, one, r₂, before₂, after₂, one_told, built⟩ := h.run_askTransition_ok asked
      obtain rfl := Option.some.inj (after.symm.trans before₂)
      obtain ⟨_, others, r₃, before₃, after₃, others_told, built'⟩ := ih built run
      obtain rfl := Option.some.inj (after₂.symm.trans before₃)
      exact ⟨_, _, r₃, before, after₃, .more agreed one_told others_told,
        by simpa using built'⟩

theorem NamesTold.names_eq {answers rest : List Answer} {names : List String}
    (h : NamesTold answers names rest) : ∃ text, names = splitStates text := by
  induction h with
  | blank _ _ ih => exact ih
  | told _ => exact ⟨_, rfl⟩

/-- The wizard asks for names, for the initial state and then for transitions. -/
theorem run_askMachine_ok {settings : Settings}
    (run : (askMachine settings).run.run t = (.ok s, t')) :
    ∃ answers names a between u fuel, t.answers = some answers ∧
      NamesTold answers names (a :: between) ∧ u.answers = some between ∧
      (askTransitions fuel (Session.ofStates settings names (some a.choice))).run.run u =
        (.ok s, t') := by
  obtain ⟨_, u₁, shown, run⟩ := run_bind_ok run
  have answers₁ := onlyShows_banner.answers_eq shown
  obtain ⟨_, u₂, shown, run⟩ := run_bind_ok run
  have answers₂ := ((onlyShows_heading _ _ _).answers_eq shown).trans answers₁
  obtain ⟨_, u₃, shown, run⟩ := run_bind_ok run
  have answers₃ := (onlyShows_answersLeft.answers_eq shown).trans answers₂
  obtain ⟨names, u₄, asked, run⟩ := run_bind_ok run
  obtain ⟨answers, r, before, after, names_told⟩ := run_askStates_ok asked
  obtain ⟨_, u₅, shown, run⟩ := run_bind_ok run
  have answers₅ := ((onlyShows_heading _ _ _).answers_eq shown).trans after
  obtain ⟨_, u₆, selected, run⟩ := run_bind_ok run
  obtain ⟨a, between, before₂, after₂, rfl⟩ := run_select_ok selected
  obtain rfl := Option.some.inj (answers₅.symm.trans before₂)
  obtain ⟨_, u₇, shown, run⟩ := run_bind_ok run
  have answers₇ := ((onlyShows_heading _ _ _).answers_eq shown).trans after₂
  obtain ⟨_, u₈, shown, run⟩ := run_bind_ok run
  have answers₈ := (onlyShows_answersLeft.answers_eq shown).trans answers₇
  exact ⟨answers, names, a, between, u₈, _, answers₃.symm.trans before, names_told, answers₈, run⟩

/-- **The wizard builds the machine that it is told.** If it comes to its end, its answers tell one
machine: the definition has the names that were told as its states, the initial state that was
told, if it is one of them, and a move for each source of each transition that was told. The guard
of an event and a target is the first one told for them. -/
theorem askMachine_builds {settings : Settings}
    (run : (askMachine settings).run.run t = (.ok s, t')) :
    ∃ answers m, t.answers = some answers ∧ t'.answers = some m.rest ∧
      (∀ n, Tells answers n ↔ n = m) ∧
      s.definition.states = m.names ∧ (m.initial ∈ m.names → s.definition.initial = m.initial) ∧
      (∀ source event target guard, s.definition.Moves source event target guard ↔
        (∃ e ∈ m.transitions, e.key = (event, target) ∧ source ∈ e.sources) ∧
          guard = Edge.firstGuard m.transitions (event, target)) ∧
      (s.definition.transitions.map Transition.key).Nodup := by
  obtain ⟨answers, names, a, between, u, fuel, before, names_told, middle, run⟩ :=
    run_askMachine_ok run
  obtain ⟨text, rfl⟩ := names_told.names_eq
  obtain ⟨wellFormed, labels, edges, -, initial⟩ := Session.ofStates_spec settings
    (fun _ => Session.isName_of_mem_splitStates) (Session.nodup_splitStates text) a.choice
  have fresh : Built _ [] (Session.ofStates settings (splitStates text) (some a.choice)) :=
    ⟨rfl, wellFormed, edges ▸ .nil⟩
  obtain ⟨_, told, rest, before', after, transitions, built⟩ := fresh.run_askTransitions_ok run
  obtain rfl := Option.some.inj (middle.symm.trans before')
  rw [labels] at transitions
  have tells : Tells answers ⟨splitStates text, a.choice, told, rest⟩ := .of names_told transitions
  refine ⟨answers, _, before, after, fun n => ⟨fun h => h.unique tells, fun h => h ▸ tells⟩,
    ?_, fun offered => ?_, fun source event target guard => ?_, ?_⟩
  · show s.graph.nodes.map Node.label = _
    rw [built.nodes_eq, labels]
  · show s.graph.initial = _
    rw [← initial offered, Graph.initial, built.nodes_eq]
    rfl
  · exact Session.definition_of_gathered built.wellFormed (by simpa using built.gathered) _ _ _ _
  · have keys : s.definition.transitions = s.graph.edges.map Edge.toTransition :=
      built.wellFormed.transitions_eq
    rw [keys, List.map_map]
    exact built.wellFormed.keys_distinct

end Runs

/-- Answers that give no names at first, add a source to a transition under another guard, and pick
no source once. -/
def dictation : List Answer :=
  [.text " ,", .text "a, b,,a ", .text "b",
    .flag true, .picks ["a"], .text "b", .text "go", .text "ctx.x > 1",
    .flag true, .picks [],
    .flag true, .picks ["b"], .text "b", .text " go ", .text "ctx.y",
    .flag false]

theorem GuardTold.of_isOk {text : String} (trimmed : Text.strip text = text) (full : text ≠ "")
    (readable : (Guard.Group.ofText text).isOk = true) (rest : List Answer) :
    GuardTold (.text text :: rest) (some text) rest := by
  cases read : Guard.Group.ofText text with
  | error e =>
    rw [read] at readable
    cases readable
  | ok g =>
    rw [← trimmed] at full read
    conv => arg 2; rw [← trimmed]
    exact .read full read

theorem tells_dictation : Tells dictation
    ⟨["a", "b"], "b", [⟨"b", "go", some "ctx.x > 1", ["a"]⟩, ⟨"b", "go", some "ctx.y", ["b"]⟩],
      []⟩ := by
  have names : splitStates "a, b,,a " = ["a", "b"] := by decide +kernel
  have event : Text.strip "go" = "go" ∧ Text.strip " go " = "go" := by decide +kernel
  have named : NamesTold dictation ["a", "b"] (dictation.drop 2) := by
    refine .blank (by decide +kernel) ?_
    conv => arg 2; rw [← names]
    exact .told (by rw [names]; decide)
  have first : TransitionTold ["a", "b"] (dictation.drop 4)
      (some ⟨"b", Text.strip "go", some "ctx.x > 1", ["a"]⟩) (dictation.drop 8) :=
    .told (by decide) (by rw [event.1]; decide)
      (.of_isOk (by decide +kernel) (by decide) (by decide +kernel) _) (by decide)
  have second : TransitionTold ["a", "b"] (dictation.drop 11)
      (some ⟨"b", Text.strip " go ", some "ctx.y", ["b"]⟩) (dictation.drop 15) :=
    .told (by decide) (by rw [event.2]; decide)
      (.of_isOk (by decide +kernel) (by decide) (by decide +kernel) _) (by decide)
  rw [event.1] at first
  rw [event.2] at second
  exact .of named
    (.more rfl first (.more rfl (.unpicked (by decide)) (.more rfl second (.done rfl))))

theorem askMachine_builds_dictation : ∃ s t',
    (askMachine .default).run.run (.start ⟨[]⟩ [] (some dictation)) = (.ok s, t') ∧
    t'.answers = some [] ∧ s.definition.states = ["a", "b"] ∧ s.definition.initial = "b" ∧
    s.definition.Moves "a" "go" "b" (some "ctx.x > 1") ∧
    s.definition.Moves "b" "go" "b" (some "ctx.x > 1") ∧
    ¬ s.definition.Moves "b" "go" "b" (some "ctx.y") := by
  have ends : (match (askMachine .default).run.run (.start ⟨[]⟩ [] (some dictation)) with
      | (.ok _, _) => true
      | _ => false) = true := by decide +kernel
  split at ends
  · rename_i s t' run
    obtain ⟨answers, m, before, after, tells, states, initial, moves, -⟩ := askMachine_builds run
    obtain rfl := Option.some.inj before
    obtain rfl := (tells _).mp tells_dictation
    refine ⟨s, t', run, after, states, initial (by decide), ?_, ?_, ?_⟩
    · exact (moves _ _ _ _).mpr ⟨by decide, by decide⟩
    · exact (moves _ _ _ _).mpr ⟨by decide, by decide⟩
    · exact fun h => absurd ((moves _ _ _ _).mp h).2 (by decide)
  · cases ends

end Command

end Statecraft
