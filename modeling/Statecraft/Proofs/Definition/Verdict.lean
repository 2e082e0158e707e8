import Statecraft.Proofs.Definition.Derived
import Statecraft.Proofs.Definition.Loading

/-!
# What a report decides

A document of sound shape writes names (`writtenIn_of_checkShape`), and only these
(`Names.WrittenIn.unique`). The report on it has no errors exactly if they fit together, and its
warnings name each state that nothing leads to, and each that nothing leads away from, once
(`report_decides`).
-/

namespace Statecraft

namespace Document

/-- The value of a key is a text. -/
def HasText (d : Document) (key s : String) : Prop := ∃ e, d.get? key = some e ∧ e.content = .text s

/-- The value is a list of texts. -/
def IsTexts (d : Document) (ss : List String) : Prop :=
  ∃ items, d.content = .list items ∧ items.map content = ss.map .text

variable {d : Document}

theorem HasText.unique {key s t : String} (hs : d.HasText key s) (ht : d.HasText key t) :
    s = t := by
  obtain ⟨e, found, text⟩ := hs
  obtain ⟨_, found', text'⟩ := ht
  obtain rfl := Option.some.inj (found.symm.trans found')
  exact Document.text.inj (text.symm.trans text')

theorem IsTexts.unique {ss ts : List String} (hs : d.IsTexts ss) (ht : d.IsTexts ts) : ss = ts := by
  obtain ⟨items, list, texts⟩ := hs
  obtain ⟨_, list', texts'⟩ := ht
  obtain rfl := Document.list.inj (list.symm.trans list')
  exact List.map_injective_iff.mpr (fun _ _ => Document.text.inj) (texts.symm.trans texts')

end Document

namespace Report

/-- The arrow stands in a document: its sources as one text or as a list, and a guard only if that
is a text with something in it. -/
structure Arrow.WrittenIn (a : Arrow) (d : Document) : Prop where
  sources : ∃ e, d.get? "from" = some e ∧
    ((∃ s, e.content = .text s ∧ a.sources = [s]) ∨ e.IsTexts a.sources)
  event : d.HasText "event" a.event
  target : d.HasText "to" a.target
  guard : ∀ s, a.guard = some s ↔ d.HasText "guard" s ∧ s ≠ ""

/-- The names stand in a document, each arrow in a transition of its own. -/
structure Names.WrittenIn (n : Names) (d : Document) : Prop where
  states : ∃ e, d.get? "states" = some e ∧ e.IsTexts n.states
  initial : d.HasText "initial" n.initial
  arrows : ∃ e items, d.get? "transitions" = some e ∧ e.content = .list items ∧
    List.Forall₂ Arrow.WrittenIn n.arrows items

section Written

variable {d e : Document} {entries : Document.Entries} {key : String} {i : Nat}

theorem get?_of_content (content : d.content = .map entries) (key : String) :
    d.get? key = Document.Entries.get? entries key := by
  simp [Document.get?, content]

theorem content_of_isText (h : isText d = true) : d.content = .text (textOf d) := by
  unfold isText at h
  split at h
  · rename_i s content
    rw [content, textOf, content]
  · cases h

theorem isTexts_of_all {items : List Document} (content : d.content = .list items)
    (h : ∀ x ∈ items, isText x = true) : d.IsTexts (textsOf d) := by
  have texts : textsOf d = items.map textOf := by simp [textsOf, content]
  refine ⟨items, content, ?_⟩
  rw [texts, List.map_map]
  exact List.map_congr_left fun x hx => content_of_isText (h x hx)

theorem hasText_of_checkText {missing wrong : Complaint} (content : d.content = .map entries)
    (h : checkText entries key missing wrong = []) : d.HasText key (textAt d key) := by
  unfold checkText at h
  split at h
  · cases h
  · rename_i given
    split at h
    · rename_i is_text
      obtain ⟨e, found, rfl⟩ := given?_eq_some given
      rw [← get?_of_content content] at found
      refine ⟨e, found, ?_⟩
      rw [textAt, found]
      exact content_of_isText (isText_content e ▸ is_text)
    · cases h

theorem states_of_checkStates (content : d.content = .map entries)
    (h : checkStates entries = []) :
    ∃ e, d.get? "states" = some e ∧ e.IsTexts (((d.get? "states").map textsOf).getD []) := by
  unfold checkStates at h
  split at h
  · cases h
  · cases h
  · rename_i items _ given
    obtain ⟨e, found, list⟩ := given?_eq_some given
    rw [← get?_of_content content] at found
    rw [found]
    refine ⟨e, rfl, isTexts_of_all list fun x hx => ?_⟩
    obtain ⟨i, hi, rfl⟩ := List.getElem_of_mem hx
    simpa using List.flatten_eq_nil_iff.mp h _ (List.mem_mapIdx.mpr ⟨i, hi, rfl⟩)
  · cases h

theorem sources_of_checkOrigin (content : d.content = .map entries)
    (h : checkOrigin i entries = []) :
    ∃ e, d.get? "from" = some e ∧ ((∃ s, e.content = .text s ∧ (Arrow.ofDocument d).sources = [s]) ∨
      e.IsTexts (Arrow.ofDocument d).sources) := by
  unfold checkOrigin at h
  split at h
  · cases h
  · rename_i s given
    obtain ⟨e, found, text⟩ := given?_eq_some given
    rw [← get?_of_content content] at found
    exact ⟨e, found, Or.inl ⟨s, text, by simp [Arrow.ofDocument, found, text]⟩⟩
  · rename_i items given
    obtain ⟨e, found, list⟩ := given?_eq_some given
    rw [← get?_of_content content] at found
    split at h
    · rename_i all
      have texts : (Arrow.ofDocument d).sources = textsOf e := by
        simp [Arrow.ofDocument, found, list, textsOf, Document.content]
      exact ⟨e, found, Or.inr (texts ▸ isTexts_of_all list (List.all_eq_true.mp all))⟩
    · cases h
  · cases h

/-- A guard is read off its text, however the shape is. -/
theorem guard_ofDocument (d : Document) (s : String) :
    (Arrow.ofDocument d).guard = some s ↔ d.HasText "guard" s ∧ s ≠ "" := by
  unfold Document.HasText Arrow.ofDocument
  dsimp only
  cases found : d.get? "guard" with
  | none => simp
  | some e =>
    simp only [Option.map_some, Option.some.injEq, exists_eq_left']
    cases content : e.content with
    | text t =>
      simp only [Document.text.injEq, String.isEmpty_iff]
      by_cases empty : t = ""
      · rw [if_pos empty]
        refine ⟨by simp, ?_⟩
        rintro ⟨same, some_text⟩
        exact absurd (same ▸ empty) some_text
      · rw [if_neg empty, Option.some.injEq]
        exact ⟨fun same => ⟨same, same ▸ empty⟩, And.left⟩
    | null | bool | int | float | date | moment | bytes | set | list | map | shared => simp

theorem writtenIn_of_checkTransition (h : checkTransition i d = []) :
    (Arrow.ofDocument d).WrittenIn d := by
  unfold checkTransition at h
  split at h
  · rename_i entries content
    simp only [List.append_eq_nil_iff] at h
    obtain ⟨⟨⟨origin, event⟩, target⟩, _⟩ := h
    exact ⟨sources_of_checkOrigin content origin, hasText_of_checkText content event,
      hasText_of_checkText content target, guard_ofDocument d⟩
  · cases h

theorem arrows_of_checkTransitions (content : d.content = .map entries)
    (h : checkTransitions entries = []) :
    ∃ e items, d.get? "transitions" = some e ∧ e.content = .list items ∧
      List.Forall₂ Arrow.WrittenIn (Names.ofDocument d).arrows items := by
  unfold checkTransitions at h
  split at h
  · cases h
  · rename_i items given
    obtain ⟨e, found, list⟩ := given?_eq_some given
    rw [← get?_of_content content] at found
    refine ⟨e, items, found, list, ?_⟩
    have arrows : (Names.ofDocument d).arrows = items.map Arrow.ofDocument := by
      simp [Names.ofDocument, found, list]
    rw [arrows, List.forall₂_map_left_iff, List.forall₂_same]
    intro x hx
    obtain ⟨i, hi, rfl⟩ := List.getElem_of_mem hx
    exact writtenIn_of_checkTransition
      (List.flatten_eq_nil_iff.mp h _ (List.mem_mapIdx.mpr ⟨i, hi, rfl⟩))
  · cases h

/-- A document of sound shape writes names. -/
theorem writtenIn_of_checkShape (h : checkShape d = []) : (Names.ofDocument d).WrittenIn d := by
  unfold checkShape at h
  split at h
  · rename_i entries content
    simp only [List.append_eq_nil_iff] at h
    obtain ⟨⟨⟨states, initial⟩, transitions⟩, _⟩ := h
    exact ⟨states_of_checkStates content states, hasText_of_checkText content initial,
      arrows_of_checkTransitions content transitions⟩
  · cases h

theorem Arrow.WrittenIn.unique {a b : Arrow} (ha : a.WrittenIn d) (hb : b.WrittenIn d) : a = b := by
  have sources : a.sources = b.sources := by
    obtain ⟨e, found, from_a⟩ := ha.sources
    obtain ⟨_, found', from_b⟩ := hb.sources
    obtain rfl := Option.some.inj (found.symm.trans found')
    rcases from_a with ⟨s, text, one⟩ | texts <;> rcases from_b with ⟨t, text', one'⟩ | texts'
    · rw [one, one', Document.text.inj (text.symm.trans text')]
    · obtain ⟨_, list, _⟩ := texts'
      cases text.symm.trans list
    · obtain ⟨_, list, _⟩ := texts
      cases list.symm.trans text'
    · exact Document.IsTexts.unique texts texts'
  have event := ha.event.unique hb.event
  have target := ha.target.unique hb.target
  have guard : a.guard = b.guard := Option.ext fun s => (ha.guard s).trans (hb.guard s).symm
  cases a
  cases b
  simp_all only

/-- A document writes the names of one machine only. -/
theorem Names.WrittenIn.unique {m n : Names} (hm : m.WrittenIn d) (hn : n.WrittenIn d) : m = n := by
  have states : m.states = n.states := by
    obtain ⟨e, found, texts⟩ := hm.states
    obtain ⟨_, found', texts'⟩ := hn.states
    obtain rfl := Option.some.inj (found.symm.trans found')
    exact Document.IsTexts.unique texts texts'
  have initial := hm.initial.unique hn.initial
  have arrows : m.arrows = n.arrows := by
    obtain ⟨e, items, found, list, each⟩ := hm.arrows
    obtain ⟨_, _, found', list', each'⟩ := hn.arrows
    obtain rfl := Option.some.inj (found.symm.trans found')
    obtain rfl := Document.list.inj (list.symm.trans list')
    have same : Relator.LeftUnique Arrow.WrittenIn := fun _ _ _ ha hb => ha.unique hb
    exact same.forall₂ each each'
  cases m
  cases n
  simp_all only

end Written

/-! ## Warnings -/

section Warnings

variable {n : Names} {ws : List Complaint}

theorem guardWarnings_cons {i : Nat} {a : Arrow} {r : List Arrow}
    (h : guardWarnings i (a :: r) = .ok ws) : ∃ us vs, guardWarning i a = .ok us ∧
      guardWarnings (i + 1) r = .ok vs ∧ ws = us ++ vs := by
  rw [guardWarnings] at h
  cases first : guardWarning i a with
  | error e => simp [first] at h
  | ok us =>
    cases rest : guardWarnings (i + 1) r with
    | error e => simp [first, rest, Except.map] at h
    | ok vs =>
      simp only [first, rest, Except.map, Except.ok.injEq] at h
      exact ⟨us, vs, rfl, rfl, h.symm⟩

/-- The warning about the guard of an arrow says why it is no guard. -/
theorem mem_guardWarning {a : Arrow} {c : Complaint} {i : Nat} (h : guardWarning i a = .ok ws) :
    c ∈ ws ↔ ∃ s f, a.guard = some s ∧ Guard.Group.ofText s = .error (.failure f) ∧
      c = .unreadableGuard i f := by
  unfold guardWarning at h
  split at h
  · rename_i guard
    obtain rfl := Except.ok.inj h
    simp [guard]
  · rename_i s guard
    split at h
    · rename_i read
      obtain rfl := Except.ok.inj h
      simp [guard, read]
    · rename_i f read
      obtain rfl := Except.ok.inj h
      simp [guard, read]
    · cases h

/-- Warnings about guards are about the arrows in their order, and about nothing else. -/
theorem mem_guardWarnings {arrows : List Arrow} {c : Complaint} {i : Nat}
    (h : guardWarnings i arrows = .ok ws) : c ∈ ws ↔ ∃ j a s f, arrows[j]? = some a ∧
      a.guard = some s ∧ Guard.Group.ofText s = .error (.failure f) ∧
        c = .unreadableGuard (i + j) f := by
  induction arrows generalizing i ws with
  | nil =>
    obtain rfl := Except.ok.inj h
    simp
  | cons a r ih =>
    obtain ⟨us, vs, first, rest, rfl⟩ := guardWarnings_cons h
    rw [List.mem_append, mem_guardWarning first, ih rest]
    constructor
    · rintro (⟨s, f, guard, read, rfl⟩ | ⟨j, b, s, f, found, guard, read, rfl⟩)
      · exact ⟨0, a, s, f, rfl, guard, read, rfl⟩
      · exact ⟨j + 1, b, s, f, found, guard, read, by rw [Nat.add_right_comm, Nat.add_assoc]⟩
    · rintro ⟨_ | j, b, s, f, found, guard, read, rfl⟩
      · obtain rfl := Option.some.inj found
        exact Or.inl ⟨s, f, guard, read, rfl⟩
      · refine Or.inr ⟨j, b, s, f, found, guard, read, ?_⟩
        rw [Nat.add_right_comm, Nat.add_assoc]

theorem count_guardWarnings {arrows : List Arrow} {i : Nat} (h : guardWarnings i arrows = .ok ws)
    {c : Complaint} (other : ∀ j f, c ≠ .unreadableGuard j f) : ws.count c = 0 := by
  rw [List.count_eq_zero]
  intro hc
  obtain ⟨j, a, s, f, _, _, _, same⟩ := (mem_guardWarnings h).mp hc
  exact other (i + j) f same

/-- The warnings on names: about guards, then the states that nothing leads to, then those that
nothing leads away from. -/
theorem warnings_eq (h : n.warnings = .ok ws) : ∃ guards, guardWarnings 0 n.arrows = .ok guards ∧
    ws = guards ++ n.unreachable.map .unreachable ++ n.deadEnds.map .deadEnd := by
  unfold Names.warnings at h
  cases warned : guardWarnings 0 n.arrows with
  | error e => simp [warned, Except.map] at h
  | ok guards =>
    simp only [warned, Except.map, Except.ok.injEq] at h
    exact ⟨guards, rfl, h.symm⟩

theorem mem_unreachable {s : String} : s ∈ n.unreachable ↔
    s ∈ n.states ∧ s ≠ n.initial ∧ ∀ a ∈ n.arrows, a.target ≠ s := by
  simp [Names.unreachable, List.mem_eraseDups]

theorem mem_deadEnds {s : String} : s ∈ n.deadEnds ↔
    s ∈ n.states ∧ ∀ a ∈ n.arrows, s ∉ a.sources := by
  simp [Names.deadEnds, List.mem_eraseDups]

theorem nodup_unreachable (n : Names) : n.unreachable.Nodup := (nodup_eraseDups _).filter _

theorem nodup_deadEnds (n : Names) : n.deadEnds.Nodup := (nodup_eraseDups _).filter _

/-- A state is reported unreachable once, or not at all. -/
theorem count_unreachable (h : n.warnings = .ok ws) (s : String) : ws.count (.unreachable s) =
    if s ∈ n.states ∧ s ≠ n.initial ∧ ∀ a ∈ n.arrows, a.target ≠ s then 1 else 0 := by
  obtain ⟨guards, warned, rfl⟩ := warnings_eq h
  have no_guard : guards.count (.unreachable s) = 0 := count_guardWarnings warned (by simp)
  have no_end : (n.deadEnds.map Complaint.deadEnd).count (.unreachable s) = 0 := by
    simp [List.count_eq_zero]
  have once : (n.unreachable.map Complaint.unreachable).count (.unreachable s) =
      n.unreachable.count s :=
    List.count_map_of_injective _ _ (fun _ _ => Complaint.unreachable.inj) _
  rw [List.count_append, List.count_append, no_guard, no_end, once, (nodup_unreachable n).count]
  simp only [mem_unreachable, Nat.zero_add, Nat.add_zero]

/-- A state is reported as a dead end once, or not at all. -/
theorem count_deadEnd (h : n.warnings = .ok ws) (s : String) : ws.count (.deadEnd s) =
    if s ∈ n.states ∧ ∀ a ∈ n.arrows, s ∉ a.sources then 1 else 0 := by
  obtain ⟨guards, warned, rfl⟩ := warnings_eq h
  have no_guard : guards.count (.deadEnd s) = 0 := count_guardWarnings warned (by simp)
  have no_start : (n.unreachable.map Complaint.unreachable).count (.deadEnd s) = 0 := by
    simp [List.count_eq_zero]
  have once : (n.deadEnds.map Complaint.deadEnd).count (.deadEnd s) = n.deadEnds.count s :=
    List.count_map_of_injective _ _ (fun _ _ => Complaint.deadEnd.inj) _
  rw [List.count_append, List.count_append, no_guard, no_start, once, (nodup_deadEnds n).count]
  simp only [mem_deadEnds, Nat.zero_add]

end Warnings

/-- **A report on a document of sound shape decides whether its names fit together.** Its errors
are none exactly if the initial state is declared, the declared states are distinct, all ends of
transitions are declared, and transitions with one event and target have one guard; and it names,
once each, the states but the initial one that no transition leads to and those that no transition
starts from. -/
theorem report_decides {d : Document} (sound : checkShape d = []) :
    ∃ n : Names, (∀ m : Names, m.WrittenIn d ↔ m = n) ∧
      ((∀ a ∈ n.arrows, ∀ text, a.guard = some text → Guard.HasShortIntegers text) →
        ∃ r, ofDocument d = .ok r ∧ (r.errors = [] ↔ n.Fit) ∧
          (∀ s, r.warnings.count (.unreachable s) =
            if s ∈ n.states ∧ s ≠ n.initial ∧ ∀ a ∈ n.arrows, a.target ≠ s then 1 else 0) ∧
          ∀ s, r.warnings.count (.deadEnd s) =
            if s ∈ n.states ∧ ∀ a ∈ n.arrows, s ∉ a.sources then 1 else 0) := by
  have written := writtenIn_of_checkShape sound
  refine ⟨Names.ofDocument d, fun m => ⟨fun h => h.unique written, fun h => h ▸ written⟩, ?_⟩
  intro short
  obtain ⟨guards, warned⟩ := guardWarnings_ok short 0
  obtain ⟨ws, warnings⟩ : ∃ ws, (Names.ofDocument d).warnings = .ok ws := by
    unfold Names.warnings
    rw [warned]
    exact ⟨_, rfl⟩
  have reported : ofDocument d = .ok ⟨(Names.ofDocument d).errors, ws⟩ := by
    unfold ofDocument
    rw [sound]
    simp only [warnings, Except.map]
  exact ⟨_, reported, errors_eq_nil_iff _, count_unreachable warnings, count_deadEnd warnings⟩

/-- A machine with a repeated state, a source that is undeclared and a guard that differs from an
earlier one. Nothing leads to its last state or away from it. -/
def astray : Document :=
  .objectOf [("states", some (.texts ["a", "b", "a", "c"])), ("initial", some (.text "a")),
    ("transitions", some (.list [
      .objectOf [("from", some (.texts ["a", "d"])), ("event", some (.text "go")),
        ("to", some (.text "b")), ("guard", some (.text "ctx.x > 10"))],
      .objectOf [("from", some (.text "b")), ("event", some (.text "go")),
        ("to", some (.text "b")), ("guard", some (.text ""))]]))]

theorem report_decides_astray : checkShape astray = [] ∧
    ∃ (n : Names) (r : Report), n.WrittenIn astray ∧
      (∀ a ∈ n.arrows, ∀ text, a.guard = some text → Guard.HasShortIntegers text) ∧
      ofDocument astray = .ok r ∧ r.errors ≠ [] ∧ ¬ n.Fit ∧
      r.warnings.count (.unreachable "c") = 1 ∧ r.warnings.count (.deadEnd "c") = 1 ∧
      r.warnings.count (.unreachable "a") = 0 := by
  have sound : checkShape astray = [] := by decide +kernel
  obtain ⟨n, only, decides⟩ := report_decides sound
  obtain rfl : Names.ofDocument astray = n := (only _).mp (writtenIn_of_checkShape sound)
  have short : ∀ a ∈ (Names.ofDocument astray).arrows, ∀ text ∈ a.guard,
      Guard.HasShortIntegers text := by decide +kernel
  obtain ⟨r, reported, fits, unreachable, ends⟩ := decides short
  have misfit : ¬ (Names.ofDocument astray).Fit := by
    rw [← errors_eq_nil_iff]
    decide +kernel
  refine ⟨sound, _, r, (only _).mpr rfl, short, reported, mt fits.mp misfit, misfit, ?_, ?_, ?_⟩
  · rw [unreachable]
    decide +kernel
  · rw [ends]
    decide +kernel
  · rw [unreachable]
    decide +kernel

end Report

end Statecraft
