import Statecraft.Command.Validate
import Statecraft.Proofs.Shape.Checked

/-!
# Loading what was reported valid

A report looks at the same keys that loading reads, but not at the keys of the annotations. So a
document that is reported valid is a definition exactly if these keys are texts
(`loads_iff_named`), and a single key of another kind makes a validation crash
(`valid_but_not_loaded`).
-/

namespace Statecraft

open Shape (Checked)

namespace Document

/-- A value without its wrappers has none. -/
theorem content_content (d : Document) : d.content.content = d.content := by
  match d with
  | .shared _ d => exact content_content d
  | .null | .bool _ | .int _ | .float _ | .text _ | .date _ | .moment _ | .bytes _ | .set _
  | .list _ | .map _ => rfl

/-- The keys of the annotations in a document of a definition. -/
def annotationKeys (d : Document) : List Document :=
  match (d.get? "meta").map content with
  | some (.map entries) => entries.map (·.1)
  | _ => []

end Document

namespace Report

variable {entries : Document.Entries} {key : String} {d e : Document} {i : Nat}

theorem given?_eq_some (h : given? entries key = some d) :
    ∃ e, Document.Entries.get? entries key = some e ∧ e.content = d := by
  unfold given? at h
  obtain ⟨e, found, kept⟩ := Option.bind_eq_some_iff.mp h
  refine ⟨e, found, ?_⟩
  split at kept
  · cases kept
  · exact Option.some.inj kept

theorem given?_eq_none (h : given? entries key = none) :
    Document.Entries.get? entries key = none ∨
      ∃ e, Document.Entries.get? entries key = some e ∧ e.content = .null := by
  unfold given? at h
  cases found : Document.Entries.get? entries key with
  | none => exact Or.inl rfl
  | some e =>
    refine Or.inr ⟨e, rfl, ?_⟩
    rw [found, Option.bind_some] at h
    split at h
    · assumption
    · cases h

theorem isText_content (d : Document) : isText d.content = isText d := by
  unfold isText
  rw [Document.content_content]

theorem text_isOk (h : isText d = true) : (Shape.text d).IsOk := by
  unfold isText at h
  unfold Shape.text
  split at h
  · rename_i s content
    rw [content]
    exact ⟨s, rfl⟩
  · cases h

theorem texts_isOk {items : List Document} (content : d.content = .list items)
    (h : ∀ x ∈ items, isText x = true) : (Shape.texts d).IsOk := by
  have list : Shape.list d = .ok items := by simp [Shape.list, content]
  rw [Shape.texts, list]
  exact Checked.isOk_items.mpr fun x hx => text_isOk (h x hx)

/-- A text that is there is what is required. -/
theorem text_of_checkText {missing wrong : Complaint}
    (h : checkText entries key missing wrong = []) :
    ∃ e, Document.Entries.get? entries key = some e ∧ (Shape.text e).IsOk := by
  unfold checkText at h
  split at h
  · cases h
  · rename_i given
    split at h
    · rename_i is_text
      obtain ⟨e, found, rfl⟩ := given?_eq_some given
      exact ⟨e, found, text_isOk (isText_content e ▸ is_text)⟩
    · cases h

theorem texts_of_checkStates (h : checkStates entries = []) :
    ∃ e, Document.Entries.get? entries "states" = some e ∧ (Shape.texts e).IsOk := by
  unfold checkStates at h
  split at h
  · cases h
  · cases h
  · rename_i items _ given
    obtain ⟨e, found, content⟩ := given?_eq_some given
    refine ⟨e, found, texts_isOk content fun x hx => ?_⟩
    obtain ⟨i, hi, rfl⟩ := List.getElem_of_mem hx
    simpa using List.flatten_eq_nil_iff.mp h _ (List.mem_mapIdx.mpr ⟨i, hi, rfl⟩)
  · cases h

theorem origin_of_checkOrigin (h : checkOrigin i entries = []) :
    ∃ e, Document.Entries.get? entries "from" = some e ∧ (Origin.ofDocument e).IsOk := by
  unfold checkOrigin at h
  split at h
  · cases h
  · rename_i s given
    obtain ⟨e, found, content⟩ := given?_eq_some given
    have text : Shape.text e = .ok s := by simp [Shape.text, content]
    exact ⟨e, found, .one s, by rw [Origin.ofDocument, text]⟩
  · rename_i items given
    obtain ⟨e, found, content⟩ := given?_eq_some given
    have no_text : Shape.text e = .bad [⟨[], .notText⟩] := by
      simp [Shape.text, content, Checked.fail]
    split at h
    · rename_i all
      obtain ⟨ss, texts⟩ := texts_isOk content (List.all_eq_true.mp all)
      exact ⟨e, found, .many ss, by rw [Origin.ofDocument, no_text, texts]⟩
    · cases h
  · cases h

theorem guard_of_checkGuard (h : checkGuard i entries = []) :
    (Shape.optional entries "guard" none guardOfDocument).IsOk := by
  unfold Shape.optional
  unfold checkGuard at h
  split at h
  · rename_i absent
    rcases given?_eq_none absent with none | ⟨e, found, content⟩
    · rw [none]
      exact Checked.isOk_ok _
    · rw [found]
      exact Checked.isOk_atKey.mpr ⟨none, by simp [guardOfDocument, content]⟩
  · rename_i given
    obtain ⟨e, found, rfl⟩ := given?_eq_some given
    split at h
    · rename_i is_text
      rw [found]
      apply Checked.isOk_atKey.mpr
      unfold guardOfDocument
      split
      · exact Checked.isOk_ok _
      · exact Checked.isOk_map.mpr (text_isOk is_text)
    · cases h

/-- A transition without complaints is loaded. -/
theorem transition_of_checkTransition (h : checkTransition i d = []) :
    (Transition.ofDocument d).IsOk := by
  unfold checkTransition at h
  split at h
  · rename_i entries content
    simp only [List.append_eq_nil_iff] at h
    obtain ⟨⟨⟨origin, event⟩, target⟩, guard⟩ := h
    obtain ⟨o, from_, origin⟩ := origin_of_checkOrigin origin
    obtain ⟨ev, event_, event⟩ := text_of_checkText event
    obtain ⟨tg, to_, target⟩ := text_of_checkText target
    have guard := guard_of_checkGuard guard
    have record : Shape.record "TransitionSpec" d = .ok entries := by
      simp [Shape.record, content]
    rw [Transition.ofDocument, record]
    simp only [Checked.andThen_ok, Checked.isOk_both, requiredAs, Shape.required, from_, event_,
      to_, Checked.isOk_atKey]
    exact ⟨⟨⟨origin, event⟩, target⟩, guard⟩
  · cases h

theorem transitions_of_checkTransitions (h : checkTransitions entries = []) :
    ∃ e, Document.Entries.get? entries "transitions" = some e ∧
      ((Shape.list e).andThen (Checked.items Transition.ofDocument)).IsOk := by
  unfold checkTransitions at h
  split at h
  · cases h
  · rename_i items given
    obtain ⟨e, found, content⟩ := given?_eq_some given
    have list : Shape.list e = .ok items := by simp [Shape.list, content]
    refine ⟨e, found, ?_⟩
    rw [list]
    refine Checked.isOk_items.mpr fun x hx => ?_
    obtain ⟨i, hi, rfl⟩ := List.getElem_of_mem hx
    exact transition_of_checkTransition
      (List.flatten_eq_nil_iff.mp h _ (List.mem_mapIdx.mpr ⟨i, hi, rfl⟩))
  · cases h

/-- Annotations without complaints are loaded if their keys are texts. -/
theorem annotations_of_checkAnnotations (content : d.content = .map entries)
    (h : checkAnnotations entries = []) :
    (Shape.optional entries "meta" [] Annotations.ofDocument).IsOk ↔
      ∀ k ∈ d.annotationKeys, (Shape.text k).IsOk := by
  have get : d.get? "meta" = Document.Entries.get? entries "meta" := by
    simp [Document.get?, content]
  unfold Shape.optional Document.annotationKeys
  rw [get]
  unfold checkAnnotations at h
  split at h
  · rename_i absent
    rcases given?_eq_none absent with none | ⟨e, found, null⟩
    · simp [none, Checked.isOk_ok]
    · simp [found, null, Annotations.ofDocument, Checked.isOk_ok]
  · rename_i es given
    obtain ⟨e, found, map⟩ := given?_eq_some given
    rw [found]
    simp only [Option.map_some, map, Annotations.ofDocument, Checked.isOk_atKey, Checked.isOk_map,
      Checked.isOk_all, List.forall_mem_map, Checked.isOk_within]
  · cases h

/-- A document of sound shape is loaded exactly if the keys of its annotations are texts. -/
theorem isOk_of_checkShape (h : checkShape d = []) :
    (Definition.ofDocument d).IsOk ↔ ∀ k ∈ d.annotationKeys, (Shape.text k).IsOk := by
  unfold checkShape at h
  split at h
  · rename_i entries content
    simp only [List.append_eq_nil_iff] at h
    obtain ⟨⟨⟨states, initial⟩, transitions⟩, annotations⟩ := h
    obtain ⟨_, states_, states⟩ := texts_of_checkStates states
    obtain ⟨_, initial_, initial⟩ := text_of_checkText initial
    obtain ⟨_, transitions_, transitions⟩ := transitions_of_checkTransitions transitions
    have record : Shape.record "MachineDefinition" d = .ok entries := by
      simp [Shape.record, content]
    have loaded : (Shape.optional entries "transitions" [] fun d =>
        (Shape.list d).andThen (Checked.items Transition.ofDocument)).IsOk :=
      Shape.optional_isOk transitions_ transitions
    rw [← annotations_of_checkAnnotations content annotations, Definition.ofDocument, record]
    simp only [Checked.andThen_ok, Checked.isOk_both, Shape.optional_isOk states_ states,
      Shape.optional_isOk initial_ initial, loaded, true_and]
  · cases h

/-- A document that is reported valid is of sound shape. -/
theorem checkShape_of_valid {r : Report} (h : Report.ofDocument d = .ok r)
    (valid : r.isValid = true) : checkShape d = [] := by
  unfold ofDocument at h
  split at h
  · assumption
  · rename_i complaints some_complaint
    obtain rfl := Except.ok.inj h
    exact absurd (List.isEmpty_iff.mp valid) some_complaint

end Report

namespace Command

open Console

/-- Warnings about lost guards do not stop a command. -/
theorem run_warnLost (ds : List Bundle.Divergence) (t : Terminal) :
    ∃ t', (warnLost ds).run.run t = (.ok (), t') := by
  induction ds generalizing t with
  | nil => exact ⟨t, rfl⟩
  | cons d r ih => exact ih _

variable {d : Document} {r : Report}

/-- In a document that is reported valid and that is loaded, something is found. -/
theorem run_findingsOf_ok (h : Report.ofDocument d = .ok r) (valid : r.isValid = true)
    {m : Definition} (loaded : Definition.ofDocument d = .ok m) (t : Terminal) :
    ∃ f, ((findingsOf d).run.run t).1 = .ok f := by
  unfold findingsOf
  simp only [h, orCrash, pure_bind, valid, if_true, loaded, Checked.toExcept]
  obtain ⟨t', warned⟩ := run_warnLost (m.toGraph ⟨none, Layout.Grid.default, positionsKey⟩).2 t
  simp only [ExceptT.run_bind, StateT.run_bind, warned]
  exact ⟨_, rfl⟩

/-- A document that is reported valid and that is not loaded makes the validation crash. -/
theorem run_findingsOf_bad (h : Report.ofDocument d = .ok r) (valid : r.isValid = true)
    {issues : List Shape.Issue} (bad : Definition.ofDocument d = .bad issues) (t : Terminal) :
    ((findingsOf d).run.run t).1 = .error (.crash (.shape issues)) := by
  unfold findingsOf
  simp only [h, orCrash, pure_bind, valid, if_true, bad, Checked.toExcept]
  rfl

end Command

namespace Report

open Command (findingsOf)

/-- **A document that is reported valid is loaded exactly if the keys of its annotations are
texts.** Otherwise its validation crashes. -/
theorem loads_iff_named {r : Report} (h : Report.ofDocument d = .ok r) (valid : r.isValid = true)
    (t : Console.Terminal) :
    ((∃ m, Definition.ofDocument d = .ok m) ↔ ∀ k ∈ d.annotationKeys, (Shape.text k).IsOk) ∧
    ((∃ f, ((findingsOf d).run.run t).1 = .ok f) ↔
      ∀ k ∈ d.annotationKeys, (Shape.text k).IsOk) ∧
    ((∃ issues, ((findingsOf d).run.run t).1 = .error (.crash (.shape issues))) ↔
      ∃ k ∈ d.annotationKeys, ¬ (Shape.text k).IsOk) := by
  have loads : (∃ m, Definition.ofDocument d = .ok m) ↔
      ∀ k ∈ d.annotationKeys, (Shape.text k).IsOk :=
    isOk_of_checkShape (checkShape_of_valid h valid)
  refine ⟨loads, ?_⟩
  have some_key : (∃ k ∈ d.annotationKeys, ¬ (Shape.text k).IsOk) ↔
      ¬ ∃ m, Definition.ofDocument d = .ok m := by
    rw [loads]
    simp only [Classical.not_forall, exists_prop]
  rw [some_key, ← loads]
  cases loaded : Definition.ofDocument d with
  | ok m =>
    obtain ⟨f, found⟩ := Command.run_findingsOf_ok h valid loaded t
    simp [found]
  | bad issues => simp [Command.run_findingsOf_bad h valid loaded t]

end Report

/-- The document of a definition with a single annotation. -/
def Document.annotated (key : Document) : Document :=
  .objectOf [("states", some (.texts ["a"])), ("initial", some (.text "a")),
    ("transitions", some (.list [.objectOf [("from", some (.text "a")),
      ("event", some (.text "go")), ("to", some (.text "a"))]])),
    ("meta", some (.map [(key, .text "x")]))]

namespace Report

open Command (findingsOf)

/-- At a terminal at which nothing has happened, an annotation under a text. -/
theorem loads_iff_named_owner :
    let d := Document.annotated (.text "owner")
    let r : Report := ⟨[], []⟩
    let t := Console.Terminal.start ⟨[]⟩ [] none
    Report.ofDocument d = .ok r ∧ r.isValid = true ∧
    ((∃ m, Definition.ofDocument d = .ok m) ↔ ∀ k ∈ d.annotationKeys, (Shape.text k).IsOk) ∧
    ((∃ f, ((findingsOf d).run.run t).1 = .ok f) ↔
      ∀ k ∈ d.annotationKeys, (Shape.text k).IsOk) ∧
    ((∃ issues, ((findingsOf d).run.run t).1 = .error (.crash (.shape issues))) ↔
      ∃ k ∈ d.annotationKeys, ¬ (Shape.text k).IsOk) := by
  have reported : Report.ofDocument (.annotated (.text "owner")) = .ok ⟨[], []⟩ := by rfl
  exact ⟨reported, rfl, loads_iff_named reported rfl _⟩

/-- An annotation under a number is reported valid, but it is not loaded. -/
theorem valid_but_not_loaded :
    let d := Document.annotated (.int 1)
    Report.ofDocument d = .ok ⟨[], []⟩ ∧
    (⟨[], []⟩ : Report).isValid = true ∧
    Definition.ofDocument d = .bad [⟨[.key "meta", .index 1, .key "[key]"], .notText⟩] ∧
    ∀ t, ((findingsOf d).run.run t).1 =
      .error (.crash (.shape [⟨[.key "meta", .index 1, .key "[key]"], .notText⟩])) := by
  have reported : Report.ofDocument (.annotated (.int 1)) = .ok ⟨[], []⟩ := by rfl
  have bad : Definition.ofDocument (.annotated (.int 1)) =
      .bad [⟨[.key "meta", .index 1, .key "[key]"], .notText⟩] := by rfl
  exact ⟨reported, rfl, bad, Command.run_findingsOf_bad reported rfl bad⟩

end Report

end Statecraft
