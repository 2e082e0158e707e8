import Statecraft.Proofs.Definition.Answers
import Statecraft.Proofs.Definition.ReadBack
import Statecraft.Proofs.Definition.Verdict

/-!
# Reports before and after reading

What is read of a document is its names, but for guards that are blank (`Definition.names_eq`). A
blank guard counts as a guard in the report on the document only. So the reports on a document and
on the definition that it is read as are the same exactly if the document has no such guard
(`Report.alike_iff`).
-/

namespace Statecraft

namespace Shape

variable {α β γ : Type}

/-- Items that are each read as what they show. -/
theorem Checked.items_reads {check : α → Checked β} {f : β → γ} {g : α → γ} {xs : List α}
    (h : ∀ x ∈ xs, ∃ y, check x = .ok y ∧ f y = g x) :
    ∃ ys, items check xs = .ok ys ∧ ys.map f = xs.map g := by
  choose read reads shows using h
  have all : items check (xs.attach.map Subtype.val) =
      .ok (xs.attach.map fun x => read x.1 x.2) := items_ok fun x _ => reads x.1 x.2
  rw [List.attach_map_subtype_val] at all
  refine ⟨_, all, ?_⟩
  rw [List.map_map]
  conv_rhs => rw [← List.attach_map_subtype_val xs, List.map_map]
  exact List.map_congr_left fun x _ => shows x.1 x.2

theorem texts_of_isTexts {d : Document} {ss : List String} (h : d.IsTexts ss) :
    texts d = .ok ss := by
  obtain ⟨items, content, same⟩ := h
  have each : ∀ x ∈ items, ∃ s, text x = .ok s ∧ Document.text s = x.content := by
    intro x hx
    have mem := List.mem_map_of_mem (f := Document.content) hx
    rw [same] at mem
    obtain ⟨s, _, is_text⟩ := List.mem_map.mp mem
    exact ⟨s, by simp [text, ← is_text], is_text⟩
  obtain ⟨ys, read, shown⟩ := Checked.items_reads each
  obtain rfl : ys = ss :=
    List.map_injective_iff.mpr (fun _ _ => Document.text.inj) (shown.trans same)
  have list : list d = .ok items := by simp [list, content]
  rw [texts, list]
  exact read

end Shape

open Shape (Checked)

/-- What is written as one text or as a list is read as an origin with the same states. -/
theorem Origin.ofDocument_of_written {d : Document} {ss : List String}
    (h : (∃ s, d.content = .text s ∧ ss = [s]) ∨ d.IsTexts ss) :
    ∃ o, ofDocument d = .ok o ∧ o.states = ss := by
  unfold ofDocument
  rcases h with ⟨s, content, rfl⟩ | list
  · have text : Shape.text d = .ok s := by simp [Shape.text, content]
    exact ⟨.one s, by rw [text], rfl⟩
  · have no_text : Shape.text d = .bad [⟨[], .notText⟩] := by
      obtain ⟨items, content, _⟩ := list
      simp [Shape.text, content, Checked.fail]
    exact ⟨.many ss, by rw [no_text, Shape.texts_of_isTexts list], rfl⟩

namespace Report

/-- The arrow as it is stored: a blank guard is none. -/
def Arrow.stored (a : Arrow) : Arrow := { a with guard := guardText? a.guard }

/-- The names with the arrows as they are stored. -/
def Names.stored (n : Names) : Names := { n with arrows := n.arrows.map Arrow.stored }

/-- There is a guard that is blank, though not empty. -/
def Names.HasBlankGuard (n : Names) : Prop :=
  ∃ a ∈ n.arrows, ∃ s, a.guard = some s ∧ Text.isBlankText s = true

section Reading

variable {d : Document} {entries : Document.Entries} {i : Nat}

theorem guardText?_of_empty {s : String} (h : s = "") : guardText? (some s) = none := by
  simp [guardText?, h, Text.isBlankText]

/-- A guard of sound shape is read as the arrow has it, but for one that is blank. -/
theorem read_guard (content : d.content = .map entries) (h : checkGuard i entries = []) :
    ∃ g, Shape.optional entries "guard" none guardOfDocument = .ok g ∧
      guardText? g = (Arrow.ofDocument d).stored.guard := by
  have get := get?_of_content content "guard"
  unfold checkGuard at h
  split at h
  · rename_i absent
    refine ⟨none, ?_⟩
    rcases given?_eq_none absent with none | ⟨e, found, null⟩
    · rw [Shape.optional, none]
      simp [Arrow.stored, Arrow.ofDocument, get, none]
    · rw [Shape.optional_ok found (a := none) (by simp [guardOfDocument, null])]
      simp [Arrow.stored, Arrow.ofDocument, get, found, null]
  · rename_i given
    obtain ⟨e, found, rfl⟩ := given?_eq_some given
    split at h
    · rename_i is_text
      rw [isText_content] at is_text
      have text := content_of_isText is_text
      refine ⟨some (textOf e), Shape.optional_ok found ?_, ?_⟩
      · simp [guardOfDocument, Shape.text, text, Document.content, Checked.map]
      · simp only [Arrow.stored, Arrow.ofDocument, get, found, Option.map_some, text,
          String.isEmpty_iff]
        split
        · rename_i empty
          rw [guardText?_of_empty empty]
          rfl
        · rfl
    · cases h

/-- A transition of sound shape is read as the arrow that it shows. -/
theorem read_transition (h : checkTransition i d = []) :
    ∃ t, Transition.ofDocument d = .ok t ∧
      Arrow.ofTransition t = (Arrow.ofDocument d).stored := by
  obtain ⟨⟨from_, found_from, written⟩, ⟨event_, found_event, event⟩, ⟨to_, found_to, target⟩, _⟩
    := writtenIn_of_checkTransition h
  unfold checkTransition at h
  split at h
  · rename_i entries content
    obtain ⟨g, guard, stored⟩ := read_guard content (List.append_eq_nil_iff.mp h).2
    obtain ⟨o, origin, sources⟩ := Origin.ofDocument_of_written written
    rw [get?_of_content content] at found_from found_event found_to
    have record : Shape.record "TransitionSpec" d = .ok entries := by
      simp [Shape.record, content]
    have event : Shape.required entries "event" Shape.text = .ok (Arrow.ofDocument d).event :=
      Shape.required_ok found_event (by simp [Shape.text, event])
    have origin : requiredAs entries "from" "source" Origin.ofDocument = .ok o := by
      rw [requiredAs, found_from]
      simp only [origin]
      rfl
    have target : requiredAs entries "to" "target" Shape.text = .ok (Arrow.ofDocument d).target := by
      rw [requiredAs, found_to]
      simp only [Shape.text, target]
      rfl
    refine ⟨.of o (Arrow.ofDocument d).event (Arrow.ofDocument d).target g, ?_, ?_⟩
    · rw [Transition.ofDocument, record]
      show Checked.both _ (Checked.both _ (Checked.both _ _ _) _) _ = _
      rw [origin, event, target, guard]
      rfl
    · show (⟨o.states, _, _, guardText? g⟩ : Arrow) = _
      rw [sources, stored]
      rfl
  · cases h

end Reading

end Report

namespace Definition

open Report (Names Arrow)

variable {doc : Document} {d : Definition}

/-- The transitions of a document of sound shape are read as its arrows. -/
theorem read_transitions {entries : Document.Entries} {ts : List Transition}
    (content : doc.content = .map entries) (checked : Report.checkTransitions entries = [])
    (read : Shape.optional entries "transitions" []
      (fun d => (Shape.list d).andThen (Checked.items Transition.ofDocument)) = .ok ts) :
    ts.map Arrow.ofTransition = (Names.ofDocument doc).arrows.map Arrow.stored := by
  unfold Report.checkTransitions at checked
  split at checked
  · cases checked
  · rename_i items given
    obtain ⟨e, found, list⟩ := Report.given?_eq_some given
    have each : ∀ x ∈ items, ∃ t, Transition.ofDocument x = .ok t ∧
        Arrow.ofTransition t = (Arrow.ofDocument x).stored := by
      intro x hx
      obtain ⟨i, hi, rfl⟩ := List.getElem_of_mem hx
      exact Report.read_transition
        (List.flatten_eq_nil_iff.mp checked _ (List.mem_mapIdx.mpr ⟨i, hi, rfl⟩))
    obtain ⟨us, reads, shown⟩ := Checked.items_reads each
    have listed : (Shape.list e).andThen (Checked.items Transition.ofDocument) = .ok us := by
      simp [Shape.list, list, reads]
    rw [Shape.optional_ok found listed] at read
    obtain rfl := Checked.ok.inj read
    have arrows : (Names.ofDocument doc).arrows = items.map Arrow.ofDocument := by
      simp [Names.ofDocument, Report.get?_of_content content, found, list]
    rw [arrows, List.map_map]
    exact shown
  · cases checked

/-- A document of sound shape is read as a definition with its names, but for blank guards. -/
theorem names_eq (sound : Report.checkShape doc = []) (read : ofDocument doc = .ok d) :
    d.names = (Names.ofDocument doc).stored := by
  obtain ⟨entries, content, states, initial, transitions, _⟩ := ofDocument_ok_iff.mp read
  obtain ⟨⟨states_, found_states, texts⟩, ⟨initial_, found_initial, text⟩, _⟩ :=
    Report.writtenIn_of_checkShape sound
  rw [Report.get?_of_content content] at found_states found_initial
  rw [Shape.optional_ok found_states (Shape.texts_of_isTexts texts)] at states
  have initial_read : Shape.text initial_ = .ok (Names.ofDocument doc).initial := by
    simp [Shape.text, text]
  rw [Shape.optional_ok found_initial initial_read] at initial
  unfold Report.checkShape at sound
  rw [content] at sound
  simp only [List.append_eq_nil_iff] at sound
  have arrows := read_transitions content sound.1.2 transitions
  rw [Names.stored, ← arrows, names, ← Checked.ok.inj states, ← Checked.ok.inj initial]
  rfl

end Definition

namespace Report

variable {doc : Document} {n : Names} {ws : List Complaint}

/-- A document of sound shape has a state. -/
theorem states_ne_nil (sound : checkShape doc = []) : (Names.ofDocument doc).states ≠ [] := by
  unfold checkShape at sound
  split at sound
  · rename_i entries content
    simp only [List.append_eq_nil_iff] at sound
    obtain ⟨⟨⟨checked, _⟩, _⟩, _⟩ := sound
    unfold checkStates at checked
    split at checked
    · cases checked
    · cases checked
    · rename_i items some_item given
      obtain ⟨e, found, list⟩ := given?_eq_some given
      simpa [Names.ofDocument, get?_of_content content, found, textsOf, list] using some_item
    · cases checked
  · cases sound

/-- The warnings on names say which guards are none, and why. -/
theorem mem_warnings {i : Nat} {f : Guard.Failure} (h : n.warnings = .ok ws) :
    .unreadableGuard i f ∈ ws ↔ ∃ a s, n.arrows[i]? = some a ∧ a.guard = some s ∧
      Guard.Group.ofText s = .error (.failure f) := by
  obtain ⟨guards, warned, rfl⟩ := warnings_eq h
  simp [mem_guardWarnings warned]

theorem warnings_ok (short : ∀ a ∈ n.arrows, ∀ s, a.guard = some s → Guard.HasShortIntegers s) :
    ∃ ws, n.warnings = .ok ws := by
  obtain ⟨guards, warned⟩ := guardWarnings_ok short 0
  unfold Names.warnings
  rw [warned]
  exact ⟨_, rfl⟩

/-- Without blank guards names are as they are stored. -/
theorem Names.stored_eq (h : ¬ n.HasBlankGuard) : n.stored = n := by
  have each : ∀ a ∈ n.arrows, a.stored = a := by
    intro a ha
    have kept : guardText? a.guard = a.guard := by
      cases guard : a.guard with
      | none => rfl
      | some s =>
        have visible : Text.isBlankText s = false := by
          by_contra blank
          exact h ⟨a, ha, s, guard, by simpa using blank⟩
        simp [guardText?, visible]
    rw [Arrow.stored, kept]
  rw [stored, List.map_congr_left each, List.map_id']

/-- A blank guard is warned of where it is, but not in the names as they are stored. -/
theorem warnings_ne {us : List Complaint} (blank : n.HasBlankGuard) (raw : n.warnings = .ok ws)
    (stored : n.stored.warnings = .ok us) : ws ≠ us := by
  rintro rfl
  obtain ⟨a, ha, s, guard, blank⟩ := blank
  obtain ⟨i, here⟩ := List.mem_iff_getElem?.mp ha
  have warned := (mem_warnings raw).mpr ⟨a, s, here, guard, Guard.Group.ofText_of_blank blank⟩
  obtain ⟨b, t, there, given, _⟩ := (mem_warnings stored).mp warned
  rw [Names.stored, List.getElem?_map, here] at there
  obtain rfl := Option.some.inj there
  obtain ⟨kept, visible⟩ := Option.filter_eq_some_iff.mp given
  obtain rfl := Option.some.inj (guard.symm.trans kept)
  simp [blank] at visible

/-- **Reading a document changes its report only by blank guards.** A document of sound shape that
is read as a definition, no guard of which has an integer that is too long, has a report, and so has
the definition. They are the same exactly if no guard is a text of nothing but white space. -/
theorem alike_iff {d : Definition} (sound : checkShape doc = [])
    (read : Definition.ofDocument doc = .ok d)
    (short : ∀ a ∈ (Names.ofDocument doc).arrows, ∀ s, a.guard = some s →
      Guard.HasShortIntegers s) :
    ∃ r r', ofDocument doc = .ok r ∧ ofDefinition d = .ok r' ∧
      (r = r' ↔ ¬ (Names.ofDocument doc).HasBlankGuard) := by
  have names := Definition.names_eq sound read
  have some_state : d.states ≠ [] := by
    have states : d.states = (Names.ofDocument doc).states := congrArg Names.states names
    rw [states]
    exact states_ne_nil sound
  obtain ⟨ws, warned⟩ := warnings_ok short
  have stored_short : ∀ a ∈ (Names.ofDocument doc).stored.arrows, ∀ s, a.guard = some s →
      Guard.HasShortIntegers s := by
    intro a ha s guard
    obtain ⟨b, hb, rfl⟩ := List.mem_map.mp ha
    exact short b hb s (Option.filter_eq_some_iff.mp guard).1
  obtain ⟨us, stored_warned⟩ := warnings_ok stored_short
  have reported : ofDocument doc = .ok ⟨(Names.ofDocument doc).errors, ws⟩ := by
    rw [ofDocument_eq sound, warned]
    rfl
  have reported' : ofDefinition d = .ok ⟨(Names.ofDocument doc).stored.errors, us⟩ := by
    rw [ofDefinition_eq some_state, names, stored_warned]
    rfl
  refine ⟨_, _, reported, reported', ?_⟩
  constructor
  · intro same blank
    exact warnings_ne blank warned stored_warned (congrArg warnings same)
  · intro visible
    rw [Names.stored_eq visible] at stored_warned ⊢
    rw [Except.ok.inj (warned.symm.trans stored_warned)]

/-- Sources as a text and as a list, a source that is undeclared, and guards that are empty, null,
no guard at all and one that is no expression. -/
def assorted : Document :=
  .objectOf [("states", some (.texts ["a", "b"])), ("initial", some (.text "a")),
    ("meta", some .null), ("transitions", some (.list [
      .objectOf [("from", some (.texts ["a", "c"])), ("event", some (.text "go")),
        ("to", some (.text "b")), ("guard", some (.text "ctx.x >"))],
      .objectOf [("from", some (.text "b")), ("event", some (.text "stop")),
        ("to", some (.text "b")), ("guard", some (.text ""))],
      .objectOf [("from", some (.texts [])), ("event", some (.text "go")),
        ("to", some (.text "b")), ("guard", some .null)]]))]

/-- What the document is read as. -/
def assortedRead : Definition where
  states := ["a", "b"]
  initial := "a"
  transitions := [.of (.many ["a", "c"]) "go" "b" (some "ctx.x >"), .of (.one "b") "stop" "b" none,
    .of (.many []) "go" "b" none]
  annotations := []

theorem alike_assorted : checkShape assorted = [] ∧
    Definition.ofDocument assorted = .ok assortedRead ∧
    (∀ a ∈ (Names.ofDocument assorted).arrows, ∀ s, a.guard = some s →
      Guard.HasShortIntegers s) ∧
    ∃ r, ofDocument assorted = .ok r ∧ ofDefinition assortedRead = .ok r := by
  have sound : checkShape assorted = [] := by decide +kernel
  have read : Definition.ofDocument assorted = .ok assortedRead := rfl
  have short : ∀ a ∈ (Names.ofDocument assorted).arrows, ∀ s ∈ a.guard,
      Guard.HasShortIntegers s := by decide +kernel
  have visible : ∀ a ∈ (Names.ofDocument assorted).arrows, ∀ s ∈ a.guard,
      Text.isBlankText s = false := by decide +kernel
  obtain ⟨r, r', reported, reported', same⟩ := alike_iff sound read short
  obtain rfl := same.mpr fun ⟨a, ha, s, guard, blank⟩ => by
    rw [visible a ha s guard] at blank
    cases blank
  exact ⟨sound, read, short, r, reported, reported'⟩

/-- A document with a guard of one space has a warning that its definition has not. -/
theorem not_alike_blank : ∃ d r r', checkShape (guarded " ") = [] ∧
    Definition.ofDocument (guarded " ") = .ok d ∧ ofDocument (guarded " ") = .ok r ∧
    ofDefinition d = .ok r' ∧ r.warnings = [.unreadableGuard 0 ⟨.blank, 0⟩] ∧ r'.warnings = [] := by
  refine ⟨⟨["a"], "a", [.of (.one "a") "go" "a" none], []⟩,
    ⟨[], [.unreadableGuard 0 ⟨.blank, 0⟩]⟩, ⟨[], []⟩, ?_, rfl, ?_, ?_, rfl, rfl⟩
  · decide +kernel
  · decide +kernel
  · decide +kernel

end Report

end Statecraft
