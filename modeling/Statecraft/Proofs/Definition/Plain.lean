import Mathlib.Data.Option.NAry
import Statecraft.Json.Writer
import Statecraft.Proofs.Definition.Loading
import Statecraft.Proofs.Document.Plain

/-!
# Shared values make no difference

`Document.plain` takes off the wrappers around values that a document mentions at several places.
No check of a shape looks at them: a document without its wrappers is read as the same definition,
whose annotations lack them too (`Definition.ofDocument_plain`), and JSON writes each mention in
full (`Json.Style.value_plain`).
-/

namespace Statecraft

open Shape (Checked)

namespace Shape

variable {α β γ : Type}

theorem text_plain : (d : Document) → text d.plain = text d
  | .shared _ d => text_plain d
  | .null | .bool _ | .int _ | .float _ | .text _ | .date _ | .moment _ | .bytes _ | .set _
  | .list _ | .map _ => rfl

theorem list_plain : (d : Document) → list d.plain = (list d).map Document.plainList
  | .shared _ d => list_plain d
  | .null | .bool _ | .int _ | .float _ | .text _ | .date _ | .moment _ | .bytes _ | .set _
  | .list _ | .map _ => rfl

theorem record_plain (name : String) :
    (d : Document) → record name d.plain = (record name d).map Document.plainEntries
  | .shared _ d => record_plain name d
  | .null | .bool _ | .int _ | .float _ | .text _ | .date _ | .moment _ | .bytes _ | .set _
  | .list _ | .map _ => rfl

theorem andThen_map (a : Checked α) (f : α → β) (g : β → Checked γ) :
    (a.map f).andThen g = a.andThen (g ∘ f) := by
  cases a <;> rfl

section Checks

variable {check : Document → Checked α} (same : ∀ d, check d.plain = check d)

include same

theorem items_plain (items : List Document) :
    Checked.items check (Document.plainList items) = Checked.items check items := by
  unfold Checked.items
  rw [Document.plainList_eq_map]
  congr 1
  exact List.ext_getElem (by simp) (by simp [same])

theorem list_items_plain (d : Document) :
    (list d.plain).andThen (Checked.items check) = (list d).andThen (Checked.items check) := by
  rw [list_plain, andThen_map]
  congr 1
  funext items
  exact items_plain same items

theorem required_plain (entries : Document.Entries) (key : String) :
    required (Document.plainEntries entries) key check = required entries key check := by
  unfold required
  rw [Document.Entries.get?_plain]
  cases Document.Entries.get? entries key <;> simp [same]

theorem optional_plain (entries : Document.Entries) (key : String) (absent : α) :
    optional (Document.plainEntries entries) key absent check =
      optional entries key absent check := by
  unfold optional
  rw [Document.Entries.get?_plain]
  cases Document.Entries.get? entries key <;> simp [same]

theorem requiredAs_plain (entries : Document.Entries) (outer inner : String) :
    requiredAs (Document.plainEntries entries) outer inner check =
      requiredAs entries outer inner check := by
  unfold requiredAs
  rw [Document.Entries.get?_plain, Document.Entries.get?_plain]
  cases Document.Entries.get? entries outer <;> cases Document.Entries.get? entries inner <;>
    simp [same]

end Checks

theorem texts_plain (d : Document) : texts d.plain = texts d := list_items_plain text_plain d

end Shape

theorem Origin.ofDocument_plain (d : Document) : ofDocument d.plain = ofDocument d := by
  unfold ofDocument
  rw [Shape.text_plain, Shape.texts_plain]

theorem guardOfDocument_plain : (d : Document) → guardOfDocument d.plain = guardOfDocument d
  | .shared _ d => guardOfDocument_plain d
  | .null | .bool _ | .int _ | .float _ | .text _ | .date _ | .moment _ | .bytes _ | .set _
  | .list _ | .map _ => rfl

theorem Transition.ofDocument_plain (d : Document) : ofDocument d.plain = ofDocument d := by
  unfold ofDocument
  rw [Shape.record_plain, Shape.andThen_map]
  congr 1
  funext entries
  simp only [Function.comp_apply, Shape.requiredAs_plain Origin.ofDocument_plain,
    Shape.requiredAs_plain Shape.text_plain, Shape.required_plain Shape.text_plain,
    Shape.optional_plain guardOfDocument_plain]

namespace Shape.Checked

variable {α β γ : Type}

@[simp] theorem value?_within (step : Step) (a : Checked α) :
    (a.within step).value? = a.value? := by
  cases a <;> rfl

@[simp] theorem value?_map (f : α → β) (a : Checked α) : (a.map f).value? = a.value?.map f := by
  cases a <;> rfl

@[simp] theorem value?_both (f : α → β → γ) (a : Checked α) (b : Checked β) :
    (both f a b).value? = Option.map₂ f a.value? b.value? := by
  cases a <;> cases b <;> rfl

theorem value?_eq_some {a : Checked α} {x : α} : a.value? = some x ↔ a = .ok x := by
  cases a <;> simp [value?]

end Shape.Checked

namespace Annotations

/-- The annotations without any mention of shared places. -/
def plain (a : Annotations) : Annotations := a.map fun e => (e.1, e.2.plain)

theorem plain_set (a : Annotations) (key : String) (value : Document) :
    (a.set key value).plain = a.plain.set key value.plain := by
  unfold set plain
  rw [List.any_map]
  change List.map _ (if a.any (·.1 == key) then _ else _) = if a.any (·.1 == key) then _ else _
  split
  · rw [List.map_map, List.map_map]
    refine List.map_congr_left fun e _ => ?_
    simp only [Function.comp_apply]
    split <;> rfl
  · simp

theorem plain_foldl_set (es : List (String × Document)) (a : Annotations) :
    (es.foldl (fun a e => a.set e.1 e.2) a).plain =
      (es.map fun e => (e.1, e.2.plain)).foldl (fun a e => a.set e.1 e.2) a.plain := by
  rw [List.foldl_map]
  induction es generalizing a with
  | nil => rfl
  | cons e r ih => rw [List.foldl_cons, List.foldl_cons, ih, plain_set]

/-- The entries under texts. -/
def named (entries : Document.Entries) : Checked (List (String × Document)) :=
  Checked.all <| entries.map fun e =>
    (((Shape.text e.1).atKey "[key]").within (stepOfKey e.1)).map (·, e.2)

theorem named_plain (entries : Document.Entries) :
    (named (Document.plainEntries entries)).value? =
      (named entries).value?.map (List.map fun e => (e.1, e.2.plain)) := by
  induction entries with
  | nil => rfl
  | cons e r ih =>
    unfold named at ih ⊢
    rw [Document.plainEntries, List.map_cons, Checked.all, List.map_cons, Checked.all,
      Checked.value?_both, Checked.value?_both, ih]
    simp only [Checked.atKey, Checked.value?_map, Checked.value?_within, Shape.text_plain]
    cases (Shape.text e.1).value? <;> cases (Checked.all _).value? <;> rfl

theorem ofDocument_map {d : Document} {entries : Document.Entries} (h : d.content = .map entries) :
    ofDocument d = (named entries).map fun es =>
      es.foldl (fun (a : Annotations) e => a.set e.1 e.2) [] := by
  unfold ofDocument
  rw [h]
  rfl

theorem ofDocument_plain : (d : Document) →
    (ofDocument d.plain).value? = (ofDocument d).value?.map plain
  | .shared _ d => ofDocument_plain d
  | .map entries => by
    rw [Document.plain, ofDocument_map rfl, ofDocument_map rfl, Checked.value?_map,
      Checked.value?_map, named_plain, Option.map_map, Option.map_map]
    congr 1
    funext es
    exact (plain_foldl_set es []).symm
  | .null | .bool _ | .int _ | .float _ | .text _ | .date _ | .moment _ | .bytes _ | .set _
  | .list _ => rfl

end Annotations

namespace Definition

/-- The definition without any mention of shared places. -/
def plain (d : Definition) : Definition := { d with annotations := d.annotations.plain }

theorem ofDocument_plain (doc : Document) :
    (ofDocument doc.plain).value? = (ofDocument doc).value?.map plain := by
  have annotations : ∀ entries,
      (Shape.optional (Document.plainEntries entries) "meta" [] Annotations.ofDocument).value? =
        (Shape.optional entries "meta" [] Annotations.ofDocument).value?.map
          Annotations.plain := by
    intro entries
    unfold Shape.optional
    rw [Document.Entries.get?_plain]
    cases Document.Entries.get? entries "meta" with
    | none => rfl
    | some d => simp [Checked.atKey, Annotations.ofDocument_plain]
  have transitions : ∀ entries, Shape.optional (Document.plainEntries entries) "transitions" []
      (fun d => (Shape.list d).andThen (Checked.items Transition.ofDocument)) =
        Shape.optional entries "transitions" []
          fun d => (Shape.list d).andThen (Checked.items Transition.ofDocument) := by
    intro entries
    exact Shape.optional_plain (Shape.list_items_plain Transition.ofDocument_plain) _ _ _
  unfold ofDocument
  rw [Shape.record_plain]
  cases Shape.record "MachineDefinition" doc with
  | bad issues => rfl
  | ok entries =>
    simp only [Checked.map, Checked.andThen_ok, Checked.value?_both, annotations,
      Shape.optional_plain Shape.texts_plain, Shape.optional_plain Shape.text_plain,
      transitions]
    rw [Option.map₂_map_right, Option.map_map₂]
    rfl

end Definition

namespace Json

variable (style : Style)

theorem Style.key_plain : (d : Document) → style.key d.plain = style.key d
  | .shared _ d => key_plain d
  | .null | .bool _ | .int _ | .float _ | .text _ | .date _ | .moment _ | .bytes _ | .set _
  | .list _ | .map _ => rfl

mutual

/-- A shared value is written in full at each of its places, unless it is a part of itself. -/
theorem Style.value_plain (level : Nat) (within : List Nat) (d : Document)
    (h : d.isCircular within = false) :
    style.value level [] d.plain = style.value level within d := by
  match d with
  | .shared l d =>
    simp only [Document.isCircular, Bool.or_eq_false_iff] at h
    rw [Document.plain, Style.value, h.1, if_neg Bool.false_ne_true]
    exact value_plain level (l :: within) d h.2
  | .list [] | .map [] => rfl
  | .list (d :: r) =>
    simp only [Document.isCircular, Document.isCircularList, Bool.or_eq_false_iff] at h
    simp only [Document.plain, Document.plainList, Style.value,
      value_plain (level + 1) within d h.1, items_plain (level + 1) within r h.2]
  | .map ((k, v) :: r) =>
    simp only [Document.isCircular, Document.isCircularEntries, Bool.or_eq_false_iff] at h
    simp only [Document.plain, Document.plainEntries, Style.value, key_plain,
      value_plain (level + 1) within v h.1.2, members_plain (level + 1) within r h.2]
  | .null | .bool _ | .int _ | .float _ | .text _ | .date _ | .moment _ | .bytes _ | .set _ => rfl

theorem Style.items_plain (level : Nat) (within : List Nat) (items : List Document)
    (h : Document.isCircularList within items = false) :
    style.items level [] (Document.plainList items) = style.items level within items := by
  match items with
  | [] => rfl
  | d :: r =>
    simp only [Document.isCircularList, Bool.or_eq_false_iff] at h
    simp only [Document.plainList, Style.items, value_plain level within d h.1,
      items_plain level within r h.2]

theorem Style.members_plain (level : Nat) (within : List Nat) (entries : Document.Entries)
    (h : Document.isCircularEntries within entries = false) :
    style.members level [] (Document.plainEntries entries) =
      style.members level within entries := by
  match entries with
  | [] => rfl
  | (k, v) :: r =>
    simp only [Document.isCircularEntries, Bool.or_eq_false_iff] at h
    simp only [Document.plainEntries, Style.members, key_plain, value_plain level within v h.1.2,
      members_plain level within r h.2]

end

end Json

end Statecraft
