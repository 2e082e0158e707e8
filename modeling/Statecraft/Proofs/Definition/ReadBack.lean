import Statecraft.Definition.Source
import Statecraft.Proofs.Definition.Plain
import Statecraft.Proofs.Definition.Positions
import Statecraft.Proofs.Definition.Valid
import Statecraft.Proofs.Guard.Data

/-!
# Definitions read back from their text

A definition that was read from a document is read back from its own text in either format, if
the format's text of the definition's document is read as that document
(`Definition.written_read_back`). The two may still differ in which values are shared. For JSON the
condition holds if the annotations are data (`Format.inverts_json`).
-/

namespace Statecraft

open Shape (Checked)

/-! ## Annotations -/

namespace Annotations

theorem keys_set (a : Annotations) (key : String) (value : Document) :
    (a.set key value).map Prod.fst =
      if key ∈ a.map Prod.fst then a.map Prod.fst else a.map Prod.fst ++ [key] := by
  have present : a.any (·.1 == key) = true ↔ key ∈ a.map Prod.fst := by
    simp [List.any_eq_true]
  unfold set
  simp only [present]
  split
  · rw [List.map_map]
    refine List.map_congr_left fun e _ => ?_
    by_cases h : e.1 = key <;> simp [h]
  · simp

theorem nodup_set {a : Annotations} (h : (a.map Prod.fst).Nodup) (key : String)
    (value : Document) : ((a.set key value).map Prod.fst).Nodup := by
  rw [keys_set]
  split
  · exact h
  · rename_i new
    exact h.append (List.nodup_singleton key) (by simpa using new)

theorem nodup_foldl_set (es : List (String × Document)) {a : Annotations}
    (h : (a.map Prod.fst).Nodup) :
    ((es.foldl (fun a e => a.set e.1 e.2) a).map Prod.fst).Nodup := by
  induction es generalizing a with
  | nil => exact h
  | cons e r ih => exact ih (nodup_set h e.1 e.2)

/-- Entries under different keys are all set at the end. -/
theorem foldl_set_new (es a : Annotations) (h : ((a ++ es).map Prod.fst).Nodup) :
    es.foldl (fun a e => a.set e.1 e.2) a = a ++ es := by
  have last : ∀ (a : Annotations) (e : String × Document), e.1 ∉ a.map Prod.fst →
      a.set e.1 e.2 = a ++ [id e] := by
    intro a e new
    exact set_new (fun x hx same => new (List.mem_map.mpr ⟨x, hx, same⟩)) e.2
  rw [Keyed.foldl_new last (fun _ => rfl) es a (by simpa using h), List.map_id]

theorem named_object (a : Annotations) :
    named (a.map fun e => (.text e.1, e.2)) = .ok a := by
  induction a with
  | nil => rfl
  | cons e r ih =>
    unfold named at ih ⊢
    rw [List.map_cons, List.map_cons, Checked.all, ih]
    rfl

/-- What is read has no key twice. -/
theorem nodup_of_ofDocument {d : Document} {a : Annotations} (h : ofDocument d = .ok a) :
    (a.map Prod.fst).Nodup := by
  cases content : d.content with
  | null =>
    have none : ofDocument d = .ok [] := by simp [ofDocument, content]
    obtain rfl := Checked.ok.inj (none.symm.trans h)
    exact List.nodup_nil
  | map entries =>
    rw [ofDocument_map content] at h
    cases names : named entries with
    | ok es =>
      rw [names] at h
      obtain rfl := Checked.ok.inj h
      exact nodup_foldl_set es (a := []) List.nodup_nil
    | bad issues =>
      rw [names] at h
      cases h
  | _ => simp [ofDocument, content, Checked.fail] at h

theorem ofDocument_object {a : Annotations} (h : (a.map Prod.fst).Nodup) :
    ofDocument (.object a) = .ok a := by
  rw [ofDocument_map rfl, named_object]
  show Checked.ok (a.foldl _ []) = .ok a
  rw [foldl_set_new a [] h]
  rfl

end Annotations

/-! ## Definitions -/

theorem Shape.texts_texts (ss : List String) : texts (.texts ss) = .ok ss := by
  have each : Checked.items text (ss.map .text) = .ok (ss.map id) := Checked.items_ok fun s _ => rfl
  rwa [List.map_id] at each

theorem Origin.ofDocument_toDocument (o : Origin) : ofDocument o.toDocument = .ok o := by
  cases o with
  | one s => rfl
  | many ss =>
    have no_text : Shape.text (.texts ss) = .bad [⟨[], .notText⟩] := rfl
    rw [toDocument, ofDocument, no_text, Shape.texts_texts]

/-- A transition's parts are stored as they are. -/
theorem Transition.of_parts (t : Transition) : of t.origin t.event t.target t.guard = t := by
  obtain ⟨origin, event, target, guard, stored⟩ := t
  simp only [of, stored]

theorem Transition.ofDocument_toDocument (t : Transition) : ofDocument t.toDocument = .ok t := by
  obtain ⟨entries, content⟩ : ∃ entries, t.toDocument.content = .map entries := ⟨_, rfl⟩
  have found : ∀ key, Document.Entries.get? entries key = t.toDocument.get? key := by
    simp [Document.get?, content]
  have record : Shape.record "TransitionSpec" t.toDocument = .ok entries := by
    simp [Shape.record, content]
  have origin : requiredAs entries "from" "source" Origin.ofDocument = .ok t.origin := by
    rw [requiredAs, found, Definition.get?_from]
    simp only [Origin.ofDocument_toDocument]
    rfl
  have event : Shape.required entries "event" Shape.text = .ok t.event :=
    Shape.required_ok ((found _).trans (Definition.get?_event t)) rfl
  have target : requiredAs entries "to" "target" Shape.text = .ok t.target := by
    rw [requiredAs, found, Definition.get?_to]
    rfl
  have guard : Shape.optional entries "guard" none guardOfDocument = .ok t.guard := by
    rw [Shape.optional, found, Definition.get?_guard]
    cases t.guard <;> rfl
  rw [ofDocument, record]
  show Checked.both _ (Checked.both _ (Checked.both _ _ _) _) _ = _
  rw [origin, event, target, guard]
  exact congrArg Checked.ok t.of_parts

namespace Definition

/-- What a document has to be for it to be read as a definition. -/
theorem ofDocument_ok_iff {doc : Document} {d : Definition} : ofDocument doc = .ok d ↔
    ∃ entries, doc.content = .map entries ∧
      Shape.optional entries "states" [] Shape.texts = .ok d.states ∧
      Shape.optional entries "initial" "" Shape.text = .ok d.initial ∧
      Shape.optional entries "transitions" []
        (fun d => (Shape.list d).andThen (Checked.items Transition.ofDocument)) =
          .ok d.transitions ∧
      Shape.optional entries "meta" [] Annotations.ofDocument = .ok d.annotations := by
  have both : ∀ {α β γ : Type} {f : α → β → γ} {a : Checked α} {b : Checked β} {z : γ},
      Checked.both f a b = .ok z ↔ ∃ x y, a = .ok x ∧ b = .ok y ∧ f x y = z := by
    intro α β γ f a b z
    cases a <;> cases b <;> simp [Checked.both]
  obtain ⟨states, initial, transitions, annotations⟩ := d
  unfold ofDocument Shape.record
  split
  · rename_i entries content
    simp only [Checked.andThen_ok, both, content, Document.map.injEq, mk.injEq]
    constructor
    · rintro ⟨_, _, ⟨_, _, ⟨_, _, s, i, rfl⟩, t, rfl⟩, a, rfl, rfl, rfl, rfl⟩
      exact ⟨entries, rfl, s, i, t, a⟩
    · rintro ⟨_, rfl, s, i, t, a⟩
      exact ⟨_, _, ⟨_, _, ⟨_, _, s, i, rfl⟩, t, rfl⟩, a, rfl, rfl, rfl, rfl⟩
  · rename_i other
    constructor
    · rintro ⟨⟩
    · rintro ⟨entries, content, _⟩
      exact absurd content (other entries)

theorem nodup_of_ofDocument {doc : Document} {d : Definition} (h : ofDocument doc = .ok d) :
    (d.annotations.map Prod.fst).Nodup := by
  obtain ⟨entries, -, -, -, -, annotations⟩ := ofDocument_ok_iff.mp h
  unfold Shape.optional at annotations
  split at annotations
  · rename_i e _
    have read : (Annotations.ofDocument e).value? = some d.annotations := by
      rw [← Checked.value?_within, ← Checked.atKey, annotations]
      rfl
    exact Annotations.nodup_of_ofDocument (Checked.value?_eq_some.mp read)
  · rw [← Checked.ok.inj annotations]
    exact List.nodup_nil

theorem ofDocument_toDocument {d : Definition} (h : (d.annotations.map Prod.fst).Nodup) :
    ofDocument d.toDocument = .ok d := by
  obtain ⟨entries, content⟩ : ∃ entries, d.toDocument.content = .map entries := ⟨_, rfl⟩
  have found : ∀ key, Document.Entries.get? entries key = d.toDocument.get? key := by
    simp [Document.get?, content]
  refine ofDocument_ok_iff.mpr ⟨entries, content, ?_, ?_, ?_, ?_⟩
  · exact Shape.optional_ok ((found _).trans (get?_states d)) (Shape.texts_texts d.states)
  · exact Shape.optional_ok ((found _).trans (get?_initial d)) rfl
  · refine Shape.optional_ok ((found _).trans (get?_transitions d)) ?_
    have each : Checked.items Transition.ofDocument (d.transitions.map Transition.toDocument) =
        .ok (d.transitions.map id) := Checked.items_ok fun t _ => t.ofDocument_toDocument
    rwa [List.map_id] at each
  · rw [Shape.optional, found, get?_meta]
    cases empty : d.annotations with
    | nil => rfl
    | cons e r =>
      rw [empty] at h
      simp only [List.isEmpty_cons, if_neg Bool.false_ne_true, Annotations.ofDocument_object h]
      rfl

end Definition

/-! ## Reading what was written -/

/-- The annotations have a form in JSON: without any mention of shared places they are data, and no
value is a part of itself. -/
structure Annotations.IsData (a : Annotations) : Prop where
  data : ∀ e ∈ a, Json.IsData e.2.plain
  unfolds : ∀ e ∈ a, e.2.isCircular [] = false

namespace Document

theorem plain_object (entries : List (String × Document)) :
    (object entries).plain = object (entries.map fun e => (e.1, e.2.plain)) := by
  rw [object, plain, plainEntries_eq_map, object, List.map_map, List.map_map]
  rfl

theorem plain_list {items : List Document} (h : ∀ d ∈ items, d.plain = d) :
    (list items).plain = list items := by
  rw [plain, plainList_eq_map, List.map_congr_left h, List.map_id']

theorem isCircular_object {entries : List (String × Document)} {within : List Nat}
    (h : ∀ e ∈ entries, e.2.isCircular within = false) :
    (object entries).isCircular within = false := by
  show isCircularEntries within (entries.map fun e => (.text e.1, e.2)) = false
  induction entries with
  | nil => rfl
  | cons e r ih =>
    rw [List.forall_mem_cons] at h
    rw [List.map_cons, isCircularEntries, h.1, ih h.2]
    rfl

end Document

namespace Json.IsData

variable {d : Document}

/-- Data have no mention of shared places. -/
theorem plain_eq (h : IsData d) : d.plain = d := by
  induction h with
  | list _ ih => exact Document.plain_list ih
  | @object entries _ _ ih =>
    have each : ∀ e ∈ entries, (e.1, e.2.plain) = e := fun e he => by rw [ih e he]
    rw [Document.plain_object, List.map_congr_left each, List.map_id']
  | _ => rfl

theorem unfolds (h : IsData d) (within : List Nat) : d.isCircular within = false := by
  induction h with
  | @list items _ ih =>
    show Document.isCircularList within items = false
    clear * - ih
    induction items with
    | nil => rfl
    | cons d r rest =>
      rw [List.forall_mem_cons] at ih
      rw [Document.isCircularList, ih.1, rest ih.2]
      rfl
  | object _ _ ih => exact Document.isCircular_object ih
  | _ => rfl

theorem texts (ss : List String) : IsData (.texts ss) :=
  .list (List.forall_mem_map.mpr fun s _ => .text s)

end Json.IsData

theorem Transition.isData_toDocument (t : Transition) : Json.IsData t.toDocument := by
  have origin : Json.IsData t.origin.toDocument := by
    cases t.origin with
    | one s => exact .text s
    | many ss => exact .texts ss
  unfold toDocument
  cases t.guard <;> exact .object (by simp) (by simp [origin, Json.IsData.text])

namespace Definition

/-- The entries of a definition's document. -/
def entries (d : Definition) : List (String × Document) :=
  [("states", .texts d.states), ("initial", .text d.initial),
      ("transitions", .list (d.transitions.map Transition.toDocument))] ++
    if d.annotations.isEmpty then [] else [("meta", .object d.annotations)]

variable {d : Definition}

theorem toDocument_eq (d : Definition) : d.toDocument = .object d.entries := by
  unfold toDocument entries Document.objectOf
  cases d.annotations.isEmpty <;> rfl

/-- Only the annotations are more than data. -/
theorem mem_entries {e : String × Document} (h : e ∈ d.entries) :
    Json.IsData e.2 ∨ e.2 = .object d.annotations := by
  have transitions : Json.IsData (.list (d.transitions.map Transition.toDocument)) :=
    .list (List.forall_mem_map.mpr fun t _ => t.isData_toDocument)
  unfold entries at h
  rcases List.mem_append.mp h with fixed | open_
  · simp only [List.mem_cons, List.not_mem_nil, or_false] at fixed
    rcases fixed with rfl | rfl | rfl
    · exact Or.inl (.texts d.states)
    · exact Or.inl (.text d.initial)
    · exact Or.inl transitions
  · split at open_
    · cases open_
    · exact Or.inr (congrArg Prod.snd (List.mem_singleton.mp open_))

theorem nodup_entries (d : Definition) : (d.entries.map Prod.fst).Nodup := by
  unfold entries
  cases d.annotations.isEmpty <;> simp

theorem isData_toDocument (distinct : (d.annotations.map Prod.fst).Nodup)
    (h : d.annotations.IsData) : Json.IsData d.toDocument.plain := by
  have annotations : Json.IsData (Document.object d.annotations).plain := by
    rw [Document.plain_object]
    refine .object ?_ (List.forall_mem_map.mpr h.data)
    rwa [List.map_map]
  rw [toDocument_eq, Document.plain_object]
  refine .object ?_ (List.forall_mem_map.mpr fun e he => ?_)
  · rw [List.map_map]
    exact d.nodup_entries
  · rcases mem_entries he with data | rest
    · exact data.plain_eq.symm ▸ data
    · exact rest ▸ annotations

theorem isCircular_toDocument (h : d.annotations.IsData) : d.toDocument.isCircular [] = false := by
  rw [toDocument_eq]
  refine Document.isCircular_object fun e he => ?_
  rcases mem_entries he with data | rest
  · exact data.unfolds []
  · rw [rest]
    exact Document.isCircular_object h.unfolds

end Definition

namespace Format

/-- The format's text of a document is read as this document, but for which of its values are
shared. -/
def Inverts : Format → Document → Prop
  | .yaml, doc => ∃ text back, Yaml.write doc = .ok text ∧ Yaml.read text = .ok back ∧
      back.plain = doc.plain
  | .json, doc => ∃ text back, Json.file.write doc = .ok text ∧
      Json.read (text ++ "\n") = .ok back ∧ back.plain = doc.plain

variable {d : Definition}

theorem inverts_json (distinct : (d.annotations.map Prod.fst).Nodup) (h : d.annotations.IsData) :
    Format.json.Inverts d.toDocument := by
  have exact : Json.file.IsExact := ⟨rfl, rfl⟩
  have data := Definition.isData_toDocument distinct h
  obtain ⟨t, written, reads⟩ := Json.writes_of_isData exact data 0 []
  rw [Json.Style.value_plain _ 0 [] _ (Definition.isCircular_toDocument h)] at written
  have read : Json.document (t ++ ['\n']) = .ok d.toDocument.plain :=
    reads.document (List.forall_mem_singleton.mpr rfl)
  refine ⟨String.ofList t, d.toDocument.plain, ?_, ?_, data.plain_eq⟩
  · rw [Json.Style.write, written]
    rfl
  · simp [Json.read, read]

theorem Inverts.write {format : Format} (h : format.Inverts d.toDocument) :
    ∃ text back, d.write format = .ok text ∧ format.value text = .ok back ∧
      back.plain = d.toDocument.plain := by
  cases format with
  | yaml =>
    obtain ⟨text, back, written, read, same⟩ := h
    exact ⟨text, back, by rw [Definition.write, written], by rw [value, read], same⟩
  | json =>
    obtain ⟨text, back, written, read, same⟩ := h
    exact ⟨text ++ "\n", back, by rw [Definition.write, written], by rw [value, read], same⟩

theorem ofName?_name (format : Format) : ofName? format.name = some format := by
  cases format <;> rfl

end Format

namespace Definition

variable {doc : Document} {d : Definition}

theorem exists_read_back {format : Format} (distinct : (d.annotations.map Prod.fst).Nodup)
    (inverts : format.Inverts d.toDocument) :
    ∃ text source back, d.write format = .ok text ∧ format.read text = .ok source ∧
      ofDocument source = .ok back ∧ back.plain = d.plain := by
  obtain ⟨text, source, written, read, same⟩ := inverts.write
  have value : (ofDocument source).value?.map plain = some d.plain := by
    rw [← ofDocument_plain, same, ofDocument_plain, ofDocument_toDocument distinct]
    rfl
  obtain ⟨back, loaded, plain⟩ := Option.map_eq_some_iff.mp value
  have loaded := Checked.value?_eq_some.mp loaded
  obtain ⟨entries, content, -⟩ := ofDocument_ok_iff.mp loaded
  have mapping : format.read text = .ok source := by
    simp only [Format.read, read, content]
  exact ⟨text, source, back, written, mapping, loaded, plain⟩

/-- **A definition that was read is read back from its own text.** In each format whose text of
the definition's document is read as this document, what is written gives the same states, initial
state, transitions and annotations; and JSON is such a format if the annotations are data. -/
theorem written_read_back (h : ofDocument doc = .ok d) :
    (∀ format : Format, format.Inverts d.toDocument →
      ∃ text source back, d.writeAs format.name = .ok text ∧
        readSource format.name text = .ok source ∧ ofDocument source = .ok back ∧
        back.plain = d.plain) ∧
    (d.annotations.IsData → Format.json.Inverts d.toDocument) := by
  have distinct := nodup_of_ofDocument h
  refine ⟨fun format inverts => ?_, Format.inverts_json distinct⟩
  obtain ⟨text, source, back, written, read, loaded, plain⟩ := exists_read_back distinct inverts
  refine ⟨text, source, back, ?_, ?_, loaded, plain⟩
  · rw [writeAs, Format.ofName?_name]
    exact written
  · rw [readSource, Format.ofName?_name]
    exact read

/-- A transition from no state, one from a list of a single state with a blank guard, and
annotations that mention one list twice. -/
def sparseSource : Document :=
  .objectOf [("initial", some (.text "a")),
    ("transitions", some (.list [
      .objectOf [("source", some (.texts [])), ("event", some (.text "go")),
        ("target", some (.text "b")), ("guard", some .null)],
      .objectOf [("from", some (.texts ["a"])), ("event", some (.text "1")),
        ("to", some (.text "")), ("guard", some (.text " "))]])),
    ("meta", some (.object [("owner", .null),
      ("tags", .list [.shared 0 (.texts ["x"]), .shared 0 (.texts ["x"]), .int 12])]))]

/-- What `sparseSource` is read as. -/
def sparse : Definition :=
  ⟨[], "a", [.of (.many []) "go" "b" none, .of (.many ["a"]) "1" "" none],
    [("owner", .null),
      ("tags", .list [.shared 0 (.texts ["x"]), .shared 0 (.texts ["x"]), .int 12])]⟩

theorem sparse_isData : sparse.annotations.IsData where
  data := by
    have tags : Json.IsData (.list [.texts ["x"], .texts ["x"], .int 12]) := by
      refine .list ?_
      simp only [List.forall_mem_cons, List.not_mem_nil, false_implies, implies_true, and_true]
      exact ⟨.texts _, .texts _, .int (by decide +kernel)⟩
    exact List.forall_mem_cons.mpr ⟨.null, List.forall_mem_singleton.mpr tags⟩
  unfolds := List.forall_mem_cons.mpr ⟨rfl, List.forall_mem_singleton.mpr rfl⟩

/-- The document of `sparse`, with any labels at the list that it mentions twice. -/
def isSparse : Document → Bool
  | .map [(.text "states", .list []), (.text "initial", .text "a"),
      (.text "transitions", .list [
        .map [(.text "from", .list []), (.text "event", .text "go"), (.text "to", .text "b")],
        .map [(.text "from", .list [.text "a"]), (.text "event", .text "1"),
          (.text "to", .text "")]]),
      (.text "meta", .map [(.text "owner", .null),
        (.text "tags", .list [.shared _ (.list [.text "x"]), .shared _ (.list [.text "x"]),
          .int 12])])] => true
  | _ => false

theorem plain_of_isSparse {doc : Document} (h : isSparse doc = true) :
    doc.plain = sparse.toDocument.plain := by
  unfold isSparse at h
  split at h
  · rfl
  · cases h

theorem sparse_inverts_yaml : Format.yaml.Inverts sparse.toDocument := by
  have check : ((Yaml.write sparse.toDocument).toOption.bind fun text =>
      (Yaml.read text).toOption).any isSparse = true := by decide +kernel
  cases written : Yaml.write sparse.toDocument with
  | error =>
    rw [written] at check
    cases check
  | ok text =>
    rw [written] at check
    change ((Yaml.read text).toOption.any isSparse) = true at check
    cases read : Yaml.read text with
    | error =>
      rw [read] at check
      cases check
    | ok back =>
      rw [read] at check
      exact ⟨text, back, written, read, plain_of_isSparse check⟩

theorem written_read_back_sparse : ofDocument sparseSource = .ok sparse ∧
    sparse.annotations.IsData ∧
    ∀ format : Format, format.Inverts sparse.toDocument ∧
      ∃ text source back, sparse.writeAs format.name = .ok text ∧
        readSource format.name text = .ok source ∧ ofDocument source = .ok back ∧
        back.plain = sparse.plain := by
  have loaded : ofDocument sparseSource = .ok sparse := by rfl
  obtain ⟨formats, json⟩ := written_read_back loaded
  refine ⟨loaded, sparse_isData, fun format => ?_⟩
  have inverts : format.Inverts sparse.toDocument := by
    cases format with
    | yaml => exact sparse_inverts_yaml
    | json => exact json sparse_isData
  exact ⟨inverts, formats format inverts⟩

end Definition

end Statecraft
