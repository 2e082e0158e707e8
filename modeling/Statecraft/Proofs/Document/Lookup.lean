import Mathlib.Data.List.Basic
import Statecraft.Document.Overlay

/-!
# Names in entries

A text finds the entry whose key is this text (`Entries.get?_cons_eq`); setting an entry changes
what is found at its name only (`Entries.get?_insert`) and keeps names different
(`Entries.nodup_names_insert`).
-/

namespace Statecraft.Document

/-- The text that a key is, if it is one. -/
def name? (d : Document) : Option String :=
  match d.content with
  | .text s => some s
  | _ => none

theorem name?_eq_some {d : Document} {k : String} : d.name? = some k ↔ d.content = .text k := by
  unfold name?
  cases d.content <;> simp

/-- A value without its wrappers is no wrapper. -/
theorem content_ne_shared {l : Nat} {c : Document} : (d : Document) → d.content ≠ .shared l c
  | .shared _ d => content_ne_shared d
  | .null | .bool _ | .int _ | .float _ | .text _ | .date _ | .moment _ | .bytes _ | .set _
  | .list _ | .map _ => Document.noConfusion

/-- A value is equal to a text if it is this text. -/
theorem same_of_name? {b : Document} {k : String} (h : b.name? = some k) :
    (a : Document) → (a.same b = true ↔ a.name? = some k)
  | .shared _ a => by simpa [same, name?, content] using same_of_name? h a
  | .text s => by simp [same, name?_eq_some.mp h, name?, content]
  | .null | .bool _ | .int _ | .float _ | .date _ | .moment _ | .bytes _ | .set _ | .list _
  | .map _ => by simp [same, name?_eq_some.mp h, name?, content, magnitude?]

theorem sameKey_of_name? {a b : Document} {k : String} (h : b.name? = some k) :
    a.sameKey b = true ↔ a.name? = some k := by
  rw [← same_of_name? h, sameKey, name?_eq_some.mp h]
  cases a.content <;> rfl

/-- Only a text is equal to a text. -/
theorem name?_of_same {b : Document} :
    (a : Document) → a.same b = true → b.name? = none → a.name? = none
  | .shared _ a => fun same none => by
    simpa [name?, content] using name?_of_same a (by simpa [Document.same] using same) none
  | .text s => fun same none => by
    unfold Document.same at same
    unfold name? at none
    split at same
    · rename_i text
      simp [text] at none
    · cases same
  | .null | .bool _ | .int _ | .float _ | .date _ | .moment _ | .bytes _ | .set _ | .list _
  | .map _ => fun _ _ => rfl

theorem name?_of_sameKey {a b : Document} (same : a.sameKey b = true) (none : b.name? = none) :
    a.name? = Option.none := by
  unfold sameKey at same
  split at same
  · rename_i number _
    simp [name?, number]
  · exact name?_of_same a same none

namespace Entries

variable {entries upper lower : Entries} {key value : Document} {k : String}

/-- The texts among the keys. -/
def names (entries : Entries) : List String := entries.filterMap (·.1.name?)

theorem names_cons (e : Document × Document) (r : Entries) :
    names (e :: r) = e.1.name?.toList ++ names r := by
  unfold names
  cases name : e.1.name? <;> simp [name]

theorem get?_eq_find? (entries : Entries) (k : String) :
    get? entries k = (entries.find? (·.1.name? == some k)).map (·.2) := by
  unfold get?
  congr 2
  funext e
  unfold name?
  cases e.1.content <;> simp

theorem get?_cons_eq (e : Document × Document) (r : Entries) (k : String) :
    get? (e :: r) k = if e.1.name? = some k then some e.2 else get? r k := by
  rw [get?_eq_find?, get?_eq_find?, List.find?_cons]
  by_cases here : e.1.name? = some k
  · simp [here]
  · rw [if_neg here, beq_eq_false_iff_ne.mpr here]

theorem get?_eq_none_iff : get? entries k = none ↔ k ∉ names entries := by
  induction entries with
  | nil => simp [get?, names]
  | cons e r ih =>
    rw [get?_cons_eq, names_cons]
    by_cases here : e.1.name? = some k
    · simp [here]
    · simp [here, ih]

theorem at?_of_name? (h : key.name? = some k) : at? entries key = get? entries k := by
  rw [at?, get?_eq_find?]
  congr 2
  funext e
  rw [Bool.eq_iff_iff, same_of_name? h, beq_iff_eq]

/-- Where a key was before, its name is kept. -/
theorem names_insert (entries : Entries) (key value : Document) :
    names (entries.insert key value) =
      if entries.any (·.1.sameKey key) then names entries
      else names entries ++ key.name?.toList := by
  unfold insert
  split
  · rw [names, names, List.filterMap_map]
    congr 1
    funext e
    simp only [Function.comp_apply]
    split <;> rfl
  · rw [names, names, List.filterMap_append]
    cases name : key.name? <;> simp [name]

theorem nodup_names_insert (distinct : (names entries).Nodup) (key value : Document) :
    (names (entries.insert key value)).Nodup := by
  rw [names_insert]
  split
  · exact distinct
  · rename_i new
    cases name : key.name? with
    | none => simpa using distinct
    | some k =>
      refine List.nodup_append.mpr ⟨distinct, by simp, fun s hs t ht => ?_⟩
      rintro rfl
      obtain rfl := List.mem_singleton.mp ht
      obtain ⟨e, he, same⟩ := List.mem_filterMap.mp hs
      exact new (List.any_eq_true.mpr ⟨e, he, (sameKey_of_name? name).mpr same⟩)

/-- What stands at a name after the value of a key has been replaced. -/
theorem get?_replace (entries : Entries) (key value : Document) (k : String) :
    get? (entries.map fun e => if e.1.sameKey key then (e.1, value) else e) k =
      if key.name? = some k then (get? entries k).map fun _ => value else get? entries k := by
  induction entries with
  | nil => simp [get?]
  | cons e r ih =>
    have kept : (if e.1.sameKey key then (e.1, value) else e).1 = e.1 := by split <;> rfl
    rw [List.map_cons, get?_cons_eq, kept, ih, get?_cons_eq]
    by_cases here : e.1.name? = some k
    · rw [if_pos here, if_pos here]
      by_cases named : key.name? = some k
      · rw [if_pos named, if_pos ((sameKey_of_name? named).mpr here)]
        rfl
      · have other : ¬ e.1.sameKey key = true := by
          intro same
          cases name : key.name? with
          | none => cases here.symm.trans (name?_of_sameKey same name)
          | some n => exact named (name.trans (((sameKey_of_name? name).mp same).symm.trans here))
        rw [if_neg named, if_neg other]
    · rw [if_neg here, if_neg here]

/-- What stands at a name after an entry has been set. -/
theorem get?_insert (entries : Entries) (key value : Document) (k : String) :
    get? (entries.insert key value) k =
      if key.name? = some k then some value else get? entries k := by
  unfold insert
  split
  · rename_i known
    -- The entry in whose place the new one goes has the name, so the name is found.
    rw [get?_replace]
    by_cases named : key.name? = some k
    · obtain ⟨e, he, same⟩ := List.any_eq_true.mp known
      have mem : k ∈ names entries :=
        List.mem_filterMap.mpr ⟨e, he, (sameKey_of_name? named).mp same⟩
      obtain ⟨v, found⟩ := Option.ne_none_iff_exists'.mp (mt get?_eq_none_iff.mp (not_not.mpr mem))
      rw [if_pos named, if_pos named, found, Option.map_some]
    · rw [if_neg named, if_neg named]
  · rename_i new
    induction entries with
    | nil => simp [get?_cons_eq]
    | cons e r ih =>
      rw [List.any_cons, Bool.or_eq_true, not_or] at new
      rw [List.cons_append, get?_cons_eq, ih new.2, get?_cons_eq]
      by_cases named : key.name? = some k
      · rw [if_pos named, if_pos named, if_neg (mt (sameKey_of_name? named).mpr new.1)]
      · rw [if_neg named, if_neg named]

theorem mem_insert {entries : Entries} {key value : Document} {e : Document × Document}
    (h : e ∈ entries.insert key value) : e.2 = value ∨ e ∈ entries := by
  unfold insert at h
  split at h
  · obtain ⟨f, hf, rfl⟩ := List.mem_map.mp h
    by_cases same : f.1.sameKey key = true
    · exact Or.inl (by rw [if_pos same])
    · exact Or.inr (by rwa [if_neg same])
  · rcases List.mem_append.mp h with old | new
    · exact Or.inr old
    · exact Or.inl (by rw [List.mem_singleton.mp new])

section Setting

variable {α : Type} (key value : α → Document) (xs : List α)

/-- Setting entries one after the other keeps their names different. -/
theorem nodup_names_foldl_insert {done : Entries} (distinct : (names done).Nodup) :
    (names (xs.foldl (fun es x => es.insert (key x) (value x)) done)).Nodup := by
  induction xs generalizing done with
  | nil => exact distinct
  | cons x r ih => exact ih (nodup_names_insert distinct _ _)

theorem mem_foldl_insert {done : Entries} {e : Document × Document}
    (h : e ∈ xs.foldl (fun es x => es.insert (key x) (value x)) done) :
    (∃ x ∈ xs, value x = e.2) ∨ e ∈ done := by
  induction xs generalizing done with
  | nil => exact Or.inr h
  | cons x r ih =>
    rcases ih h with ⟨y, hy, same⟩ | before
    · exact Or.inl ⟨y, List.mem_cons_of_mem _ hy, same⟩
    · rcases mem_insert before with new | old
      · exact Or.inl ⟨x, List.mem_cons_self .., new.symm⟩
      · exact Or.inr old

end Setting

section Named

variable {fields : List (String × Option Document)} {k : String} {d? : Option Document}

/-- The entries of the names that have a value. -/
def ofNamed (fields : List (String × Option Document)) : Entries :=
  fields.filterMap fun f => f.2.map fun d => (text f.1, d)

theorem ofNamed_cons (f : String × Option Document) (r : List (String × Option Document)) :
    ofNamed (f :: r) = (f.2.map fun d => (text f.1, d)).toList ++ ofNamed r := by
  unfold ofNamed
  cases value : f.2 <;> simp [value]

theorem ofNamed_append (fields more : List (String × Option Document)) :
    ofNamed (fields ++ more) = ofNamed fields ++ ofNamed more := List.filterMap_append

theorem names_ofNamed (fields : List (String × Option Document)) :
    (names (ofNamed fields)).Sublist (fields.map Prod.fst) := by
  induction fields with
  | nil => exact List.Sublist.refl _
  | cons f r ih =>
    obtain ⟨k, d?⟩ := f
    rw [ofNamed_cons, List.map_cons]
    cases d? with
    | none => exact ih.cons k
    | some d => exact ih.cons_cons k

theorem get?_ofNamed (distinct : (fields.map Prod.fst).Nodup) (h : (k, d?) ∈ fields) :
    get? (ofNamed fields) k = d? := by
  induction fields with
  | nil => cases h
  | cons f r ih =>
    rw [List.map_cons, List.nodup_cons] at distinct
    rw [ofNamed_cons]
    rcases List.mem_cons.mp h with rfl | later
    · cases d? with
      | none =>
        exact get?_eq_none_iff.mpr fun named => distinct.1 ((names_ofNamed r).subset named)
      | some d => exact (get?_cons_eq _ _ k).trans (if_pos rfl)
    · have other : f.1 ≠ k := by
        rintro rfl
        exact distinct.1 (List.mem_map.mpr ⟨_, later, rfl⟩)
      cases value : f.2 with
      | none => exact ih distinct.2 later
      | some d =>
        refine (get?_cons_eq _ _ k).trans ((if_neg ?_).trans (ih distinct.2 later))
        simpa [name?, content] using other

theorem mem_of_get?_ofNamed {d : Document} (h : get? (ofNamed fields) k = some d) :
    ∃ f ∈ fields, f.2 = some d := by
  obtain ⟨e, found, rfl⟩ := Option.map_eq_some_iff.mp h
  obtain ⟨f, hf, here⟩ := List.mem_filterMap.mp (List.mem_of_find?_eq_some found)
  obtain ⟨d, value, rfl⟩ := Option.map_eq_some_iff.mp here
  exact ⟨f, hf, value⟩

end Named

end Entries

end Statecraft.Document
