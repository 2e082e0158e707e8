import Statecraft.Proofs.Document.Lookup

/-!
# Looking things up in overlaid documents

What stands at a name in entries that are laid over others is what stands there in the upper ones,
over what stands there in the lower ones (`Entries.get?_overlay`). This asks for different names in
the upper entries, as mappings have them (`IsDictionary`); overlaying keeps them different
(`IsDictionary.overlay`).
-/

namespace Statecraft.Document

/-- A value, if there is one, over what is below it. -/
def stacked (upper lower : Option Document) : Option Document := (upper.map (onTop lower)).or lower

/-- The value is a mapping. -/
def IsMapping (d : Document) : Prop := ∃ entries, d.content = .map entries

instance (d : Document) : Decidable d.IsMapping :=
  match content : d.content with
  | .map entries => isTrue ⟨entries, content⟩
  | .null | .bool _ | .int _ | .float _ | .text _ | .date _ | .moment _ | .bytes _ | .set _
  | .list _ | .shared .. => isFalse fun ⟨_, other⟩ => (nomatch content.symm.trans other)

theorem isMapping_map (entries : Entries) : (map entries).IsMapping := ⟨entries, rfl⟩

/-- Only a mapping over a mapping takes anything from below. -/
theorem onTop_eq (below : Option Document) (d : Document) :
    onTop below d = d ∨ ∃ es lower, d = .map es ∧ below = some (.map lower) ∧
      onTop below d = .map (Entries.overlay es lower) := by
  cases d with
  | map es =>
    unfold onTop
    split
    · rename_i lower
      exact Or.inr ⟨es, lower, rfl, rfl, rfl⟩
    · exact Or.inl rfl
  | _ => exact Or.inl rfl

theorem isMapping_onTop {below : Option Document} {d : Document} :
    (onTop below d).IsMapping ↔ d.IsMapping := by
  rcases onTop_eq below d with same | ⟨es, lower, rfl, -, laid⟩
  · rw [same]
  · rw [laid]
    exact iff_of_true (isMapping_map _) (isMapping_map _)

theorem onTop_none (d : Document) : onTop none d = d := by
  cases d <;> rfl

theorem stacked_none (upper : Option Document) : stacked upper none = upper := by
  cases upper with
  | none => rfl
  | some d => exact congrArg some (onTop_none d)

namespace Entries

variable {upper lower : Entries} {k : String}

/-- **What stands at a name in overlaid entries** is the upper value over the lower one. -/
theorem get?_overlay (distinct : (names upper).Nodup) (lower : Entries) (k : String) :
    get? (upper.overlay lower) k = stacked (get? upper k) (get? lower k) := by
  unfold overlay
  induction upper generalizing lower with
  | nil => rfl
  | cons e r ih =>
    obtain ⟨key, value⟩ := e
    rw [names_cons, List.nodup_append] at distinct
    obtain ⟨-, rest, apart⟩ := distinct
    rw [overEntries, ih rest, get?_insert, get?_cons_eq]
    by_cases here : key.name? = some k
    · -- No later entry has the name, so what is set here stays.
      have last : get? r k = none :=
        get?_eq_none_iff.mpr fun again => apart k (by simp [here]) k again rfl
      rw [if_pos here, if_pos here, last, at?_of_name? here]
      rfl
    · rw [if_neg here, if_neg here]

theorem nodup_names_overlay (distinct : (names lower).Nodup) (upper : Entries) :
    (names (upper.overlay lower)).Nodup := by
  unfold overlay
  induction upper generalizing lower with
  | nil => exact distinct
  | cons e r ih => exact ih (nodup_names_insert distinct _ _)

end Entries

/-- What stands at a name in a mapping that is laid over a value. -/
theorem get?_onTop {es : Entries} (distinct : (Entries.names es).Nodup) {below : Option Document}
    (bare : ∀ d ∈ below, d.content = d) (k : String) :
    (onTop below (.map es)).get? k = stacked (es.get? k) (below.bind (·.get? k)) := by
  cases below with
  | none => exact (stacked_none _).symm
  | some d =>
    cases d with
    | map lower => exact Entries.get?_overlay distinct lower k
    | shared l d => exact absurd (bare _ rfl) (content_ne_shared d)
    | _ => exact (stacked_none _).symm

/-- Entries with different names, also within the mappings at their names, where no value is
wrapped. -/
structure IsDictionary (entries : Entries) : Prop where
  distinct : (Entries.names entries).Nodup
  bare : ∀ k d, Entries.get? entries k = some d → d.content = d
  inner : ∀ k es, Entries.get? entries k = some (.map es) → (Entries.names es).Nodup

namespace IsDictionary

variable {upper lower : Entries}

theorem nil : IsDictionary [] :=
  ⟨List.nodup_nil, fun _ _ found => (nomatch found), fun _ _ found => (nomatch found)⟩

/-- Fields with different names are a dictionary if their values are fit for one. -/
theorem ofNamed {fields : List (String × Option Document)}
    (distinct : (fields.map Prod.fst).Nodup)
    (fit : ∀ f ∈ fields, ∀ d ∈ f.2, d.content = d ∧ ∀ es, d = .map es → (Entries.names es).Nodup) :
    IsDictionary (Entries.ofNamed fields) where
  distinct := distinct.sublist (Entries.names_ofNamed fields)
  bare := by
    intro k d found
    obtain ⟨f, hf, value⟩ := Entries.mem_of_get?_ofNamed found
    exact (fit f hf d value).1
  inner := by
    intro k es found
    obtain ⟨f, hf, value⟩ := Entries.mem_of_get?_ofNamed found
    exact (fit f hf _ value).2 es rfl

/-- Laying dictionaries over each other gives one. -/
theorem overlay (above : IsDictionary upper) (below : IsDictionary lower) :
    IsDictionary (upper.overlay lower) where
  distinct := Entries.nodup_names_overlay below.distinct upper
  bare := by
    intro k d found
    rw [Entries.get?_overlay above.distinct] at found
    cases found_above : Entries.get? upper k with
    | none => exact below.bare k d (by simpa [stacked, found_above] using found)
    | some v =>
      obtain rfl : onTop (Entries.get? lower k) v = d := by
        simpa [stacked, found_above] using found
      rcases onTop_eq (Entries.get? lower k) v with same | ⟨es, ls, -, -, laid⟩
      · rw [same]
        exact above.bare k v found_above
      · rw [laid]
        rfl
  inner := by
    intro k entries found
    rw [Entries.get?_overlay above.distinct] at found
    cases found_above : Entries.get? upper k with
    | none => exact below.inner k entries (by simpa [stacked, found_above] using found)
    | some v =>
      have laid : onTop (Entries.get? lower k) v = .map entries := by
        simpa [stacked, found_above] using found
      rcases onTop_eq (Entries.get? lower k) v with same | ⟨es, ls, rfl, found_below, merged⟩
      · exact above.inner k entries (by rw [found_above, ← same, laid])
      · cases laid.symm.trans merged
        exact Entries.nodup_names_overlay (below.inner k ls found_below) es

end IsDictionary

end Statecraft.Document
