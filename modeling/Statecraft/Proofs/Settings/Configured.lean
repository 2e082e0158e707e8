import Statecraft.Proofs.Settings.Leaf

/-!
# Settings of the configuration file

The configuration file gives a leaf what its entries have in the leaf's place, and the layout's
direction also what stands outside the sections (`given_ofConfig`). What it gives is a dictionary
(`isDictionary_ofConfig`).
-/

namespace Statecraft.Settings

open Document (Entries IsDictionary)

variable {entries : Entries}

/-- What the configuration file gives for the leaf: what stands in its place, and if nothing does,
for the direction of the layout the one outside the sections. -/
def Leaf.configured (l : Leaf) (entries : Entries) : Option Document :=
  (l.given entries).or
    (if l.part = some .layout ∧ l.key = "direction" then entries.get? "direction" else none)

/-- The entries that the configuration file gives for a section. -/
def configured (entries : Entries) : Section → Option Entries
  | .layout => withDirection entries (configSection entries .layout).1
  | sec => (configSection entries sec).1

/-- A section that the configuration file gives. -/
def configField (entries : Entries) (sec : Section) : String × Option Document :=
  (sec.name, (configured entries sec).map .map)

/-- What the configuration file gives, by name. -/
def configFields (entries : Entries) : List (String × Option Document) :=
  topKeys.map (fun k => (k, entries.get? k)) ++ Section.all.map (configField entries)

theorem nodup_configFields (entries : Entries) : ((configFields entries).map Prod.fst).Nodup := by
  have names : (configFields entries).map Prod.fst = topKeys ++ Section.all.map Section.name := by
    simp [configFields, configField, Function.comp_def]
  rw [names]
  decide

theorem ofConfig_eq (entries : Entries) :
    (ofConfig entries).1 = Entries.ofNamed (configFields entries) := by
  have top : topKeys.filterMap (fun k => (entries.get? k).map fun d => (Document.text k, d)) =
      Entries.ofNamed (topKeys.map fun k => (k, entries.get? k)) := by
    simp [Entries.ofNamed, List.filterMap_map]
  have part : ∀ sec, ((configured entries sec).map fun es =>
      (Document.text sec.name, Document.map es)).toList =
        Entries.ofNamed [configField entries sec] := by
    intro sec
    unfold configField
    cases configured entries sec <;> rfl
  have sections : Section.all.map (configField entries) = [configField entries .layout] ++
      [configField entries .grid] ++ [configField entries .editor] := rfl
  rw [configFields, sections, Entries.ofNamed_append, Entries.ofNamed_append,
    Entries.ofNamed_append, ← top, ← part, ← part, ← part, ← List.append_assoc,
    ← List.append_assoc]
  rfl

theorem get?_ofConfig_section (entries : Entries) (sec : Section) :
    Entries.get? (ofConfig entries).1 sec.name = (configured entries sec).map .map := by
  rw [ofConfig_eq]
  have known : sec ∈ Section.all := by cases sec <;> decide
  exact Entries.get?_ofNamed (nodup_configFields entries)
    (List.mem_append_right _ (List.mem_map_of_mem known))

theorem get?_ofConfig_top {k : String} (known : k ∈ topKeys) :
    Entries.get? (ofConfig entries).1 k = entries.get? k := by
  rw [ofConfig_eq]
  exact Entries.get?_ofNamed (nodup_configFields entries)
    (List.mem_append_left _ (List.mem_map_of_mem known))

/-- A section that is empty or no mapping has nothing at any key, so dropping it loses nothing. -/
theorem configSection_bind (dict : IsDictionary entries) (sec : Section) (k : String) :
    (configSection entries sec).1.bind (·.get? k) = (entries.get? sec.name).bind (·.get? k) := by
  unfold configSection
  cases found : entries.get? sec.name with
  | none => rfl
  | some d =>
    cases d with
    | map es => cases es <;> rfl
    | shared l d => exact absurd (dict.bare _ _ found) (Document.content_ne_shared d)
    | _ => rfl

theorem withDirection_bind (entries : Entries) (layout : Option Entries) (k : String) :
    (withDirection entries layout).bind (·.get? k) = (layout.bind (·.get? k)).or
      (if k = "direction" then entries.get? "direction" else none) := by
  have inside : layout.bind (·.get? k) = (layout.getD []).get? k := by
    cases layout <;> rfl
  rw [inside]
  unfold withDirection
  cases entries.get? "direction" with
  | none => simp [inside]
  | some d =>
    generalize layout.getD [] = inner
    dsimp only [Option.bind_some]
    by_cases named : k = "direction"
    · subst named
      cases found : inner.get? "direction" with
      | none => simp [Entries.get?_insert, Document.name?, Document.content]
      | some v => simp [found]
    · rw [if_neg named, Option.or_none]
      split
      · rfl
      · rw [Entries.get?_insert, if_neg]
        simpa [Document.name?, Document.content] using Ne.symm named

/-- **What the configuration file gives for a leaf** is what its entries have for it. -/
theorem given_ofConfig (dict : IsDictionary entries) {l : Leaf} (known : l ∈ leaves) :
    l.given (ofConfig entries).1 = l.configured entries := by
  unfold Leaf.configured
  cases part : l.part with
  | none =>
    rw [Leaf.given_of_outside part, Leaf.given_of_outside part,
      get?_ofConfig_top (Leaf.key_mem_topKeys known part)]
    simp
  | some sec =>
    have inside : l.given (ofConfig entries).1 = (configured entries sec).bind (·.get? l.key) := by
      rw [Leaf.given_of_inside part, get?_ofConfig_section, Option.bind_map]
      rfl
    have outside : l.given entries = (configSection entries sec).1.bind (·.get? l.key) := by
      rw [Leaf.given_of_inside part, configSection_bind dict]
    rw [inside, outside]
    cases sec with
    | layout =>
      rw [configured, withDirection_bind]
      simp
    | grid | editor => simp [configured]

theorem nodup_names_configSection (dict : IsDictionary entries) {sec : Section} {es : Entries}
    (h : (configSection entries sec).1 = some es) : (Entries.names es).Nodup := by
  unfold configSection at h
  split at h
  all_goals cases h
  rename_i found
  exact dict.inner _ es found

theorem nodup_names_configured (dict : IsDictionary entries) {sec : Section} {es : Entries}
    (h : configured entries sec = some es) : (Entries.names es).Nodup := by
  cases sec with
  | layout =>
    have distinct : (Entries.names ((configSection entries .layout).1.getD [])).Nodup := by
      cases inner : (configSection entries .layout).1 with
      | none => exact List.nodup_nil
      | some es => exact nodup_names_configSection dict inner
    rw [configured, withDirection] at h
    split at h
    · exact nodup_names_configSection dict h
    · obtain rfl := Option.some.inj h
      split
      · exact distinct
      · exact Entries.nodup_names_insert distinct _ _
  | grid | editor => exact nodup_names_configSection dict h

/-- The settings of the configuration file are a dictionary if its entries are one. -/
theorem isDictionary_ofConfig (dict : IsDictionary entries) :
    IsDictionary (ofConfig entries).1 := by
  rw [ofConfig_eq]
  refine IsDictionary.ofNamed (nodup_configFields entries) fun f hf d value => ?_
  rcases List.mem_append.mp hf with top | part
  · obtain ⟨k, -, rfl⟩ := List.mem_map.mp top
    refine ⟨dict.bare k d value, ?_⟩
    rintro es rfl
    exact dict.inner k es value
  · obtain ⟨sec, -, rfl⟩ := List.mem_map.mp part
    obtain ⟨es, found, rfl⟩ := Option.map_eq_some_iff.mp value
    refine ⟨rfl, ?_⟩
    rintro _ ⟨⟩
    exact nodup_names_configured dict found

end Statecraft.Settings
