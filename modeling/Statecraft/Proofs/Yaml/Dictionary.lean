import Statecraft.Proofs.Document.Overlay
import Statecraft.Proofs.Document.Plain
import Statecraft.Proofs.Except
import Statecraft.Yaml.Reader

/-!
# Mappings in YAML are dictionaries

The entries of a map are set one by one, so that their names differ (`value_of_mapping`). Only a map
becomes a mapping (`mapping_of_value`), which makes the mappings within it dictionaries too.
-/

namespace Statecraft.Yaml

open Document (Entries IsDictionary)

variable {fuel : Nat} {n : Node} {d : Document} {es : Entries}

namespace Finding

variable {α β : Type}

theorem here_eq_ok {r : Result α} {a : α} : here r = .ok a ↔ r = .ok a := by
  cases r <;> simp [here]

theorem inside_eq_ok {r : Finding α} {a : α} : inside r = .ok a ↔ r = .ok a := by
  cases r <;> simp [inside]

theorem both_eq_ok {x : Finding α} {y : Finding β} {p : α × β} :
    both x y = .ok p ↔ x = .ok p.1 ∧ y = .ok p.2 := by
  obtain ⟨a, b⟩ := p
  cases x <;> cases y <;> simp [both]

theorem mem_all {xs : List (Finding α)} {as : List α} (h : all xs = .ok as) :
    ∀ a ∈ as, .ok a ∈ xs := by
  induction xs generalizing as with
  | nil =>
    cases h
    exact fun a ha => (nomatch ha)
  | cons x r ih =>
    unfold all at h
    cases found : both x (all r) with
    | error e => simp [found, Except.map] at h
    | ok p =>
      rw [found] at h
      cases h
      obtain ⟨first, rest⟩ := both_eq_ok.mp found
      intro a ha
      rcases List.mem_cons.mp ha with rfl | later
      · exact List.mem_cons.mpr (Or.inl first.symm)
      · exact List.mem_cons_of_mem _ (ih rest a later)

end Finding

theorem exists_of_scalar {make : List Char → Result Document}
    (h : Finding.here ((scalarText fuel n).bind make) = .ok d) : ∃ s, make s = .ok d := by
  have bound := Finding.here_eq_ok.mp h
  cases text : scalarText fuel n with
  | error e =>
    rw [text] at bound
    cases bound
  | ok s =>
    rw [text] at bound
    exact ⟨s, bound⟩

theorem content_of_timestamp {s : List Char} (h : timestamp s = .ok d) : d.content ≠ .map es := by
  unfold timestamp at h
  split at h
  · cases h
  · dsimp only at h
    split at h
    · obtain ⟨_, -, rfl⟩ := exists_of_map h
      exact Document.noConfusion
    · split at h
      · cases h
      · cases h
      · repeat' split at h
        all_goals cases h
        exact Document.noConfusion

theorem content_of_listOf {item : Node → Finding Document} (h : listOf item n = .ok d) :
    d.content ≠ .map es := by
  unfold listOf at h
  split at h
  · obtain ⟨_, -, rfl⟩ := exists_of_map h
    exact Document.noConfusion
  · cases h

/-- Only a map has a mapping as its value. -/
theorem mapping_of_value (h : value fuel n = .ok d) (content : d.content = .map es) :
    ∃ fuel, mapping (value fuel) fuel n = .ok es := by
  cases fuel with
  | zero => cases h
  | succ fuel =>
    unfold value at h
    cases tag : n.tag with
    | map =>
      simp only [tag] at h
      obtain ⟨d, parts, rfl⟩ := exists_of_map h
      obtain ⟨es, found, rfl⟩ := exists_of_map (Finding.inside_eq_ok.mp parts)
      cases content
      exact ⟨fuel, found⟩
    | null | text =>
      simp only [tag] at h
      obtain ⟨s, made⟩ := exists_of_scalar h
      cases made
      cases content
    | bool | int | float | binary =>
      simp only [tag] at h
      obtain ⟨s, made⟩ := exists_of_scalar h
      obtain ⟨_, -, rfl⟩ := exists_of_map made
      cases content
    | timestamp =>
      simp only [tag] at h
      obtain ⟨_, scalar, rfl⟩ := exists_of_map h
      obtain ⟨s, made⟩ := exists_of_scalar scalar
      exact (content_of_timestamp made content).elim
    | list | pairs | orderedPairs =>
      simp only [tag] at h
      obtain ⟨_, parts, rfl⟩ := exists_of_map h
      exact (content_of_listOf (Finding.inside_eq_ok.mp parts) content).elim
    | set =>
      simp only [tag] at h
      obtain ⟨_, parts, rfl⟩ := exists_of_map h
      obtain ⟨_, -, rfl⟩ := exists_of_map (Finding.inside_eq_ok.mp parts)
      cases content
    | merge | equals | unknown _ =>
      simp only [tag] at h
      cases h

/-- The entries of a map have different names, and their values are values of nodes. -/
theorem value_of_mapping (h : mapping (value fuel) fuel n = .ok es) :
    (Entries.names es).Nodup ∧ ∀ e ∈ es, ∃ m, value fuel m = .ok e.2 := by
  unfold mapping at h
  split at h
  · cases h
  · rename_i nodes _
    cases found : Finding.all (nodes.map fun e => Finding.both (keyOf (value fuel) e.1)
        (value fuel e.2)) with
    | error e => simp [found, Except.map] at h
    | ok pairs =>
      rw [found] at h
      cases h
      refine ⟨Entries.nodup_names_foldl_insert _ _ pairs List.nodup_nil, fun e he => ?_⟩
      rcases Entries.mem_foldl_insert _ _ pairs he with ⟨p, hp, same⟩ | before
      · obtain ⟨node, -, both⟩ := List.mem_map.mp (Finding.mem_all found p hp)
        exact ⟨node.2, same ▸ (Finding.both_eq_ok.mp both).2⟩
      · cases before

/-- **A mapping in YAML is a dictionary.** -/
theorem isDictionary_of_read {text : String} {entries : Entries} (h : read text = .ok d)
    (plain : d.plain = .map entries) : IsDictionary entries := by
  -- Shared values are tidied up after reading, which makes no difference without wrappers.
  have valued : ∃ fuel n d, value fuel n = .ok d ∧ d.plain = .map entries := by
    unfold read at h
    split at h
    · cases h
    · cases h
      cases plain
    · split at h
      · rename_i d found
        cases h
        exact ⟨_, _, d, found, d.plain_tidy ▸ plain⟩
      · cases h
  obtain ⟨_, n, d, found, plain⟩ := valued
  obtain ⟨es, content, rfl⟩ := Document.content_of_plain d plain
  obtain ⟨_, mapped⟩ := mapping_of_value found content
  obtain ⟨distinct, values⟩ := value_of_mapping mapped
  refine ⟨by rwa [Entries.names_plain], fun k d here => ?_, fun k inner here => ?_⟩
  · rw [Entries.get?_plain] at here
    obtain ⟨v, -, rfl⟩ := Option.map_eq_some_iff.mp here
    exact v.content_plain
  · rw [Entries.get?_plain] at here
    obtain ⟨v, there, plain⟩ := Option.map_eq_some_iff.mp here
    obtain ⟨e, he, rfl⟩ := Option.map_eq_some_iff.mp there
    obtain ⟨m, value⟩ := values e (List.mem_of_find?_eq_some he)
    obtain ⟨es, content, rfl⟩ := Document.content_of_plain e.2 plain
    obtain ⟨_, mapped⟩ := mapping_of_value value content
    rw [Entries.names_plain]
    exact (value_of_mapping mapped).1

end Statecraft.Yaml
