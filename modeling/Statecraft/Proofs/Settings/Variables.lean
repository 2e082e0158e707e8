import Statecraft.Proofs.Document.Overlay
import Statecraft.Settings.Variables

/-!
# Settings from variables are a dictionary

Sections that are given in JSON have no wrappers around them (`Json.content_of_read`), and the keys
of a section are set one by one, each at its only place (`nodup_names_withKeys`).
-/

namespace Statecraft

namespace Json

variable {fuel : Nat} {s r : List Char} {d : Document}

theorem content_of_number? {negative : Bool} (h : number? negative s = some (.ok d, r)) :
    d.content = d := by
  unfold number? at h
  extract_lets rest at h
  have kept : ∀ x, rest x = some (.ok d, r) → d.content = d := by
    intro x h
    dsimp only [rest] at h
    split at h
    · split at h <;> cases h
      rfl
    · obtain ⟨numeral, -, h⟩ := Option.bind_eq_some_iff.mp h
      cases h
      rfl
  clear_value rest
  simp only [Option.bind_eq_bind, Option.bind_some, Option.bind_none] at h
  split at h
  · exact kept _ h
  · split at h
    · exact kept _ h
    · cases h
  · cases h

theorem content_of_signed {negative : Bool} {t : List Char} {v : Except Stop Document}
    (found : number? negative s = some (v, t)) (h : v.map (·, t) = .ok (d, r)) :
    d.content = d := by
  cases v with
  | error e => cases h
  | ok v =>
    cases h
    exact content_of_number? found

theorem content_of_scalar (h : scalar s = .ok (d, r)) : d.content = d := by
  unfold scalar at h
  split at h
  case h_7 | h_8 =>
    split at h
    · rename_i found
      exact content_of_signed found h
    · cases h
  all_goals
    cases h
    rfl

/-- The members of an object make a mapping. -/
theorem exists_of_members {done : Document.Entries} (h : members fuel done s = .ok (d, r)) :
    ∃ es, d = .map es := by
  induction fuel generalizing done s with
  | zero => cases h
  | succ fuel ih =>
    unfold members at h
    split at h
    · split at h
      · cases h
      · split at h
        · split at h
          · cases h
          · dsimp only at h
            split at h
            · cases h
              exact ⟨_, rfl⟩
            · exact ih h
            · cases h
        · cases h
    · cases h

theorem exists_of_items {done : List Document} (h : items fuel done s = .ok (d, r)) :
    ∃ ds, d = .list ds := by
  induction fuel generalizing done s with
  | zero => cases h
  | succ fuel ih =>
    unfold items at h
    split at h
    · cases h
    · split at h
      · cases h
        exact ⟨_, rfl⟩
      · exact ih h
      · cases h

/-- A value in JSON has no wrapper around it. -/
theorem content_of_value (h : value fuel s = .ok (d, r)) : d.content = d := by
  cases fuel with
  | zero => cases h
  | succ fuel =>
    unfold value at h
    split at h
    · rename_i r
      cases text : string r with
      | error e => simp [text, Except.map] at h
      | ok p =>
        obtain ⟨t, u⟩ := p
        simp only [text, Except.map] at h
        cases h
        rfl
    · split at h
      · cases h
        rfl
      · obtain ⟨es, rfl⟩ := exists_of_members h
        rfl
    · split at h
      · cases h
        rfl
      · obtain ⟨ds, rfl⟩ := exists_of_items h
        rfl
    · exact content_of_scalar h

theorem content_of_document (h : document s = .ok d) : d.content = d := by
  unfold document at h
  split at h
  · cases h
  · split at h
    · cases h
    · rename_i found
      split at h
      · cases h
        exact content_of_value found
      · cases h

theorem content_of_read {text : String} (h : read text = .ok d) : d.content = d := by
  unfold read at h
  dsimp only at h
  split at h
  · rename_i found
    cases h
    exact content_of_document found
  · cases h
  · cases h

end Json
namespace Settings

open Document (Entries IsDictionary)

variable {environment : List Assignment} {sec : Section} {es : Entries}

theorem nodup_names_withKeys (sec : Section) (entries : Entries) :
    (Entries.names (withKeys sec entries)).Nodup := by
  exact Entries.nodup_names_foldl_insert _ _ entries List.nodup_nil

/-- What variables give of a section, if it can be read. -/
def sectionValue? (environment : List Assignment) (sec : Section) : Option Document :=
  (sectionValue environment sec).toOption.join

theorem fit_sectionValue {d : Document} (h : sectionValue environment sec = .ok (some d)) :
    d.content = d ∧ ∀ es, d = .map es → (Entries.names es).Nodup := by
  unfold sectionValue at h
  dsimp only at h
  split at h
  · split at h
    · cases h
    · cases h
      refine ⟨rfl, ?_⟩
      rintro es ⟨⟩
      exact nodup_names_withKeys sec _
  · rename_i text
    split at h
    · cases h
    · cases h
    · cases h
      refine ⟨rfl, ?_⟩
      rintro es ⟨⟩
      exact nodup_names_withKeys sec _
    · rename_i other read
      cases h
      refine ⟨Json.content_of_read read, ?_⟩
      rintro es rfl
      exact absurd rfl (other es)

theorem sectionEntries_eq_ok {sections : List Section}
    (h : sectionEntries environment sections = .ok es) :
    es = Entries.ofNamed (sections.map fun sec => (sec.name, sectionValue? environment sec)) := by
  induction sections generalizing es with
  | nil =>
    cases h
    rfl
  | cons sec r ih =>
    unfold sectionEntries at h
    split at h
    · cases h
    · rename_i v found
      cases rest : sectionEntries environment r with
      | error e => simp [rest, Except.map] at h
      | ok more =>
        rw [rest] at h
        cases h
        rw [List.map_cons, Entries.ofNamed_cons, ← ih rest, sectionValue?, found]
        rfl

/-- What variables give, by name. -/
def variableFields (environment : List Assignment) : List (String × Option Document) :=
  topKeys.map (fun k => (k, (variableText? environment k).map .text)) ++
    Section.all.map fun sec => (sec.name, sectionValue? environment sec)

theorem ofVariables_eq_ok (h : ofVariables environment = .ok es) :
    es = Entries.ofNamed (variableFields (lowered environment)) := by
  unfold ofVariables at h
  cases sections : sectionEntries (lowered environment) Section.all with
  | error e =>
    simp only [sections] at h
    cases h
  | ok more =>
    simp only [sections] at h
    cases h
    rw [variableFields, Entries.ofNamed_append, ← sectionEntries_eq_ok sections]
    simp [Entries.ofNamed, List.filterMap_map, Function.comp_def]

theorem nodup_variableFields (environment : List Assignment) :
    ((variableFields environment).map Prod.fst).Nodup := by
  have names : (variableFields environment).map Prod.fst =
      topKeys ++ Section.all.map Section.name := by
    simp [variableFields, Function.comp_def]
  rw [names]
  decide

/-- **Settings from variables are a dictionary.** -/
theorem isDictionary_ofVariables (h : ofVariables environment = .ok es) : IsDictionary es := by
  rw [ofVariables_eq_ok h]
  refine IsDictionary.ofNamed (nodup_variableFields _) fun f hf d value => ?_
  rcases List.mem_append.mp hf with top | part
  · obtain ⟨k, -, rfl⟩ := List.mem_map.mp top
    obtain ⟨t, -, rfl⟩ := Option.map_eq_some_iff.mp value
    refine ⟨rfl, ?_⟩
    rintro es ⟨⟩
  · obtain ⟨sec, -, rfl⟩ := List.mem_map.mp part
    unfold sectionValue? at value
    cases found : sectionValue (lowered environment) sec with
    | error e => simp [found, Except.toOption] at value
    | ok v =>
      obtain rfl : v = some d := by simpa [found, Except.toOption] using value
      exact fit_sectionValue found

end Settings

end Statecraft
