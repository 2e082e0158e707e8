import Mathlib.Data.List.Infix
import Statecraft.Folder
import Statecraft.Proofs.Except
import Statecraft.Proofs.Text.Encoded

/-!
# What a write leaves in a folder

A path leads through folders only, and a file is written where no folder is. So a write adds the
file or replaces it, and under all paths to other places there is what there was
(`Folder.wrote_of_writeText`). A printed text is read back (`Folder.readText_of_find?`).
-/

namespace Statecraft

namespace Path

/-- The first place is on the way to the second. -/
def IsAbove (above place : Path) : Prop :=
  above.root = place.root ∧ above.names <+: place.names ∧ above ≠ place

theorem isAbove_iff_of_append {above here : Path} {name : String} :
    above.IsAbove { here with names := here.names ++ [name] } ↔
      above.IsAbove here ∨ above = here := by
  obtain ⟨root, names⟩ := above
  obtain ⟨root', names'⟩ := here
  simp only [IsAbove, List.prefix_concat_iff, ne_eq, Path.mk.injEq]
  constructor
  · rintro ⟨rfl, rfl | within, apart⟩
    · exact absurd ⟨rfl, rfl⟩ apart
    · by_cases same : names = names'
      · exact Or.inr ⟨rfl, same⟩
      · exact Or.inl ⟨rfl, within, fun h => same h.2⟩
  · rintro (⟨rfl, within, _⟩ | ⟨rfl, rfl⟩)
    · refine ⟨rfl, Or.inr within, fun h => ?_⟩
      have le := within.length_le
      rw [h.2, List.length_append, List.length_singleton] at le
      omega
    · exact ⟨rfl, Or.inr (List.prefix_refl _), by simp⟩

theorem IsAbove.of_parent {above here : Path} (h : above.IsAbove here.parent) :
    above.IsAbove here := by
  obtain ⟨root, within, apart⟩ := h
  refine ⟨root, within.trans (List.dropLast_prefix _), ?_⟩
  rintro rfl
  exact apart (congrArg (Path.mk above.root) (within.eq_of_length_le (by simp [parent])))

end Path

namespace Folder

variable {f f' : Folder} {place here : Path} {stored : Stored}

/-- All places on the way to this one are folders. -/
def HasWayTo (f : Folder) (place : Path) : Prop :=
  ∀ above : Path, above.IsAbove place → f.stored? above = some .folder

theorem HasWayTo.stepTo (h : f.HasWayTo here) (folder : f.stored? here = some .folder)
    (name : String) : f.HasWayTo (stepTo here name) := by
  unfold Folder.stepTo
  split
  · exact h
  · split
    · exact fun above on => h above on.of_parent
    · split
      · exact h
      · intro above on
        rcases Path.isAbove_iff_of_append.mp on with before | rfl
        · exact h above before
        · exact folder

theorem HasWayTo.walk {names : List String} (h : f.HasWayTo here)
    (leads : f.walk here names = .ok place) : f.HasWayTo place := by
  induction names generalizing here with
  | nil =>
    cases leads
    exact h
  | cons name r ih =>
    unfold Folder.walk at leads
    split at leads
    · cases leads
    · cases leads
    · rename_i folder
      split at leads
      · cases leads
      · exact ih (h.stepTo folder name) leads

theorem hasWayTo_of_place {p : Path} (leads : f.place p = .ok place) : f.HasWayTo place := by
  have located : f.locate p.text p.root p.names = .ok place := by
    unfold Folder.place at leads
    split at leads
    · rename_i located
      cases leads
      exact located
    · cases leads
  unfold locate at located
  split at located
  · cases located
  · split at located
    · cases located
    · refine HasWayTo.walk (fun above on => ?_) located
      obtain ⟨root, within, apart⟩ := on
      exact absurd (congrArg₂ Path.mk root (List.prefix_nil.mp within)) apart

/-! ## What is stored -/

/-- A place that is a folder without being stored as one. -/
def isAround (f : Folder) (place : Path) : Bool :=
  place.names.all (· == above) ||
    f.entries.any fun e => e.1.root == place.root && place.names.isPrefixOf e.1.names

theorem stored?_of_found {e : Path × Stored} (first : f.entries.find? (·.1 == place) = some e) :
    f.stored? place = some e.2 := by
  unfold stored?
  rw [first]

theorem stored?_of_absent (absent : f.entries.find? (·.1 == place) = none) :
    f.stored? place = if f.isAround place then some .folder else none := by
  unfold stored?
  rw [absent]
  rfl

theorem absent_of_stored? (free : f.stored? place = none) :
    f.entries.find? (·.1 == place) = none := by
  cases first : f.entries.find? (·.1 == place) with
  | none => rfl
  | some e => cases free.symm.trans (stored?_of_found first)

/-- A file that replaces another one changes nothing else. -/
theorem stored?_replaced {other : Path} {stored : Stored}
    (there : (f.entries.find? (·.1 == place)).isSome) :
    (⟨f.entries.map fun e => if e.1 == place then (place, stored) else e⟩ : Folder).stored? other =
      if other = place then some stored else f.stored? other := by
  let replace : Path × Stored → Path × Stored :=
    fun e => if e.1 == place then (place, stored) else e
  have key_kept : ∀ e, (replace e).1 = e.1 := by
    intro e
    show (if e.1 == place then (place, stored) else e).1 = e.1
    split <;> simp_all
  have found : (f.entries.map replace).find? (·.1 == other) =
      (f.entries.find? (·.1 == other)).map replace := by
    rw [List.find?_map]
    simp only [Function.comp_def, key_kept]
  have around : isAround ⟨f.entries.map replace⟩ other = f.isAround other := by
    simp only [isAround, List.any_map, Function.comp_def, key_kept]
  show stored? ⟨f.entries.map replace⟩ other = _
  cases first : f.entries.find? (·.1 == other) with
  | some e =>
    have key : e.1 = other := by simpa using List.find?_some first
    rw [stored?_of_found (found.trans (congrArg _ first)), stored?_of_found first]
    show some (if e.1 == place then (place, stored) else e).2 = _
    rw [key]
    by_cases same : other = place <;> simp [same]
  | none =>
    have apart : other ≠ place := by
      rintro rfl
      rw [first] at there
      cases there
    rw [if_neg apart, stored?_of_absent (found.trans (congrArg _ first)), around,
      stored?_of_absent first]

/-- A file that is added changes nothing else: the way to it led through folders before. -/
theorem stored?_added {other : Path} {stored : Stored} (free : f.stored? place = none)
    (reached : f.HasWayTo place) :
    (⟨f.entries ++ [(place, stored)]⟩ : Folder).stored? other =
      if other = place then some stored else f.stored? other := by
  have found : (f.entries ++ [(place, stored)]).find? (·.1 == other) =
      (f.entries.find? (·.1 == other)).or
        (if place == other then some (place, stored) else none) := by
    rw [List.find?_append, List.find?_singleton]
  have around : isAround ⟨f.entries ++ [(place, stored)]⟩ other =
      (f.isAround other || (place.root == other.root && other.names.isPrefixOf place.names)) := by
    simp [isAround, Bool.or_assoc]
  by_cases same : other = place
  · subst same
    rw [absent_of_stored? free, beq_self_eq_true] at found
    rw [if_pos rfl, stored?_of_found found]
  · have apart : ¬ (place == other) = true := by simpa using Ne.symm same
    rw [if_neg apart, Option.or_none] at found
    rw [if_neg same]
    cases first : f.entries.find? (·.1 == other) with
    | some e => rw [stored?_of_found (found.trans first), stored?_of_found first]
    | none =>
      rw [stored?_of_absent (found.trans first), around, stored?_of_absent first]
      cases before : f.isAround other with
      | true => rfl
      | false =>
        have off : (place.root == other.root && other.names.isPrefixOf place.names) = false := by
          -- a place on the way to the file would have been a folder
          by_contra on
          obtain ⟨root, within⟩ : place.root = other.root ∧ other.names <+: place.names := by
            simpa using on
          have folder := reached other ⟨root.symm, within, same⟩
          rw [stored?_of_absent first, before] at folder
          cases folder
        rw [off]
        rfl

/-! ## Paths -/

/-- One folder is the other but for a file in this place, where no folder was. -/
structure Alters (f : Folder) (place : Path) (bytes : List UInt8) (f' : Folder) : Prop where
  no_folder : f.stored? place ≠ some .folder
  stored : ∀ other, f'.stored? other = if other = place then some (.file bytes) else f.stored? other

namespace Alters

variable {bytes : List UInt8} (h : f.Alters place bytes f')
include h

theorem stored_here : f'.stored? place = some (.file bytes) := by rw [h.stored, if_pos rfl]

theorem elsewhere {other : Path} (apart : other ≠ place) : f'.stored? other = f.stored? other := by
  rw [h.stored, if_neg apart]

/-- Names lead where they led; what led nowhere may now end at the file. -/
theorem walk_kept (here : Path) (names : List String) : f'.walk here names = f.walk here names ∨
    f.walk here names = .error .missing ∧ f'.walk here names = .error .notFolder := by
  induction names generalizing here with
  | nil => exact Or.inl rfl
  | cons name r ih =>
    rw [Folder.walk, Folder.walk]
    by_cases same : here = place
    · subst same
      rw [h.stored_here]
      cases before : f.stored? here with
      | none => exact Or.inr ⟨rfl, rfl⟩
      | some s =>
        cases s with
        | file => exact Or.inl rfl
        | folder => exact absurd before h.no_folder
    · rw [h.elsewhere same]
      split
      · exact Or.inl rfl
      · exact Or.inl rfl
      · split
        · exact Or.inl rfl
        · exact ih _

theorem place_kept (p : Path) : f'.place p = f.place p ∨
    f.place p = .error ⟨.missing, p⟩ ∧ f'.place p = .error ⟨.notFolder, p⟩ := by
  unfold Folder.place locate
  generalize (⟨if p.root.isEmpty then "" else "/", []⟩ : Path) = start
  split_ifs
  · exact Or.inl rfl
  · exact Or.inl rfl
  · rcases h.walk_kept start p.names with same | ⟨before, after⟩
    · exact Or.inl (by rw [same])
    · exact Or.inr ⟨by rw [before], by rw [after]⟩

end Alters

/-- What a write has left: the bytes under the path, and under the paths to all other places what
there was. -/
structure Wrote (f : Folder) (p : Path) (bytes : List UInt8) (f' : Folder) : Prop where
  written : f'.find? p = .ok (some (.file bytes))
  others : ∀ q, f.place q ≠ f.place p → f'.find? q = f.find? q

theorem Alters.wrote {bytes : List UInt8} {p : Path} (h : f.Alters place bytes f')
    (leads : f.place p = .ok place) : f.Wrote p bytes f' where
  written := by
    have kept : f'.place p = .ok place := by
      rcases h.place_kept p with same | ⟨lost, _⟩
      · rw [same, leads]
      · cases leads.symm.trans lost
    rw [find?, kept]
    exact congrArg Except.ok h.stored_here
  others := by
    intro q apart
    rcases h.place_kept q with same | ⟨before, after⟩
    · unfold find?
      rw [same]
      cases elsewhere : f.place q with
      | error e => rfl
      | ok other =>
        have different : other ≠ place := by
          rintro rfl
          exact apart (elsewhere.trans leads.symm)
        exact congrArg Except.ok (h.elsewhere different)
    · rw [find?, find?, before, after]
      rfl

/-- A place in which a file is found is one that something is stored in. -/
theorem isSome_of_stored?_file {bytes : List UInt8} (found : f.stored? place = some (.file bytes)) :
    (f.entries.find? (·.1 == place)).isSome := by
  by_contra absent
  rw [Bool.not_eq_true, Option.isSome_eq_false_iff, Option.isNone_iff_eq_none] at absent
  rw [stored?_of_absent absent] at found
  split at found <;> cases found

/-- **A write that succeeds stores the text under its path and changes nothing else.** -/
theorem wrote_of_writeText {p : Path} {text : String} (h : f.writeText p text = .ok f') :
    f.Wrote p (Text.encode text) f' := by
  obtain ⟨place, leads, h⟩ := exists_of_bind h
  dsimp only at h
  cases before : f.stored? place with
  | none =>
    rw [before] at h
    cases h
    have reached := hasWayTo_of_place leads
    exact Alters.wrote ⟨by simp [before], fun other => stored?_added before reached⟩ leads
  | some s =>
    cases s with
    | folder =>
      rw [before] at h
      cases h
    | file bytes =>
      rw [before] at h
      cases h
      have there := isSome_of_stored?_file before
      exact Alters.wrote ⟨by simp [before], fun other => stored?_replaced there⟩ leads

/-- A printed text is read as it was written. -/
theorem readText_of_find? {p : Path} {text : String}
    (found : f.find? p = .ok (some (.file (Text.encode text))))
    (printed : Text.AllPrinted text.toList) : f.readText p = .ok text := by
  unfold find? at found
  unfold readText
  cases leads : f.place p with
  | error e =>
    rw [leads] at found
    dsimp only at found
    split at found <;> cases found
  | ok place =>
    rw [leads] at found
    simp only [Except.ok.inj found, Text.decode_encode printed, Text.unifyLines_eq printed,
      String.ofList_toList]

end Folder

end Statecraft
