import Statecraft.Document.Sharing
import Statecraft.Proofs.Document.Lookup

/-!
# Documents without wrappers

`plain` takes the wrappers off: keys keep their names (`name?_plain`), so what stands at a name is
what stood there, without its wrappers (`Entries.get?_plain`). Wrappers that have been dropped
before make no difference (`plain_tidy`).
-/

namespace Statecraft.Document

theorem plainList_eq_map (items : List Document) : plainList items = items.map plain := by
  induction items with
  | nil => rfl
  | cons d r ih => rw [plainList, ih, List.map_cons]

theorem plainEntries_eq_map (entries : Entries) :
    plainEntries entries = entries.map fun e => (e.1.plain, e.2.plain) := by
  induction entries with
  | nil => rfl
  | cons e r ih => rw [plainEntries, ih, List.map_cons]

theorem content_plain : (d : Document) → d.plain.content = d.plain
  | .shared _ d => content_plain d
  | .null | .bool _ | .int _ | .float _ | .text _ | .date _ | .moment _ | .bytes _ | .set _
  | .list _ | .map _ => rfl

theorem name?_plain : (d : Document) → d.plain.name? = d.name?
  | .shared _ d => name?_plain d
  | .null | .bool _ | .int _ | .float _ | .text _ | .date _ | .moment _ | .bytes _ | .set _
  | .list _ | .map _ => rfl

/-- A mapping without wrappers was a mapping. -/
theorem content_of_plain {entries : Entries} :
    (d : Document) → d.plain = .map entries → ∃ es, d.content = .map es ∧ plainEntries es = entries
  | .shared _ d => content_of_plain d
  | .map es => fun plain => ⟨es, rfl, Document.map.inj plain⟩
  | .null | .bool _ | .int _ | .float _ | .text _ | .date _ | .moment _ | .bytes _ | .set _
  | .list _ => fun plain => (nomatch plain)

namespace Entries

theorem names_plain (entries : Entries) : names (plainEntries entries) = names entries := by
  rw [plainEntries_eq_map, names, List.filterMap_map, names]
  congr 1
  funext e
  exact name?_plain e.1

theorem get?_plain (entries : Entries) (key : String) :
    get? (plainEntries entries) key = (get? entries key).map plain := by
  induction entries with
  | nil => rfl
  | cons e r ih =>
    rw [plainEntries, get?_cons_eq, get?_cons_eq, name?_plain, ih]
    split <;> rfl

end Entries

mutual

theorem plain_keepShared (kept : List Nat) : (d : Document) → (d.keepShared kept).plain = d.plain
  | .shared l d => by
    unfold keepShared
    split <;> exact plain_keepShared kept d
  | .set ms => congrArg Document.set (plainList_keepShared kept ms)
  | .list items => congrArg Document.list (plainList_keepShared kept items)
  | .map entries => congrArg Document.map (plainEntries_keepShared kept entries)
  | .null | .bool _ | .int _ | .float _ | .text _ | .date _ | .moment _ | .bytes _ => rfl

theorem plainList_keepShared (kept : List Nat) :
    (items : List Document) → plainList (keepSharedList kept items) = plainList items
  | [] => rfl
  | d :: r => by
    rw [keepSharedList, plainList, plainList, plain_keepShared kept d, plainList_keepShared kept r]

theorem plainEntries_keepShared (kept : List Nat) :
    (entries : Entries) → plainEntries (keepSharedEntries kept entries) = plainEntries entries
  | [] => rfl
  | (k, v) :: r => by
    rw [keepSharedEntries, plainEntries, plainEntries, plain_keepShared kept k,
      plain_keepShared kept v, plainEntries_keepShared kept r]

end

theorem plain_tidy (d : Document) : d.tidy.plain = d.plain := by
  unfold tidy
  split
  · rfl
  · exact plain_keepShared _ d

end Statecraft.Document
