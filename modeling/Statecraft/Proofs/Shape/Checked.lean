import Mathlib.Data.List.Basic
import Statecraft.Shape.Scalar

/-!
# Checks that have a value

A check of a whole has a value exactly if the checks of its parts have, and this value is made of
theirs.
-/

namespace Statecraft.Shape

namespace Checked

variable {α β γ : Type}

/-- The check has a value. -/
def IsOk (c : Checked α) : Prop := ∃ a, c = .ok a

instance (c : Checked α) : Decidable c.IsOk :=
  match c with
  | .ok a => isTrue ⟨a, rfl⟩
  | .bad _ => isFalse fun ⟨_, other⟩ => (nomatch other)

theorem isOk_ok (a : α) : (ok a).IsOk := ⟨a, rfl⟩

@[simp] theorem isOk_both {f : α → β → γ} {a : Checked α} {b : Checked β} :
    (both f a b).IsOk ↔ a.IsOk ∧ b.IsOk := by
  cases a <;> cases b <;> simp [both, IsOk]

@[simp] theorem andThen_ok (a : α) (f : α → Checked β) : (ok a).andThen f = f a := rfl

@[simp] theorem isOk_map {f : α → β} {a : Checked α} : (a.map f).IsOk ↔ a.IsOk := by
  cases a <;> simp [map, IsOk]

@[simp] theorem isOk_within {step : Step} {a : Checked α} : (a.within step).IsOk ↔ a.IsOk := by
  cases a <;> simp [within, IsOk]

@[simp] theorem isOk_atKey {name : String} {a : Checked α} : (a.atKey name).IsOk ↔ a.IsOk :=
  isOk_within

/-- A list of checks has a value if each of them has. -/
theorem isOk_all {cs : List (Checked α)} : (all cs).IsOk ↔ ∀ c ∈ cs, c.IsOk := by
  induction cs with
  | nil => simp [all, isOk_ok]
  | cons c r ih => simp [all, ih]

theorem isOk_items {check : α → Checked β} {xs : List α} :
    (items check xs).IsOk ↔ ∀ x ∈ xs, (check x).IsOk := by
  simp only [items, isOk_all, List.mem_mapIdx, forall_exists_index]
  constructor
  · intro h x hx
    obtain ⟨i, hi, rfl⟩ := List.getElem_of_mem hx
    exact isOk_within.mp (h _ i hi rfl)
  · rintro h _ i hi rfl
    exact isOk_within.mpr (h _ (List.getElem_mem hi))

/-! The value itself. -/

theorem eq_of_value? {c : Checked α} {x y : α} (h : c.value? = some x) (ok : c = .ok y) :
    y = x := by
  subst ok
  exact Option.some.inj h

theorem both_eq_ok {f : α → β → γ} {a : Checked α} {b : Checked β} {x : γ} :
    both f a b = .ok x ↔ ∃ y z, a = .ok y ∧ b = .ok z ∧ f y z = x := by
  cases a <;> cases b <;> simp [both]

theorem andThen_eq_ok {a : Checked α} {f : α → Checked β} {x : β} :
    a.andThen f = .ok x ↔ ∃ y, a = .ok y ∧ f y = .ok x := by
  cases a <;> simp [andThen]

theorem atKey_eq_ok {name : String} {a : Checked α} {x : α} : a.atKey name = .ok x ↔ a = .ok x := by
  cases a <;> simp [atKey, within]

end Checked

variable {α : Type} {entries : Document.Entries} {key : String} {absent x : α} {e : Document}
  {check : Document → Checked α}

theorem optional_isOk (found : Document.Entries.get? entries key = some e) (h : (check e).IsOk) :
    (optional entries key absent check).IsOk := by
  rw [optional, found]
  exact Checked.isOk_atKey.mpr h

/-- The outcome of a check of a value that may be missing. -/
def outcome (absent : α) (check : Document → Checked α) : Option Document → Checked α
  | none => .ok absent
  | some d => check d

theorem optional_eq_ok : optional entries key absent check = .ok x ↔
    outcome absent check (Document.Entries.get? entries key) = .ok x := by
  unfold optional outcome
  cases Document.Entries.get? entries key with
  | none => rfl
  | some d => exact Checked.atKey_eq_ok

end Statecraft.Shape
