import Statecraft.Definition.Report
import Statecraft.Proofs.Guard.Overlong

/-!
# Texts and documents that are answered

A text is a guard or is refused, and a document has a report, but for integers that are too long
(`Report.answered_iff`).
-/

namespace Statecraft.Report

open Guard (Overlong)

/-- The arrow has a guard that cannot be answered. -/
def Arrow.IsOverlong (a : Arrow) : Prop := ∃ s, a.guard = some s ∧ Overlong s

theorem guardWarning_ok_iff (i : Nat) (a : Arrow) :
    (∃ c, guardWarning i a = .ok c) ↔ ¬ a.IsOverlong := by
  unfold guardWarning
  cases guard : a.guard with
  | none => simp [Arrow.IsOverlong, guard]
  | some s =>
    have answers := Guard.Group.answers_iff s
    simp only [Arrow.IsOverlong, guard, Option.some.injEq, exists_eq_left', ← answers]
    cases read : Guard.Group.ofText s with
    | ok g => simp
    | error e =>
      cases e <;> simp

theorem guardWarnings_ok_iff (i : Nat) (arrows : List Arrow) :
    (∃ c, guardWarnings i arrows = .ok c) ↔ ∀ a ∈ arrows, ¬ a.IsOverlong := by
  induction arrows generalizing i with
  | nil => simp [guardWarnings]
  | cons a r ih =>
    rw [guardWarnings, List.forall_mem_cons, ← guardWarning_ok_iff i a, ← ih (i + 1)]
    cases guardWarning i a <;> cases guardWarnings (i + 1) r <;> simp [Except.map]

theorem ofDocument_ok_iff (d : Document) :
    (∃ r, ofDocument d = .ok r) ↔
      ¬ (checkShape d = [] ∧ ∃ a ∈ (Names.ofDocument d).arrows, a.IsOverlong) := by
  unfold ofDocument
  cases checkShape d with
  | cons c r => simp
  | nil =>
    have warnings := guardWarnings_ok_iff 0 (Names.ofDocument d).arrows
    simp only [true_and, not_exists, not_and, ← warnings]
    unfold Names.warnings
    cases guardWarnings 0 (Names.ofDocument d).arrows <;> simp [Except.map]

/-- **What is answered**: every text is a guard or is refused, and every document has a report, but
for texts, and guards in documents of a sound shape, that are overlong. -/
theorem answered_iff (s : String) (d : Document) :
    (((∃ g, Guard.Group.ofText s = .ok g) ∨
      ∃ f, Guard.Group.ofText s = .error (.failure f)) ↔ ¬ Overlong s) ∧
    ((∃ r, ofDocument d = .ok r) ↔
      ¬ (checkShape d = [] ∧
        ∃ a ∈ (Names.ofDocument d).arrows, ∃ t, a.guard = some t ∧ Overlong t)) :=
  ⟨Guard.Group.answers_iff s, ofDocument_ok_iff d⟩

/-- A comparison with a number of 4301 ones. -/
def ones : String := String.ofList ("ctx.a > ".toList ++ List.replicate 4301 '1')

/-- A definition with one guard. -/
def guarded (s : String) : Document :=
  .object [("states", .list [.text "a"]), ("initial", .text "a"),
    ("transitions", .list [.object [("from", .text "a"), ("event", .text "go"), ("to", .text "a"),
      ("guard", .text s)]])]

theorem overlong_ones : Overlong ones := by
  have digits : Text.AllDigits (List.replicate 4301 '1') := by
    intro c hc
    rw [List.eq_of_mem_replicate hc]
    rfl
  have many : Decimal.digitLimit < (List.replicate 4301 '1').length := by
    rw [List.length_replicate]
    decide
  have field : Guard.Token.isDotted false ['a'] = true := rfl
  show Overlong (.ofList (Guard.written ['a'] ++ ' ' :: '>' :: ' ' :: List.replicate 4301 '1'))
  exact .of_digits field digits many

theorem arrows_guarded (s : String) :
    checkShape (guarded s) = [] ∧ (Names.ofDocument (guarded s)).arrows =
      [⟨["a"], "go", "a", if s.isEmpty then none else some s⟩] :=
  ⟨rfl, rfl⟩

/-- The number is read neither as a guard nor as a mistake, and a definition that has the guard has
no report. -/
theorem ones_not_answered :
    (∃ l, Guard.Group.ofText ones = .error (.limit l)) ∧
      ∃ l, ofDocument (guarded ones) = .error l := by
  refine ⟨overlong_ones.limit, ?_⟩
  obtain ⟨sound, arrows⟩ := arrows_guarded ones
  have silent : ¬ ∃ r, ofDocument (guarded ones) = .ok r := by
    rw [ofDocument_ok_iff, not_not, arrows, overlong_ones.isEmpty]
    exact ⟨sound, _, List.mem_singleton_self _, ones, rfl, overlong_ones⟩
  cases reported : ofDocument (guarded ones) with
  | ok r => exact absurd ⟨r, reported⟩ silent
  | error l => exact ⟨l, rfl⟩

end Statecraft.Report
