import Mathlib.Data.List.Basic
import Statecraft.Guard.Editing

/-!
# Going between the views

A guard that cannot be read as a tree starts in the visual view, with a draft row and its text put
by. Entering the raw view writes the tree anew, so the text is gone then and does not come back
(`visit_unread`).
-/

namespace Statecraft.Guard.Editing

/-- The views gone to one after the other, without any edit in between. -/
def visit (e : Editing) : List View → Except Decimal.LimitError Editing
  | [] => .ok e
  | view :: r =>
    match e.switchView view with
    | .ok (next, _) => next.visit r
    | .error l => .error l

/-- The editing of a text that was no guard, with nothing but a draft row for a tree. -/
def unread (view : View) (raw : String) (f : Failure) : Editing :=
  ⟨view, raw, some f, some (Group.draft .and)⟩

variable {text : String} {f : Failure}

theorem start_of_failure (failed : Group.ofText text = .error (.failure f))
    (visible : Text.isBlankText text = false) :
    start (some text) = .ok (unread .visual text f) := by
  have nonempty : text.isEmpty = false := by
    by_contra empty
    rw [Bool.not_eq_false, String.isEmpty_iff] at empty
    rw [empty] at visible
    cases visible
  unfold start
  simp [nonempty, failed, unread]

theorem treeText_draft : treeText (some (Group.draft .and)) = .ok "" := by decide

/-- The raw view shows the text of the draft row, and that is empty. -/
theorem switchView_unread (f : Failure) (text : String) (view : View) :
    (unread .visual text f).switchView view =
      .ok (unread view (if view = .raw then "" else text) f, true) := by
  cases view with
  | visual => rfl
  | raw => simp [switchView, unread, treeText_draft, Except.map]

/-- Once the text is gone no view brings it back: an empty text is not read. -/
theorem switchView_emptied (f : Failure) (view next : View) :
    (unread view "" f).switchView next = .ok (unread next "" f, true) := by
  cases view with
  | visual =>
    rw [switchView_unread]
    simp
  | raw => cases next <;> rfl

theorem visit_emptied (f : Failure) (view : View) (views : List View) :
    (unread view "" f).visit views = .ok (unread (views.getLastD view) "" f) := by
  induction views generalizing view with
  | nil => rfl
  | cons next r ih =>
    rw [visit, switchView_emptied, List.getLastD_cons]
    exact ih next

theorem visit_kept (f : Failure) (text : String) (views : List View) :
    (unread .visual text f).visit views =
      .ok (unread (views.getLastD .visual) (if .raw ∈ views then "" else text) f) := by
  induction views with
  | nil => rfl
  | cons view r ih =>
    rw [visit, switchView_unread, List.getLastD_cons]
    cases view with
    | visual => simpa only [List.mem_cons, reduceCtorEq, false_or, if_false] using ih
    | raw => simpa only [List.mem_cons, true_or, if_true] using visit_emptied f .raw r

theorem expression_unread (f : Failure) (text : String) (views : List View) :
    (unread (views.getLastD .visual) (if .raw ∈ views then "" else text) f).expression =
      .ok "" := by
  cases last : views.getLastD .visual with
  | visual => exact treeText_draft
  | raw =>
    have entered : View.raw ∈ views := by
      have mem : View.raw ∈ View.visual :: views := last ▸ List.getLastD_mem_cons
      simpa using mem
    simp [expression, unread, entered]

/-- **A text that is no guard is lost on the way to the raw view.** Whatever views are gone to,
the failure and the draft row stay, and neither view shows more than an empty text; what was given
is put by until the raw view is entered, and is gone from then on. -/
theorem visit_unread (failed : Group.ofText text = .error (.failure f))
    (visible : Text.isBlankText text = false) :
    ∃ e, start (some text) = .ok e ∧ ∀ views, ∃ e', e.visit views = .ok e' ∧
      e'.view = views.getLastD .visual ∧ e'.raw = (if .raw ∈ views then "" else text) ∧
      e'.lastFailure = some f ∧ e'.tree = some (Group.draft .and) ∧ e'.expression = .ok "" :=
  ⟨_, start_of_failure failed visible, fun views =>
    ⟨_, visit_kept f text views, rfl, rfl, rfl, rfl, expression_unread f text views⟩⟩

/-- Two logics in one expression. -/
def mixed : String := "ctx.a && ctx.b || ctx.c"

theorem ofText_mixed : Group.ofText mixed = .error (.failure ⟨.mixedLogic, 15⟩) := by
  have check : (match Group.ofText mixed with
      | .ok _ => false
      | .error e => e == .failure ⟨.mixedLogic, 15⟩) = true := by decide +kernel
  split at check
  · cases check
  · rename_i failed
    rw [failed, beq_iff_eq.mp check]

theorem visit_unread_mixed :
    Group.ofText mixed = .error (.failure ⟨.mixedLogic, 15⟩) ∧
    Text.isBlankText mixed = false ∧
    ∃ e, start (some mixed) = .ok e ∧ ∀ views, ∃ e', e.visit views = .ok e' ∧
      e'.view = views.getLastD .visual ∧ e'.raw = (if .raw ∈ views then "" else mixed) ∧
      e'.lastFailure = some ⟨.mixedLogic, 15⟩ ∧ e'.tree = some (Group.draft .and) ∧
      e'.expression = .ok "" := by
  have visible : Text.isBlankText mixed = false := by decide
  exact ⟨ofText_mixed, visible, visit_unread ofText_mixed visible⟩

/-- Gone to once, the raw view does not show the text. -/
theorem mixed_not_shown :
    ∃ e e', start (some mixed) = .ok e ∧ e.lastFailure = some ⟨.mixedLogic, 15⟩ ∧
      Text.isBlankText mixed = false ∧ e.visit [.raw] = .ok e' ∧ e'.view = .raw ∧
      e'.expression = .ok "" ∧ e'.expression ≠ .ok mixed := by
  have visible : Text.isBlankText mixed = false := by decide
  refine ⟨_, _, start_of_failure ofText_mixed visible, rfl, visible, visit_kept _ mixed [.raw], rfl,
    rfl, ?_⟩
  decide

end Statecraft.Guard.Editing
