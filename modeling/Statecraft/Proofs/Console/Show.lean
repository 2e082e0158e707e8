import Statecraft.Proofs.Console.Act

/-!
# What is shown and what is answered

Messages only add to what a terminal shows (`OnlyShows`), whether they end or stop; those whose
markup has something to show come to their end (`Completes`). A question that does not stop the
command takes the next answer and no other (`run_ask_ok`), and each kind of question makes its own
of it.
-/

namespace Statecraft.Console

variable {α β : Type} {t t' : Terminal}

/-- The terminal after more has been shown. -/
def Terminal.showing (t : Terminal) (outputs : List Output) : Terminal :=
  { t with outputs := t.outputs ++ outputs }

theorem Terminal.showing_nil (t : Terminal) : t.showing [] = t := by
  simp [showing]

theorem Terminal.showing_showing (t : Terminal) (first second : List Output) :
    (t.showing first).showing second = t.showing (first ++ second) := by
  simp [showing]

section Shows

/-- However the act ends, the terminal is as it was but for what is shown. -/
def OnlyShows (x : Act α) : Prop := ∀ t, ∃ outputs, (x.run.run t).2 = t.showing outputs

theorem OnlyShows.exists_showing {x : Act α} (h : OnlyShows x) {result : Except Stop α}
    (run : x.run.run t = (result, t')) : ∃ outputs, t' = t.showing outputs := by
  obtain ⟨outputs, left⟩ := h t
  rw [run] at left
  exact ⟨outputs, left⟩

theorem OnlyShows.answers_eq {x : Act α} (h : OnlyShows x) {result : Except Stop α}
    (run : x.run.run t = (result, t')) : t'.answers = t.answers := by
  obtain ⟨outputs, rfl⟩ := h.exists_showing run
  rfl

theorem onlyShows_bind {x : Act α} {f : α → Act β} (hx : OnlyShows x)
    (hf : ∀ a, OnlyShows (f a)) : OnlyShows (x >>= f) := by
  intro t
  rw [run_bind]
  rcases run : x.run.run t with ⟨_ | a, u⟩
  · exact hx.exists_showing run
  · obtain ⟨first, rfl⟩ := hx.exists_showing run
    obtain ⟨second, shown⟩ := hf a (t.showing first)
    exact ⟨first ++ second, shown.trans (t.showing_showing first second)⟩

theorem onlyShows_orCrash {ε : Type} (result : Except ε α) (fault : ε → Fault) :
    OnlyShows (orCrash result fault) := by
  cases result <;> exact fun t => ⟨[], t.showing_nil.symm⟩

theorem onlyShows_put (output : Output) : OnlyShows (put output) := fun _ => ⟨[output], rfl⟩

theorem onlyShows_line (markup : String) : OnlyShows (line markup) :=
  onlyShows_bind (onlyShows_orCrash _ _) fun _ => onlyShows_put _

theorem onlyShows_success (message : String) : OnlyShows (success message) := onlyShows_line _

theorem onlyShows_caution (message : String) : OnlyShows (caution message) := onlyShows_line _

theorem onlyShows_heading (title : String) (step : Option Int) (total : Int) :
    OnlyShows (heading title step total) := by
  refine onlyShows_bind (onlyShows_put _) fun _ => ?_
  cases step with
  | none => exact onlyShows_line _
  | some step => exact onlyShows_put _

theorem onlyShows_banner : OnlyShows banner :=
  onlyShows_bind (onlyShows_put _) fun _ => onlyShows_bind (onlyShows_put _) fun _ =>
    onlyShows_bind (onlyShows_line _) fun _ => onlyShows_put _

theorem onlyShows_answersLeft : OnlyShows answersLeft := fun t => ⟨[], t.showing_nil.symm⟩

end Shows

section Completes

/-- The act comes to its end, and only shows something. -/
def Completes (x : Act α) : Prop := ∀ t, ∃ a outputs, x.run.run t = (.ok a, t.showing outputs)

theorem completes_pure (a : α) : Completes (pure a) :=
  fun t => ⟨a, [], Prod.ext rfl t.showing_nil.symm⟩

theorem completes_bind {x : Act α} {f : α → Act β} (hx : Completes x)
    (hf : ∀ a, Completes (f a)) : Completes (x >>= f) := by
  intro t
  obtain ⟨a, first, run⟩ := hx t
  obtain ⟨b, second, run'⟩ := hf a (t.showing first)
  refine ⟨b, first ++ second, ?_⟩
  rw [run_bind, run]
  exact run'.trans (by rw [Terminal.showing_showing])

theorem completes_forM {f : α → Act Unit} {as : List α} (h : ∀ a ∈ as, Completes (f a)) :
    Completes (as.forM f) := by
  induction as with
  | nil => exact completes_pure ()
  | cons a r ih =>
    rw [List.forall_mem_cons] at h
    exact completes_bind h.1 fun _ => ih h.2

theorem completes_put (output : Output) : Completes (put output) := fun _ => ⟨(), [output], rfl⟩

theorem completes_orCrash {ε : Type} {result : Except ε α} (h : ∃ a, result = .ok a)
    (fault : ε → Fault) : Completes (orCrash result fault) := by
  obtain ⟨a, rfl⟩ := h
  exact completes_pure a

theorem completes_line {markup : String} (h : ∃ s, render markup = .ok s) :
    Completes (line markup) :=
  completes_bind (completes_orCrash h _) fun _ => completes_put _

/-- A line of markup shows what the markup shows, or the command crashes. -/
theorem run_line (markup : String) (t : Terminal) : (line markup).run.run t =
    match render markup with
    | .ok s => (.ok (), t.showing [.shown (.line s)])
    | .error fault => (.error (.crash (.markup fault)), t) := by
  unfold line rendered
  rw [run_bind]
  cases render markup <;> rfl

end Completes

section Answers

theorem run_ask_ok {question : Question} {a : Answer}
    (h : (ask question).run.run t = (.ok a, t')) :
    ∃ rest, t.answers = some (a :: rest) ∧ t'.answers = some rest := by
  obtain ⟨folder, environment, answers, questions, outputs, level, warnings⟩ := t
  rcases answers with _ | _ | ⟨first, rest⟩
  · cases h
  · cases h
  · cases first <;> cases h <;> exact ⟨rest, rfl, rfl⟩

theorem run_askText_ok {message filled need s : String}
    (h : (askText message filled need).run.run t = (.ok s, t')) :
    ∃ rest, t.answers = some (.text s :: rest) ∧ t'.answers = some rest := by
  obtain ⟨a, u, asked, h⟩ := run_bind_ok h
  obtain ⟨rest, before, after⟩ := run_ask_ok asked
  cases a <;> cases h
  exact ⟨rest, before, after⟩

/-- The answer agrees to a question of yes or no. -/
def Answer.agrees : Answer → Bool
  | .flag b => b
  | .text s => !s.isEmpty
  | .picks picked => !picked.isEmpty
  | .nothing => false

theorem run_confirm_ok {message : String} {filled b : Bool}
    (h : (confirm message filled).run.run t = (.ok b, t')) :
    ∃ a rest, t.answers = some (a :: rest) ∧ t'.answers = some rest ∧ a.agrees = b := by
  obtain ⟨a, u, asked, h⟩ := run_bind_ok h
  obtain ⟨rest, before, after⟩ := run_ask_ok asked
  refine ⟨a, rest, before, ?_⟩
  cases a <;> cases h <;> exact ⟨after, rfl⟩

/-- The choice that the answer names. -/
def Answer.choice : Answer → String
  | .text s => s
  | _ => ""

theorem run_select_ok {message s : String} {choices : List String}
    (h : (select message choices).run.run t = (.ok s, t')) :
    ∃ a rest, t.answers = some (a :: rest) ∧ t'.answers = some rest ∧ a.choice = s := by
  obtain ⟨a, u, asked, h⟩ := run_bind_ok h
  obtain ⟨rest, before, after⟩ := run_ask_ok asked
  refine ⟨a, rest, before, ?_⟩
  cases a <;> cases h <;> exact ⟨after, rfl⟩

/-- The choices that the answer picks. -/
def Answer.picked (choices : List String) : Answer → List String
  | .picks picked => choices.filter picked.contains
  | .text s => choices.filter fun c => occursIn c.toList s.toList
  | _ => []

theorem run_checkbox_ok {message : String} {choices picked : List String}
    (h : (checkbox message choices).run.run t = (.ok picked, t')) :
    ∃ a rest, t.answers = some (a :: rest) ∧ t'.answers = some rest ∧
      a.picked choices = picked := by
  obtain ⟨a, u, asked, h⟩ := run_bind_ok h
  obtain ⟨rest, before, after⟩ := run_ask_ok asked
  refine ⟨a, rest, before, ?_⟩
  cases a <;> cases h <;> exact ⟨after, rfl⟩

theorem Answer.picked_sublist (choices : List String) (a : Answer) :
    (a.picked choices).Sublist choices := by
  cases a with
  | text _ | picks _ => exact List.filter_sublist
  | flag _ | nothing => exact List.nil_sublist _

end Answers

end Statecraft.Console
