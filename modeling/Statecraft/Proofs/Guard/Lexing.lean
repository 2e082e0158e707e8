import Statecraft.Guard.Render
import Statecraft.Proofs.Guard.Lexeme

/-!
# Rendered texts as tokens

A run of tokens is a text that is cut into them before anything that ends a word (`Run`). The
pieces of rendered guards are runs, and runs compose: fields, comparisons, negations, parentheses
and joined parts.
-/

namespace Statecraft.Guard

/-- The text is cut into these tokens, wherever it starts. -/
def Scans (s : List Char) (ks : List Spelling) : Prop :=
  ∀ position, ∃ ts, Token.scan position s = .ok ts ∧ ts.map Token.spelling = ks

namespace Scans

variable {s rest : List Char} {ks : List Spelling}

theorem nil : Scans [] [] := fun position => ⟨[], Token.scan_nil position, rfl⟩

/-- One token before the others. -/
theorem token {kind : Token.Kind} (first : Piece (some kind) s rest) (h : Scans rest ks) :
    Scans (s ++ rest) ((kind, s) :: ks) := by
  intro position
  obtain ⟨ts, scanned, spelled⟩ := h (position + s.length)
  refine ⟨⟨kind, s, position⟩ :: ts, ?_, by simp [Token.spelling, spelled]⟩
  rw [first.scan, scanned]
  rfl

/-- Blanks before something else are passed over. -/
theorem blanks (ws : List Char) (blank : ∀ c ∈ ws, Text.isBlank c = true)
    (stop : ∀ c ∈ rest.head?, Text.isBlank c = false) (h : Scans rest ks) :
    Scans (ws ++ rest) ks := by
  intro position
  by_cases none : ws = []
  · subst none
    exact h position
  · obtain ⟨ts, scanned, spelled⟩ := h (position + ws.length)
    have first : Piece .none ws rest := .blanks none blank stop
    refine ⟨ts, ?_, spelled⟩
    rw [first.scan, scanned]
    rfl

end Scans

/-- The end, a blank or a closing parenthesis. -/
def EndsWord (rest : List Char) : Prop := ∀ c ∈ rest.head?, c = ' ' ∨ c = ')'

theorem endsWord_blank (rest : List Char) : EndsWord (' ' :: rest) :=
  fun _ hc => Or.inl (Option.some.inj hc).symm

theorem endsWord_closing (rest : List Char) : EndsWord (')' :: rest) :=
  fun _ hc => Or.inr (Option.some.inj hc).symm

theorem EndsWord.not_isWordChar {rest : List Char} (h : EndsWord rest) :
    ∀ c ∈ rest.head?, Token.isWordChar c = false := by
  intro c hc
  rcases h c hc with rfl | rfl <;> decide

/-- A symbol that is a token of its own before a blank. -/
def Symbol (s : List Char) (kind : Token.Kind) : Prop :=
  ∀ rest, Piece (some kind) s (' ' :: rest)

theorem symbol_logic (l : Logic) : Symbol l.symbol.toList (.logic l) := by
  cases l <;> exact fun _ => .sign _ (by decide)

theorem symbol_compare {op : Operator} (h : op.needsValue = true) :
    Symbol op.name.toList (.compare op) := by
  cases op with
  | «exists» => cases h
  | notExists => cases h
  | greater | less => exact fun _ => .shortSign (by decide) (by simp)
  | _ => exact fun _ => .sign _ (by decide)

/-- A text that is cut into these tokens before anything that ends a word. -/
structure Run (s : List Char) (ks : List Spelling) : Prop where
  starts : ∃ c r, s = c :: r ∧ Text.isBlank c = false ∧ c ≠ '='
  scans : ∀ rest us, EndsWord rest → Scans rest us → Scans (s ++ rest) (ks ++ us)

namespace Run

variable {s : List Char} {ks : List Spelling}

theorem nonempty (h : Run s ks) : s ≠ [] := by
  obtain ⟨c, r, rfl, _⟩ := h.starts
  exact List.cons_ne_nil c r

theorem word {c : Char} {r : List Char} (hw : ∀ d ∈ c :: r, Token.isWordChar d = true) :
    Run (c :: r) [(if Token.isField (c :: r) then .field else .word, c :: r)] where
  starts := by
    have first := hw c List.mem_cons_self
    refine ⟨c, r, rfl, isBlank_of_isWordChar first, ?_⟩
    rintro rfl
    revert first
    decide
  scans := by
    intro rest us stop h
    exact .token (.word (List.cons_ne_nil c r) hw stop.not_isWordChar) h

theorem quoted (s : List Char) : Run (quote s) [(.quoted, quote s)] where
  starts := ⟨_, _, rfl, by decide, by decide⟩
  scans := fun rest _ _ h => .token (piece_quote s rest) h

theorem not (h : Run s ks) : Run ('!' :: s) ((.not, ['!']) :: ks) where
  starts := ⟨_, _, rfl, by decide, by decide⟩
  scans := by
    intro rest us stop scanned
    obtain ⟨c, r, rfl, _, other⟩ := h.starts
    have first : Piece (some .not) ['!'] (c :: r ++ rest) := .shortSign (by decide) (by simpa)
    exact .token first (h.scans rest us stop scanned)

theorem enclosed (h : Run s ks) :
    Run ('(' :: (s ++ [')'])) ((.opening, ['(']) :: (ks ++ [(.closing, [')'])])) where
  starts := ⟨_, _, rfl, by decide, by decide⟩
  scans := by
    intro rest us _ scanned
    have closing : Piece (some .closing) [')'] rest := .sign rest (by decide)
    have inner := h.scans (')' :: rest) _ (endsWord_closing rest) (.token closing scanned)
    have opening : Piece (some .opening) ['('] (s ++ ')' :: rest) := .sign _ (by decide)
    simpa using Scans.token opening inner

theorem negation (h : Run s ks) :
    Run (negation s) ((.not, ['!']) :: (.opening, ['(']) :: (ks ++ [(.closing, [')'])])) :=
  h.enclosed.not

/-- Two runs with a symbol between them. -/
theorem spaced {a b sym : List Char} {x y : List Spelling} {kind : Token.Kind} (ha : Run a x)
    (hs : Symbol sym kind) (hb : Run b y) :
    Run (a ++ ' ' :: (sym ++ ' ' :: b)) (x ++ (kind, sym) :: y) where
  starts := by
    obtain ⟨c, r, rfl, h⟩ := ha.starts
    exact ⟨c, _, rfl, h⟩
  scans := by
    intro rest us stop scanned
    obtain ⟨d, t, rfl, visible, _⟩ := hb.starts
    have right : Scans (' ' :: (d :: t ++ rest)) (y ++ us) := by
      apply Scans.blanks [' '] (List.forall_mem_singleton.mpr (by decide)) _
        (hb.scans rest us stop scanned)
      rintro e ⟨⟩
      exact visible
    have symbol := hs (d :: t ++ rest)
    have middle := Scans.token symbol right
    have left := Scans.blanks [' '] (List.forall_mem_singleton.mpr (by decide))
      (symbol.visible_append _) middle
    have whole := ha.scans _ _ (endsWord_blank _) left
    simpa using whole

end Run

end Statecraft.Guard
