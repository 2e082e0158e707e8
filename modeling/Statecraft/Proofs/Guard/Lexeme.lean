import Statecraft.Guard.Token
import Statecraft.Proofs.Guard.Literal

/-!
# What a text begins with

`Piece` says which characters before which others are a token or blanks, without an order among
the kinds. The first piece of a text is exactly what it says (`Token.first?_eq_some_iff`). A piece
that is a token is one before any blank, whatever it stood before (`Piece.before_blank`), and a
quoted text is one before anything (`Value.text_stays_in_quotes`).
-/

namespace Statecraft.Guard

/-- A token but for its place. -/
abbrev Spelling := Token.Kind × List Char

namespace Token

def spelling (t : Token) : Spelling := (t.kind, t.text)

/-- The signs that are tokens whatever comes after them. -/
def signs : List Spelling :=
  [(.logic .and, ['&', '&']), (.logic .or, ['|', '|']), (.compare .equal, ['=', '=']),
    (.compare .notEqual, ['!', '=']), (.compare .greaterEqual, ['>', '=']),
    (.compare .lessEqual, ['<', '=']), (.opening, ['(']), (.closing, [')'])]

/-- The signs that an equals sign would make longer. -/
def shortSigns : List Spelling :=
  [(.not, ['!']), (.compare .greater, ['>']), (.compare .less, ['<'])]

end Token

/-- The characters `s` before `rest` are a token of this kind, or blanks if there is none. -/
inductive Piece : Option Token.Kind → List Char → List Char → Prop
  | blanks {s rest : List Char} : s ≠ [] → (∀ c ∈ s, Text.isBlank c = true) →
      (∀ c ∈ rest.head?, Text.isBlank c = false) → Piece none s rest
  | sign {kind : Token.Kind} {s : List Char} (rest : List Char) :
      (kind, s) ∈ Token.signs → Piece (some kind) s rest
  | shortSign {kind : Token.Kind} {s rest : List Char} :
      (kind, s) ∈ Token.shortSigns → rest.head? ≠ some '=' → Piece (some kind) s rest
  | quoted {q : Char} {s : List Char} (rest : List Char) :
      q = '"' ∨ q = '\'' → Closes q s → Piece (some .quoted) (q :: s) rest
  | word {s rest : List Char} : s ≠ [] → (∀ c ∈ s, Token.isWordChar c = true) →
      (∀ c ∈ rest.head?, Token.isWordChar c = false) →
      Piece (some (if Token.isField s then .field else .word)) s rest

theorem isBlank_of_isWordChar {c : Char} (h : Token.isWordChar c = true) :
    Text.isBlank c = false := by
  unfold Token.isWordChar at h
  simp only [Bool.and_eq_true, Bool.not_eq_true'] at h
  exact h.1

theorem head?_dropWhile {p : Char → Bool} (s : List Char) :
    ∀ c ∈ (s.dropWhile p).head?, p c = false := by
  intro c hc
  have first := List.head?_dropWhile_not p s
  rw [hc] at first
  exact first

section Matching

variable {c : Char} {r s rest : List Char} {kind? : Option Token.Kind} {n : Nat}

/-- What is matched is a piece. -/
theorem piece_of_lexeme? (h : Token.lexeme? c r = some (kind?, n)) :
    ∃ s rest, r = s ++ rest ∧ n = s.length ∧ Piece kind? (c :: s) rest := by
  unfold Token.lexeme? at h
  rw [ite_eq_iff] at h
  rcases h with ⟨blank, h⟩ | ⟨visible, h⟩
  · cases h
    refine ⟨_, _, List.takeWhile_append_dropWhile.symm, rfl, .blanks (by simp) ?_ (head?_dropWhile r)⟩
    exact List.forall_mem_cons.mpr ⟨blank, fun d hd => List.mem_takeWhile_imp hd⟩
  -- `&`, `|` and `=`, which have to be doubled
  iterate 3
    rw [ite_eq_iff] at h
    rcases h with ⟨same, h⟩ | ⟨other, h⟩
    · obtain rfl := beq_iff_eq.mp same
      split at h
      · cases h
        exact ⟨[_], _, rfl, rfl, .sign _ (by decide)⟩
      · cases h
  -- `!`, `>` and `<`, which an equals sign makes longer
  iterate 3
    rw [ite_eq_iff] at h
    rcases h with ⟨same, h⟩ | ⟨other, h⟩
    · obtain rfl := beq_iff_eq.mp same
      split at h
      · cases h
        exact ⟨[_], _, rfl, rfl, .sign _ (by decide)⟩
      · rename_i short
        cases h
        refine ⟨[], _, rfl, rfl, .shortSign (by decide) fun first => ?_⟩
        obtain ⟨t, rfl⟩ := List.head?_eq_some_iff.mp first
        exact short t rfl
  -- the parentheses
  iterate 2
    rw [ite_eq_iff] at h
    rcases h with ⟨same, h⟩ | ⟨other, h⟩
    · obtain rfl := beq_iff_eq.mp same
      cases h
      exact ⟨[], _, rfl, rfl, .sign _ (by decide)⟩
  rw [ite_eq_iff] at h
  rcases h with ⟨quote, h⟩ | ⟨no_quote, h⟩
  · obtain ⟨k, length, pair⟩ := Option.map_eq_some_iff.mp h
    obtain ⟨within, closes⟩ := closes_of_quotedLength? length
    cases pair
    refine ⟨_, _, (List.take_append_drop n r).symm, by simp [within], .quoted _ ?_ closes⟩
    simpa using quote
  have first : Token.isWordChar c = true := by simp_all [Token.isWordChar]
  cases h
  refine ⟨_, _, List.takeWhile_append_dropWhile.symm, rfl,
    .word (List.cons_ne_nil _ _) ?_ (head?_dropWhile r)⟩
  exact List.forall_mem_cons.mpr ⟨first, fun d hd => List.mem_takeWhile_imp hd⟩

theorem lexeme?_shortSign {sign : Spelling} (h : sign ∈ Token.shortSigns)
    (stop : rest.head? ≠ some '=') :
    ∃ c, sign.2 = [c] ∧ Token.lexeme? c rest = some (some sign.1, 0) := by
  simp only [Token.shortSigns, List.mem_cons, List.not_mem_nil, or_false] at h
  cases rest with
  | nil => rcases h with rfl | rfl | rfl <;> exact ⟨_, rfl, rfl⟩
  | cons d t =>
    have other : d ≠ '=' := fun same => stop (congrArg some same)
    rcases h with rfl | rfl | rfl <;> refine ⟨_, rfl, ?_⟩ <;> unfold Token.lexeme? <;>
      -- past the blanks and the signs that are tried before
      repeat refine (if_neg (by decide)).trans ?_
    all_goals
      refine (if_pos rfl).trans ?_
      split
      · rename_i same
        exact absurd (List.cons.inj same).1 other
      · rfl

theorem lexeme?_quoted {q : Char} (hq : q = '"' ∨ q = '\'') (h : Closes q s) (rest : List Char) :
    Token.lexeme? q (s ++ rest) = some (some .quoted, s.length) := by
  have taken : (Token.quotedLength? q (s ++ rest)).map (some Token.Kind.quoted, ·) =
      some (some .quoted, s.length) := by
    rw [h.quotedLength? (by rcases hq with rfl | rfl <;> decide)]
    rfl
  rcases hq with rfl | rfl <;> exact taken

/-- A word before a character that cannot belong to it. -/
theorem lexeme?_word (hc : Token.isWordChar c = true) (hr : ∀ d ∈ r, Token.isWordChar d = true)
    (stop : ∀ d ∈ rest.head?, Token.isWordChar d = false) :
    Token.lexeme? c (r ++ rest) =
      some (some (if Token.isField (c :: r) then .field else .word), r.length) := by
  simp only [Token.isWordChar, Bool.and_eq_true, Bool.not_eq_true', List.contains_eq_mem,
    decide_eq_false_iff_not, List.mem_cons, List.not_mem_nil, or_false, not_or] at hc
  obtain ⟨blank, opening, closing, bang, ampersand, bar, equal, less, greater, double, single⟩ := hc
  have taken := Text.takeWhile_append_of_stop hr stop
  unfold Token.lexeme?
  simp [blank, opening, closing, bang, ampersand, bar, equal, less, greater, double, single, taken]

/-- A piece is matched. -/
theorem Piece.lexeme? (h : Piece kind? s rest) :
    ∃ c r, s = c :: r ∧ Token.lexeme? c (r ++ rest) = some (kind?, r.length) := by
  cases h with
  | blanks some_char blank stop =>
    obtain ⟨c, r, rfl⟩ := List.exists_cons_of_ne_nil some_char
    obtain ⟨first, others⟩ := List.forall_mem_cons.mp blank
    have matched : Token.lexeme? c (r ++ rest) =
        some (none, ((r ++ rest).takeWhile Text.isBlank).length) := if_pos first
    rw [Text.takeWhile_append_of_stop others stop] at matched
    exact ⟨c, r, rfl, matched⟩
  | sign rest spelled =>
    simp only [Token.signs, List.mem_cons, List.not_mem_nil, or_false, Prod.mk.injEq] at spelled
    rcases spelled with h | h | h | h | h | h | h | h <;> obtain ⟨rfl, rfl⟩ := h <;>
      exact ⟨_, _, rfl, rfl⟩
  | shortSign spelled stop =>
    obtain ⟨c, rfl, matched⟩ := lexeme?_shortSign spelled stop
    exact ⟨c, [], rfl, matched⟩
  | quoted rest quote closes => exact ⟨_, _, rfl, lexeme?_quoted quote closes rest⟩
  | word some_char chars stop =>
    obtain ⟨c, r, rfl⟩ := List.exists_cons_of_ne_nil some_char
    obtain ⟨first, others⟩ := List.forall_mem_cons.mp chars
    exact ⟨c, r, rfl, lexeme?_word first others stop⟩

end Matching

theorem piece_quote (s rest : List Char) : Piece (some .quoted) (quote s) rest :=
  .quoted rest (Or.inl rfl) (closes_escapeText s)

namespace Piece

variable {kind? : Option Token.Kind} {kind : Token.Kind} {s rest : List Char}

theorem ne_nil (h : Piece kind? s rest) : s ≠ [] := by
  obtain ⟨c, r, rfl, _⟩ := h.lexeme?
  exact List.cons_ne_nil c r

/-- No sign has a blank. -/
theorem visible_sign {sign : Spelling} (h : sign ∈ Token.signs ++ Token.shortSigns) :
    ∀ c ∈ sign.2, Text.isBlank c = false := by
  have all : (Token.signs ++ Token.shortSigns).all (fun k => k.2.all (!Text.isBlank ·)) = true := by
    decide
  simpa using List.all_eq_true.mp (List.all_eq_true.mp all sign h)

/-- Tokens begin with no blank. -/
theorem visible (h : Piece (some kind) s rest) : ∃ c r, s = c :: r ∧ Text.isBlank c = false := by
  cases h with
  | sign rest spelled =>
    obtain ⟨c, r, rfl⟩ := List.exists_cons_of_ne_nil (Piece.sign rest spelled).ne_nil
    exact ⟨c, r, rfl, visible_sign (List.mem_append_left _ spelled) c List.mem_cons_self⟩
  | shortSign spelled stop =>
    obtain ⟨c, r, rfl⟩ := List.exists_cons_of_ne_nil (Piece.shortSign spelled stop).ne_nil
    exact ⟨c, r, rfl, visible_sign (List.mem_append_right _ spelled) c List.mem_cons_self⟩
  | quoted rest quote _ => exact ⟨_, _, rfl, by rcases quote with rfl | rfl <;> decide⟩
  | word some_char chars _ =>
    obtain ⟨c, r, rfl⟩ := List.exists_cons_of_ne_nil some_char
    exact ⟨c, r, rfl, isBlank_of_isWordChar (chars c List.mem_cons_self)⟩

theorem visible_append (h : Piece (some kind) s rest) (t : List Char) :
    ∀ c ∈ (s ++ t).head?, Text.isBlank c = false := by
  obtain ⟨c, r, rfl, visible⟩ := h.visible
  rintro d ⟨⟩
  exact visible

/-- A token is a field only if it is a path. -/
theorem isField (h : Piece (some kind) s rest) (field : kind = .field) : Token.isField s = true := by
  cases h with
  | sign rest spelled =>
    subst field
    exact absurd spelled (by simp [Token.signs])
  | shortSign spelled _ =>
    subst field
    exact absurd spelled (by simp [Token.shortSigns])
  | quoted => cases field
  | word _ _ _ =>
    by_contra no_field
    rw [if_neg no_field] at field
    cases field

/-- A piece is what is cut off first. -/
theorem scan (h : Piece kind? s rest) (position : Nat) :
    Token.scan position (s ++ rest) =
      (Token.scan (position + s.length) rest).map (kind?.toList.map (⟨·, s, position⟩) ++ ·) := by
  obtain ⟨c, r, rfl, matched⟩ := h.lexeme?
  rw [List.cons_append, Token.scan.eq_def]
  simp only [matched, List.drop_left, List.take_left, List.length_cons]
  rw [show position + (r.length + 1) = position + 1 + r.length by omega]
  cases Token.scan (position + 1 + r.length) rest <;> cases kind? <;> rfl

/-- A piece that is a token is one before any blank, too. -/
theorem before_blank (h : Piece (some kind) s rest) {t : List Char}
    (blank : ∀ c ∈ t.head?, Text.isBlank c = true) : Piece (some kind) s t := by
  cases h with
  | sign rest spelled => exact .sign t spelled
  | shortSign spelled _ =>
    refine .shortSign spelled fun equal => ?_
    exact absurd (blank _ equal) (by decide)
  | quoted rest quote closes => exact .quoted t quote closes
  | word some_char chars _ =>
    refine .word some_char chars fun c hc => ?_
    simp [Token.isWordChar, blank c hc]

end Piece

namespace Token

theorem scan_nil (position : Nat) : scan position [] = .ok [] := by rw [scan.eq_def]

/-- The first piece of a text and what comes after it. -/
def first? : List Char → Option (Option Kind × List Char × List Char)
  | [] => none
  | c :: r => (lexeme? c r).map fun (kind?, n) => (kind?, c :: r.take n, r.drop n)

/-- **What a text begins with**: there is one way to cut off a piece, or none. -/
theorem first?_eq_some_iff {s piece rest : List Char} {kind? : Option Kind} :
    first? s = some (kind?, piece, rest) ↔ s = piece ++ rest ∧ Piece kind? piece rest := by
  constructor
  · intro h
    cases s with
    | nil => cases h
    | cons c r =>
      obtain ⟨⟨k?, n⟩, matched, pair⟩ := Option.map_eq_some_iff.mp h
      obtain ⟨s, t, rfl, rfl, found⟩ := piece_of_lexeme? matched
      simp only [List.take_left, List.drop_left, Prod.mk.injEq] at pair
      obtain ⟨rfl, rfl, rfl⟩ := pair
      exact ⟨rfl, found⟩
  · rintro ⟨rfl, found⟩
    obtain ⟨c, r, rfl, matched⟩ := found.lexeme?
    simp [first?, matched]

end Token

/-- **Quoted texts cannot be left.** Whatever comes after a text's literal, the literal is the
first token, it stands for the text, and what comes after it is cut into tokens as if alone. -/
theorem Value.text_stays_in_quotes (s : String) (rest : List Char) :
    Token.first? ((Value.text s).render ++ rest) =
        some (some .quoted, (Value.text s).render, rest) ∧
      String.ofList (unquote (Value.text s).render) = s ∧
      ∀ position, Token.scan position ((Value.text s).render ++ rest) =
        (Token.scan (position + (Value.text s).render.length) rest).map
          (⟨.quoted, (Value.text s).render, position⟩ :: ·) := by
  have piece : Piece (some .quoted) (quote s.toList) rest := piece_quote s.toList rest
  refine ⟨Token.first?_eq_some_iff.mpr ⟨rfl, piece⟩, ?_, piece.scan⟩
  rw [Value.render, unquote_quote, String.ofList_toList]

end Statecraft.Guard
