import Statecraft.Proofs.Guard.Acceptance
import Statecraft.Proofs.Guard.Reread

/-!
# Integers that are too long

An integer that is too long stops the parser where it stands for an operand: where the tokens up to
it begin a guard, whatever comes after them (`Overlong`). There is no other way for a text to be
neither a guard nor refused (`Group.answers_iff`).
-/

namespace Statecraft.Guard

open Token (spelling)

namespace Token

variable {c : Char} {r s : List Char} {position : Nat}

theorem whole_of_ofChars? {n : Decimal.Numeral} (h : Decimal.Numeral.ofChars? s = some n) :
    n.whole = (Decimal.splitSign s).2.takeWhile Text.isDigit := by
  simp only [Decimal.Numeral.ofChars?, Option.bind_eq_bind] at h
  split at h <;> split_ifs at h <;>
  · obtain ⟨e, _, same⟩ := Option.bind_eq_some_iff.mp h
    exact (congrArg Decimal.Numeral.whole (Option.some.inj same)).symm

/-- An integer begins with a sign or a digit. -/
theorem lead_of_isLongInteger {t : Token} (long : t.isLongInteger = true) (text : t.text = c :: r) :
    c = '-' ∨ c = '+' ∨ Text.isDigit c = true := by
  unfold isLongInteger at long
  split at long
  · rename_i n numeral
    have digits : n.whole ≠ [] := by
      rintro none
      simp [none] at long
    rw [whole_of_ofChars? numeral] at digits
    have kept : Text.dropLineEnd t.text = [] ∨ ∃ r', Text.dropLineEnd t.text = c :: r' := by
      rw [text, Text.dropLineEnd]
      cases r <;> split <;> simp
    rcases kept with none | ⟨r', kept⟩
    · rw [none] at digits
      exact absurd rfl digits
    · rw [kept] at digits
      by_contra other
      push Not at other
      apply digits
      have unsigned : Decimal.splitSign (c :: r') = (false, c :: r') := by
        unfold Decimal.splitSign
        split <;> simp_all
      rw [unsigned]
      exact List.takeWhile_cons_of_neg other.2.2
  · cases long

/-- What the tokens that are no words begin with. -/
def marks : List Char := ['&', '|', '=', '!', '>', '<', '(', ')', '"', '\'', 'c']

theorem mem_marks {sign : Spelling} (h : sign ∈ signs ++ shortSigns) : ∀ c ∈ sign.2, c ∈ marks := by
  have all : (signs ++ shortSigns).all (fun k => k.2.all (· ∈ marks)) = true := by decide
  simpa using List.all_eq_true.mp (List.all_eq_true.mp all sign h)

theorem not_mem_marks (lead : c = '-' ∨ c = '+' ∨ Text.isDigit c = true) : c ∉ marks := by
  have no_digit : (marks.all fun d => !Text.isDigit d) = true := by decide +kernel
  rcases lead with rfl | rfl | digit
  · decide
  · decide
  · intro mark
    simpa [digit] using List.all_eq_true.mp no_digit c mark

/-- Every other token begins with a mark or with the context's name. -/
theorem word_of_lead {kind : Kind} {rest : List Char} (h : Piece (some kind) (c :: r) rest)
    (lead : c = '-' ∨ c = '+' ∨ Text.isDigit c = true) : kind = .word := by
  have unmarked := not_mem_marks lead
  cases h with
  | sign rest spelled =>
    exact absurd (mem_marks (List.mem_append_left _ spelled) c List.mem_cons_self) unmarked
  | shortSign spelled _ =>
    exact absurd (mem_marks (List.mem_append_right _ spelled) c List.mem_cons_self) unmarked
  | quoted rest quote _ =>
    rcases quote with rfl | rfl <;> exact absurd (by decide) unmarked
  | word _ _ _ =>
    refine if_neg fun field => ?_
    unfold isField at field
    split at field
    · rename_i path
      obtain rfl : c = 'c' := (List.cons.inj path).1
      exact unmarked (by decide)
    · cases field

theorem word_of_isLongInteger {ts : List Token} (h : scan position s = .ok ts) :
    ∀ t ∈ ts, t.isLongInteger = true → t.kind = .word := by
  intro t ht long
  obtain ⟨_, _, _, _, piece⟩ := (scan_eq_ok_iff.mp h).mem ht
  obtain ⟨c, r, first, _⟩ := piece.visible
  exact word_of_lead (first ▸ piece) (lead_of_isLongInteger long first)

end Token

theorem ofWord_of_isLongInteger {t : Token} (long : t.isLongInteger = true) :
    ∃ e, Value.ofWord t.text = .error e := by
  unfold Token.isLongInteger at long
  unfold Value.ofWord
  split_ifs with null yes no
  · rw [beq_iff_eq.mp null] at long
    exact absurd long (by decide)
  · rw [beq_iff_eq.mp yes] at long
    exact absurd long (by decide)
  · rw [beq_iff_eq.mp no] at long
    exact absurd long (by decide)
  · split at long
    · rename_i n numeral
      rw [Bool.and_eq_true, decide_eq_true_eq] at long
      simp [numeral, long.1, long.2]
    · cases long

/-- The parser stops at the token that comes after these. -/
def Halts (t : Token) (e : Decimal.LimitError) : Part → List Token → Prop
  | .term, pre => ∀ last post, Parse.term last (pre ++ t :: post) = .error (.limit e)
  | .terms l, pre => (∀ last post, Parse.expression last (pre ++ t :: post) = .error (.limit e)) ∧
    ∀ last post tok l? done, tok.kind = .logic l → l?.getD l = l →
      Parse.others last l? done (tok :: (pre ++ t :: post)) = .error (.limit e)
  | .expression, pre => ∀ last post, Parse.expression last (pre ++ t :: post) = .error (.limit e)

section Halting

open Parse.Result (map_eq_error andThen_eq_error)

variable {t : Token} {e : Decimal.LimitError} {pre : List Token} {ks us : List Spelling}
  {p : Part} {f : Formula} {last : Nat} {ts : List Token} {err : ReadError}

/-- What comes before a word begins as a sentence does. -/
theorem Derives.begins (word : t.kind = .word) (h : Derives p ks f)
    (spelled : pre.map spelling ++ t.spelling :: us = ks) (post : List Token) :
    Begins (pre ++ t :: post) := by
  obtain ⟨k, s, r, rfl, first⟩ := h.starts
  cases pre with
  | nil =>
    have kind : t.kind = k := congrArg Prod.fst (List.cons.inj spelled).1
    rw [← kind, word] at first
    simp at first
  | cons tok rest =>
    have kind : tok.kind = k := congrArg Prod.fst (List.cons.inj spelled).1
    exact ⟨tok, rest ++ t :: post, rfl, kind ▸ first⟩

/-- An error in the first term after a logic. -/
theorem others_of_term_error {tok : Token} {l : Logic} {l? : Option Logic} {done : List Tree}
    (begins : Begins ts) (hl : tok.kind = .logic l) (same : l?.getD l = l)
    (failed : Parse.term last ts = .error err) :
    Parse.others last l? done (tok :: ts) = .error err := by
  rw [others_logic begins hl same]
  exact andThen_eq_error.mpr (Or.inl failed)

/-- An error in the terms after one more. -/
theorem others_of_others_error {tok : Token} {l : Logic} {l? : Option Logic} {done : List Tree}
    {tree : Tree} {rest : List Token} (begins : Begins ts) (hl : tok.kind = .logic l)
    (same : l?.getD l = l) (first : (Parse.term last ts).Gives tree rest)
    (failed : Parse.others last (some l) (tree :: done) rest = .error err) :
    Parse.others last l? done (tok :: ts) = .error err := by
  rw [others_logic begins hl same]
  exact andThen_eq_error.mpr (Or.inr ⟨tree, rest, first.1, first, map_eq_error.mpr failed⟩)

theorem expression_of_term_error (failed : Parse.term last ts = .error err) :
    Parse.expression last ts = .error err := by
  rw [Parse.expression]
  exact andThen_eq_error.mpr (Or.inl failed)

/-- An error in the terms after the first. -/
theorem expression_of_others_error {tree : Tree} {rest : List Token}
    (first : (Parse.term last ts).Gives tree rest)
    (failed : Parse.others last none [tree] rest = .error err) :
    Parse.expression last ts = .error err := by
  rw [Parse.expression]
  exact andThen_eq_error.mpr (Or.inr ⟨tree, rest, first.1, first, map_eq_error.mpr failed⟩)

theorem enclosed_of_expression_error {o : Token} (begins : Begins ts)
    (failed : Parse.expression last ts = .error err) : Parse.enclosed last o ts = .error err := by
  rw [enclosed_begins begins]
  exact andThen_eq_error.mpr (Or.inl failed)

/-- A word that is no value is found where an operand is expected. -/
theorem halts_compare (word : t.kind = .word) (read : Value.ofWord t.text = .error e)
    (field : Token) (op : Operator) (tok : Token) (hf : field.kind = .field)
    (ho : tok.kind = .compare op) : Halts t e .term [field, tok] := by
  intro last post
  obtain ⟨kind, s, p⟩ := field
  obtain ⟨kind', s', p'⟩ := tok
  obtain ⟨kind'', s'', p''⟩ := t
  obtain rfl : kind = .field := hf
  obtain rfl : kind' = .compare op := ho
  obtain rfl : kind'' = .word := word
  rw [List.cons_append, List.cons_append, List.nil_append, Parse.term]
  · rw [Parse.atom]
    simp only [Parse.isOperand, if_true, Parse.operand, show Value.ofWord s'' = .error e from read]
    rfl
  all_goals simp

theorem halts_parens {o : Token} (ho : o.kind = .opening)
    (begins : ∀ post, Begins (pre ++ t :: post)) (inner : Halts t e .expression pre) :
    Halts t e .term (o :: pre) := by
  intro last post
  obtain ⟨kind, s, p⟩ := o
  obtain rfl : kind = .opening := ho
  have failed := enclosed_of_expression_error (o := ⟨.opening, s, p⟩) (begins post) (inner last post)
  rw [List.cons_append, Parse.term, failed]
  rfl

theorem halts_negated {n o : Token} (hn : n.kind = .not) (ho : o.kind = .opening)
    (begins : ∀ post, Begins (pre ++ t :: post)) (inner : Halts t e .expression pre) :
    Halts t e .term (n :: o :: pre) := by
  intro last post
  obtain ⟨kind, s, p⟩ := n
  obtain ⟨kind', s', p'⟩ := o
  obtain rfl : kind = .not := hn
  obtain rfl : kind' = .opening := ho
  have failed := enclosed_of_expression_error (o := ⟨.opening, s', p'⟩) (begins post)
    (inner last post)
  rw [List.cons_append, List.cons_append, Parse.term, failed]
  rfl

theorem halts_last (begins : ∀ post, Begins (pre ++ t :: post)) (term : Halts t e .term pre)
    (l : Logic) : Halts t e (.terms l) pre := by
  constructor
  · intro last post
    exact expression_of_term_error (term last post)
  · intro last post tok l? done hl same
    exact others_of_term_error (begins post) hl same (term last post)

theorem halts_join {first : List Token} {tok : Token} {l : Logic} {tree : Tree}
    (begins : ∀ us, Begins (first ++ us)) (parses : Parses l first [tree])
    (hl : tok.kind = .logic l) (others : Halts t e (.terms l) pre) :
    Halts t e (.terms l) (first ++ tok :: pre) := by
  have head : ∀ last post, (Parse.term last (first ++ tok :: (pre ++ t :: post))).Gives tree
      (tok :: (pre ++ t :: post)) := fun last post =>
    parses.term tree rfl last _ (endsTerm_logic hl _)
  constructor
  · intro last post
    rw [List.append_assoc, List.cons_append]
    exact expression_of_others_error (head last post) (others.2 last post tok none [tree] hl rfl)
  · intro last post tok' l? done hl' same
    rw [List.append_assoc, List.cons_append]
    exact others_of_others_error (begins _) hl' same (head last post)
      (others.2 last post tok (some l) (tree :: done) hl rfl)

theorem eq_of_concat_eq {α : Type} {a b us : List α} {c w : α} (h : a ++ w :: us = b ++ [c])
    (other : w ≠ c) : ∃ us', b = a ++ w :: us' := by
  rcases List.eq_nil_or_concat' us with rfl | ⟨us', d, rfl⟩
  · exact absurd (List.append_inj' h rfl).2 (by simpa using other)
  · refine ⟨us', ?_⟩
    rw [← List.cons_append, ← List.append_assoc] at h
    exact (List.append_inj_left' h rfl).symm

/-- The parser halts at the operand. -/
theorem Derives.halts (word : t.kind = .word) (read : Value.ofWord t.text = .error e)
    (h : Derives p ks f) (spelled : pre.map spelling ++ t.spelling :: us = ks)
    (values : HaveValues (pre.map spelling)) : Halts t e p pre := by
  have begins := fun post => h.begins word spelled post
  have is_word : t.spelling.1 = .word := word
  induction h generalizing pre us with
  | negated n o c inner ih =>
    match pre, spelled with
    | [], spelled => simp_all
    | [_], spelled => simp_all
    | x :: y :: pre, spelled =>
      simp only [List.map_cons, List.cons_append, List.cons.injEq] at spelled
      obtain ⟨hx, hy, spelled⟩ := spelled
      obtain ⟨us', rfl⟩ := eq_of_concat_eq spelled (by rintro h; simp [h] at is_word)
      have begins' := fun post => inner.begins word rfl post
      have values' : HaveValues (pre.map spelling) := values.mono fun k hk => by simp [hk]
      exact halts_negated (congrArg Prod.fst hx) (congrArg Prod.fst hy) begins'
        (ih rfl values' begins')
  | parens o c inner ih =>
    match pre, spelled with
    | [], spelled => simp_all
    | x :: pre, spelled =>
      simp only [List.map_cons, List.cons_append, List.cons.injEq] at spelled
      obtain ⟨hx, spelled⟩ := spelled
      obtain ⟨us', rfl⟩ := eq_of_concat_eq spelled (by rintro h; simp [h] at is_word)
      have begins' := fun post => inner.begins word rfl post
      have values' : HaveValues (pre.map spelling) := values.mono fun k hk => by simp [hk]
      exact halts_parens (congrArg Prod.fst hx) begins' (ih rfl values' begins')
  | missing n f =>
    match pre, spelled with
    | [], spelled => simp_all
    | [_], spelled => simp_all
    | _ :: _ :: _, spelled => simp at spelled
  | field f =>
    match pre, spelled with
    | [], spelled => simp_all
    | _ :: _, spelled => simp at spelled
  | compare f o op kind =>
    match pre, spelled with
    | [], spelled => simp_all
    | [_], spelled => simp_all
    | [x, y], spelled =>
      simp only [List.map_cons, List.cons_append, List.cons.injEq] at spelled
      exact halts_compare word read x op y (congrArg Prod.fst spelled.1)
        (congrArg Prod.fst spelled.2.1)
    | _ :: _ :: _ :: _, spelled => simp at spelled
  | last l _ ih => exact halts_last begins (ih spelled values begins) l
  | @join l x ks vs f g first others ih ih' =>
    rcases List.append_eq_append_iff.mp spelled with ⟨a, left, right⟩ | ⟨a, left, right⟩
    · -- the word is in the first term
      cases a with
      | nil => simp_all
      | cons k a =>
        obtain rfl : t.spelling = k := (List.cons.inj right).1
        exact halts_last begins (ih left.symm values begins) l
    · -- the word is in a later term
      cases a with
      | nil => simp [← (List.cons.inj right).1] at is_word
      | cons k a =>
        obtain ⟨rfl, rfl⟩ := List.cons.inj right
        obtain ⟨before, r, rfl, rfl, spelled'⟩ := List.map_eq_append_iff.mp left
        obtain ⟨q, pre, rfl, rfl⟩ := map_spelling_cons spelled'
        obtain ⟨tree, reads, _⟩ := first.isRead (values.mono fun k hk => by simp [hk])
        have later := ih' rfl (values.mono fun k hk => by simp [hk])
          fun post => others.begins word rfl post
        exact halts_join (reads l).begins.append ((reads l).parses before rfl) rfl later
  | expression _ ih => exact (ih spelled values begins).1

end Halting

/-- The text has an integer that is too long, and its tokens up to this one begin a guard. -/
def Overlong (s : String) : Prop :=
  ∃ pre t post us f, Token.scan 0 s.toList = .ok (pre ++ t :: post) ∧ t.isLongInteger = true ∧
    Derives .expression ((pre ++ [t]).map spelling ++ us) f

namespace Overlong

variable {s : String}

/-- The first integer of such a text that is too long is of this kind too. -/
theorem first (h : Overlong s) :
    ∃ pre t post us f, Token.scan 0 s.toList = .ok (pre ++ t :: post) ∧ t.isLongInteger = true ∧
      Derives .expression ((pre ++ [t]).map spelling ++ us) f ∧
      ∀ k ∈ pre, k.isLongInteger = false := by
  obtain ⟨pre, t, post, us, f, scanned, long, d⟩ := h
  have found : ((pre ++ [t]).find? Token.isLongInteger).isSome := by
    rw [List.find?_isSome]
    exact ⟨t, by simp, long⟩
  obtain ⟨k, found⟩ := Option.isSome_iff_exists.mp found
  obtain ⟨long', before, after, split, short⟩ := List.find?_eq_some_iff_append.mp found
  refine ⟨before, k, after ++ post, after.map spelling ++ us, f, ?_, long', ?_, ?_⟩
  · have all : pre ++ t :: post = (pre ++ [t]) ++ post := by simp
    rw [scanned, all, split]
    simp
  · rw [split] at d
    simpa using d
  · simpa using short

/-- Such a text is neither a guard nor refused. -/
theorem limit (h : Overlong s) : ∃ l, Group.ofText s = .error (.limit l) := by
  obtain ⟨pre, t, post, us, f, scanned, long, d, short⟩ := h.first
  obtain ⟨l, read⟩ := ofWord_of_isLongInteger long
  have word := Token.word_of_isLongInteger scanned t (by simp) long
  have values : HaveValues (pre.map spelling) := by
    intro k hk
    obtain ⟨tok, ht, rfl⟩ := List.mem_map.mp hk
    exact valueOf?_of_not_long (short tok ht)
  have spelled : pre.map spelling ++ t.spelling :: us = (pre ++ [t]).map spelling ++ us := by simp
  have halts := d.halts word read spelled values
  refine ⟨l, (Group.ofText_of_scan scanned (by simp)).trans ?_⟩
  rw [Parse.whole, halts _ post]

theorem isBlankText (h : Overlong s) : Text.isBlankText s = false := by
  obtain ⟨pre, t, post, us, f, scanned, _⟩ := h
  by_contra blank
  rw [Bool.not_eq_false, Text.isBlankText, List.all_eq_true] at blank
  rw [Token.scan_of_blank blank] at scanned
  simp at scanned

theorem isEmpty (h : Overlong s) : s.isEmpty = false := by
  have visible := h.isBlankText
  by_contra empty
  rw [Bool.not_eq_false, String.isEmpty_iff] at empty
  simp [Text.isBlankText, empty] at visible

theorem of_limit {l : Decimal.LimitError} (h : Group.ofText s = .error (.limit l)) : Overlong s := by
  obtain ⟨ts, scanned, pre, t, post, us, f, rfl, none, d⟩ := Group.stops_of_ofText h
  refine ⟨pre, t, post, us, f, scanned, ?_, d⟩
  by_contra short
  obtain ⟨x, value⟩ := valueOf?_of_not_long (Bool.not_eq_true _ ▸ short)
  rw [none] at value
  cases value

theorem isLongInteger_of_digits {t : Token} (all : Text.AllDigits t.text)
    (many : Decimal.digitLimit < t.text.length) : t.isLongInteger = true := by
  have line : Text.dropLineEnd t.text = t.text := by
    unfold Text.dropLineEnd
    rw [if_neg]
    intro last
    exact absurd (all _ (List.mem_of_getLast? (beq_iff_eq.mp last))) (by decide)
  have some_digit : t.text ≠ [] := List.ne_nil_of_length_pos (Nat.zero_lt_of_lt many)
  have read : Decimal.Numeral.ofChars? t.text = some ⟨false, t.text, [], true, 0⟩ := by
    have nothing : Decimal.exponent? [] = some none := rfl
    have whole := Decimal.ofChars?_whole false all some_digit (by simp) nothing
    simpa [Decimal.signed] using whole
  simp [Token.isLongInteger, line, read, many]

/-- A comparison with too many digits. -/
theorem of_digits {path digits : List Char} (field : Token.isDotted false path = true)
    (all : Text.AllDigits digits) (many : Decimal.digitLimit < digits.length) :
    Overlong (String.ofList (written path ++ ' ' :: ('>' :: ' ' :: digits))) := by
  have numeral : ∀ c ∈ digits, Decimal.IsNumeralChar c := fun c hc => Or.inl (all c hc)
  obtain ⟨c, r, rfl⟩ := List.exists_cons_of_length_pos (Nat.zero_lt_of_lt many)
  have greater : Operator.greater.needsValue = true := rfl
  have word := Run.word fun d hd => isWordChar_of_isNumeralChar (numeral d hd)
  have run := (run_written field).spaced (symbol_compare greater) word
  obtain ⟨ts, scanned, spelled⟩ := run.scans [] [] (by simp [EndsWord]) .nil 0
  simp only [List.append_nil] at scanned
  obtain ⟨p, ts, rfl, spelled'⟩ := map_spelling_cons spelled
  obtain ⟨q, ts, rfl, spelled''⟩ := map_spelling_cons spelled'
  obtain ⟨k, ts, rfl, none⟩ := map_spelling_cons spelled''
  obtain rfl := List.map_eq_nil_iff.mp none
  refine ⟨[⟨.field, written path, p⟩, ⟨.compare .greater, Operator.greater.name.toList, q⟩],
    ⟨if Token.isField (c :: r) then .field else .word, c :: r, k⟩, [], [], _, ?_,
    isLongInteger_of_digits all many, .expression (.last .and (.compare _ _ _ ?_))⟩
  · rw [String.toList_ofList]
    exact scanned
  · by_cases named : Token.isField (c :: r) <;> simp [spelling, named]

end Overlong

namespace Group

variable {s : String}

/-- **Which texts are answered**: all but the overlong ones are guards or are refused. -/
theorem answers_iff (s : String) :
    ((∃ g, ofText s = .ok g) ∨ ∃ f, ofText s = .error (.failure f)) ↔ ¬ Overlong s := by
  constructor
  · intro answered long
    obtain ⟨l, limit⟩ := long.limit
    simp [limit] at answered
  · intro short
    cases read : ofText s with
    | ok g => exact Or.inl ⟨g, rfl⟩
    | error e =>
      cases e with
      | failure f => exact Or.inr ⟨f, rfl⟩
      | limit l => exact absurd (Overlong.of_limit read) short

end Group

/-- A text without integers that are too long is answered. -/
theorem HasShortIntegers.not_overlong {s : String} (h : HasShortIntegers s) : ¬ Overlong s := by
  intro long
  obtain ⟨_, limit⟩ := long.limit
  obtain ⟨f, ⟨⟩⟩ := h.refusal limit

end Statecraft.Guard
