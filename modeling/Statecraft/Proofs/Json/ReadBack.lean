import Statecraft.Proofs.Json.Scalar

/-!
# Documents read back from their JSON text

What a style writes for data, on one line or indented, is read as the same data (`read_write`).
Data are scalars with finite numbers and integers that are not too long, lists, and mappings with
different texts for keys (`IsData`).
-/

namespace Statecraft.Json

open Text (isAsciiDigit)

/-- Numbers are not rounded, and a whole one has a point. -/
structure Style.IsExact (style : Style) : Prop where
  unrounded : style.number.precision = none
  wholeEnd : style.number.wholeEnd = ".0"

/-- Documents that JSON has a form for. -/
inductive IsData : Document → Prop
  | null : IsData .null
  | bool (b : Bool) : IsData (.bool b)
  | int {n : Int} : Decimal.isWritable n = true → IsData (.int n)
  | float {x : Float} : Decimal.isFinite x = true → IsData (.float x)
  | text (s : String) : IsData (.text s)
  | list {items : List Document} : (∀ d ∈ items, IsData d) → IsData (.list items)
  | object {entries : List (String × Document)} : (entries.map Prod.fst).Nodup →
      (∀ e ∈ entries, IsData e.2) → IsData (.object entries)

/-- A property that texts and truth values have, and collections of documents that have it. -/
structure Composes (P : Document → Prop) : Prop where
  text (s : String) : P (.text s)
  bool (b : Bool) : P (.bool b)
  list {items : List Document} : (∀ d ∈ items, P d) → P (.list items)
  object {entries : List (String × Document)} : (entries.map Prod.fst).Nodup →
    (∀ e ∈ entries, P e.2) → P (.object entries)

theorem IsData.composes : Composes IsData := ⟨.text, .bool, .list, .object⟩

/-- The text begins a value: with no blank, and with nothing that ends a list or marks a byte
order. -/
def StartsValue (t : List Char) : Prop :=
  ∃ c r, t = c :: r ∧ isSpace c = false ∧ c ≠ ']' ∧ c ≠ '\uFEFF'

/-- The text is read as the document, with fuel for each of its characters. -/
structure Reads (t : List Char) (d : Document) : Prop where
  starts : StartsValue t
  read : ∀ fuel rest, t.length ≤ fuel → EndsNumber rest → value fuel (t ++ rest) = .ok (d, rest)

/-- The style writes the document at every level, so that it is read back. -/
def Style.Writes (style : Style) (d : Document) : Prop :=
  ∀ level within, ∃ t, style.value level within d = .ok t ∧ Reads t d

section Blanks

variable {s rest : List Char}

theorem skipSpace_of_starts (h : StartsValue s) (rest : List Char) :
    skipSpace (s ++ rest) = s ++ rest := by
  obtain ⟨c, r, rfl, visible, _⟩ := h
  exact List.dropWhile_cons_of_neg (by simp [visible])

theorem skipSpace_append {pad : List Char} (blank : ∀ c ∈ pad, isSpace c = true)
    (stop : ∀ c ∈ s.head?, isSpace c = false) : skipSpace (pad ++ s) = s :=
  Text.dropWhile_append_of_stop blank stop

theorem isSpace_newline (style : Style) (level : Nat) :
    ∀ c ∈ style.newline level, isSpace c = true := by
  unfold Style.newline
  split
  · intro c hc
    rcases List.mem_cons.mp hc with rfl | hc
    · rfl
    · rw [List.eq_of_mem_replicate hc]
      rfl
  · simp

theorem skipSpace_newline (style : Style) (level : Nat) (stop : ∀ c ∈ s.head?, isSpace c = false) :
    skipSpace (style.newline level ++ s) = s :=
  skipSpace_append (isSpace_newline style level) stop

theorem head_of_starts (h : StartsValue s) (rest : List Char) :
    ∀ c ∈ (s ++ rest).head?, isSpace c = false := by
  obtain ⟨c, r, rfl, visible, _⟩ := h
  rintro d ⟨⟩
  exact visible

theorem skipSpace_colon (s : List Char) : skipSpace (':' :: s) = ':' :: s := rfl

/-- A comma, and blanks before the next value. -/
theorem comma_eq (style : Style) (level : Nat) : ∃ pad, style.comma level = ',' :: pad ∧
    ∀ c ∈ pad, isSpace c = true := by
  unfold Style.comma
  split
  · exact ⟨_, rfl, isSpace_newline style level⟩
  · exact ⟨[' '], rfl, List.forall_mem_singleton.mpr rfl⟩

theorem endsNumber_of_space {pad : List Char} (blank : ∀ c ∈ pad, isSpace c = true)
    (ends : EndsNumber rest) : EndsNumber (pad ++ rest) := by
  cases pad with
  | nil => exact ends
  | cons c r =>
    have space := blank c List.mem_cons_self
    rintro d ⟨⟩
    simp only [isSpace, Bool.or_eq_true, beq_iff_eq] at space
    rcases space with ((rfl | rfl) | rfl) | rfl <;> decide

theorem endsNumber_newline (style : Style) (level : Nat) (ends : EndsNumber rest) :
    EndsNumber (style.newline level ++ rest) :=
  endsNumber_of_space (isSpace_newline style level) ends

end Blanks

theorem skipSpace_blank {t : List Char} {d : Document} (h : Reads t d) (rest : List Char) :
    skipSpace (' ' :: (t ++ rest)) = t ++ rest :=
  skipSpace_append (List.forall_mem_singleton.mpr rfl) (head_of_starts h.starts rest)

section Scalars

variable {t : List Char} {d : Document}

theorem Reads.of_scalar (starts : StartsValue t)
    (plain : ∀ c ∈ t.head?, c ≠ '"' ∧ c ≠ '\x7b' ∧ c ≠ '[')
    (read : ∀ rest, EndsNumber rest → scalar (t ++ rest) = .ok (d, rest)) : Reads t d := by
  refine ⟨starts, fun fuel rest enough ends => ?_⟩
  obtain ⟨c, r, rfl, _⟩ := starts
  obtain ⟨fuel, rfl⟩ := Nat.exists_add_one_eq.mpr (Nat.lt_of_lt_of_le
    (Nat.zero_lt_succ _) enough)
  obtain ⟨quote, brace, bracket⟩ := plain c rfl
  rw [← read rest ends]
  simp [value, quote, brace, bracket]

theorem ReadsNumber.reads (h : ReadsNumber t d) : Reads t d := by
  obtain ⟨c, r, rfl, first⟩ := h.head
  have other : ∀ x, isAsciiDigit x = false → x ≠ '-' → c ≠ x := by
    rintro x letter no_minus rfl
    rcases first with digit | minus
    · rw [letter] at digit
      cases digit
    · exact no_minus minus
  have visible : isSpace c = false := by
    simp [isSpace, other ' ' (by decide) (by decide), other '\t' (by decide) (by decide),
      other '\n' (by decide) (by decide), other '\r' (by decide) (by decide)]
  refine .of_scalar ⟨c, r, rfl, visible, other _ (by decide) (by decide),
    other _ (by decide) (by decide)⟩ ?_ h.read
  rintro x ⟨⟩
  exact ⟨other _ (by decide) (by decide), other _ (by decide) (by decide),
    other _ (by decide) (by decide)⟩

theorem reads_string (style : Style) (s : String) : Reads (style.string s) (.text s) := by
  obtain ⟨inside, written, _⟩ := string_string style s []
  refine ⟨⟨'"', inside, written, by decide⟩, fun fuel rest enough _ => ?_⟩
  obtain ⟨fuel, rfl⟩ := Nat.exists_add_one_eq.mpr (Nat.lt_of_lt_of_le
    (by simp [written]) enough)
  obtain ⟨inside', written', read⟩ := string_string style s rest
  rw [written', List.cons_append]
  simp [value, read, Except.map]

end Scalars

section Collections

variable {style : Style}

/-- A bracket behind an item ends the list. -/
theorem items_last {t rest u : List Char} {d : Document} {fuel : Nat} (h : Reads t d)
    (enough : t.length ≤ fuel) (ends : EndsNumber rest) (closed : skipSpace rest = ']' :: u)
    (before : List Document) :
    Json.items (fuel + 1) before (t ++ rest) = .ok (.list (d :: before).reverse, u) := by
  simp [Json.items, h.read fuel rest enough ends, closed]

/-- A comma behind an item goes on with the next one. -/
theorem items_next {t rest u : List Char} {d : Document} {fuel : Nat} (h : Reads t d)
    (enough : t.length ≤ fuel) (ends : EndsNumber rest) (comma : skipSpace rest = ',' :: u)
    (before : List Document) :
    Json.items (fuel + 1) before (t ++ rest) = Json.items fuel (d :: before) (skipSpace u) := by
  simp [Json.items, h.read fuel rest enough ends, comma]

/-- A bracket opens the items of a list. -/
theorem value_bracket {t : List Char} (starts : StartsValue t) (style : Style) (level fuel : Nat)
    (rest : List Char) :
    value (fuel + 1) ('[' :: (style.newline level ++ (t ++ rest))) =
      Json.items fuel [] (t ++ rest) := by
  have skipped := skipSpace_newline style level (head_of_starts starts rest)
  obtain ⟨c, r, rfl, _, no_end, _⟩ := starts
  rw [List.cons_append] at skipped ⊢
  simp [value, skipped, no_end]

/-- **The items of a list are read** one after the other, from the first to the bracket. -/
theorem items_read {items : List Document} (h : ∀ d ∈ items, style.Writes d) (level : Nat)
    (within : List Nat) : ∃ others, style.items level within items = .ok others ∧
      ∀ fuel before first t close rest, Reads t first → t.length + others.length < fuel →
        Json.items fuel before (t ++ (others ++ (style.newline close ++ ']' :: rest))) =
          .ok (.list (before.reverse ++ first :: items), rest) := by
  induction items with
  | nil =>
    refine ⟨[], rfl, fun fuel before first t close rest reads enough => ?_⟩
    obtain ⟨fuel, rfl⟩ := Nat.exists_add_one_eq.mpr (Nat.zero_lt_of_lt enough)
    have ends : EndsNumber (style.newline close ++ ']' :: rest) :=
      endsNumber_newline style close (by rintro c ⟨⟩; decide)
    have closed : skipSpace (style.newline close ++ ']' :: rest) = ']' :: rest :=
      skipSpace_newline style close (by rintro c ⟨⟩; rfl)
    rw [List.nil_append, items_last reads (Nat.lt_succ_iff.mp enough) ends closed]
    simp
  | cons d r ih =>
    obtain ⟨u, written, reads_u⟩ := h d List.mem_cons_self level within
    obtain ⟨others, rest_written, rest_read⟩ := ih fun x hx => h x (List.mem_cons_of_mem _ hx)
    obtain ⟨pad, comma, blank⟩ := comma_eq style level
    refine ⟨',' :: (pad ++ (u ++ others)), ?_,
      fun fuel before first t close rest reads enough => ?_⟩
    · simp [Style.items, written, rest_written, comma, bind, Except.bind]
    · obtain ⟨fuel, rfl⟩ := Nat.exists_add_one_eq.mpr (Nat.zero_lt_of_lt enough)
      simp only [List.length_cons, List.length_append] at enough
      simp only [List.cons_append, List.append_assoc]
      rw [items_next reads (by omega) (by rintro c ⟨⟩; decide) rfl,
        skipSpace_append blank (head_of_starts reads_u.starts _),
        rest_read fuel (first :: before) d u close rest reads_u (by omega)]
      simp

/-- The entries of a mapping with texts for keys. -/
def named (entries : List (String × Document)) : Document.Entries :=
  entries.map fun e => (.text e.1, e.2)

/-- An entry with a new key goes to the end. -/
theorem insert_named {entries : List (String × Document)} {k : String}
    (new : k ∉ entries.map Prod.fst) (d : Document) :
    Document.Entries.insert (named entries) (.text k) d = named (entries ++ [(k, d)]) := by
  have absent : (named entries).any (fun e => e.1.sameKey (.text k)) = false := by
    rw [List.any_eq_false]
    intro e he
    obtain ⟨x, hx, rfl⟩ := List.mem_map.mp he
    have other : x.1 ≠ k := fun same => new (List.mem_map.mpr ⟨x, hx, same⟩)
    simpa [Document.sameKey, Document.content, Document.same] using other
  unfold Document.Entries.insert
  rw [absent]
  simp [named]

theorem new_key {before after : List (String × Document)} {k : String} {d : Document}
    (distinct : ((before ++ (k, d) :: after).map Prod.fst).Nodup) : k ∉ before.map Prod.fst := by
  intro old
  rw [List.map_append] at distinct
  exact (List.nodup_append.mp distinct).2.2 k old k List.mem_cons_self rfl

section Member

variable {t rest u : List Char} {d : Document} {fuel : Nat} {before : List (String × Document)}
  {k : String}

/-- A brace behind a member ends the mapping. -/
theorem members_last (h : Reads t d) (enough : t.length ≤ fuel) (ends : EndsNumber rest)
    (new : k ∉ before.map Prod.fst) (closed : skipSpace rest = '\x7d' :: u) (style : Style) :
    Json.members (fuel + 1) (named before) (style.string k ++ (':' :: ' ' :: (t ++ rest))) =
      .ok (.map (named (before ++ [(k, d)])), u) := by
  obtain ⟨inside, written, read⟩ := string_string style k (':' :: ' ' :: (t ++ rest))
  rw [written, List.cons_append]
  simp [Json.members, read, skipSpace_colon, skipSpace_blank h, h.read fuel rest enough ends,
    insert_named new, closed]

/-- A comma behind a member goes on with the next one. -/
theorem members_next (h : Reads t d) (enough : t.length ≤ fuel) (ends : EndsNumber rest)
    (new : k ∉ before.map Prod.fst) (comma : skipSpace rest = ',' :: u) (style : Style) :
    Json.members (fuel + 1) (named before) (style.string k ++ (':' :: ' ' :: (t ++ rest))) =
      Json.members fuel (named (before ++ [(k, d)])) (skipSpace u) := by
  obtain ⟨inside, written, read⟩ := string_string style k (':' :: ' ' :: (t ++ rest))
  rw [written, List.cons_append]
  simp [Json.members, read, skipSpace_colon, skipSpace_blank h, h.read fuel rest enough ends,
    insert_named new, comma]

end Member

/-- A brace opens the members of a mapping. -/
theorem value_brace (style : Style) (k : String) (level fuel : Nat) (rest : List Char) :
    value (fuel + 1) ('\x7b' :: (style.newline level ++ (style.string k ++ rest))) =
      Json.members fuel (named []) (style.string k ++ rest) := by
  have skipped := skipSpace_newline style level (head_of_starts (reads_string style k).starts rest)
  obtain ⟨inside, written, _⟩ := string_string style k []
  rw [written, List.cons_append] at skipped ⊢
  simp [value, skipped, named]

/-- **The members of a mapping are read** one after the other, from the first to the brace. -/
theorem members_read {entries : List (String × Document)} (h : ∀ e ∈ entries, style.Writes e.2)
    (level : Nat) (within : List Nat) :
    ∃ others, style.members level within (named entries) = .ok others ∧
      ∀ fuel before k first t close rest, Reads t first → t.length + others.length < fuel →
        ((before ++ (k, first) :: entries).map Prod.fst).Nodup →
        Json.members fuel (named before) (style.string k ++ (':' :: ' ' :: (t ++
            (others ++ (style.newline close ++ '\x7d' :: rest))))) =
          .ok (.map (named (before ++ (k, first) :: entries)), rest) := by
  induction entries with
  | nil =>
    refine ⟨[], rfl, fun fuel before k first t close rest reads enough distinct => ?_⟩
    obtain ⟨fuel, rfl⟩ := Nat.exists_add_one_eq.mpr (Nat.zero_lt_of_lt enough)
    have ends : EndsNumber (style.newline close ++ '\x7d' :: rest) :=
      endsNumber_newline style close (by rintro c ⟨⟩; decide)
    have closed : skipSpace (style.newline close ++ '\x7d' :: rest) = '\x7d' :: rest :=
      skipSpace_newline style close (by rintro c ⟨⟩; rfl)
    exact members_last reads (Nat.lt_succ_iff.mp enough) ends (new_key distinct) closed style
  | cons e r ih =>
    obtain ⟨u, written, reads_u⟩ := h e List.mem_cons_self level within
    obtain ⟨others, rest_written, rest_read⟩ := ih fun x hx => h x (List.mem_cons_of_mem _ hx)
    obtain ⟨pad, comma, blank⟩ := comma_eq style level
    refine ⟨',' :: (pad ++ (style.string e.1 ++ (':' :: ' ' :: (u ++ others)))), ?_,
      fun fuel before k first t close rest reads enough distinct => ?_⟩
    · have rest_written' : style.members level within (r.map fun e => (.text e.1, e.2)) =
          .ok others := rest_written
      simp [named, Style.members, Style.key, written, rest_written', comma, bind, Except.bind]
    · obtain ⟨fuel, rfl⟩ := Nat.exists_add_one_eq.mpr (Nat.zero_lt_of_lt enough)
      simp only [List.length_cons, List.length_append] at enough
      simp only [List.cons_append, List.append_assoc]
      rw [members_next reads (by omega) (by rintro c ⟨⟩; decide) (new_key distinct) rfl,
        skipSpace_append blank (head_of_starts (reads_string style e.1).starts _),
        rest_read fuel (before ++ [(k, first)]) e.1 e.2 u close rest reads_u (by omega)
          (by simpa using distinct)]
      simp

/-- **A style writes data so that they are read back.** -/
theorem writes_of_isData (exact : style.IsExact) {d : Document} (h : IsData d) :
    style.Writes d := by
  induction h with
  | null =>
    intro level within
    refine ⟨_, rfl, .of_scalar ⟨'n', _, rfl, by decide⟩ (by rintro c ⟨⟩; decide) ?_⟩
    exact fun rest _ => rfl
  | bool b =>
    intro level within
    cases b with
    | true =>
      refine ⟨_, rfl, .of_scalar ⟨'t', _, rfl, by decide⟩ (by rintro c ⟨⟩; decide) ?_⟩
      exact fun rest _ => rfl
    | false =>
      refine ⟨_, rfl, .of_scalar ⟨'f', _, rfl, by decide⟩ (by rintro c ⟨⟩; decide) ?_⟩
      exact fun rest _ => rfl
  | @int n short =>
    intro level within
    have written : style.value level within (.int n) = .ok (Decimal.intText n).toList := by
      show integer n = _
      unfold integer
      rw [short]
      rfl
    exact ⟨_, written, (readsNumber_int short).reads⟩
  | @float x finite =>
    intro level within
    have text : style.float x = style.number.text x := by simp [Style.float, finite]
    refine ⟨(style.float x).toList, rfl, ?_⟩
    rw [text]
    exact (readsNumber_float exact.unrounded exact.wholeEnd finite).reads
  | text s =>
    intro level within
    exact ⟨_, rfl, reads_string style s⟩
  | @list items _ ih =>
    intro level within
    cases items with
    | nil =>
      refine ⟨['[', ']'], rfl, ⟨'[', _, rfl, by decide⟩, fun fuel rest enough _ => ?_⟩
      obtain ⟨fuel, rfl⟩ := Nat.exists_add_one_eq.mpr (Nat.zero_lt_of_lt enough)
      rfl
    | cons d r =>
      obtain ⟨t, written, reads⟩ := ih d List.mem_cons_self (level + 1) within
      obtain ⟨others, rest_written, rest_read⟩ :=
        items_read (fun x hx => ih x (List.mem_cons_of_mem _ hx)) (level + 1) within
      refine ⟨'[' :: (style.newline (level + 1) ++ (t ++ (others ++
          (style.newline level ++ [']'])))), ?_, ⟨'[', _, rfl, by decide⟩,
        fun fuel rest enough _ => ?_⟩
      · simp [Style.value, written, rest_written, bind, Except.bind]
      · obtain ⟨fuel, rfl⟩ := Nat.exists_add_one_eq.mpr (Nat.zero_lt_of_lt enough)
        simp only [List.length_cons, List.length_append] at enough
        simp only [List.cons_append, List.append_assoc, List.nil_append]
        rw [value_bracket reads.starts, rest_read fuel [] d t level rest reads (by omega)]
        rfl
  | @object entries distinct _ ih =>
    intro level within
    cases entries with
    | nil =>
      refine ⟨['\x7b', '\x7d'], rfl, ⟨'\x7b', _, rfl, by decide⟩, fun fuel rest enough _ => ?_⟩
      obtain ⟨fuel, rfl⟩ := Nat.exists_add_one_eq.mpr (Nat.zero_lt_of_lt enough)
      rfl
    | cons e r =>
      obtain ⟨t, written, reads⟩ := ih e List.mem_cons_self (level + 1) within
      obtain ⟨others, rest_written, rest_read⟩ :=
        members_read (fun x hx => ih x (List.mem_cons_of_mem _ hx)) (level + 1) within
      refine ⟨'\x7b' :: (style.newline (level + 1) ++ (style.string e.1 ++ (':' :: ' ' :: (t ++
          (others ++ (style.newline level ++ ['\x7d'])))))), ?_, ⟨'\x7b', _, rfl, by decide⟩,
        fun fuel rest enough _ => ?_⟩
      · have rest_written' : style.members (level + 1) within (r.map fun e => (.text e.1, e.2)) =
            .ok others := rest_written
        simp [Document.object, Style.value, Style.key, written, rest_written', bind, Except.bind]
      · obtain ⟨fuel, rfl⟩ := Nat.exists_add_one_eq.mpr (Nat.zero_lt_of_lt enough)
        simp only [List.length_cons, List.length_append] at enough
        simp only [List.cons_append, List.append_assoc, List.nil_append]
        rw [value_brace, rest_read fuel [] e.1 e.2 t level rest reads (by omega) distinct]
        rfl

end Collections

/-- The one value of a text, without the blanks behind it. -/
theorem Reads.document {t pad : List Char} {d : Document} (h : Reads t d)
    (blank : ∀ c ∈ pad, isSpace c = true) : Json.document (t ++ pad) = .ok d := by
  have ends : EndsNumber pad := List.append_nil pad ▸ endsNumber_of_space blank (by rintro c ⟨⟩)
  have all : skipSpace pad = [] := by
    rw [← List.append_nil pad]
    exact skipSpace_append blank (by rintro c ⟨⟩)
  have read := h.read (2 * (t ++ pad).length + 2) pad
    (by rw [List.length_append]; omega) ends
  have skipped := skipSpace_of_starts h.starts pad
  obtain ⟨c, r, rfl, _, _, no_mark⟩ := h.starts
  rw [List.cons_append] at read skipped ⊢
  unfold Json.document
  split
  · next same => exact absurd (List.cons.inj same).1 no_mark
  · rw [skipped, read]
    simp only [all]

/-- **What a style writes for data is read as these data.** -/
theorem read_write {style : Style} (exact : style.IsExact) {d : Document} (h : IsData d) :
    ∃ text, style.write d = .ok text ∧ Json.read text = .ok d := by
  obtain ⟨t, written, reads⟩ := writes_of_isData exact h 0 []
  refine ⟨String.ofList t, ?_, ?_⟩
  · rw [Style.write, written]
    rfl
  · have read := reads.document (List.forall_mem_nil fun c => isSpace c = true)
    rw [List.append_nil] at read
    simp [Json.read, read]

end Statecraft.Json
