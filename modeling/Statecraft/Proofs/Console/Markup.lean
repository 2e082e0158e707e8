import Mathlib.Data.List.TakeWhile
import Statecraft.Console.Message

/-!
# What markup shows

Markup is shown piece by piece, so what stands in front of a text and shows itself can be split off
(`renderFrom_text`). A text without an opening bracket has no tags and always has something to show
(`renderFrom_clear`); without colons and controls it is shown as it is (`renderFrom_plain`).
-/

namespace Statecraft.Console

namespace Piece

variable {s m inside : List Char} {c : Char} {r : List Char}

/-- The text has no bracket that opens a tag, and no backslash at its end that could stand in front
of one. -/
structure IsClear (s : List Char) : Prop where
  opens_none : '[' ∉ s
  ends : s.getLast? ≠ some '\\'

theorem IsClear.tail (h : IsClear (c :: r)) : IsClear r where
  opens_none := fun hr => h.opens_none (List.mem_cons_of_mem c hr)
  ends := by
    cases r with
    | nil => simp
    | cons d r => simpa using h.ends

theorem tagAt?_of_head (slashes : Nat) (h : slashes = (s.takeWhile (· == '\\')).length)
    (other : ∀ r, s.drop slashes ≠ '[' :: r) : tagAt? s = none := by
  unfold tagAt?
  subst h
  dsimp only
  split
  · rename_i r tag
    exact absurd tag (other r)
  · rfl

/-- No tag begins within a clear text, whatever follows it. -/
theorem tagAt?_of_clear (h : IsClear (c :: r)) (m : List Char) : tagAt? (c :: r ++ m) = none := by
  have within : ((c :: r).takeWhile (· == '\\')).length < (c :: r).length := by
    refine Nat.lt_of_le_of_ne (List.takeWhile_prefix _).length_le fun all => h.ends ?_
    have same := (List.takeWhile_prefix (· == '\\')).eq_of_length all
    have last := List.getLast?_eq_some_getLast (List.cons_ne_nil c r)
    have slash : ∀ d ∈ c :: r, (d == '\\') = true := List.takeWhile_eq_self_iff.mp same
    rw [last, beq_iff_eq.mp (slash _ (List.getLast_mem _))]
  refine tagAt?_of_head ((c :: r).takeWhile (· == '\\')).length ?_ fun rest tag => ?_
  · rw [List.takeWhile_append, if_neg (Nat.ne_of_lt within)]
  · rw [List.drop_append_of_le_length (Nat.le_of_lt within)] at tag
    obtain ⟨d, others, split⟩ := List.exists_cons_of_length_pos
      (l := (c :: r).drop ((c :: r).takeWhile (· == '\\')).length) (by rw [List.length_drop]; omega)
    rw [split, List.cons_append, List.cons.injEq] at tag
    obtain rfl := tag.1
    exact h.opens_none (List.mem_of_mem_drop (split.symm ▸ List.mem_cons_self))

theorem scan_clear (h : IsClear s) (position : Nat) (run m : List Char) :
    scan position run (s ++ m) = scan (position + s.length) (s.reverse ++ run) m := by
  induction s generalizing position run with
  | nil => rfl
  | cons c r ih =>
    rw [List.cons_append, scan, ← List.cons_append, tagAt?_of_clear h]
    simp only
    rw [ih h.tail, List.length_cons, List.reverse_cons, List.append_assoc, List.singleton_append,
      Nat.add_assoc, Nat.add_comm 1]

/-- A text without an opening bracket is one piece. -/
theorem scan_no_bracket (h : '[' ∉ s) (position : Nat) (run : List Char) :
    scan position run s = ofPlain (run.reverse ++ s) := by
  induction s generalizing position run with
  | nil => rw [scan, List.append_nil]
  | cons c r ih =>
    have none : tagAt? (c :: r) = none :=
      tagAt?_of_head _ rfl fun rest tag =>
        h (List.mem_of_mem_drop (i := _) (tag ▸ List.mem_cons_self))
    rw [scan, none]
    simp only
    rw [ih fun hr => h (List.mem_cons_of_mem c hr)]
    simp

/-- A tag as it stands in front of other text. -/
theorem scan_tag (h : inside? (inside ++ ']' :: m) = some inside) (position : Nat)
    (run : List Char) : scan position run (bracketed inside ++ m) =
      ofPlain run.reverse ++ .tag inside position :: scan (position + inside.length + 2) [] m := by
  have found : tagAt? ('[' :: (inside ++ ']' :: m)) = some (0, inside) := by
    show (inside? (inside ++ ']' :: m)).map (0, ·) = _
    rw [h]
    rfl
  have text : bracketed inside ++ m = '[' :: (inside ++ ']' :: m) := by simp [bracketed]
  rw [text, scan, found]
  simp [ofPlain]

/-- What has been read since the last tag only comes in front of the rest. -/
theorem exists_scan (position : Nat) (s : List Char) : ∃ lead rest, ∀ run,
    scan position run s = ofPlain (run.reverse ++ lead) ++ rest := by
  induction s generalizing position with
  | nil => exact ⟨[], [], fun run => by simp [scan]⟩
  | cons c r ih =>
    cases tag : tagAt? (c :: r) with
    | none =>
      obtain ⟨lead, rest, split⟩ := ih (position + 1)
      refine ⟨c :: lead, rest, fun run => ?_⟩
      rw [scan, tag]
      simp only
      rw [split]
      simp
    | some found =>
      obtain ⟨slashes, inside⟩ := found
      let whole := if slashes % 2 == 1 then plain (bracketed inside)
        else .tag inside (position + slashes)
      refine ⟨[], ofPlain (List.replicate (slashes / 2) '\\') ++ whole ::
        scan (position + slashes + inside.length + 2) [] (r.drop (slashes + inside.length + 1)),
        fun run => ?_⟩
      rw [scan, tag, List.append_nil, ← List.append_assoc]

end Piece

/-- What is shown by markup that starts at a position, after tags that opened some styles. -/
def renderFrom (opened : List OpenTag) (position : Nat) (markup : List Char) :
    Except MarkupFault (List Char) :=
  renderPieces opened (Piece.scan position [] markup)

section Render

open Piece

variable {opened : List OpenTag} {position : Nat} {s m : List Char}

theorem seen_nil : seen [] = [] := by
  simp [seen, withoutSlashes, withEmoji]

theorem renderPieces_ofPlain (opened : List OpenTag) (s : List Char) (rest : List Piece) :
    renderPieces opened (ofPlain s ++ rest) = (renderPieces opened rest).map (seen s ++ ·) := by
  cases s with
  | nil =>
    rw [seen_nil]
    cases shown : renderPieces opened rest <;> simp [ofPlain, shown, Except.map]
  | cons c r => rfl

/-- A text in front that is shown by itself. -/
theorem renderFrom_text (clear : IsClear s) (apart : ∀ x, seen (s ++ x) = seen s ++ seen x) :
    renderFrom opened position (s ++ m) =
      (renderFrom opened (position + s.length) m).map (seen s ++ ·) := by
  obtain ⟨lead, rest, split⟩ := exists_scan (position + s.length) m
  unfold renderFrom
  rw [scan_clear clear, split, split, renderPieces_ofPlain, renderPieces_ofPlain]
  cases renderPieces opened rest <;> simp [Except.map, apart]

/-- A text in front of a tag. -/
theorem renderFrom_text_tag {inside : List Char} (clear : IsClear s)
    (tag : inside? (inside ++ ']' :: m) = some inside) :
    renderFrom opened position (s ++ (bracketed inside ++ m)) =
      (renderFrom opened (position + s.length) (bracketed inside ++ m)).map (seen s ++ ·) := by
  unfold renderFrom
  rw [scan_clear clear, scan_tag tag, scan_tag tag, List.append_nil, List.reverse_reverse,
    renderPieces_ofPlain, List.reverse_nil, renderPieces_ofPlain, seen_nil]
  cases renderPieces opened _ <;> rfl

theorem renderFrom_open {inside : List Char} (style : OpenTag)
    (tag : inside? (inside ++ ']' :: m) = some inside) (opens : inside.head? ≠ some '/')
    (named : OpenTag.ofTag inside = .ok style) :
    renderFrom opened position (bracketed inside ++ m) =
      renderFrom (style :: opened) (position + inside.length + 2) m := by
  unfold renderFrom
  rw [scan_tag tag]
  show renderPieces opened (.tag inside position :: _) = _
  rw [renderPieces.eq_5 _ _ _ _ fun r slash => opens (by rw [slash]; rfl), named]
  rfl

theorem renderFrom_close {latest : OpenTag} (closes : latest.closing = .ok ()) :
    renderFrom (latest :: opened) position (bracketed ['/'] ++ m) =
      renderFrom opened (position + 3) m := by
  unfold renderFrom
  rw [scan_tag rfl]
  show renderPieces _ (.tag ('/' :: []) position :: _) = _
  rw [renderPieces.eq_4, if_pos (by rfl), closes]
  rfl

/-- Without an opening bracket there is no tag. -/
theorem renderFrom_clear (h : '[' ∉ s) : renderFrom opened position s = .ok (seen s) := by
  unfold renderFrom
  rw [scan_no_bracket h, List.reverse_nil, List.nil_append, ← List.append_nil (ofPlain s),
    renderPieces_ofPlain]
  simp [renderPieces, Except.map]

end Render

section Seen

variable {s : List Char}

theorem withoutSlashes_append (h : '\\' ∉ s) (x : List Char) :
    withoutSlashes (s ++ x) = s ++ withoutSlashes x := by
  induction s with
  | nil => rfl
  | cons c r ih =>
    rw [List.mem_cons, not_or] at h
    rw [List.cons_append, withoutSlashes.eq_2 c _ fun _ slash _ => h.1 slash.symm, ih h.2]
    rfl

theorem withoutSlashes_no_bracket (h : '[' ∉ s) : withoutSlashes s = s := by
  induction s with
  | nil => rfl
  | cons c r ih =>
    rw [List.mem_cons, not_or] at h
    rw [withoutSlashes.eq_2 c _ fun _ _ opens => h.2 (by rw [opens]; exact List.mem_cons_self),
      ih h.2]

theorem withEmoji_append (h : ':' ∉ s) (x : List Char) :
    withEmoji (s ++ x) = s ++ withEmoji x := by
  induction s with
  | nil => rfl
  | cons c r ih =>
    rw [List.mem_cons, not_or] at h
    rw [List.cons_append, withEmoji.eq_3 c _ fun colon => h.1 colon.symm, ih h.2]
    rfl

/-- A blank after a colon: no name begins there. -/
theorem withEmoji_colon_blank (x : List Char) :
    withEmoji (':' :: ' ' :: x) = ':' :: ' ' :: withEmoji x := by
  have none : (' ' :: x).takeWhile (fun c => c != ':' && !Text.isBlank c) = [] := rfl
  rw [withEmoji, none]
  exact congrArg (':' :: ·) (withEmoji.eq_3 ' ' x (by decide))

theorem seen_append (slashes : '\\' ∉ s) (colons : ':' ∉ s) (x : List Char) :
    seen (s ++ x) = seen s ++ seen x := by
  have alone : seen s = s.filter (!isControl ·) := by
    have split := withEmoji_append colons []
    have bare := withoutSlashes_append slashes []
    simp only [List.append_nil, withEmoji, withoutSlashes] at split bare
    rw [seen, bare, split]
  rw [alone, seen, seen, withoutSlashes_append slashes, withEmoji_append colons, List.filter_append]

theorem seen_colon_blank (x : List Char) : seen (':' :: ' ' :: x) = ':' :: ' ' :: seen x := by
  have slashes := withoutSlashes_append (s := [':', ' ']) (by decide) x
  rw [List.cons_append, List.cons_append, List.nil_append] at slashes
  rw [seen, slashes]
  exact congrArg (List.filter (!isControl ·)) (withEmoji_colon_blank _)

/-- A character that is shown as it is, whatever is around it. -/
def isPlainChar (c : Char) : Bool := c != '[' && c != ':' && !isControl c

/-- A text of such characters. -/
def IsPlain (s : List Char) : Prop := ∀ c ∈ s, isPlainChar c = true

instance (s : List Char) : Decidable (IsPlain s) :=
  decidable_of_iff (s.all isPlainChar = true) List.all_eq_true

theorem isPlain_cons {c : Char} : IsPlain (c :: s) ↔ isPlainChar c = true ∧ IsPlain s :=
  List.forall_mem_cons

theorem isPlain_append {t : List Char} : IsPlain (s ++ t) ↔ IsPlain s ∧ IsPlain t :=
  List.forall_mem_append

theorem IsPlain.no_bracket (h : IsPlain s) : '[' ∉ s := fun opens => absurd (h _ opens) (by decide)

theorem IsPlain.no_colon (h : IsPlain s) : ':' ∉ s := fun colon => absurd (h _ colon) (by decide)

theorem IsPlain.seen_eq (h : IsPlain s) : seen s = s := by
  have emoji := withEmoji_append h.no_colon []
  simp only [List.append_nil, withEmoji] at emoji
  rw [seen, withoutSlashes_no_bracket h.no_bracket, emoji, List.filter_eq_self]
  intro c hc
  have plain := h c hc
  rw [isPlainChar, Bool.and_eq_true] at plain
  exact plain.2

theorem renderFrom_plain {opened : List OpenTag} {position : Nat} (h : IsPlain s) :
    renderFrom opened position s = .ok s := by
  rw [renderFrom_clear h.no_bracket, h.seen_eq]

end Seen

section Lines

open Piece

/-- A line that begins with a sign in a colour of its own. -/
theorem renderFrom_signed (style : OpenTag) {color : List Char} {sign : Char}
    (tag : ∀ m, inside? (color ++ ']' :: m) = some color) (opens : color.head? ≠ some '/')
    (named : OpenTag.ofTag color = .ok style) (closes : style.closing = .ok ())
    (slash : sign ≠ '\\') (plain : IsPlain [sign]) (m : List Char) :
    renderFrom [] 0 ([' ', ' '] ++ (bracketed color ++ ([sign] ++
        (bracketed ['/'] ++ ([' '] ++ m))))) =
      (renderFrom [] (color.length + 9) m).map ([' ', ' ', sign, ' '] ++ ·) := by
  have clear : IsClear [sign] := ⟨plain.no_bracket, by simpa using slash⟩
  have blank : IsPlain [' '] := by decide
  have blanks : IsPlain [' ', ' '] := by decide
  rw [renderFrom_text_tag ⟨by decide, by decide⟩ (tag _), renderFrom_open style (tag _) opens named,
    renderFrom_text_tag clear rfl, renderFrom_close closes,
    renderFrom_text ⟨by decide, by decide⟩ (seen_append (by decide) (by decide)),
    plain.seen_eq, blank.seen_eq, blanks.seen_eq]
  have place : 0 + [' ', ' '].length + color.length + 2 + [sign].length + 3 + [' '].length =
      color.length + 9 := by
    simp only [List.length_cons, List.length_nil]
    omega
  rw [place]
  cases renderFrom [] (color.length + 9) m <;> rfl

theorem render_eq (m : String) : render m = (renderFrom [] 0 m.toList).map String.ofList := rfl

/-- What is shown of a line about what went wrong. -/
theorem render_failure (m : String) : render ("  [red]✗[/] " ++ m) =
    (renderFrom [] 12 m.toList).map fun shown => "  ✗ " ++ String.ofList shown := by
  have text : ("  [red]✗[/] " ++ m).toList = [' ', ' '] ++ (bracketed "red".toList ++ (['✗'] ++
      (bracketed ['/'] ++ ([' '] ++ m.toList)))) := by
    rw [String.toList_append]
    rfl
  rw [render_eq, text, renderFrom_signed ⟨"red", none⟩ (fun _ => rfl) (by decide) rfl rfl
    (by decide) (by decide)]
  show ((renderFrom [] 12 m.toList).map _).map _ = _
  cases renderFrom [] 12 m.toList with
  | error fault => rfl
  | ok shown => exact congrArg Except.ok (String.ofList_append ..)

section Clear

variable {m : String}

/-- Without an opening bracket there is something to show. -/
theorem exists_render (h : '[' ∉ m.toList) : ∃ s, render m = .ok s :=
  ⟨String.ofList (seen m.toList), by rw [render_eq, renderFrom_clear h]; rfl⟩

theorem exists_render_success (h : '[' ∉ m.toList) :
    ∃ s, render ("  [green]✓[/] " ++ m) = .ok s := by
  have text : ("  [green]✓[/] " ++ m).toList = [' ', ' '] ++ (bracketed "green".toList ++ (['✓'] ++
      (bracketed ['/'] ++ ([' '] ++ m.toList)))) := by
    rw [String.toList_append]
    rfl
  rw [render_eq, text, renderFrom_signed ⟨"green", none⟩ (fun _ => rfl) (by decide) rfl
    rfl (by decide) (by decide), renderFrom_clear h]
  exact ⟨_, rfl⟩

theorem exists_render_aside (h : IsClear m.toList) :
    ∃ s, render ("  [muted]" ++ m ++ "[/]") = .ok s := by
  have text : ("  [muted]" ++ m ++ "[/]").toList = [' ', ' '] ++ (bracketed "muted".toList ++
      (m.toList ++ (bracketed ['/'] ++ []))) := by
    rw [String.toList_append, String.toList_append]
    simp only [List.append_assoc]
    rfl
  rw [render_eq, text, renderFrom_text_tag ⟨by decide, by decide⟩ rfl,
    renderFrom_open ⟨"muted", none⟩ rfl (by decide) rfl, renderFrom_text_tag h rfl,
    renderFrom_close rfl, renderFrom_clear (by simp)]
  exact ⟨_, rfl⟩

end Clear

end Lines

end Statecraft.Console
