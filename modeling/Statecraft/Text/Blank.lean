/-!
# Blank characters

Which characters separate words, and trimming a text at both ends. What is
left of a text does not end with a blank, so a trimmed text is blank only when
nothing is left of it (`isBlankText_strip`).
-/

namespace Statecraft.Text

/-- The characters that count as white space: the ASCII controls from tab to
carriage return, the four information separators, the space, next line, and
Unicode's space, line and paragraph separators. -/
def isBlank (c : Char) : Bool :=
  let n := c.toNat
  (9 ≤ n && n ≤ 13) || (28 ≤ n && n ≤ 32) || n == 0x85 || n == 0xA0 || n == 0x1680 ||
    (0x2000 ≤ n && n ≤ 0x200A) || n == 0x2028 || n == 0x2029 || n == 0x202F || n == 0x205F ||
    n == 0x3000

/-- The text without its leading blanks. -/
def trimStart (s : List Char) : List Char := s.dropWhile isBlank

/-- The text without its trailing blanks. -/
def trimEnd (s : List Char) : List Char := (s.reverse.dropWhile isBlank).reverse

/-- The text without blanks at either end. -/
def trim (s : List Char) : List Char := trimEnd (trimStart s)

/-- `trim` on strings. -/
def strip (s : String) : String := String.ofList (trim s.toList)

/-- What stands between blanks. -/
def words (s : List Char) : List String :=
  ((s.splitOnP isBlank).filter fun w => !w.isEmpty).map String.ofList

/-- What stands between the places of a character. -/
def pieces (c : Char) (s : String) : List String := (s.toList.splitOn c).map String.ofList

/-- The text without one line break at its end. -/
def dropLineEnd (s : List Char) : List Char :=
  if s.getLast? == some '\n' then s.dropLast else s

/-- Nothing but blanks. -/
def isBlankText (s : String) : Bool := s.toList.all isBlank

theorem not_isBlank_of_getLast?_trimEnd {s : List Char} {c : Char}
    (h : (trimEnd s).getLast? = some c) : isBlank c = false := by
  have first := List.head?_dropWhile_not isBlank s.reverse
  rw [trimEnd, List.getLast?_reverse] at h
  rw [h] at first
  exact first

theorem isBlankText_strip (s : String) : isBlankText (strip s) = (strip s).isEmpty := by
  have empty : (strip s).isEmpty = (trim s.toList).isEmpty := by
    rw [Bool.eq_iff_iff, String.isEmpty_iff, List.isEmpty_iff, strip, ← String.toList_inj]
    simp
  rw [empty, isBlankText, strip, String.toList_ofList]
  cases last : (trim s.toList).getLast? with
  | none => simp [List.getLast?_eq_none_iff.mp last]
  | some c =>
    have hc := not_isBlank_of_getLast?_trimEnd last
    have mem := List.mem_of_getLast? last
    have notAll : (trim s.toList).all isBlank = false :=
      List.all_eq_false.mpr ⟨c, mem, by simp [hc]⟩
    have notEmpty : (trim s.toList).isEmpty = false := by
      simpa using List.ne_nil_of_mem mem
    rw [notAll, notEmpty]

end Statecraft.Text
