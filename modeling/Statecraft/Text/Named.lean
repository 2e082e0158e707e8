import Statecraft.Text.Digit
import Statecraft.Text.NameList

/-!
# Characters by name

Which names characters have. Most names are listed; those of Hangul syllables are made of
the names of their letters, and those of unified ideographs of their numbers. Capitals
and small letters are the same in the names that are listed.
-/

namespace Statecraft.Text

/-- The names of a list, of which `current` is the one that is being read. -/
def namesFrom (current : List Char) : List Char → List (List Char)
  | [] => [current]
  | c :: r =>
    if c == '\n' then namesFrom current r
    else if 'a' ≤ c && c ≤ 'z' then current :: namesFrom (current.take (c.toNat - 'a'.toNat)) r
    else namesFrom (current ++ [c]) r

/-- A name that is listed. -/
def isListedName (name : List Char) : Bool :=
  !name.isEmpty && (namesFrom [] characterNames.toList).contains (name.map Char.toUpper)

/-- The letters that a Hangul syllable begins with. -/
def hangulLeads : List String :=
  ["G", "GG", "N", "D", "DD", "R", "M", "B", "BB", "S", "SS", "", "J", "JJ", "C", "K", "T", "P", "H"]

/-- The vowels of Hangul syllables. -/
def hangulVowels : List String :=
  ["A", "AE", "YA", "YAE", "EO", "E", "YEO", "YE", "O", "WA", "WAE", "OE", "YO", "U", "WEO", "WE",
   "WI", "YU", "EU", "YI", "I"]

/-- The letters that a Hangul syllable ends with. -/
def hangulTails : List String :=
  ["", "G", "GG", "GS", "N", "NJ", "NH", "D", "L", "LG", "LM", "LB", "LS", "LT", "LP", "LH", "M", "B",
   "BS", "S", "SS", "NG", "J", "C", "K", "T", "P", "H"]

/-- The name of a Hangul syllable. -/
def isHangulName (name : String) : Bool :=
  hangulLeads.any fun lead => hangulVowels.any fun vowel => hangulTails.any fun tail =>
    name == lead ++ vowel ++ tail

/-- The ranges of unified ideographs, ascending. -/
def ideographs : List (Nat × Nat) :=
  [(0x3400, 0x4DBF), (0x4E00, 0x9FFF), (0x20000, 0x2A6DF), (0x2A700, 0x2B738), (0x2B740, 0x2B81D),
   (0x2B820, 0x2CEA1), (0x2CEB0, 0x2EBE0), (0x30000, 0x3134A)]

/-- The number of an ideograph, in four or five capital digits. -/
def isIdeographNumber (digits : List Char) : Bool :=
  let n := ofBase 16 digits
  (digits.length == 4 || digits.length == 5)
    && (digits.all fun c => (hexValue? c).isSome && !('a' ≤ c && c ≤ 'f'))
    && ideographs.any fun r => r.1 ≤ n && n ≤ r.2

/-- What the name of a Hangul syllable begins with. -/
def hangulStart : List Char := "HANGUL SYLLABLE ".toList

/-- What the name of a unified ideograph begins with. -/
def ideographStart : List Char := "CJK UNIFIED IDEOGRAPH-".toList

/-- Some character has the name. -/
def isCharacterName (name : List Char) : Bool :=
  if hangulStart.isPrefixOf name then isHangulName (String.ofList (name.drop hangulStart.length))
  else if ideographStart.isPrefixOf name then isIdeographNumber (name.drop ideographStart.length)
  else isListedName name

end Statecraft.Text
