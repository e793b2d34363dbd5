/-!
# Blanks

Which characters separate words, and how a text is cut at them.  A word is a longest run of
characters that are not blank.
-/

namespace StructuredData

/-- The characters that count as blank: tabs, line ends, separators and the spaces of all widths.
The zero-width space and the byte order mark are not among them. -/
def isBlank (c : Char) : Bool :=
  let n := c.toNat
  (0x09 ≤ n && n ≤ 0x0D) || (0x1C ≤ n && n ≤ 0x20) || n == 0x85 || n == 0xA0 || n == 0x1680 ||
  (0x2000 ≤ n && n ≤ 0x200A) || n == 0x2028 || n == 0x2029 || n == 0x202F || n == 0x205F ||
  n == 0x3000

namespace Text

/-- The words of a text, `word` being the one begun, last character first. -/
def wordsFrom (word : List Char) : List Char → List (List Char)
  | [] => if word.isEmpty then [] else [word.reverse]
  | c :: rest =>
    if isBlank c then
      if word.isEmpty then wordsFrom [] rest else word.reverse :: wordsFrom [] rest
    else wordsFrom (c :: word) rest

/-- The words of a text, in order. -/
def words (s : String) : List String := (wordsFrom [] s.toList).map String.ofList

/-- Drops characters from both ends of a text. -/
def trimWhile (p : Char → Bool) (cs : List Char) : List Char :=
  ((cs.dropWhile p).reverse.dropWhile p).reverse

/-- A text without the blanks at its ends. -/
def strip (s : String) : String := String.ofList (trimWhile isBlank s.toList)

/-- The text cut at each occurrence of a character, `part` being the piece begun, last character
first. -/
def cutFrom (sep : Char) (part : List Char) : List Char → List (List Char)
  | [] => [part.reverse]
  | c :: rest =>
    if c = sep then part.reverse :: cutFrom sep [] rest else cutFrom sep (c :: part) rest

/-- The text cut at each occurrence of a character: one piece more than there are occurrences. -/
def cut (sep : Char) (s : String) : List String := (cutFrom sep [] s.toList).map String.ofList

theorem length_cutFrom (sep : Char) (part cs : List Char) :
    (cutFrom sep part cs).length = cs.count sep + 1 := by
  induction cs generalizing part with
  | nil => rfl
  | cons c rest ih => by_cases h : c = sep <;> simp [cutFrom, h, ih]

theorem cut_ne_nil (sep : Char) (s : String) : cut sep s ≠ [] := by
  have h := length_cutFrom sep [] s.toList
  intro hc
  simp only [cut, List.map_eq_nil_iff] at hc
  simp [hc] at h

end Text

end StructuredData
