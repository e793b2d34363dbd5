import StructuredData.Text.CaseTable
import StructuredData.Text.Digit

/-!
# Letter case

Lower case, title case and capitalisation in all scripts.  A capital sigma at the end of a word has
a small form of its own, so the case of a character can hang on its neighbours.
-/

namespace StructuredData

/-- Whether a character is an upper, lower or title case letter. -/
def isCased (c : Char) : Bool := inRanges CaseTable.cased c.toNat

/-- Whether a character is passed over when the neighbours of a sigma are looked for. -/
def isCaseIgnorable (c : Char) : Bool := inRanges CaseTable.ignorable c.toNat

/-- Moves a code point by the first run that holds it. -/
def shiftBy (runs : List (Nat × Nat × Nat × Int)) (c : Char) : Char :=
  match runs.find? fun (first, last, step, _) =>
      first ≤ c.toNat && c.toNat ≤ last && (c.toNat - first) % step == 0 with
  | some (_, _, _, shift) => Char.ofNat (c.toNat + shift).toNat
  | none => c

/-- The small form of a capital sigma: the final one if a cased letter stands before it in its
word and none after it. -/
def smallSigma (before after : List Char) : Char :=
  let endsWord := match after.dropWhile isCaseIgnorable with
    | c :: _ => !isCased c
    | [] => true
  match before.dropWhile isCaseIgnorable with
  | c :: _ => if isCased c && endsWord then 'ς' else 'σ'
  | [] => 'σ'

/-- The lower case of one character, given what stands before it, nearest first, and after it. -/
def lowerAt (before : List Char) (c : Char) (after : List Char) : List Char :=
  if c = 'Σ' then [smallSigma before after]
  else if c = 'İ' then ['i', Char.ofNat 0x307]
  else [shiftBy CaseTable.lower c]

/-- The title case of one character. -/
def titleOf (c : Char) : List Char :=
  match CaseTable.titleLong.lookup c.toNat with
  | some codes => codes.map Char.ofNat
  | none => [shiftBy CaseTable.title c]

namespace Text

/-- Lower case of a text whose characters before it are given, nearest first. -/
def lowerFrom (before : List Char) : List Char → List Char
  | [] => []
  | c :: rest => lowerAt before c rest ++ lowerFrom (c :: before) rest

/-- The text in lower case. -/
def lower (s : String) : String := String.ofList (lowerFrom [] s.toList)

/-- Title case of a text whose characters before it are given, nearest first. -/
def titleFrom (before : List Char) : List Char → List Char
  | [] => []
  | c :: rest =>
    let here := match before with
      | b :: _ => if isCased b then lowerAt before c rest else titleOf c
      | [] => titleOf c
    here ++ titleFrom (c :: before) rest

/-- The text with each letter that follows no letter in title case and all others in lower case:
a letter after an apostrophe counts as the first of a word. -/
def title (s : String) : String := String.ofList (titleFrom [] s.toList)

/-- The text with its first character in title case and the rest in lower case. -/
def capitalize (s : String) : String :=
  match s.toList with
  | [] => ""
  | c :: rest => String.ofList (titleOf c ++ lowerFrom [c] rest)

end Text

end StructuredData
