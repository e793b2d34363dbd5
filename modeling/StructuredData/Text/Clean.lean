import StructuredData.Text.Blank

/-!
# Clean text

Site content comes with markup and with blanks of all kinds.  Clean text has no tags and single
blanks between its words; an excerpt is its first words; escaped text may stand inside markup.
-/

namespace StructuredData.Text

/-- Replaces each tag by a blank.  A tag runs from a `<` to the next `>`; `tag` is what has been
read since a `<` that may open one, last character first. -/
def dropTagsFrom (tag : Option (List Char)) : List Char → List Char
  | [] =>
    match tag with
    | none => []
    | some read => '<' :: read.reverse
  | c :: rest =>
    match tag with
    | none => if c = '<' then dropTagsFrom (some []) rest else c :: dropTagsFrom none rest
    | some read =>
      if c = '>' then ' ' :: dropTagsFrom none rest else dropTagsFrom (some (c :: read)) rest

/-- The words of a text without its tags. -/
def cleanWords (s : String) : List (List Char) := wordsFrom [] (dropTagsFrom none s.toList)

/-- Words with single blanks between them. -/
def joinWords (words : List (List Char)) : String := String.ofList ([' '].intercalate words)

/-- A text without tags, with single blanks between its words. -/
def clean (s : String) : String := joinWords (cleanWords s)

/-- How many words of a content make an excerpt. -/
def excerptWords : Int := 55

/-- The words that an excerpt keeps of `words`: the first `limit`, or, if the limit is negative, all
but as many as it says. -/
def keptWords (limit : Int) (words : List (List Char)) : List (List Char) :=
  if 0 ≤ limit then words.take limit.toNat else words.take (words.length - limit.natAbs)

/-- The first words of a text, with an ellipsis if there are more. -/
def excerpt (s : String) (limit : Int := excerptWords) : String :=
  let words := cleanWords s
  if words.length ≤ limit then joinWords words else joinWords (keptWords limit words) ++ "…"

/-- One character as it stands in markup. -/
def escapedMarkup (c : Char) : List Char :=
  if c = '&' then "&amp;".toList
  else if c = '<' then "&lt;".toList
  else if c = '>' then "&gt;".toList
  else [c]

/-- A text as it stands in markup. -/
def escape (s : String) : String := String.ofList (s.toList.flatMap escapedMarkup)

end StructuredData.Text
