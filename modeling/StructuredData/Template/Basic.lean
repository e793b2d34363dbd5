import StructuredData.Text.Blank

/-!
# Templates

A template is a text with placeholders `%token%`.  A token is a run of characters that are neither
blank nor a percent sign; a percent sign that opens no placeholder stands for itself.
-/

namespace StructuredData

/-- A text cut at its placeholders: each token with the text before it, and the text after the
last one. -/
structure Template where
  parts : List (List Char × List Char)
  tail : List Char
  deriving Repr, DecidableEq

namespace Template

/-- Cuts a text at its placeholders.  Of the text before the next one `gap` has been read, last
character first; `token` is what has been read since a percent sign that may open it. -/
def scanFrom (gap : List Char) (token : Option (List Char)) : List Char → Template
  | [] =>
    match token with
    | none => ⟨[], gap.reverse⟩
    | some run => ⟨[], (run ++ '%' :: gap).reverse⟩
  | c :: rest =>
    match token with
    | none => if c = '%' then scanFrom gap (some []) rest else scanFrom (c :: gap) none rest
    | some run =>
      if c = '%' then
        if run.isEmpty then scanFrom ('%' :: gap) (some []) rest
        else
          let more := scanFrom [] none rest
          ⟨(gap.reverse, run.reverse) :: more.parts, more.tail⟩
      else if isBlank c then scanFrom (c :: run ++ '%' :: gap) none rest
      else scanFrom gap (some (c :: run)) rest

/-- The template that a text is. -/
def ofText (s : String) : Template := scanFrom [] none s.toList

/-- The tokens, in order. -/
def tokens (t : Template) : List String := t.parts.map fun p => String.ofList p.2

/-- The token of a template that is one placeholder and nothing else. -/
def whole? (t : Template) : Option String :=
  match t.parts, t.tail with
  | [([], token)], [] => some (String.ofList token)
  | _, _ => none

/-- The text that is cut this way. -/
def toChars (t : Template) : List Char :=
  t.parts.flatMap (fun p => p.1 ++ '%' :: p.2 ++ ['%']) ++ t.tail

/-- Fills the placeholders, from left to right, with what an action makes of their tokens. -/
def fillFrom {m : Type → Type} [Monad m] (f : String → m String) :
    List (List Char × List Char) → m String
  | [] => return ""
  | (gap, token) :: rest => do
    let here ← f (String.ofList token)
    let more ← fillFrom f rest
    return String.ofList gap ++ here ++ more

/-- The text with its placeholders filled. -/
def fill {m : Type → Type} [Monad m] (f : String → m String) (t : Template) : m String := do
  let filled ← fillFrom f t.parts
  return filled ++ String.ofList t.tail

/-! ## Nothing is lost -/

theorem toChars_cons (p : List Char × List Char) (t : Template) :
    toChars ⟨p :: t.parts, t.tail⟩ = p.1 ++ '%' :: p.2 ++ '%' :: t.toChars := by
  simp [toChars]

theorem toChars_scanFrom (gap : List Char) (token : Option (List Char)) (cs : List Char) :
    (scanFrom gap token cs).toChars =
      match token with
      | none => gap.reverse ++ cs
      | some run => gap.reverse ++ '%' :: run.reverse ++ cs := by
  induction cs generalizing gap token with
  | nil => cases token <;> simp [scanFrom, toChars]
  | cons c rest ih =>
    cases token with
    | none => by_cases h : c = '%' <;> simp [scanFrom, h, ih]
    | some run =>
      by_cases h : c = '%'
      · by_cases hr : run = []
        · simp [scanFrom, h, hr, ih]
        · have hr' : run.isEmpty = false := by simpa using hr
          simp only [scanFrom, h, if_true, hr', Bool.false_eq_true, if_false]
          rw [toChars_cons, ih]
          simp
      · by_cases hb : isBlank c <;> simp [scanFrom, h, hb, ih]

/-- Gaps and placeholders put together are the text. -/
theorem toChars_ofText (s : String) : (ofText s).toChars = s.toList := by
  simp [ofText, toChars_scanFrom]

end Template

end StructuredData
