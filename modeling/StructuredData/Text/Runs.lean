/-!
# Runs of letters and digits

The characters that identifiers are made of, and the longest runs of them in a text.
-/

namespace StructuredData.Slug

/-- Whether a character may stand in an identifier beside the underscore. -/
def isSlugChar (c : Char) : Bool := ('a' ≤ c && c ≤ 'z') || ('0' ≤ c && c ≤ '9')

/-- The longest runs of identifier characters, `run` being the one begun, last character first. -/
def runsFrom (run : List Char) : List Char → List (List Char)
  | [] => if run.isEmpty then [] else [run.reverse]
  | c :: rest =>
    if isSlugChar c then runsFrom (c :: run) rest
    else if run.isEmpty then runsFrom [] rest else run.reverse :: runsFrom [] rest

/-- The runs of letters and digits in a text. -/
def runs (cs : List Char) : List (List Char) := runsFrom [] cs

theorem runsFrom_ne_nil {run cs r : List Char} (h : r ∈ runsFrom run cs) : r ≠ [] := by
  induction cs generalizing run with
  | nil =>
    by_cases hr : run.isEmpty <;> simp_all [runsFrom]
  | cons c rest ih =>
    simp only [runsFrom] at h
    split at h
    · exact ih h
    · split at h
      · exact ih h
      · rename_i hr
        rcases List.mem_cons.1 h with h | h
        · subst h
          simpa using hr
        · exact ih h

end StructuredData.Slug
