import StructuredData.Content.Source
import StructuredData.Template.Limit
import StructuredData.Text.Clean

/-!
# Facts about records

What templates can say about the post, term, user and product of a page: texts are clean, dates are
in standard form.
-/

namespace StructuredData

/-- The clean text of a value, empty for null. -/
def Value.cleanText (v : Value) : String := if v.isNull then "" else Text.clean v.toText

/-- The first words of a value; they can only be cut after a whole number of them. -/
def Value.excerpt (v : Value) (words : Limit) : Except Fault String := do
  let s := if v.isNull then "" else v.toText
  if ← words.admits (Text.cleanWords s).length then return Text.clean s
  else match words with
    | .whole n => return Text.excerpt s n
    | _ => .error .badLimit

/-- The clean text of a value, as a value. -/
def Value.cleaned (v : Value) : Value := .text v.cleanText

namespace Facts

/-- A moment in standard form, empty if there is none. -/
def date : Option Moment → Value
  | some t => .text t.isoText
  | none => .text ""

/-- The names of the taxonomies that facts about a post mention: those of its type and then those
that are used everywhere. -/
def taxonomiesOf (s : Source) (p : Post) : Except Fault (List Value) := do
  let names ← s.taxonomyNames p.postType
  return names ++ Source.commonTaxonomies.filter fun name => !Value.memberOf name names

/-- The clean names of the terms of a post, by taxonomy. -/
def termNames (s : Source) (p : Post) : Except Fault (List (Scalar × List String)) := do
  let pairs ← (← taxonomiesOf s p).mapM fun taxonomy => do
    let terms ← s.postTerms (.int p.id) taxonomy
    return (← taxonomy.key, terms.map fun t => t.name.cleanText)
  return Assoc.ofPairs pairs

/-- Names with commas between them. -/
def joined (names : List String) : Value := .text (", ".intercalate names)

/-- The facts about a post. -/
def post (s : Source) (p : Post) : Except Fault Fields := do
  let names ← termNames s p
  let content := p.content.cleanText
  let excerpt := p.excerpt.cleanText
  let custom ← p.customFields.entries
  let named := fun (taxonomy : String) => joined ((names.lookup (.text taxonomy)).getD [])
  return [("ID", .int p.id), ("title", p.title.cleaned),
    ("excerpt", .text (if excerpt = "" then Text.excerpt content else excerpt)),
    ("content", .text content), ("url", p.url), ("slug", p.slug), ("date", date p.date),
    ("modified_date", date p.modified), ("created_date", date p.date),
    ("thumbnail", p.thumbnail), ("comment_count", p.commentCount), ("tags", named "post_tag"),
    ("categories", named "category"),
    ("custom_field", .object (Assoc.mapValues Value.cleaned custom)),
    ("taxonomies", .object (Assoc.mapValues (fun l => .list (l.map .text))
      (names.filter fun e => !e.2.isEmpty))),
    ("tax", .object (Assoc.mapValues joined names))]

/-- The facts about a term. -/
def term (t : Term) : Fields :=
  [("ID", .int t.id), ("name", t.name.cleaned), ("slug", t.slug), ("taxonomy", t.taxonomy),
    ("description", t.description.cleaned), ("url", t.url)]

/-- A text without blanks at its ends; nothing else has such a form. -/
def stripped : Value → Except Fault Value
  | .text s => .ok (.text (Text.strip s))
  | _ => .error .notAText

/-- The facts about a user. -/
def user (u : User) : Except Fault Fields := do
  return [("ID", .int u.id), ("first_name", u.firstName.cleaned),
    ("last_name", u.lastName.cleaned), ("username", u.username.cleaned),
    ("display_name", u.displayName.cleaned), ("nickname", u.nickname.cleaned),
    ("email", ← stripped u.email), ("website_url", u.websiteUrl), ("nicename", u.nicename),
    ("description", .text (Text.escape u.description.cleanText)), ("posts_url", u.postsUrl),
    ("avatar", u.avatar)]

/-- The facts about the user with an id, none if the id does not count as given. -/
def userById (s : Source) (id : Value) : Except Fault Fields := do
  if id.truthy then
    match ← s.user? id with
    | some u => user u
    | none => return []
  else return []

/-- The facts about the site. -/
def site (t : Site) : Fields :=
  [("title", t.title.cleaned), ("description", t.description.cleaned), ("url", t.url),
    ("language", t.language), ("icon", t.icon)]

end Facts

end StructuredData
