import StructuredData.Page.Trail
import StructuredData.Proofs.Content.Lineage
import StructuredData.Proofs.Content.Reading
import StructuredData.Proofs.Fault

/-!
# What is in a trail

A trail begins with the home page, and no crumb of it lacks a name (`Trail.allNamed_ofPage`).  The
trail of a term and that of a post whose type has a hierarchy lead through the line of ancestors,
from the first one to the record itself (`Trail.ofPage_ancestors`); of these only records that have
both a name and a page of their own are shown.
-/

namespace StructuredData.Trail

variable {s : Source} {t : Tables} {page : Page}

/-- The crumb for the home page, with which each trail begins. -/
def home (s : Source) : Crumb :=
  { name := "Home", link := s.content.site.url.orElse "",
    origin := if s.content.site.url.truthy then some ⟨.site, "url"⟩ else none }

/-- The crumbs of those records that have both a name and a page of their own. -/
def shown {α : Type} (name link : α → Value) (origin : α → Origin) (records : List α) :
    List Crumb :=
  (records.filter fun a => (link a).truthy && (name a).truthy).map fun a =>
    { name := name a, link := link a, origin := some (origin a) }

/-- The crumbs of terms. -/
def shownTerms : List Term → List Crumb := shown Term.name Term.url fun t => ⟨.term t.id, "url"⟩

/-- The crumbs of posts. -/
def shownPosts : List Post → List Crumb := shown Post.title Post.url fun p => ⟨.post p.id, "url"⟩

/-- The step for the archive of the type of a post. -/
def archiveStep (p : Post) (info : PostType) : List Crumb :=
  if withoutArchive.any fun name => p.postType.isText name then []
  else linked (info.singularLabel.orElse info.label) info.archiveUrl (archiveOrigin p.postType)

/-- The crumbs of records are those of them that have a name to show. -/
theorem flatMap_linked {α : Type} (name link : α → Value) (origin : α → Origin)
    (records : List α) :
    (records.flatMap fun a => linked (name a) (link a) (some (origin a))) =
      shown name link origin records := by
  induction records with
  | nil => rfl
  | cons a rest ih =>
    rw [List.flatMap_cons, ih]
    cases hlink : (link a).truthy <;> cases hname : (name a).truthy <;>
      simp [shown, linked, crumb, Value.orElse, hlink, hname]

/-- A trail is the home page and then the steps. -/
theorem ofPage_eq_ok_iff {crumbs : List Crumb} :
    ofPage s page = .ok crumbs ↔
      ∃ t after, Tables.ofSource s = .ok t ∧ steps s t page = .ok after ∧
        crumbs = home s :: after := by
  constructor
  · intro h
    obtain ⟨t, ht, h⟩ := exists_of_bind_eq_ok h
    obtain ⟨after, hafter, h⟩ := exists_of_bind_eq_ok h
    exact ⟨t, after, ht, hafter, (Except.ok.inj h).symm⟩
  · rintro ⟨t, after, ht, hafter, rfl⟩
    rw [ofPage, ht]
    show (do return crumb "Home" s.content.site.url (some ⟨.site, "url"⟩) ++ (← steps s t page)) = _
    rw [hafter]
    rfl

/-! ## Names -/

/-- Whether no crumb lacks a name. -/
def AllNamed (crumbs : List Crumb) : Prop := ∀ c ∈ crumbs, c.name.truthy = true

theorem allNamed_nil : AllNamed [] := fun _ hc => nomatch hc

/-- Trails with names come to one with names. -/
theorem AllNamed.append {before after : List Crumb} (h : AllNamed before) (h' : AllNamed after) :
    AllNamed (before ++ after) := fun c hc => (List.mem_append.mp hc).elim (h c) (h' c)

/-- A crumb is made where there is a name only. -/
theorem allNamed_crumb (name link : Value) (origin : Option Origin) :
    AllNamed (crumb name link origin) := by
  intro c hc
  rw [crumb] at hc
  split at hc
  · rename_i hname
    rw [List.mem_singleton.mp hc]
    exact hname
  · cases hc

/-- A link is made where there is a name only. -/
theorem allNamed_linked (name link : Value) (origin : Option Origin) :
    AllNamed (linked name link origin) := by
  rw [linked]
  split
  · exact allNamed_crumb name link origin
  · exact allNamed_nil

/-- The terms above a term are shown by their names. -/
theorem allNamed_ofTerm {term : Term} {crumbs : List Crumb} (h : ofTerm s term = .ok crumbs) :
    AllNamed crumbs := by
  obtain ⟨line, -, h⟩ := exists_of_bind_eq_ok h
  cases h
  refine AllNamed.append (fun c hc => ?_) (allNamed_linked _ _ _)
  obtain ⟨a, -, hc⟩ := List.mem_flatMap.mp hc
  exact allNamed_linked _ _ _ c hc

theorem allNamed_firstTerm {p : Post} {taxonomy : Value} {crumbs : List Crumb}
    (h : firstTerm s p taxonomy = .ok crumbs) : AllNamed crumbs := by
  obtain ⟨terms, -, h⟩ := exists_of_bind_eq_ok h
  cases terms with
  | nil =>
    cases h
    exact allNamed_nil
  | cons term _ => exact allNamed_ofTerm h

/-- The posts above a post are shown by their names. -/
theorem allNamed_postAncestors {p : Post} {crumbs : List Crumb}
    (h : postAncestors s p = .ok crumbs) : AllNamed crumbs := by
  obtain ⟨line, -, h⟩ := exists_of_bind_eq_ok h
  cases h
  intro c hc
  obtain ⟨a, -, hc⟩ := List.mem_flatMap.mp hc
  exact allNamed_linked _ _ _ c hc

theorem allNamed_archiveStep (p : Post) (info : PostType) : AllNamed (archiveStep p info) := by
  rw [archiveStep]
  split
  · exact allNamed_nil
  · exact allNamed_linked _ _ _

/-- What stands before a post has a name. -/
theorem allNamed_beforePost {p : Post} {crumbs : List Crumb}
    (h : beforePost s t p = .ok crumbs) : AllNamed crumbs := by
  obtain ⟨info, -, h⟩ := exists_of_bind_eq_ok h
  dsimp only at h
  obtain ⟨above, hnamed, hcrumbs⟩ : ∃ above, AllNamed above ∧
      pure (_ ++ above) = Except.ok crumbs := by
    split at h
    · obtain ⟨above, habove, h⟩ := exists_of_bind_eq_ok h
      exact ⟨above, allNamed_postAncestors habove, h⟩
    · obtain ⟨taxonomy, -, h⟩ := exists_of_bind_eq_ok h
      split at h
      · obtain ⟨above, habove, h⟩ := exists_of_bind_eq_ok h
        exact ⟨above, allNamed_firstTerm habove, h⟩
      · exact ⟨[], allNamed_nil, h⟩
  cases hcrumbs
  refine AllNamed.append ?_ hnamed
  cases info with
  | none => exact allNamed_nil
  | some info => exact allNamed_archiveStep p info

theorem allNamed_beforeProduct {p : Post} {crumbs : List Crumb}
    (h : beforeProduct s t p = .ok crumbs) : AllNamed crumbs := by
  obtain ⟨terms, hterms, h⟩ := exists_of_bind_eq_ok h
  cases h
  refine AllNamed.append ?_ (allNamed_firstTerm hterms)
  split
  · exact allNamed_linked _ _ _
  · exact allNamed_nil

/-- The trail of a post has names throughout. -/
theorem allNamed_ofPost {p : Post} {crumbs : List Crumb} (h : ofPost s t p = .ok crumbs) :
    AllNamed crumbs := by
  rw [ofPost] at h
  split at h
  · split at h
    · obtain ⟨before, hbefore, h⟩ := exists_of_bind_eq_ok h
      cases h
      exact (allNamed_beforeProduct hbefore).append (allNamed_crumb _ _ _)
    · obtain ⟨before, hbefore, h⟩ := exists_of_bind_eq_ok h
      cases h
      exact (allNamed_beforePost hbefore).append (allNamed_crumb _ _ _)
  · cases h
    exact allNamed_nil

theorem allNamed_ofDate {crumbs : List Crumb} (h : ofDate page = .ok crumbs) :
    AllNamed crumbs := by
  simp only [ofDate] at h
  split at h
  · cases h
    exact allNamed_crumb _ _ _
  · split at h
    · cases h
      exact allNamed_nil
    · cases h
      exact allNamed_crumb _ _ _
    · cases h

/-- **Each step of a trail has a name.** -/
theorem allNamed_steps {crumbs : List Crumb} (h : steps s t page = .ok crumbs) :
    AllNamed crumbs := by
  rw [steps] at h
  split at h
  · obtain ⟨found, -, h⟩ := exists_of_bind_eq_ok h
    cases found with
    | none => cases h; exact allNamed_nil
    | some term => exact allNamed_ofTerm h
  · obtain ⟨found, -, h⟩ := exists_of_bind_eq_ok h
    cases found with
    | none => cases h; exact allNamed_nil
    | some p => exact allNamed_ofPost h
  · obtain ⟨found, -, h⟩ := exists_of_bind_eq_ok h
    cases found with
    | none => cases h; exact allNamed_nil
    | some u => cases h; exact allNamed_crumb _ _ _
  · exact allNamed_ofDate h
  · cases h
    exact allNamed_crumb _ _ _
  · cases h
    exact allNamed_crumb _ _ _
  · cases h
    exact allNamed_nil

/-- **No crumb of a trail lacks a name**, whatever it is made of. -/
theorem allNamed_ofPage {crumbs : List Crumb} (h : ofPage s page = .ok crumbs) :
    AllNamed crumbs := by
  obtain ⟨t, after, -, hafter, rfl⟩ := ofPage_eq_ok_iff.mp h
  intro c hc
  rcases List.mem_cons.mp hc with rfl | hc
  · rfl
  · exact allNamed_steps hafter c hc

/-! ## List items -/

/-- The list item for a link and a name at a place. -/
def listItem (place : Nat) (link name : Value) : Value :=
  .object [("@type", .text "ListItem"), ("position", .int place),
    ("item", .object [("@id", link), ("name", name)])]

/-- The items of a list have the places and the names of the crumbs. -/
theorem listItemsFrom_eq_map (first : Nat) (crumbs : List Crumb) :
    listItemsFrom first crumbs =
      (crumbs.zipIdx first).map fun e => listItem e.2 e.1.link e.1.name := by
  induction crumbs generalizing first with
  | nil => rfl
  | cons c rest ih =>
    rw [listItemsFrom, ih, List.zipIdx_cons, List.map_cons]
    rfl

/-- The list items of changed crumbs, whose places are counted from one. -/
theorem listItems_map (f : Crumb → Crumb) (crumbs : List Crumb) :
    listItems (crumbs.map f) =
      (crumbs.zipIdx 1).map fun e => listItem e.2 (f e.1).link (f e.1).name := by
  rw [listItems, listItemsFrom_eq_map, List.zipIdx_map, List.map_map]
  rfl

/-! ## Ancestors -/

/-- The line of ancestors of a term and the term itself. -/
theorem exists_ofTerm (h : Lineage.IsTable Term.id Term.parentId s.content.terms) {id : Int}
    {term : Term} (hterm : s.content.terms.lookup id = some term) :
    ∃ line, Lineage.IsLongestLine Term.id Term.parentId s.content.terms term line ∧
      line.length < s.content.terms.length ∧
      ofTerm s term = .ok (shownTerms (line.reverse ++ [term])) := by
  obtain ⟨line, hline, hlt, hlongest⟩ := Lineage.exists_ancestors h hterm
  refine ⟨line, hlongest, hlt, ?_⟩
  have hall := flatMap_linked Term.name Term.url (fun t => ⟨.term t.id, "url"⟩)
    (line.reverse ++ [term])
  rw [List.flatMap_append, List.flatMap_singleton] at hall
  rw [ofTerm, Lineage.ofTerm, hline, shownTerms, ← hall]
  rfl

/-- The posts above a post are its longest line of parents, shortened by those without names, from
the top. -/
theorem exists_postAncestors (h : Lineage.IsTable Post.id Post.parentId s.content.posts) {id : Int}
    {p : Post} (hp : s.content.posts.lookup id = some p) :
    ∃ line, Lineage.IsLongestLine Post.id Post.parentId s.content.posts p line ∧
      line.length < s.content.posts.length ∧
      postAncestors s p = .ok (shownPosts line.reverse) := by
  obtain ⟨line, hline, hlt, hlongest⟩ := Lineage.exists_ancestors h hp
  refine ⟨line, hlongest, hlt, ?_⟩
  rw [postAncestors, Lineage.ofPost, hline, shownPosts, ← flatMap_linked]
  rfl

/-- The steps to a post whose type has a hierarchy and is not that of products. -/
theorem ofPost_of_hierarchical {p : Post} {info : PostType} {above : List Crumb}
    (hinfo : Value.lookupKey t.postTypes p.postType = .ok (some info))
    (hhier : info.hierarchical.truthy = true) (htype : p.postType.truthy = true)
    (hproduct : p.postType.isText "product" = false) (habove : postAncestors s p = .ok above) :
    ofPost s t p = .ok (archiveStep p info ++ above ++
      crumb p.title p.url (some ⟨.post p.id, "url"⟩)) := by
  have hbefore : beforePost s t p = .ok (archiveStep p info ++ above) := by
    rw [beforePost, hinfo]
    show (if info.hierarchical.truthy = true then
      (do return archiveStep p info ++ (← postAncestors s p)) else _) = _
    rw [if_pos hhier, habove]
    rfl
  rw [ofPost, if_pos htype, hproduct, if_neg (by simp), hbefore]
  rfl

/-- **Ancestors are shown once each, the first one first.**  Terms and posts stand under their own
ids, as those that are read do, and name whole numbers as the ids of their parents, in any way.
Then the trail of a term is the home page and the longest line from the term up, read downwards,
with the term itself at its end; records that lack a name or a page of their own are left out.  The
trail of a post whose type has a hierarchy leads in the same way through the longest line from the
post, unless posts of its type are products or the type has an empty name. -/
theorem ofPage_ancestors (ht : Tables.ofSource s = .ok t)
    (hkeyed : s.content.IsKeyed) (hterms : ∀ e ∈ s.content.terms, ∃ n, e.2.parentId = .int n)
    (hposts : ∀ e ∈ s.content.posts, ∃ n, e.2.parentId = .int n) {id : Int}
    (hid : page.objectId = some id) :
    (page.kind = .termArchive → ∀ term, s.content.terms.lookup id = some term →
      ∃ line, Lineage.IsLongestLine Term.id Term.parentId s.content.terms term line ∧
        line.length < s.content.terms.length ∧
        ofPage s page = .ok (home s :: shownTerms (line.reverse ++ [term]))) ∧
    (page.kind = .singular → ∀ p info, s.content.posts.lookup id = some p →
      Value.lookupKey t.postTypes p.postType = .ok (some info) →
      info.hierarchical.truthy = true → p.postType.truthy = true →
      p.postType.isText "product" = false →
      ∃ line, Lineage.IsLongestLine Post.id Post.parentId s.content.posts p line ∧
        line.length < s.content.posts.length ∧
        ofPage s page = .ok (home s :: (archiveStep p info ++ shownPosts line.reverse ++
          crumb p.title p.url (some ⟨.post p.id, "url"⟩)))) := by
  constructor
  · intro hkind term hterm
    obtain ⟨line, hlongest, hlt, hline⟩ := exists_ofTerm ⟨hkeyed.terms, hterms⟩ hterm
    refine ⟨line, hlongest, hlt, ofPage_eq_ok_iff.mpr ⟨t, _, ht, ?_, rfl⟩⟩
    have hfound : s.term? (.int id) = .ok (some term) := congrArg Except.ok hterm
    rw [steps, hkind, hid]
    show (s.term? (.int id) >>= _) = _
    rw [hfound]
    exact hline
  · intro hkind p info hp hinfo hhier htype hproduct
    obtain ⟨line, hlongest, hlt, hline⟩ := exists_postAncestors ⟨hkeyed.posts, hposts⟩ hp
    refine ⟨line, hlongest, hlt, ofPage_eq_ok_iff.mpr ⟨t, _, ht, ?_, rfl⟩⟩
    have hfound : s.post? (.int id) = .ok (some p) := congrArg Except.ok hp
    rw [steps, hkind, hid]
    show (s.post? (.int id) >>= _) = _
    rw [hfound]
    exact ofPost_of_hierarchical hinfo hhier htype hproduct hline

/-- Terms whose parents form a circle, entered from outside, and a page below another one. -/
theorem ofPage_ancestors_of_circle :
    let plants : Term := { id := 1, name := "Plants", url := "/plants/", parentId := .int 2 }
    let trees : Term := { id := 2, name := "Trees", url := "/trees/", parentId := .int 1 }
    let oaks : Term := { id := 3, name := "Oaks", url := "/oaks/", parentId := .int 2 }
    let about : Post := { id := 4, title := "About", postType := "page", url := "/about/" }
    let team : Post :=
      { id := 5, title := "Team", postType := "page", url := "/team/", parentId := .int 4 }
    let pages : PostType := { name := "page", hierarchical := .bool true }
    let s : Source :=
      { content := { postTypes := [pages], posts := [(4, about), (5, team)],
                     terms := [(1, plants), (2, trees), (3, oaks)] } }
    (∃ line, Lineage.IsLongestLine Term.id Term.parentId s.content.terms oaks line ∧
      line.length < 3 ∧
      ofPage s { kind := .termArchive, objectId := some 3 } =
        .ok (home s :: shownTerms (line.reverse ++ [oaks]))) ∧
    ∃ line, Lineage.IsLongestLine Post.id Post.parentId s.content.posts team line ∧
      line.length < 2 ∧
      ofPage s { kind := .singular, objectId := some 5 } =
        .ok (home s :: (archiveStep team pages ++ shownPosts line.reverse ++
          crumb team.title team.url (some ⟨.post 5, "url"⟩))) := by
  intro plants trees oaks about team pages s
  have ht : Tables.ofSource s = .ok { postTypes := [(.text "page", pages)], taxonomies := [] } :=
    rfl
  have hkeyed : s.content.IsKeyed :=
    ⟨by simp [s, about, team], by simp [s, plants, trees, oaks]⟩
  have hterms : ∀ e ∈ s.content.terms, ∃ n, e.2.parentId = .int n := by
    simp [s, plants, trees, oaks]
  have hposts : ∀ e ∈ s.content.posts, ∃ n, e.2.parentId = .int n := by
    simp [s, about, team]
  exact ⟨(ofPage_ancestors ht hkeyed hterms hposts rfl).1 rfl oaks rfl,
    (ofPage_ancestors ht hkeyed hterms hposts rfl).2 rfl team pages rfl rfl rfl rfl rfl⟩

/-- Posts that are products, and posts of a type with an empty name, have no ancestors in their
trails, also if their type has a hierarchy. -/
theorem exists_hierarchical_without_ancestors :
    let range (type : String) : Post :=
      { id := 1, title := "Range", postType := .text type, url := "/range/" }
    let kettle (type : String) : Post :=
      { id := 2, title := "Kettle", postType := .text type, url := "/kettle/", parentId := .int 1 }
    let posts (type : String) : List (Int × Post) := [(1, range type), (2, kettle type)]
    let names (type : String) : Except Fault (List String) :=
      (ofPage { content := { postTypes := [{ name := .text type, hierarchical := .bool true }],
                             posts := posts type } }
        { kind := .singular, objectId := some 2 }).map (·.map (·.name.toText))
    (Lineage.IsLongestLine Post.id Post.parentId (posts "product") (kettle "product")
        [range "product"] ∧
      (shownPosts [range "product"]).map (·.name.toText) = ["Range"] ∧
      names "product" = .ok ["Home", "Kettle"]) ∧
    (Lineage.IsLongestLine Post.id Post.parentId (posts "") (kettle "") [range ""] ∧
      (shownPosts [range ""]).map (·.name.toText) = ["Range"] ∧ names "" = .ok ["Home"]) := by
  intro range kettle posts names
  have hlongest : ∀ type, Lineage.IsLongestLine Post.id Post.parentId (posts type) (kettle type)
      [range type] := fun type =>
    Lineage.isLongestLine_singleton ⟨1, rfl, by decide, rfl⟩ rfl (by simp [range, kettle])
  exact ⟨⟨hlongest "product", rfl, rfl⟩, hlongest "", rfl, rfl⟩

end StructuredData.Trail
