import StructuredData.Proofs.Document.Shape
import StructuredData.Proofs.Facts.User
import StructuredData.Proofs.Registry.Build
import StructuredData.Proofs.Template.Balance
import StructuredData.Proofs.Template.Cut
import StructuredData.Proofs.Template.Reading

/-!
# Documents and the user

No built-in template has a placeholder for the user who is logged in.  What a page or its content
says is expanded like a template, so this alone does not keep facts about the user out of a
document; but they stay out of it if no text that is collected for the page has such a placeholder
(`Document.ofPage_withUser`).
-/

namespace StructuredData

open Template (ReadsIn)

/-! ## Built-in templates -/

/-- Whether no token of a list is read in the facts about the user. -/
def Template.userFree (tokens : List String) : Bool := tokens.all fun t => !ReadsIn "user" t

/-- Whether no placeholder for the user stands in values, and their `@id` is the address of the page
or the site with a slug behind it. -/
def Fields.userFree (values : Fields) : Bool :=
  Template.userFree (Value.object values).tokens &&
    match values.get? "@id" with
    | some (.text id) => id = "%current.url%#%id%" || id = "%site.url%#%id%"
    | _ => true

/-- A slug brings no placeholder into an `@id`. -/
theorem Template.userFree_putSlug {id slug : String} (hslug : Slug.IsName slug)
    (hid : id = "%current.url%#%id%" ∨ id = "%site.url%#%id%") :
    userFree (ofText (String.ofList (putSlug slug.toList id.toList))).tokens = true := by
  have hplain : '%' ∉ ('#' :: slug.toList) := by
    intro hmem
    rcases List.mem_cons.mp hmem with hmem | hmem
    · cases hmem
    · exact absurd (hslug '%' hmem) (by decide)
  have htokens : ∀ token, IsToken token →
      (ofText (String.ofList ((placeholder token).toList ++ '#' :: slug.toList))).tokens =
        [token] := by
    intro token htoken
    have hrest : (scanFrom [] none ('#' :: slug.toList)).parts = [] := by
      have hparts := parts_eq_nil_of_not_mem (s := String.ofList ('#' :: slug.toList))
        (by rwa [String.toList_ofList])
      rwa [ofText, String.toList_ofList] at hparts
    rw [ofText, String.toList_ofList, scanFrom_placeholder htoken, hrest]
    simp [tokens]
  rcases hid with rfl | rfl
  · have hput : putSlug slug.toList "%current.url%#%id%".toList =
        (placeholder "current.url").toList ++ '#' :: slug.toList := by
      show putSlug slug.toList ("%current.url%#".toList ++ ['%', 'i', 'd', '%']) = _
      simp [putSlug, placeholder]
    rw [hput, htokens "current.url" (isToken_of_all (by decide) (by decide))]
    decide
  · have hput : putSlug slug.toList "%site.url%#%id%".toList =
        (placeholder "site.url").toList ++ '#' :: slug.toList := by
      show putSlug slug.toList ("%site.url%#".toList ++ ['%', 'i', 'd', '%']) = _
      simp [putSlug, placeholder]
    rw [hput, htokens "site.url" (isToken_of_all (by decide) (by decide))]
    decide

/-- The values of built-in types have no placeholder for the user. -/
theorem SchemaType.userFree_builtin [Slugifier] {t : SchemaType} (ht : t ∈ builtin true)
    {values : Fields} (hvalues : t.values = .ok values) :
    Template.userFree (Value.object values).tokens = true := by
  have hall : ∀ t ∈ builtin true,
      (t.defaults.map Fields.userFree).toOption.getD true = true := by decide +kernel
  obtain ⟨defaults, hdefaults, hsame⟩ := exists_defaults_of_values hvalues
  have hfree := Bool.and_eq_true_iff.mp (holds_of_builtin hall ht hdefaults)
  rcases hsame with rfl | ⟨id, slug, hid, hslug, rfl⟩
  · exact hfree.1
  · rw [hid] at hfree
    refine List.all_eq_true.mpr fun token htoken => ?_
    obtain ⟨s, hs, htoken⟩ := Value.mem_tokens.mp htoken
    obtain ⟨e, he, hs⟩ := Value.mem_texts_object.mp hs
    rcases Assoc.mem_set he with he | ⟨-, hvalue⟩
    · exact List.all_eq_true.mp hfree.1 token
        (Value.tokens_entry he (Value.mem_tokens.mpr ⟨s, hs, htoken⟩))
    · rw [hvalue, Value.texts_text, List.mem_singleton] at hs
      rw [hs] at htoken
      have hput := Template.userFree_putSlug hslug (by simpa using hfree.2)
      exact List.all_eq_true.mp hput token htoken

/-- No schema of a catalog of built-in types has a placeholder for the user. -/
theorem Schema.mentions_of_builtin [Slugifier] {sells : Bool} {c : Catalog} {ds : List Schema}
    (hextensions : c.extensions = [])
    (htypes : ∀ e ∈ c.types, e.2 ∈ SchemaType.builtin sells) (hall : c.all = .ok ds) :
    ∀ d ∈ ds, d.Mentions fun t => ¬ ReadsIn "user" t := by
  intro d hd values hvalues t ht
  obtain ⟨type, htype, hsame⟩ := Catalog.exists_builtin_of_mem_all hextensions htypes hall hd
  simpa using List.all_eq_true.mp (SchemaType.userFree_builtin htype (hsame ▸ hvalues)) t ht

namespace Document

variable {settings : Settings} {r : Registry} {s : Source} {page : Page}

/-! ## Texts of the page -/

/-- The facts that are collected for a page if a schema is shown on it. -/
def factsOf [Slugifier] (settings : Settings) (r : Registry) (s : Source) (page : Page) :
    Logged Value := do
  let visible ← visibleSchemas settings r.freeze s page
  Facts.collect s (some r.freeze) page visible

/-- Whether a text that is collected for a page while nobody is logged in has a placeholder for the
user. -/
def mentionsUser [Slugifier] (settings : Settings) (r : Registry) (s : Source) (page : Page) :
    Bool :=
  match (Logged.run (factsOf settings r (s.withUser .null) page)).1 with
  | .ok context => !Template.userFree context.tokens
  | .error _ => false

/-- Contexts that are the same but for the facts about the user agree, if nothing leads there. -/
theorem agreeAt_of_sameBut {context context' : Value} (h : Facts.SameBut "user" context context')
    (hfree : Template.userFree context.tokens = true) :
    Value.AgreeAt (fun t => ¬ ReadsIn "user" t) context context' where
  at_eq _ htoken := h.at_eq htoken
  closed token v _ hv t ht := by
    have hmem := Value.tokens_subset_of_texts (Value.texts_at hv) ht
    simpa using List.all_eq_true.mp hfree t hmem

/-- Facts that are collected for a page do not mention the user. -/
theorem userFree_of_run_collect [Slugifier] (hpage : mentionsUser settings r s page = false)
    {visible : List Schema} {context : Value} {log log' : Log}
    (hvisible : runFrom (visibleSchemas settings r.freeze s page) #[] = (.ok visible, log))
    (hcontext : runFrom (Facts.collect (s.withUser .null) (some r.freeze) page visible) log =
      (.ok context, log')) :
    Template.userFree context.tokens = true := by
  have hrun : Logged.run (factsOf settings r (s.withUser .null) page) = (.ok context, log') := by
    show runFrom (factsOf settings r (s.withUser .null) page) #[] = _
    rw [factsOf, Facts.visibleSchemas_withUser, runFrom_bind_of_ok hvisible, hcontext]
  rw [mentionsUser, hrun] at hpage
  simpa using hpage

/-- The document for a user is that for nobody. -/
theorem ofPage_withUser_null [Slugifier] (hextenders : r.extenders = [])
    (hvisible : ∀ visible log, runFrom (visibleSchemas settings r.freeze s page) #[] =
      (.ok visible, log) → ∀ d ∈ visible, d.Mentions fun t => ¬ ReadsIn "user" t)
    (hlimits : settings.limits.depth.allowance ≠ none)
    (hpage : mentionsUser settings r s page = false) {user : Value} {a : Fields}
    (hfacts : Facts.userById s (s.withUser user).currentUser = .ok a) :
    Logged.run (ofPage settings r (s.withUser .null) page) =
      Logged.run (ofPage settings r (s.withUser user) page) := by
  show runFrom (ofPage settings r (s.withUser .null) page) #[] =
    runFrom (ofPage settings r (s.withUser user) page) #[]
  unfold ofPage
  by_cases henabled : settings.enabled = true
  · rw [if_pos henabled, if_pos henabled]
    dsimp only
    rw [Facts.visibleSchemas_withUser, Facts.visibleSchemas_withUser]
    rcases hrun : runFrom (visibleSchemas settings r.freeze s page) #[] with ⟨e | visible, log⟩
    · rw [runFrom_bind_of_error hrun, runFrom_bind_of_error hrun]
    · rw [runFrom_bind_of_ok hrun, runFrom_bind_of_ok hrun]
      by_cases hempty : visible.isEmpty = true
      · rw [if_pos hempty, if_pos hempty]
      · rw [if_neg hempty, if_neg hempty]
        apply Facts.runFrom_collect_bind hextenders hfacts
        intro context context' log' hcontext hsame
        -- the facts about the user are not read by the schemas shown
        have hagree := agreeAt_of_sameBut hsame (userFree_of_run_collect hpage hrun hcontext)
        rw [nodes_congr hagree hlimits _ (hvisible visible _ hrun)]
  · rw [if_neg henabled, if_neg henabled]

/-- **Who is logged in does not show in the documents of a site without schemas of its own.**  With
the built-in types, a limit on nesting, as there is one unless it is lifted, and no schemas stored
for the site or for what the page is about, a page has the same document and gives the same notices
for all users about whom there can be facts, unless a text that is collected for the page has a
placeholder for the user. -/
theorem ofPage_withUser [Slugifier] {sells : Bool} {log : Log}
    (hr : Logged.run (Registry.build sells []) = (.ok r, log))
    (hschemas : settings.schemas.truthy = false) (hstored : s.storedSchemas page = [])
    (hlimits : settings.limits.depth.allowance ≠ none)
    (hpage : mentionsUser settings r s page = false) {user user' : Value} {a a' : Fields}
    (hfacts : Facts.userById s (s.withUser user).currentUser = .ok a)
    (hfacts' : Facts.userById s (s.withUser user').currentUser = .ok a') :
    Logged.run (ofPage settings r (s.withUser user) page) =
      Logged.run (ofPage settings r (s.withUser user') page) := by
  obtain ⟨hextenders, -, hextensions, htypes⟩ := Registry.exists_of_run_build hr
  rw [List.append_nil] at htypes
  have hvisible : ∀ visible log, runFrom (visibleSchemas settings r.freeze s page) #[] =
      (.ok visible, log) → ∀ d ∈ visible, d.Mentions fun t => ¬ ReadsIn "user" t := by
    intro visible log hrun d hd
    obtain ⟨ctx, active, -, hactive, hsub, -⟩ := exists_of_run_visibleSchemas hrun
    -- without stored schemas those of the catalog are active
    have hall : r.freeze.catalog.all = .ok active := by
      rw [activeSchemas, hstored] at hactive
      simpa [hschemas] using hactive
    exact Schema.mentions_of_builtin hextensions htypes hall d (hsub.subset hd)
  calc Logged.run (ofPage settings r (s.withUser user) page)
      = Logged.run (ofPage settings r (s.withUser .null) page) :=
        (ofPage_withUser_null hextenders hvisible hlimits hpage hfacts).symm
    _ = Logged.run (ofPage settings r (s.withUser user') page) :=
        ofPage_withUser_null hextenders hvisible hlimits hpage hfacts'

section

attribute [local instance] Slugifier.ascii

/-- A page for a search: its query is collected and names nobody. -/
theorem ofPage_withUser_of_search :
    let ada : User := { id := 2, displayName := "Ada", email := "ada@example.com" }
    let s : Source := { content := { site := { title := "Example" }, users := [(2, ada)] } }
    let page : Page := { kind := .search, searchQuery := "roses" }
    let r := (Logged.run (Registry.build false [])).1.toOption.getD {}
    Logged.run (ofPage {} r (s.withUser (.int 2)) page) =
      Logged.run (ofPage {} r (s.withUser .null) page) := by
  intro ada s page r
  have hr : Logged.run (Registry.build false []) = (.ok r, #[]) := rfl
  have hpage : mentionsUser {} r s page = false := by decide +kernel
  exact ofPage_withUser hr rfl rfl (by decide) hpage rfl rfl

end

section

attribute [local instance] Slugifier.ascii

/-- A search for a placeholder puts the address of whoever is logged in into the trail of the
page. -/
theorem ofPage_ne_of_placeholder_searched :
    let ada : User := { id := 2, displayName := "Ada", email := "ada@example.com" }
    let s : Source := { content := { site := { title := "Example" }, users := [(2, ada)] } }
    let page : Page := { kind := .search, searchQuery := "%user.email%" }
    let r := (Logged.run (Registry.build false [])).1.toOption.getD {}
    (Logged.run (Registry.build false [])).1 = .ok r ∧ s.storedSchemas page = [] ∧
      (Logged.run (ofPage {} r (s.withUser (.int 2)) page)).1 ≠
        (Logged.run (ofPage {} r (s.withUser .null) page)).1 := by
  intro ada s page r
  refine ⟨rfl, rfl, fun hsame => ?_⟩
  let names : Except Fault (Option Value) → Bool := fun result =>
    (result.toOption.join.map Value.texts).any (·.contains "Search results for: ada@example.com")
  have hada : names (Logged.run (ofPage {} r (s.withUser (.int 2)) page)).1 = true := by
    decide +kernel
  have hnobody : names (Logged.run (ofPage {} r (s.withUser .null) page)).1 = false := by
    decide +kernel
  rw [hsame, hnobody] at hada
  cases hada

end

end Document

end StructuredData
