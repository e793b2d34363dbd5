import Mathlib
import StructuredData.Proofs.Schema.Node
import StructuredData.Proofs.Schema.Slug
import StructuredData.Proofs.Template.Nesting

/-!
# References to schemas

A placeholder `%schemas.slug%` leads to the reference that a schema offers, and its template is then
expanded one level further in than the `@id` of the schema's own node.  As long as no warning is
given this makes no difference, so references and nodes agree (`Schema.links_agree`); and a
reference to a schema that is not there leaves nothing in a node.
-/

namespace StructuredData

open Expansion

variable {limits : Limits} {p q : Pass}

/-! ## What a reference comes to -/

/-- Going through a reference: its template is replaced. -/
theorem runFrom_traverseTexts_link (f : String → Expansion Value) (template : String) (p : Pass) :
    runFrom ((Value.object [("@id", .text template)]).traverseTexts f) p =
      ((runFrom (f template) p).1.map fun r => .object [("@id", r)],
        (runFrom (f template) p).2) := by
  rcases hf : runFrom (f template) p with ⟨e | a, q⟩
  · have hfields : runFrom (Value.traverseFields f [("@id", .text template)]) p =
        (.error e, q) := by
      rw [Value.traverseFields, Value.traverseTexts, runFrom_bind_of_error hf]
    rw [Value.traverseTexts, runFrom_bind_of_error hfields]
    rfl
  · have hfields : runFrom (Value.traverseFields f [("@id", .text template)]) p =
        (.ok [("@id", a)], q) := by
      rw [Value.traverseFields, Value.traverseTexts, runFrom_bind_of_ok hf]
      rfl
    rw [Value.traverseTexts, runFrom_bind_of_ok hfields]
    rfl

/-- A reference comes to what its template comes to. -/
theorem Value.alone_expand_link (limits : Limits) (context : Value) (template : String) :
    ((Value.object [("@id", .text template)]).expand limits context).alone.1 =
      ((Value.text template).expand limits context).alone.1.map fun r => .object [("@id", r)] := by
  have hlink := runFrom_traverseTexts_link
    (Template.expandText limits context ((Value.text template).levels limits context) [])
    template {}
  rw [Value.expand_text]
  exact congrArg Prod.fst hlink

/-- A template that is expanded inside a token, after a step, comes to what it comes to in a pass of
its own, if no warning is given. -/
theorem Template.expandText_inside_eq {depth steps : Int} {left : Nat} (hleft : left ≤ depth.toNat)
    {context : Value} {chain : List String} {template : String} {r : Except Fault Value}
    (hp : p.exhausted = false)
    (hrun : runFrom (expandText (.ofInts depth steps) context left chain template) p = (r, q))
    (hq : ∀ n ∈ q.log, n.isWarning = false) :
    ((Value.text template).expand (.ofInts depth steps) context).alone.1 = r := by
  have hfollows : Follows (fun n => n.isWarning = false)
      (expandText (.ofInts depth steps) context left chain template)
      (expandText (.ofInts depth steps) context depth.toNat [] template) := by
    refine follows_expandText (Limits.canBeTold_ofInts depth steps) (fun _ h => h) ?_ ?_ hleft
      (List.nil_subset chain) ?_ template
    · intro n hn
      cases hn
    · intro n hn
      cases hn
    · intro token hn
      cases hn
  obtain ⟨notices, hlog, hall⟩ := hfollows p
  rw [hrun] at hlog hall
  have hnotices : ∀ n ∈ notices, n.isWarning = false := by
    intro n hn
    refine hq n ?_
    rw [show q.log = p.log ++ notices from hlog]
    exact Array.mem_append_right _ hn
  have hsame := (hall hp hnotices).2
  -- from here on only the steps differ
  have hadditive := additive_expandText (.ofInts depth steps) context depth.toNat [] template
  obtain ⟨k, notices', -, halone⟩ := hadditive.alone_eq hp hsame fun n hn =>
    Notice.isOutOfSteps_of_isWarning (hq n hn)
  rw [Value.expand_text]
  exact congrArg Prod.fst halone

namespace Schema

variable [Slugifier] {ds : List Schema} {d : Schema} {links context : Fields}
  (hlinks : Schema.links ds = .ok links) (hcontext : context.get? "schemas" = some (.object links))

include hlinks hcontext

/-- **The reference of a schema comes to the `@id` of its node**, if no warning is given: the two
are made of one template, which is expanded inside the token of the reference in one case and alone
in the other. -/
theorem expand_link (hd : d ∈ ds) (hunique : ∀ d' ∈ ds, d'.slug = d.slug → d' = d) {slug : String}
    (hslug : d.slug = .ok slug) {values : Fields} {id : String}
    (hvalues : d.effectiveValues = .ok (.object values)) (hid : values.get? "@id" = some (.text id))
    (hne : id ≠ "") (depth steps : Int)
    (hquiet : ∀ n ∈ ((Value.text ("%schemas." ++ slug ++ "%")).expand (.ofInts depth steps)
      (.object context)).alone.2.log, n.isWarning = false) :
    ∃ published w, d.fieldValues = .ok published ∧ published.get? "@id" = some w ∧
      ((Value.text ("%schemas." ++ slug ++ "%")).expand (.ofInts depth steps)
        (.object context)).alone.1 =
      (w.expand (.ofInts depth steps) (.object context)).alone.1.map fun r =>
        .object [("@id", r)] := by
  have hname : Slug.IsName slug := isName_slug hslug
  have htoken := Slug.isToken_schemas hname
  obtain ⟨template, htemplate, hlink⟩ := get?_links_of_unique hlinks hd hunique hslug
  obtain ⟨published, hpublished, hget⟩ := fieldValues_of_idTemplate hvalues hid hne htemplate
  refine ⟨published, .text template, hpublished, hget, ?_⟩
  have hat : (Value.object context).at (Path.ofToken ("schemas." ++ slug)) =
      .ok (.object [("@id", .text template)]) := by
    rw [Slug.path_schemas hname, Value.at_member hcontext, hlink]
    rfl
  rw [Template.placeholder_schemas, Value.expand_text] at hquiet ⊢
  rcases hrun : runFrom (Template.expandText (.ofInts depth steps) (.object context) depth.toNat []
    (Template.placeholder ("schemas." ++ slug))) {} with ⟨r, q⟩
  have halone : (Template.expandText (.ofInts depth steps) (.object context)
      ((Value.text (Template.placeholder ("schemas." ++ slug))).levels (.ofInts depth steps)
        (.object context)) [] (Template.placeholder ("schemas." ++ slug))).alone = (r, q) := hrun
  rw [halone] at hquiet ⊢
  rcases Template.run_placeholder htoken rfl hrun hquiet with ⟨f, -, hf⟩ | ⟨left, hleft, hfill⟩
  · -- limits that are whole numbers can be told
    rcases hf with hf | hf
    · cases hf
    · cases hf
  · rw [Template.fillTokens_placeholder htoken hat, if_neg (by simp [Value.isNull]),
      runFrom_traverseTexts_link] at hfill
    rcases hinside : runFrom (Template.expandText (.ofInts depth steps) (.object context) left
      ["schemas." ++ slug] template) { ({} : Pass) with steps := 0 + 1 } with ⟨r', q'⟩
    rw [hinside] at hfill
    cases hfill
    have hle : left ≤ depth.toNat := by omega
    rw [Template.expandText_inside_eq hle rfl hinside hquiet]

/-- **A reference to a schema that is not there leaves nothing**: a field of which it is the
template does not stand in a node that is made without a warning. -/
theorem get?_node_of_no_link {name : String} (hname : Slug.IsName name)
    (hnone : ∀ d ∈ ds, d.slug ≠ .ok name) (limits : Limits) {values : Fields} {key : String}
    (hkey : key ≠ "@type") (hvalues : d.fieldValues = .ok values)
    (htemplate : ∀ w, (Scalar.text key, w) ∈ values → w = .text ("%schemas." ++ name ++ "%"))
    {node : Fields} (hp : p.exhausted = false)
    (hrun : runFrom (d.node limits (.object context)) p = (.ok node, q))
    (hquiet : ∀ n ∈ q.log, n.isWarning = false) : node.get? key = none := by
  refine Assoc.lookup_eq_none_of_forall fun e he => ?_
  rw [Bool.eq_false_iff]
  intro hke
  have hke := (Scalar.text_beq_iff _ _).mp hke
  have htype : e.1 ≠ .text "@type" := by
    rw [hke]
    simpa using hkey
  obtain ⟨v, w, hv, ⟨r, halone, hr⟩, hprune, hkept⟩ := mem_of_mem_node hp hrun
    (fun n hn => Notice.isOutOfSteps_of_isWarning (hquiet n hn)) hvalues he htype
  rw [hke] at hv
  obtain rfl := htemplate v hv
  -- the path leads nowhere, so the placeholder comes to an empty text, and this is cut
  have hat : (Value.object context).at (Path.ofToken ("schemas." ++ name)) = .ok .null := by
    rw [Slug.path_schemas hname, Value.at_member hcontext, get?_links_eq_none hlinks hnone]
    rfl
  have hw : w = .text "" := by
    rw [Template.placeholder_schemas, Value.expand_text] at halone
    rcases Template.run_placeholder (Slug.isToken_schemas hname) rfl halone
      (fun n hn => hquiet n (hr n hn)) with ⟨f, hf, -⟩ | ⟨left, -, hfill⟩
    · cases hf
    · rw [Template.fillTokens_placeholder (Slug.isToken_schemas hname) hat,
        if_pos (show Value.null.isNull = true from rfl)] at hfill
      cases hfill
      rfl
  subst hw
  rcases hprune with hprune | hprune
  · rw [hprune] at hkept
    exact absurd hkept (by decide)
  · rw [hprune] at hkept
    exact absurd hkept (by decide)

end Schema

/-- **References and nodes agree.**  In a context that holds the references of schemas: if expanding
the reference of a schema whose slug no other one has, and for which an `@id` is stored, gives no
warning, it comes to that `@id` as it is expanded for the node of the schema; and a field whose
template is a reference under a name that is no slug does not stand in any node that is made without
a warning. -/
theorem Schema.links_agree [Slugifier] {ds : List Schema} {links context : Fields}
    (hlinks : Schema.links ds = .ok links)
    (hcontext : context.get? "schemas" = some (.object links)) :
    (∀ d ∈ ds, (∀ d' ∈ ds, d'.slug = d.slug → d' = d) →
      ∀ (slug : String) (values : Fields) (id : String), d.slug = .ok slug →
        d.effectiveValues = .ok (.object values) → values.get? "@id" = some (.text id) → id ≠ "" →
        ∀ depth steps : Int,
          let limits := Limits.ofInts depth steps
          let link :=
            ((Value.text ("%schemas." ++ slug ++ "%")).expand limits (.object context)).alone
          (∀ n ∈ link.2.log, n.isWarning = false) →
            ∃ published w, d.fieldValues = .ok published ∧ published.get? "@id" = some w ∧
              link.1 = (w.expand limits (.object context)).alone.1.map fun r =>
                .object [("@id", r)]) ∧
    ∀ name : String, Slug.IsName name → (∀ d ∈ ds, d.slug ≠ .ok name) →
      ∀ (d : Schema) (values : Fields) (key : String), d.fieldValues = .ok values →
        key ≠ "@type" →
        (∀ w, (Scalar.text key, w) ∈ values → w = .text ("%schemas." ++ name ++ "%")) →
        ∀ (limits : Limits) (p q : Pass) (node : Fields), p.exhausted = false →
          runFrom (d.node limits (.object context)) p = (.ok node, q) →
          (∀ n ∈ q.log, n.isWarning = false) → node.get? key = none := by
  constructor
  · intro d hd hunique slug values id hslug hvalues hid hne depth steps limits link hquiet
    exact Schema.expand_link hlinks hcontext hd hunique hslug hvalues hid hne depth steps hquiet
  · intro name hname hnone d values key hvalues hkey htemplate limits p q node hp hrun hquiet
    exact Schema.get?_node_of_no_link hlinks hcontext hname hnone limits hkey hvalues htemplate hp
      hrun hquiet

section

attribute [local instance] Slugifier.ascii

/-- A page that refers to its site, and to a trail that is not there. -/
theorem Schema.links_agree_of_page :
    let site : Schema := { title := "Site", values := .object [("@id", "%current.url%#%id%")] }
    let page : Schema :=
      { title := "Page"
        values := .object [("isPartOf", "%schemas.site%"), ("breadcrumb", "%schemas.trail%")] }
    let links : Fields := [("site", .object [("@id", "%current.url%#site")]),
      ("page", .object [("@id", "%current.url%#page")])]
    let context : Fields := [("current", .object [("url", "/")]), ("schemas", .object links)]
    Schema.links [site, page] = .ok links ∧
      (∃ published w, site.fieldValues = .ok published ∧ published.get? "@id" = some w ∧
        ((Value.text "%schemas.site%").expand (.ofInts 2 2) (.object context)).alone.1 =
          (w.expand (.ofInts 2 2) (.object context)).alone.1.map fun r => .object [("@id", r)]) ∧
      ∃ node q, runFrom (page.node (.ofInts 2 3) (.object context)) {} = (.ok node, q) ∧
        node.get? "breadcrumb" = none := by
  intro site page links context
  have hsite : site.slug = .ok "site" := by decide +kernel
  have hpage : page.slug = .ok "page" := by decide +kernel
  have hlinks : Schema.links [site, page] = .ok links := by
    have hsiteId : site.idTemplate = .ok "%current.url%#site" := by decide +kernel
    have hpageId : page.idTemplate = .ok "%current.url%#page" := by decide +kernel
    rw [Schema.links, List.mapM_cons, List.mapM_cons, hsite, hsiteId, hpage, hpageId]
    rfl
  have hcontext : context.get? "schemas" = some (.object links) := rfl
  have hagree := Schema.links_agree hlinks hcontext
  refine ⟨hlinks, ?_, ?_⟩
  · have hunique : ∀ d ∈ [site, page], d.slug = site.slug → d = site := by
      intro d hd hslug
      rcases List.mem_pair.mp hd with rfl | rfl
      · rfl
      · rw [hsite, hpage] at hslug
        exact absurd (Except.ok.inj hslug) (by decide)
    refine hagree.1 site (by simp) hunique "site" _ "%current.url%#%id%" hsite rfl rfl
      (by decide) 2 2 ?_
    decide +kernel
  · have hnone : ∀ d ∈ [site, page], d.slug ≠ .ok "trail" := by
      intro d hd hslug
      rcases List.mem_pair.mp hd with rfl | rfl
      · rw [hsite] at hslug
        exact absurd (Except.ok.inj hslug) (by decide)
      · rw [hpage] at hslug
        exact absurd (Except.ok.inj hslug) (by decide)
    have hrun : runFrom (page.node (.ofInts 2 3) (.object context)) {} =
        (.ok [("@type", "Thing"), ("isPartOf", .object [("@id", "/#site")])], { steps := 3 }) := by
      cbv
    refine ⟨_, _, hrun, ?_⟩
    refine hagree.2 "trail" ?_ hnone page _ "breadcrumb" rfl (by decide) ?_ _ {} _ _ rfl hrun ?_
    · have htrail : Slug.ofText "trail" = "trail" := by decide +kernel
      rw [← htrail]
      exact Slug.isName_ofText "trail"
    · simp
    · simp

end

end StructuredData
