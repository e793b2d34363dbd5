import StructuredData.Proofs.Document.Notices
import StructuredData.Proofs.Facts.Body
import StructuredData.Proofs.Template.Reading
import StructuredData.Proofs.Template.Success

/-!
# Extenders and the result of a page

Extenders may fail and may change all of the facts for a page.  A page that comes to a result
without them comes to one with them as well, if what they leave is an object in which tokens can be
read and whole numbers can be written (`Document.exists_ofPage_of_extenders`).
-/

namespace StructuredData

variable {limits : Limits} {context context' : Value}

/-! ## Making a node -/

namespace Schema

variable {d : Schema}

/-- Whether the required fields of a schema have texts as their ids. -/
def NamesRequired (d : Schema) : Prop :=
  ∀ f ∈ d.fields, f.required.truthy = true → ∃ id, f.id = .text id

instance (v : Value) : Decidable (∃ s, v = .text s) :=
  match v with
  | .text s => isTrue ⟨s, rfl⟩
  | .null | .bool _ | .int _ | .float _ | .moment _ | .list _ | .object _ =>
    isFalse (by rintro ⟨_, ⟨⟩⟩)

instance (d : Schema) : Decidable d.NamesRequired :=
  inferInstanceAs (Decidable (∀ f ∈ d.fields, f.required.truthy = true → ∃ id, f.id = .text id))

/-- If lists can be made of some repeated values, then they can be made of others: it takes nothing
but ids that can be keys. -/
theorem exists_flattenFields {fields fields' : Fields} (h : d.flattenFields fields = .ok fields')
    (other : Fields) : ∃ other', d.flattenFields other = .ok other' := by
  have hfold : ∀ (specs : List Field) (acc acc' out : Fields),
      specs.foldlM (fun acc f => f.id.key.map fun key => listValues key acc) acc = .ok out →
      ∃ out', specs.foldlM (fun acc f => f.id.key.map fun key => listValues key acc) acc' =
        .ok out' := by
    intro specs
    induction specs with
    | nil => exact fun _ acc' _ _ => ⟨acc', rfl⟩
    | cons f specs ih =>
      intro acc acc' out h
      rw [List.foldlM_cons] at h ⊢
      obtain ⟨acc₁, hacc₁, h⟩ := exists_of_bind_eq_ok h
      obtain ⟨key, hkey, -⟩ := exists_of_map_eq_ok hacc₁
      rw [hkey]
      exact ih acc₁ _ out h
  exact hfold _ _ _ _ h

theorem exists_nodeFields {expanded entries : Fields} (h : d.nodeFields expanded = .ok entries)
    (other : Fields) : ∃ entries', d.nodeFields other = .ok entries' := by
  obtain ⟨flat, hflat, -⟩ := exists_of_bind_eq_ok h
  obtain ⟨flat', hflat'⟩ := exists_flattenFields hflat other
  exact ⟨_, by rw [nodeFields, hflat']; rfl⟩

theorem required_of_isRequiredEmpty {node : Fields} {f : Field}
    (h : isRequiredEmpty node f = .ok true) : f.required.truthy = true := by
  unfold isRequiredEmpty at h
  split at h
  · assumption
  · cases h

/-- The required fields that have come out empty can be named. -/
theorem exists_requiredEmpty (h : d.NamesRequired) (node : Fields) :
    ∃ ids, d.requiredEmpty node = .ok ids := by
  have htest : ∀ f ∈ d.fields, ∃ b, isRequiredEmpty node f = .ok b := by
    intro f hf
    unfold isRequiredEmpty
    by_cases hrequired : f.required.truthy = true
    · obtain ⟨id, hid⟩ := h f hf hrequired
      have hlookup : Value.lookupKey node f.id = .ok (node.lookup (Scalar.text id)) := by
        rw [hid]
        rfl
      rw [if_pos hrequired, hlookup]
      cases node.lookup (Scalar.text id) with
      | none => exact ⟨false, rfl⟩
      | some v => exact ⟨v.prune.isDropped, rfl⟩
    · exact ⟨false, if_neg hrequired⟩
  obtain ⟨empty, hempty⟩ := exists_filterM_eq_ok htest
  rw [requiredEmpty, hempty]
  dsimp only [bind, Except.bind]
  refine exists_mapM_eq_ok fun f hf => ?_
  obtain ⟨hmem, hpasses⟩ := (mem_filterM_iff hempty f).mp hf
  obtain ⟨id, hid⟩ := h f hmem (required_of_isRequiredEmpty hpasses)
  exact ⟨id, by rw [hid]⟩

end Schema

theorem succeeds_expandFields {fields : Fields}
    (h : ∀ e ∈ fields, Succeeds (e.2.expand limits context)) :
    Succeeds (expandFields limits context fields) := by
  induction fields with
  | nil => exact .pure trivial
  | cons e rest ih =>
    rw [expandFields]
    exact (h e (by simp)).bind fun _ _ =>
      (ih fun e he => h e (by simp [he])).bind fun _ _ => .pure trivial

/-- A schema that has a node in some context has one in each context in which its values come to a
result. -/
theorem Schema.succeeds_node [Slugifier] {d : Schema} {fields : Fields} {p q : Pass}
    (hrun : runFrom (d.node limits context) p = (.ok fields, q)) (hnames : d.NamesRequired)
    (hexpand : ∀ values, d.fieldValues = .ok values →
      ∀ e ∈ values, Succeeds (e.2.expand limits context')) :
    Succeeds (d.node limits context') := by
  obtain ⟨values, expanded, entries, r, hvalues, -, hentries, -, -⟩ := exists_of_run_node hrun
  rw [node, hvalues, lift_ok_bind]
  refine (succeeds_expandFields (hexpand values hvalues)).bind fun expanded' _ => ?_
  obtain ⟨entries', hentries'⟩ := exists_nodeFields hentries expanded'
  obtain ⟨empty, hempty⟩ := exists_requiredEmpty hnames entries'
  rw [hentries', lift_ok_bind, hempty, lift_ok_bind]
  dsimp only
  split
  · exact .pure trivial
  · exact (Expansion.succeeds_tell _).bind fun _ _ => .pure trivial

namespace Document

variable {c : Catalog} {ds : List Schema}

theorem yields_toLogged {α : Type} {P : α → Prop} {act : Expansion α} (h : Yields P act) :
    Yields P act.toLogged := by
  intro log
  obtain ⟨a, p, hrun, hP⟩ := h { log := log }
  exact ⟨a, p.log, by rw [runFrom_toLogged, hrun], hP⟩

/-- Schemas that have nodes in some context have nodes in each context in which their values come to
results. -/
theorem succeeds_nodes [Slugifier] {graph : List Value} {p q : Pass}
    (hrun : runFrom (nodes limits c context ds) p = (.ok graph, q))
    (hnames : ∀ d ∈ ds, d.NamesRequired)
    (hexpand : ∀ d ∈ ds, ∀ values, d.fieldValues = .ok values →
      ∀ e ∈ values, Succeeds (e.2.expand limits context')) :
    Succeeds (nodes limits c context' ds) := by
  induction ds generalizing p q graph with
  | nil => exact .pure trivial
  | cons d rest ih =>
    have hrest : ∀ {p' q' : Pass} {more : List Value},
        runFrom (nodes limits c context rest) p' = (.ok more, q') →
        Succeeds (nodes limits c context' rest) := fun hmore =>
      ih hmore (fun d hd => hnames d (by simp [hd])) fun d hd => hexpand d (by simp [hd])
    rw [nodes] at hrun ⊢
    obtain ⟨registered, hregistered, hrun⟩ := exists_of_runFrom_lift_bind hrun
    rw [hregistered, lift_ok_bind]
    cases registered with
    | true =>
      obtain ⟨node, p₁, hnode, hrun⟩ := runFrom_bind_eq_ok hrun
      obtain ⟨more, p₂, hmore, -⟩ := runFrom_bind_eq_ok hrun
      have hd := Schema.succeeds_node hnode (hnames d (by simp)) (hexpand d (by simp))
      exact hd.bind fun _ _ => (hrest hmore).bind fun _ _ => .pure trivial
    | false =>
      obtain ⟨_, p₁, -, hmore⟩ := runFrom_bind_eq_ok hrun
      exact (Expansion.succeeds_tell _).bind fun _ _ => hrest hmore

/-- **Schemas that have nodes in some context have nodes in each context that can be read**: within
limits that leave nothing to expand they are the same ones. -/
theorem succeeds_nodes_of_reads [Slugifier] {graph : List Value} {log log' : Log}
    (hrun : runFrom (nodes limits c context ds).toLogged log = (.ok graph, log'))
    (hnames : ∀ d ∈ ds, d.NamesRequired) (hreads : ∀ d ∈ ds, d.Mentions Path.Reads)
    (hcontext : context'.IsReadable) :
    Succeeds (nodes limits c context' ds).toLogged := by
  rw [runFrom_toLogged] at hrun
  by_cases hspent : limits.AreSpent
  · have hsame : nodes limits c context' ds = nodes limits c context ds :=
      compatible_nodes compatible_eq (fun _ => rfl) limits context fun d _ =>
        compatible_eq.node (fun _ => rfl) limits context fun _ _ e _ =>
          e.2.expand_eq_of_spent hspent context' context
    -- the notices before may be others, for extenders that failed have been told of
    intro other
    refine ⟨graph, (runFrom (nodes limits c context ds) { log := other }).2.log, ?_, trivial⟩
    rw [hsame, runFrom_toLogged, run_nodes_log, ← run_nodes_log limits c context ds log,
      (Prod.mk.inj hrun).1]
  · refine yields_toLogged (succeeds_nodes (Prod.ext (Prod.mk.inj hrun).1 rfl) hnames ?_)
    intro d hd values hvalues e he
    exact Value.succeeds_expand hspent hcontext fun t ht =>
      hreads d hd values hvalues t (Value.tokens_entry he ht)

end Document

/-! ## The facts that extenders leave -/

/-- Extenders always leave facts: one that fails is passed over. -/
theorem Registry.succeeds_applyExtenders (page : Page) (sheet : Sheet)
    (extenders : List ContextExtender) :
    Succeeds (applyExtenders page sheet extenders) := by
  intro log
  obtain ⟨log', hrun⟩ := exists_run_applyExtenders page sheet extenders log
  exact ⟨_, log', hrun, trivial⟩

/-- Whether templates can be filled from the facts for a page: these are an object in which whole
numbers can be written, and can be read when the body of the post has been escaped. -/
structure Facts.AreReadable (facts : Value) : Prop where
  isObject : ∃ fields, facts = .object fields
  isShort : facts.isShort = true
  escaped : ∀ context, escapeBody facts = .ok context → context.IsReadable

instance (v : Value) : Decidable (∃ fields, v = .object fields) :=
  match v with
  | .object fields => isTrue ⟨fields, rfl⟩
  | .scalar _ | .list _ => isFalse (by rintro ⟨_, ⟨⟩⟩)

instance (facts : Value) : Decidable (Facts.AreReadable facts) :=
  decidable_of_iff
    ((∃ fields, facts = .object fields) ∧ facts.isShort = true ∧
      ∀ context, Facts.escapeBody facts = .ok context → context.IsReadable)
    ⟨fun h => ⟨h.1, h.2.1, h.2.2⟩, fun h => ⟨h.isObject, h.isShort, h.escaped⟩⟩

/-- The body of the post can be escaped in an object in which whole numbers can be written. -/
theorem Facts.exists_escapeBody {fields : Fields} (h : (Value.object fields).isShort = true) :
    ∃ context, escapeBody (.object fields) = .ok context := by
  have hmember : ∀ {entries : Fields} {key : String} {v : Value},
      (Value.object entries).isShort = true → entries.get? key = some v → v.isShort = true := by
    intro entries key v hentries hv
    obtain ⟨k, -, hmem⟩ := Assoc.exists_mem_of_lookup hv
    exact (Value.isShort_object_iff.mp hentries _ hmem).2
  unfold escapeBody
  dsimp only
  split
  · rename_i post hpost
    have hpostshort := hmember h hpost
    unfold escapePost
    split
    · rename_i content hcontent
      have hshort : (content.orElse "").isShort = true := by
        unfold Value.orElse
        split
        · exact hmember hpostshort hcontent
        · exact Value.isShort_text ""
      exact ⟨_, by rw [Value.written, if_pos hshort]; rfl⟩
    · exact ⟨_, rfl⟩
  · exact ⟨_, rfl⟩

namespace Document

variable {settings : Settings} {r : Registry} {s : Source} {page : Page} {ds : List Schema}

/-- Facts are collected with whatever extenders there are, and can be read if what these leave can
be. -/
theorem yields_collect [Slugifier] {plain : Sheet} (hplain : Facts.plain s page ds = .ok plain)
    (hfacts : ∀ sheet, (Logged.run (Facts.extended s (some r) page ds)).1 = .ok sheet →
      Facts.AreReadable sheet.facts) :
    Yields Value.IsReadable (Facts.collect s (some r) page ds) := by
  have hextended : Succeeds (Facts.extended s (some r) page ds) := by
    rw [Facts.extended, hplain, lift_ok_bind]
    exact Registry.succeeds_applyExtenders page plain r.extenders
  have hleft : Yields (fun sheet => Facts.AreReadable sheet.facts)
      (Facts.extended s (some r) page ds) := by
    intro log
    obtain ⟨sheet, log', hsheet, -⟩ := hextended log
    refine ⟨sheet, log', hsheet, hfacts sheet ?_⟩
    rw [Logged.runFrom_of_unaware fun log => unaware_extended r s page ds] at hsheet
    exact (Prod.mk.inj hsheet).1
  refine hleft.bind fun sheet hsheet => .lift ?_
  obtain ⟨fields, hfields⟩ := hsheet.isObject
  obtain ⟨context, hcontext⟩ := Facts.exists_escapeBody (hfields ▸ hsheet.isShort)
  rw [← hfields] at hcontext
  exact ⟨context, hcontext, hsheet.escaped context hcontext⟩

/-- **No extender can take a page down** that leaves facts which can be read.  If a page comes to a
result without extenders, it comes to one with whatever extenders there are, if tokens in the values
of the schemas shown and in what is left of the facts can be read, and whole numbers in the facts
can be written. -/
theorem exists_ofPage_of_extenders [Slugifier] {result : Option Value}
    (hplain : (Logged.run (ofPage settings { r with extenders := [] } s page)).1 = .ok result)
    (hvisible : ∀ visible, (Logged.run (visibleSchemas settings r s page)).1 = .ok visible →
      ∀ d ∈ visible, d.NamesRequired ∧ d.Mentions Path.Reads)
    (hfacts : ∀ visible, (Logged.run (visibleSchemas settings r s page)).1 = .ok visible →
      ∀ sheet, (Logged.run (Facts.extended s (some r) page visible)).1 = .ok sheet →
        Facts.AreReadable sheet.facts) :
    ∃ result', (Logged.run (ofPage settings r s page)).1 = .ok result' := by
  by_cases henabled : settings.enabled = true
  · obtain ⟨log, hrun⟩ : ∃ log, Logged.run (ofPage settings { r with extenders := [] } s page) =
        (.ok result, log) := ⟨_, Prod.ext hplain rfl⟩
    obtain ⟨visible, log₁, hshown, hrest⟩ := exists_of_run_ofPage_eq_ok henabled hrun
    -- what is shown does not depend on extenders
    have hshown : runFrom (visibleSchemas settings r.freeze s page) #[] = (.ok visible, log₁) :=
      hshown
    have hresult : (Logged.run (visibleSchemas settings r s page)).1 = .ok visible :=
      congrArg Prod.fst hshown
    show ∃ result', (runFrom (ofPage settings r s page) #[]).1 = .ok result'
    rw [ofPage, if_pos henabled]
    dsimp only
    rw [runFrom_bind_of_ok hshown]
    rcases hrest with ⟨rfl, -⟩ | ⟨hne, context, graph, log₂, q, hcollect, hnodes, -, -⟩
    · exact ⟨none, rfl⟩
    · rw [if_neg (by simpa using hne)]
      obtain ⟨sheet, log₃, hextended, -⟩ := runFrom_bind_eq_ok hcollect
      obtain ⟨plain, hplain, -⟩ := exists_of_runFrom_lift_bind hextended
      have hrun : runFrom (nodes settings.limits r.freeze.catalog context visible).toLogged log₂ =
          (.ok graph, q.log) := by
        rw [runFrom_toLogged]
        exact congrArg (fun x => (x.1, x.2.log)) hnodes
      have hcontext := yields_collect (r := r.freeze) hplain (hfacts visible hresult)
      have hdocument := hcontext.bind fun context' h =>
        (succeeds_nodes_of_reads hrun (fun d hd => (hvisible visible hresult d hd).1)
          (fun d hd => (hvisible visible hresult d hd).2) h).bind fun graph' _ =>
            Yields.pure (P := fun _ => True) (a := ofNodes graph') trivial
      obtain ⟨result', log', hresult', -⟩ := hdocument log₁
      exact ⟨result', congrArg Prod.fst hresult'⟩
  · exact ⟨none, by rw [ofPage, if_neg henabled]; rfl⟩

section

attribute [local instance] Slugifier.ascii

/-- Extenders that fail, that put null in the place of the facts and that put other facts there. -/
theorem exists_ofPage_of_extenders_of_replace :
    let everywhere : Value := .object [("rules", .list ["basic-global"])]
    let webPage : Value := .object [("type", "WebPage"), ("show_on", everywhere),
      ("fields", .object [("name", "%site.title%")])]
    let settings : Settings := { schemas := .list [webPage] }
    let page : Page := { kind := .blog, url := "https://example.com/" }
    let r : Registry := { (Logged.run (Registry.build false [])).1.toOption.getD {} with
      extenders := [.fail, .replace .null, .append ["site", "title"] "!",
        .replace (.object [("site", .object [("title", "%site.name%"), ("name", "Fair")])]),
        .set ["post"] (.list [.int 1])] }
    ∃ result, (Logged.run (ofPage settings r {} page)).1 = .ok result ∧
      result.map Value.texts = some ["https://schema.org", "WebPage", "Fair"] ∧
      (Logged.run (ofPage settings r {} page)).2.size = 2 := by
  intro everywhere webPage settings page r
  have hplain : (Logged.run (ofPage settings { r with extenders := [] } {} page)).1.map
      Option.isSome = .ok true := by
    decide +kernel
  have hvisible : ∀ visible, (Logged.run (visibleSchemas settings r {} page)).1 = .ok visible →
      ∀ d ∈ visible, d.NamesRequired ∧ d.Mentions Path.Reads := by
    decide +kernel
  have hfacts : ∀ visible, (Logged.run (visibleSchemas settings r {} page)).1 = .ok visible →
      ∀ sheet, (Logged.run (Facts.extended {} (some r) page visible)).1 = .ok sheet →
        Facts.AreReadable sheet.facts := by
    decide +kernel
  obtain ⟨plain, hplain, -⟩ := exists_of_map_eq_ok hplain
  obtain ⟨result, hresult⟩ := exists_ofPage_of_extenders hplain hvisible hfacts
  have htexts : (Logged.run (ofPage settings r {} page)).1.map (Option.map Value.texts) =
      .ok (some ["https://schema.org", "WebPage", "Fair"]) := by
    decide +kernel
  rw [hresult] at htexts
  exact ⟨result, hresult, Except.ok.inj htexts, by decide +kernel⟩

end

section

attribute [local instance] Slugifier.ascii

/-- An extender takes a page down that has a document without it: one that leaves no object, one
that leaves an index which cannot be read, and one that leaves a whole number which is too long to
be written; and so does one by which a required field comes out empty whose id is no text. -/
theorem ofPage_fails_of_extender :
    let everywhere : Value := .object [("rules", .list ["basic-global"])]
    let webPage : Value := .object [("type", "WebPage"), ("show_on", everywhere),
      ("fields", .object [("name", "%site.title%"), ("alternateName", "No. %site.title%")])]
    let webSite : Value := .object [("type", "WebSite"), ("show_on", everywhere)]
    let page : Page := { kind := .blog, url := "https://example.com/" }
    let r : Registry := (Logged.run (Registry.build false [])).1.toOption.getD {}
    let numbered : Registry := (r.extendFields "WebSite" fun fields =>
      { id := .int 5, required := true, defaultValue := "%site.title%" } :: fields).toOption.getD {}
    let result (r : Registry) (schema : Value) (extenders : List ContextExtender) :=
      (Logged.run (ofPage { schemas := .list [schema] } { r with extenders }
        { content := { site := { title := "Fair" } } } page)).1.map Option.isSome
    result r webPage [] = .ok true ∧
      result r webPage [.replace .null] = .error .notAnObject ∧
      result r webPage [.set ["site", "title"] "%current.breadcrumbs.²%"] =
        .error (.badInteger "²") ∧
      result r webPage [.set ["site", "title"] (.int (Int.pow 10 4300))] = .error .tooLong ∧
      result numbered webSite [] = .ok true ∧
      result numbered webSite [.set ["site", "title"] ""] = .error .mismatched := by
  intro everywhere webPage webSite page r numbered result
  exact ⟨by decide +kernel, by decide +kernel, by decide +kernel, by decide +kernel,
    by decide +kernel, by decide +kernel⟩

end

end Document

end StructuredData
