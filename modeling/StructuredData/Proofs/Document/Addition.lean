import StructuredData.Proofs.Document.Entries
import StructuredData.Proofs.Document.Notices
import StructuredData.Proofs.Document.Shape
import StructuredData.Proofs.Facts.Reference

/-!
# One more schema

A schema that is stored behind the others of a page is shown behind them, and puts one more
reference among the facts.  Where the others do not read this reference, also not by way of the
facts, their nodes stay as they are, and at most one node is added behind them
(`Document.ofPage_append`).
-/

namespace StructuredData

/-- Settings with other schemas for the whole site. -/
def Settings.withSchemas (settings : Settings) (schemas : Value) : Settings :=
  { settings with schemas }

/-- Schemas have the same nodes in contexts that agree at their tokens. -/
theorem Document.nodes_eq_of_agreeAt [Slugifier] {kind : String → Prop} {limits : Limits}
    {c : Catalog}
    {context context' : Value} {ds : List Schema} (h : Value.AgreeAt kind context context')
    (hds : ∀ d ∈ ds, d.Mentions kind) :
    nodes limits c context ds = nodes limits c context' ds :=
  compatible_nodes compatible_eq (fun _ => rfl) limits context' fun d hd =>
    compatible_eq.node (fun _ => rfl) limits context' fun values hvalues _ he =>
      Value.expand_eq_of_agreeAt h fun t ht => hds d hd values hvalues t (Value.tokens_entry he ht)

namespace Document

/-! ## Lists put together -/

/-- A test keeps of two lists what it keeps of the one and then of the other. -/
theorem filterLogged_append {α : Type} (test : α → Logged Bool) (l more : List α) :
    filterLogged test (l ++ more) = do
      let kept ← filterLogged test l
      let others ← filterLogged test more
      return kept ++ others := by
  induction l with
  | nil => simp [filterLogged]
  | cons a rest ih =>
    rw [List.cons_append, filterLogged, filterLogged, ih]
    simp only [bind_assoc, pure_bind]
    refine bind_congr fun keep => bind_congr fun kept => bind_congr fun others => ?_
    cases keep <;> rfl

/-- The nodes of two lists of schemas are those of the one and then of the other. -/
theorem nodes_append [Slugifier] (limits : Limits) (c : Catalog) (context : Value)
    (ds more : List Schema) : nodes limits c context (ds ++ more) = do
      let graph ← nodes limits c context ds
      let others ← nodes limits c context more
      return graph ++ others := by
  induction ds with
  | nil => simp [nodes]
  | cons d rest ih =>
    rw [List.cons_append, nodes, nodes, ih]
    simp only [bind_assoc]
    refine bind_congr fun registered => ?_
    cases registered with
    | true =>
      simp only [if_true, bind_assoc, pure_bind]
      refine bind_congr fun node => bind_congr fun graph => bind_congr fun others => ?_
      cases node.isEmpty <;> rfl
    | false => simp

/-! ## One more entry -/

variable {settings : Settings} {r : Registry} {s : Source} {page : Page} {entries : List Value}
  {e : Value}

/-- One more entry gives at most one more schema, which it describes. -/
theorem exists_of_storedSchemas_append {c : Catalog} {active' : List Schema}
    (h : storedSchemas c (entries ++ [e]) = .ok active') :
    ∃ active more, storedSchemas c entries = .ok active ∧ active' = active ++ more ∧
      more.length ≤ 1 ∧ ∀ d ∈ more, storedSchema c e = .ok d := by
  rw [storedSchemas, List.filter_append] at h
  obtain ⟨active, more, hactive, hmore, rfl⟩ := exists_of_mapM_append_eq_ok h
  refine ⟨active, more, hactive, rfl, ?_⟩
  by_cases he : isEntry e = true
  · rw [List.filter_cons_of_pos he, List.filter_nil, List.mapM_cons] at hmore
    obtain ⟨d, hd, hmore⟩ := exists_of_bind_eq_ok hmore
    cases hmore
    simpa using hd
  · rw [List.filter_cons_of_neg he, List.filter_nil] at hmore
    cases hmore
    simp

/-- One more entry shows at most one more schema, behind the others. -/
theorem exists_of_run_visibleSchemas_append {stored : List ((Owner × Int) × List Value)}
    {schemas : Value} (hset : IsStoredSet settings s page entries)
    (hset' : IsStoredSet (settings.withSchemas schemas) (s.withStored stored) page (entries ++ [e]))
    {visible' : List Schema} {log log' : Log}
    (hrun : runFrom (visibleSchemas (settings.withSchemas schemas) r (s.withStored stored) page)
      log = (.ok visible', log')) :
    ∃ visible more log₁, runFrom (visibleSchemas settings r s page) log = (.ok visible, log₁) ∧
      visible' = visible ++ more ∧ more.length ≤ 1 ∧
      ∀ d ∈ more, storedSchema r.catalog e = .ok d := by
  rw [visibleSchemas] at hrun
  obtain ⟨ctx, hctx, hrun⟩ := exists_of_runFrom_lift_bind hrun
  obtain ⟨active', hactive', hrun⟩ := exists_of_runFrom_lift_bind hrun
  rw [hset'.activeSchemas_eq] at hactive'
  obtain ⟨active, added, hactive, rfl, hlength, hadded⟩ := exists_of_storedSchemas_append hactive'
  -- whether a schema is shown does not depend on the others, so those of the set come first
  rw [filterLogged_append] at hrun
  obtain ⟨visible, log₁, hvisible, hrun⟩ := runFrom_bind_eq_ok hrun
  obtain ⟨more, log₂, hmore, hrun⟩ := runFrom_bind_eq_ok hrun
  cases hrun
  obtain ⟨hsub, -⟩ := sublist_of_run_filterLogged hmore
  refine ⟨visible, more, log₁, ?_, rfl, hsub.length_le.trans hlength, fun d hd =>
    hadded d (hsub.subset hd)⟩
  have hctx' : s.pageContext page = .ok ctx := hctx
  rw [visibleSchemas, hctx', lift_ok_bind, hset.activeSchemas_eq, hactive, lift_ok_bind, hvisible]

/-! ## Documents -/

/-- Whether the schemas shown on a page disregard a slug: it is none of theirs, and no token in
their values or in the facts collected for them leads to the reference under it. -/
structure Disregards [Slugifier] (r : Registry) (s : Source) (page : Page) (visible : List Schema)
    (slug : String) : Prop where
  slug_ne : ∀ d ∈ visible, d.slug ≠ .ok slug
  values : ∀ d ∈ visible, d.Mentions (Template.PassesBy slug)
  facts : ∀ context, (Logged.run (Facts.collect s (some r.freeze) page visible)).1 = .ok context →
    ∀ t ∈ context.tokens, Template.PassesBy slug t

instance [Slugifier] (r : Registry) (s : Source) (page : Page) (visible : List Schema)
    (slug : String) : Decidable (Disregards r s page visible slug) :=
  decidable_of_iff
    ((∀ d ∈ visible, d.slug ≠ .ok slug) ∧
      (∀ d ∈ visible, d.Mentions (Template.PassesBy slug)) ∧
      ∀ context, (Logged.run (Facts.collect s (some r.freeze) page visible)).1 = .ok context →
        ∀ t ∈ context.tokens, Template.PassesBy slug t)
    ⟨fun h => ⟨h.1, h.2.1, h.2.2⟩, fun h => ⟨h.slug_ne, h.values, h.facts⟩⟩

variable {limits : Limits} {c : Catalog} {context context' : Value}

/-- There are no more nodes than schemas. -/
theorem length_le_of_run_nodes [Slugifier] {ds : List Schema} {graph : List Value} {p q : Pass}
    (hrun : runFrom (nodes limits c context ds) p = (.ok graph, q)) :
    graph.length ≤ ds.length := by
  obtain ⟨shown, hsub, hall⟩ := exists_sublist_of_run_nodes hrun
  exact hall.length_eq ▸ hsub.length_le

/-- In a context that agrees with that of some schemas their nodes are the same, and those of others
come behind them. -/
theorem exists_of_run_nodes_of_agreeAt [Slugifier] {kind : String → Prop} {ds more : List Schema}
    {graph graph' : List Value} {log log' : Log} {q q' : Pass}
    (hagree : Value.AgreeAt kind context context') (hds : ∀ d ∈ ds, d.Mentions kind)
    (hrun : runFrom (nodes limits c context ds) { log := log } = (.ok graph, q))
    (hrun' : runFrom (nodes limits c context' (ds ++ more)) { log := log' } = (.ok graph', q')) :
    ∃ others, graph' = graph ++ others ∧ others.length ≤ more.length := by
  rw [nodes_append] at hrun'
  obtain ⟨same, p, hsame, hrun'⟩ := runFrom_bind_eq_ok hrun'
  obtain ⟨others, p', hothers, hrun'⟩ := runFrom_bind_eq_ok hrun'
  cases hrun'
  -- the notices before the two runs may differ, for vetoes are asked about the others as well
  have hequal : (Except.ok same : Except Fault (List Value)) = .ok graph :=
    calc (Except.ok same : Except Fault (List Value))
        = (runFrom (nodes limits c context' ds) { log := log' }).1 := by rw [hsame]
      _ = (runFrom (nodes limits c context ds) {}).1 := by
          rw [run_nodes_log, nodes_eq_of_agreeAt hagree hds]
      _ = .ok graph := by rw [← run_nodes_log limits c context ds log, hrun]
  exact ⟨others, by rw [Except.ok.inj hequal], length_le_of_run_nodes hothers⟩

/-- The facts that are collected for one more schema agree with those without it where the reference
to it is not read. -/
theorem agreeAt_of_run_collect [Slugifier] {stored : List ((Owner × Int) × List Value)}
    {slug : String}
    {visible more : List Schema} {log log' log₁ log₁' : Log} (hextenders : r.extenders = [])
    (hmore : ∀ d ∈ more, d.slug = .ok slug) (hvisible : Disregards r s page visible slug)
    (hrun : runFrom (Facts.collect s (some r.freeze) page visible) log = (.ok context, log₁))
    (hrun' : runFrom (Facts.collect (s.withStored stored) (some r.freeze) page (visible ++ more))
      log' = (.ok context', log₁')) :
    Value.AgreeAt (Template.PassesBy slug) context context' := by
  have hfrozen : r.freeze.extenders = [] := hextenders
  rw [Facts.runFrom_collect hfrozen] at hrun hrun'
  have hcontext := (Prod.mk.inj hrun).1
  have hcontext' := (Prod.mk.inj hrun').1
  refine (Facts.sameButReference_of_collect hmore hcontext hcontext').agreeAt
    (hvisible.facts context ?_)
  show (runFrom (Facts.collect s (some r.freeze) page visible) #[]).1 = .ok context
  rw [Facts.runFrom_collect hfrozen]
  exact hcontext

theorem run_ofPage_of_disabled [Slugifier] (henabled : ¬ settings.enabled = true) :
    (Logged.run (ofPage settings r s page)).1 = .ok none := by
  rw [ofPage, if_neg henabled]
  rfl

/-- The texts in a document are the name of its vocabulary and those in its nodes. -/
theorem texts_of_ofNodes {graph : List Value} {first : String} {texts : List String}
    (h : (ofNodes graph).map Value.texts = some (first :: texts)) :
    graph.flatMap Value.texts = texts := by
  rw [ofNodes] at h
  split at h
  · cases h
  · have hsame := Option.some.inj h
    rw [Value.texts_object] at hsame
    simpa [vocabulary, Value.texts_text, Value.texts_list] using (List.cons.inj hsame).2

/-- **One more schema leaves the nodes of the others alone.**  If its slug is none of theirs and
they do not read the reference under it, the graph of a page with one more stored schema behind the
others is the graph without it and at most one node behind. -/
theorem ofPage_append [Slugifier] {stored : List ((Owner × Int) × List Value)} {schemas : Value}
    {slug : String} {result result' : Option Value}
    (hextenders : r.extenders = []) (hset : IsStoredSet settings s page entries)
    (hset' : IsStoredSet (settings.withSchemas schemas) (s.withStored stored) page (entries ++ [e]))
    (hslug : ∀ d, storedSchema r.catalog e = .ok d → d.slug = .ok slug)
    (hvisible : ∀ visible,
      (Logged.run (visibleSchemas settings r.freeze s page)).1 = .ok visible →
      Disregards r s page visible slug)
    (hresult : (Logged.run (ofPage settings r s page)).1 = .ok result)
    (hresult' :
      (Logged.run (ofPage (settings.withSchemas schemas) r (s.withStored stored) page)).1 =
        .ok result') :
    ∃ graph others, result = ofNodes graph ∧ result' = ofNodes (graph ++ others) ∧
      others.length ≤ 1 := by
  by_cases henabled : settings.enabled = true
  · obtain ⟨log, hrun⟩ : ∃ log, Logged.run (ofPage settings r s page) = (.ok result, log) :=
      ⟨_, Prod.ext hresult rfl⟩
    obtain ⟨log', hrun'⟩ : ∃ log', Logged.run (ofPage (settings.withSchemas schemas) r
        (s.withStored stored) page) = (.ok result', log') :=
      ⟨_, Prod.ext hresult' rfl⟩
    have henabled' : (settings.withSchemas schemas).enabled = true := henabled
    obtain ⟨visible', log₁', hshown', hresult'⟩ := exists_of_run_ofPage_eq_ok henabled' hrun'
    obtain ⟨visible, more, log₁, hshown, rfl, hlength, hmore⟩ :=
      exists_of_run_visibleSchemas_append hset hset' hshown'
    obtain ⟨_, _, hshown₁, hresult⟩ := exists_of_run_ofPage_eq_ok henabled hrun
    cases hshown.symm.trans hshown₁
    have hdisregards := hvisible visible (congrArg Prod.fst hshown)
    rcases hresult with ⟨rfl, rfl⟩ | ⟨hshows, context, graph, log₂, q, hcontext, hnodes, -, rfl⟩
    · -- nothing was shown, so there is nothing but the node of the other schema
      rcases hresult' with ⟨-, rfl⟩ | ⟨-, context', graph', log₂', q', -, hnodes', -, rfl⟩
      · exact ⟨[], [], rfl, rfl, by decide⟩
      · exact ⟨[], graph', rfl, rfl, (length_le_of_run_nodes hnodes').trans hlength⟩
    · rcases hresult' with ⟨hnone, -⟩ | ⟨-, context', graph', log₂', q', hcontext', hnodes', -, rfl⟩
      · exact absurd (List.append_eq_nil_iff.mp hnone).1 hshows
      · -- what is shown without the other schema never reads the reference to it
        have hagree : Value.AgreeAt (Template.PassesBy slug) context context' :=
          agreeAt_of_run_collect hextenders (fun d hd => hslug d (hmore d hd)) hdisregards hcontext
            hcontext'
        obtain ⟨others, rfl, hothers⟩ :=
          exists_of_run_nodes_of_agreeAt hagree hdisregards.values hnodes hnodes'
        exact ⟨graph, others, rfl, rfl, hothers.trans hlength⟩
  · have hdisabled : ¬ (settings.withSchemas schemas).enabled = true := henabled
    rw [run_ofPage_of_disabled henabled] at hresult
    rw [run_ofPage_of_disabled hdisabled] at hresult'
    cases hresult
    cases hresult'
    exact ⟨[], [], rfl, rfl, by decide⟩

section

attribute [local instance] Slugifier.ascii

/-- An event behind a page that refers to its site. -/
theorem ofPage_append_of_event :
    let everywhere : Value := .object [("rules", .list ["basic-global"])]
    let webPage : Value := .object [("type", "WebPage"), ("show_on", everywhere),
      ("fields", .object [("name", "Start"), ("isPartOf", "%schemas.home%")])]
    let webSite : Value := .object [("type", "WebSite"), ("title", "Home"), ("show_on", everywhere),
      ("fields", .object [("@id", "%current.url%#%id%"), ("name", "Example")])]
    let event : Value := .object [("type", "Event"), ("title", "Fair"), ("show_on", everywhere),
      ("fields", .object [("@id", "%current.url%#%id%"), ("name", "Fair")])]
    let r := (Logged.run (Registry.build false [])).1.toOption.getD {}
    let page : Page := { kind := .blog, url := "https://example.com/" }
    let settings : Settings := { schemas := .list [webPage, webSite] }
    let settings' := settings.withSchemas (.list ([webPage, webSite] ++ [event]))
    ∃ graph others result,
      result.map Value.texts = some ["https://schema.org", "WebPage", "Start",
        "https://example.com/#home", "WebSite", "https://example.com/#home", "Example"] ∧
      result = ofNodes graph ∧ others.length ≤ 1 ∧
      (Logged.run (ofPage settings r {} page)).1 = .ok result ∧
      (Logged.run (ofPage settings' r (Source.withStored {} []) page)).1 =
        .ok (ofNodes (graph ++ others)) := by
  intro everywhere webPage webSite event r page settings settings'
  have hset : IsStoredSet settings {} page [webPage, webSite] :=
    ⟨List.cons_ne_nil _ _, .inr ⟨rfl, rfl⟩⟩
  have hset' : IsStoredSet settings' (Source.withStored {} []) page
      ([webPage, webSite] ++ [event]) :=
    ⟨List.cons_ne_nil _ _, .inr ⟨rfl, rfl⟩⟩
  have hfair : ∀ d, storedSchema r.catalog event = .ok d → d.slug = .ok "fair" := by
    decide +kernel
  have hvisible : ∀ visible,
      (Logged.run (visibleSchemas settings r.freeze {} page)).1 = .ok visible →
      Disregards r {} page visible "fair" := by
    decide +kernel
  have hresult : (Logged.run (ofPage settings r {} page)).1.map (Option.map Value.texts) =
      .ok (some ["https://schema.org", "WebPage", "Start",
        "https://example.com/#home", "WebSite", "https://example.com/#home", "Example"]) := by
    decide +kernel
  have hresult' : (Logged.run (ofPage settings' r (Source.withStored {} []) page)).1.map
      Option.isSome = .ok true := by
    decide +kernel
  obtain ⟨result, hrun, htexts⟩ := exists_of_map_eq_ok hresult
  obtain ⟨result', hrun', -⟩ := exists_of_map_eq_ok hresult'
  obtain ⟨graph, others, hgraph, rfl, hlength⟩ := ofPage_append rfl hset hset' hfair hvisible
    hrun hrun'
  exact ⟨graph, others, result, htexts, hgraph, hlength, hrun, hrun'⟩

end

section

attribute [local instance] Slugifier.ascii

/-- A slug that is put into an `@id` can complete a reference to another schema. -/
theorem ofPage_append_ne_of_slug_put :
    let everywhere : Value := .object [("rules", .list ["basic-global"])]
    let entry (type title id name : String) : Value :=
      .object [("type", .text type), ("title", .text title), ("show_on", everywhere),
        ("fields", .object [("@id", .text id), ("name", .text name)])]
    let entries := [entry "WebPage" "mas" "%sche%id%.d2%" "One",
      entry "WebPage" "mas" "%current.url%#%id%" "Two"]
    let e := entry "WebSite" "d2" "%current.url%#%id%" "Three"
    let r := (Logged.run (Registry.build false [])).1.toOption.getD {}
    let page : Page := { kind := .blog, url := "https://example.com/" }
    let settings : Settings := { schemas := .list entries }
    let settings' := settings.withSchemas (.list (entries ++ [e]))
    r.extenders = [] ∧ IsStoredSet settings {} page entries ∧
      IsStoredSet settings' {} page (entries ++ [e]) ∧
      (∀ d, storedSchema r.catalog e = .ok d → d.slug = .ok "d2") ∧
      (∀ visible, (Logged.run (visibleSchemas settings r.freeze {} page)).1 = .ok visible →
        (∀ d ∈ visible, d.slug ≠ .ok "d2" ∧ ∀ values, d.effectiveValues = .ok values →
          ∀ t ∈ values.tokens, Template.PassesBy "d2" t) ∧
        ∀ context, (Logged.run (Facts.collect {} (some r.freeze) page visible)).1 = .ok context →
          ∀ t ∈ context.tokens, Template.PassesBy "d2" t) ∧
      ∃ result result', (Logged.run (ofPage settings r {} page)).1 = .ok result ∧
        (Logged.run (ofPage settings' r {} page)).1 = .ok result' ∧
        ¬ ∃ graph others, result = ofNodes graph ∧ result' = ofNodes (graph ++ others) := by
  intro everywhere entry entries e r page settings settings'
  have hslug : ∀ d, storedSchema r.catalog e = .ok d → d.slug = .ok "d2" := by decide +kernel
  have hvisible : ∀ visible,
      (Logged.run (visibleSchemas settings r.freeze {} page)).1 = .ok visible →
      (∀ d ∈ visible, d.slug ≠ .ok "d2" ∧ ∀ values, d.effectiveValues = .ok values →
        ∀ t ∈ values.tokens, Template.PassesBy "d2" t) ∧
      ∀ context, (Logged.run (Facts.collect {} (some r.freeze) page visible)).1 = .ok context →
        ∀ t ∈ context.tokens, Template.PassesBy "d2" t := by
    decide +kernel
  have hresult : (Logged.run (ofPage settings r {} page)).1.map (Option.map Value.texts) =
      .ok (some ["https://schema.org", "WebPage", "One", "WebPage", "https://example.com/#mas",
        "Two"]) := by
    decide +kernel
  have hresult' : (Logged.run (ofPage settings' r {} page)).1.map (Option.map Value.texts) =
      .ok (some ["https://schema.org", "WebPage", "https://example.com/#d2", "One", "WebPage",
        "https://example.com/#mas", "Two", "WebSite", "https://example.com/#d2", "Three"]) := by
    decide +kernel
  obtain ⟨result, hrun, htexts⟩ := exists_of_map_eq_ok hresult
  obtain ⟨result', hrun', htexts'⟩ := exists_of_map_eq_ok hresult'
  refine ⟨rfl, ⟨List.cons_ne_nil _ _, .inr ⟨rfl, rfl⟩⟩, ⟨List.cons_ne_nil _ _, .inr ⟨rfl, rfl⟩⟩,
    hslug, hvisible, result, result', hrun, hrun', ?_⟩
  rintro ⟨graph, others, rfl, rfl⟩
  have hgraph := texts_of_ofNodes htexts
  have hgraph' := texts_of_ofNodes htexts'
  rw [List.flatMap_append, hgraph] at hgraph'
  simp at hgraph'

end

end Document

end StructuredData
