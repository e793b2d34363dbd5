import StructuredData.Proofs.Document.Nodes
import StructuredData.Proofs.Facts.Collect
import StructuredData.Proofs.Schema.Links
import StructuredData.Proofs.Schema.OwnId

/-!
# References and the nodes of a document

The facts for a page offer a reference to each schema that is shown on it, but the document has a
node with the `@id` of the reference only if the type of the schema is registered and an `@id` is
stored for it, unless another schema happens to have the same one (`Document.names_link_iff`).
-/

namespace StructuredData

open Expansion

namespace Document

/-- Whether a node of a graph has a given `@id`. -/
def Names (graph : List Value) (id : Value) : Prop :=
  ∃ node : Fields, .object node ∈ graph ∧ node.get? "@id" = some id

/-- Whether a schema puts a node with a given `@id` into a document. -/
def PublishesId [Slugifier] (limits : Limits) (c : Catalog) (context : Value) (d : Schema)
    (id : Value) : Prop :=
  ∃ node, Publishes limits c context d node ∧ node.get? "@id" = some id

/-- No schema has an `@id` that would be cut from its node. -/
theorem isDropped_of_publishesId [Slugifier] {limits : Limits} {c : Catalog} {context : Value}
    {d : Schema} {id : Value} (h : PublishesId limits c context d id) : id.isDropped = false := by
  obtain ⟨node, ⟨-, halone, -⟩, hid⟩ := h
  obtain ⟨k, -, hmem⟩ := Assoc.exists_mem_of_lookup hid
  rcases hnode : (d.node limits context).alone with ⟨own, r⟩
  rw [hnode] at halone
  cases halone
  exact Schema.isDropped_of_mem_node hnode hmem

section Graph

variable [Slugifier] {limits : Limits} {c : Catalog} {context : Value} {ds : List Schema}
  {graph : List Value} {p q : Pass} (hp : p.exhausted = false)
  (hrun : runFrom (nodes limits c context ds) p = (.ok graph, q))
  (hq : ∀ n ∈ q.log, n.isOutOfSteps = false)

include hp hrun hq

/-- The ids in a graph are those of the nodes that schemas put there. -/
theorem names_iff_exists {id : Value} :
    Names graph id ↔ ∃ d ∈ ds, PublishesId limits c context d id := by
  constructor
  · rintro ⟨node, hnode, hid⟩
    obtain ⟨d, hd, node', hpub, heq⟩ := (mem_nodes hp hrun hq).mp hnode
    cases heq
    exact ⟨d, hd, node, hpub, hid⟩
  · rintro ⟨d, hd, node, hpub, hid⟩
    exact ⟨node, (mem_nodes hp hrun hq).mpr ⟨d, hd, node, hpub, rfl⟩, hid⟩

variable {d : Schema} (hd : d ∈ ds) {template : String} (htemplate : d.idTemplate = .ok template)

include hd htemplate

/-- The template of a schema that is rendered with a stored `@id` comes to something. -/
theorem exists_of_storesId (hreg : c.contains d.type = .ok true) (hstores : d.StoresId) :
    ∃ id, ((Value.text template).expand limits context).alone.1 = .ok id := by
  obtain ⟨values, stored, hvalues, hstored, hne⟩ := hstores
  obtain ⟨published, hpublished, hget⟩ :=
    Schema.fieldValues_of_idTemplate hvalues hstored hne htemplate
  obtain ⟨node, own, hnode, hown⟩ := exists_alone_of_run_nodes hp hrun hq hd hreg
  obtain ⟨w, s, halone, -⟩ := Schema.exists_comesTo_of_get? rfl hnode
    (fun n hn => hq n (hown n hn)) hpublished hget
  exact ⟨w, congrArg Prod.fst halone⟩

/-- A schema puts a node with the `@id` of its reference into a document if and only if its type is
registered, an `@id` is stored for it, and this is neither made a list nor cut. -/
theorem publishesId_iff {id : Value}
    (hexpand : ((Value.text template).expand limits context).alone.1 = .ok id)
    (hkeys : ∀ values : Fields, d.effectiveValues = .ok (.object values) →
      (Assoc.keys values).Nodup) :
    PublishesId limits c context d id.prune ↔ c.contains d.type = .ok true ∧ d.StoresId ∧
      id.listedIf (d.repeats "@id") = id ∧ id.prune.isDropped = false := by
  constructor
  · rintro ⟨node, ⟨hreg, halone, -⟩, hid⟩
    obtain ⟨own, r, hnode, hown⟩ := exists_alone_of_run_nodes hp hrun hq hd hreg
    rw [hnode] at halone
    cases halone
    exact ⟨hreg, (Schema.get?_id_node_iff htemplate hexpand hnode (fun n hn => hq n (hown n hn))
      hkeys).mp hid⟩
  · rintro ⟨hreg, hstores⟩
    obtain ⟨node, r, hnode, hown⟩ := exists_alone_of_run_nodes hp hrun hq hd hreg
    have hid := (Schema.get?_id_node_iff htemplate hexpand hnode (fun n hn => hq n (hown n hn))
      hkeys).mpr hstores
    refine ⟨node, ⟨hreg, congrArg Prod.fst hnode, ?_⟩, hid⟩
    cases node with
    | nil => cases hid
    | cons => rfl

end Graph

/-- **When a reference names a node of the document.**  Without extenders, if a page has a document
and no warning is given: each reference among the facts is offered by a schema that is shown.  If
this is of a registered type and has an `@id` stored, the reference comes to something; and what any
reference comes to is the `@id` of a node of the document if and only if it would not be cut from
the node, and either the type of the schema is registered, an `@id` stored for it and no list made
of this, or another schema puts a node with this `@id` into the document. -/
theorem names_link_iff [Slugifier] {settings : Settings} {r : Registry} {s : Source} {page : Page}
    {document : Value} {log : Log} (hextenders : r.extenders = [])
    (hrun : Logged.run (ofPage settings r s page) = (.ok (some document), log))
    (hquiet : ∀ n ∈ log, n.isWarning = false) :
    ∃ (visible : List Schema) (facts links : Fields) (graph : List Value),
      (Logged.run (visibleSchemas settings r.freeze s page)).1 = .ok visible ∧
      (Logged.run (Facts.collect s (some r.freeze) page visible)).1 = .ok (.object facts) ∧
      facts.get? "schemas" = some (.object links) ∧
      document = .object [("@context", vocabulary), ("@graph", .list graph)] ∧
      ∀ e ∈ links, ∃ slug, e.1 = .text slug ∧ (∃ d ∈ visible, d.Offers slug e.2) ∧
        ∀ d ∈ visible, d.Offers slug e.2 →
          (r.catalog.contains d.type = .ok true ∧ d.StoresId →
            ∃ id, (e.2.expand settings.limits (.object facts)).alone.1 =
              .ok (.object [("@id", id)])) ∧
          ((∀ values : Fields, d.effectiveValues = .ok (.object values) →
              (Assoc.keys values).Nodup) →
            ∀ id, (e.2.expand settings.limits (.object facts)).alone.1 =
                .ok (.object [("@id", id)]) →
              (Names graph id.prune ↔ id.prune.isDropped = false ∧
                ((r.catalog.contains d.type = .ok true ∧ d.StoresId ∧
                    id.listedIf (d.repeats "@id") = id) ∨
                  ∃ d' ∈ visible, d' ≠ d ∧
                    PublishesId settings.limits r.catalog (.object facts) d' id.prune))) := by
  obtain ⟨visible, context, graph, log₁, log₂, q, hvisible, hcontext, hnodes, rfl, hdocument⟩ :=
    exists_of_run_ofPage hrun
  have hfrozen : r.freeze.extenders = [] := hextenders
  rw [Facts.runFrom_collect hfrozen] at hcontext
  obtain ⟨facts, links, rfl, hlinks, hget⟩ :=
    Facts.exists_links_of_collect (Prod.mk.inj hcontext).1
  have hq : ∀ n ∈ q.log, n.isOutOfSteps = false := fun n hn =>
    Notice.isOutOfSteps_of_isWarning (hquiet n hn)
  refine ⟨visible, facts, links, graph, congrArg Prod.fst hvisible, ?_, hget,
    graph_of_ofNodes hdocument, ?_⟩
  · show (runFrom (Facts.collect s (some r.freeze) page visible) #[]).1 = _
    rw [Facts.runFrom_collect hfrozen]
    exact (Prod.mk.inj hcontext).1
  · intro e he
    obtain ⟨d₀, hd₀, slug, hslug, hoffers₀⟩ := Schema.exists_offers_of_mem_links hlinks he
    refine ⟨slug, hslug, ⟨d₀, hd₀, hoffers₀⟩, ?_⟩
    rintro d hd ⟨template, -, htemplate, hlink⟩
    rw [hlink, Value.alone_expand_link]
    constructor
    · rintro ⟨hreg, hstores⟩
      obtain ⟨id, hid⟩ := exists_of_storesId rfl hnodes hq hd htemplate hreg hstores
      rw [hid]
      exact ⟨id, rfl⟩
    · intro hkeys id hid
      obtain ⟨w, hexpand, hwid⟩ := exists_of_map_eq_ok hid
      cases hwid
      have hown := publishesId_iff rfl hnodes hq hd htemplate hexpand hkeys
      rw [names_iff_exists rfl hnodes hq]
      constructor
      · rintro ⟨d', hd', hpub⟩
        refine ⟨isDropped_of_publishesId hpub, ?_⟩
        -- the node is put there by the schema that offers the reference, or by another one
        by_cases hsame : d' = d
        · rw [hsame] at hpub
          obtain ⟨hreg, hstores, hlisted, -⟩ := hown.mp hpub
          exact Or.inl ⟨hreg, hstores, hlisted⟩
        · exact Or.inr ⟨d', hd', hsame, hpub⟩
      · rintro ⟨hkept, ⟨hreg, hstores, hlisted⟩ | ⟨d', hd', -, hpub⟩⟩
        · exact ⟨d, hd, hown.mpr ⟨hreg, hstores, hlisted, hkept⟩⟩
        · exact ⟨d', hd', hpub⟩

section

attribute [local instance] Slugifier.ascii

/-- A page that refers to a schema of an unregistered type: the reference names no node. -/
theorem names_link_iff_of_unregistered :
    let everywhere : Value := .object [("rules", .list ["basic-global"])]
    let values : Value :=
      .object [("@id", "%current.url%#%id%"), ("mainEntity", "%schemas.fair%")]
    let settings : Settings :=
      { schemas := .list [
          .object [("type", "WebPage"), ("show_on", everywhere), ("fields", values)],
          .object [("type", "Event"), ("title", "Fair"), ("show_on", everywhere)]] }
    let webPage : SchemaType := { name := "WebPage", title := .ok "WebPage", showOn := .ok {} }
    let registry : Registry := { catalog := { types := [("WebPage", webPage)] } }
    let page : Page := { kind := .blog, url := "/" }
    let shown : List Schema := [
      { title := "WebPage", type := "WebPage", showOn := { rules := ["basic-global"] }, values },
      { title := "Fair", type := "Event", showOn := { rules := ["basic-global"] } }]
    ∃ (facts links : Fields) (graph : List Value) (log : Log),
      Logged.run (ofPage settings registry {} page) =
        (.ok (some (.object [("@context", vocabulary), ("@graph", .list graph)])), log) ∧
      (∀ n ∈ log, n.isWarning = false) ∧
      (Logged.run (Facts.collect {} (some registry.freeze) page shown)).1 = .ok (.object facts) ∧
      facts.get? "schemas" = some (.object links) ∧
      (∃ link, links.get? "fair" = some link ∧
        (link.expand settings.limits (.object facts)).alone.1 =
          .ok (.object [("@id", "/#fair")])) ∧
      ¬ Names graph "/#fair" := by
  intro everywhere values settings webPage registry page shown
  have hrun : Logged.run (ofPage settings registry {} page) =
      (.ok (some (.object [("@context", vocabulary), ("@graph", .list [
        .object [("@type", "WebPage"), ("@id", "/#webpage"),
          ("mainEntity", .object [("@id", "/#fair")])]])])),
        #[.unregistered "Fair" "Event"]) := by cbv
  have hquiet : ∀ n ∈ #[Notice.unregistered "Fair" "Event"], n.isWarning = false := by
    simp [Notice.isWarning, Notice.level]
  obtain ⟨visible, facts, links, graph, hvisible, hfacts, hlinks, hdocument, -⟩ :=
    names_link_iff rfl hrun hquiet
  have hshown : (Logged.run (visibleSchemas settings registry.freeze {} page)).1 = .ok shown := by
    cbv
  obtain rfl := Except.ok.inj (hvisible.symm.trans hshown)
  refine ⟨facts, links, graph, _, ?_, hquiet, hfacts, hlinks, ?_, ?_⟩
  · rw [← hdocument]
    exact hrun
  · have hcollected : (Logged.run (Facts.collect {} (some registry.freeze) page shown)).1 =
        .ok (.object [("post", .object []), ("term", .object []), ("author", .object []),
          ("user", .object []),
          ("site", .object [("title", ""), ("description", ""), ("url", ""),
            ("language", "en_US"), ("icon", "")]),
          ("current", .object [("url", "/"), ("title", ""), ("breadcrumbs", .list [
            .object [("@type", "ListItem"), ("position", .int 1),
              ("item", .object [("@id", ""), ("name", "Home")])]])]),
          ("schemas", .object [("webpage", .object [("@id", "%current.url%#webpage")]),
            ("fair", .object [("@id", "%current.url%#fair")])])]) := by cbv
    cases hfacts.symm.trans hcollected
    cases hlinks
    exact ⟨_, rfl, by cbv⟩
  · cases hdocument
    rintro ⟨node, hnode, hid⟩
    cases List.mem_singleton.mp hnode
    have hsame : Value.text "/#webpage" = Value.text "/#fair" := Option.some.inj hid
    simp at hsame

end

end Document

end StructuredData
