import StructuredData.Proofs.Document.Shape
import StructuredData.Proofs.Facts.Trail
import StructuredData.Proofs.Registry.Build
import StructuredData.Proofs.Template.Placeholder

/-!
# The trail in a document

On the way from the facts into a node the items of a trail are expanded and pruned.  Each keeps its
type and its position on this way, so that none of them is cut and the positions stay a count from
one (`Document.trail_of_run`).
-/

namespace StructuredData

open Expansion

variable {limits : Limits} {context : Value}

/-! ## List items -/

namespace Trail

/-- Whether an item of a node is what the list item of a crumb at a place is rendered to: its link
and its name, with the texts in them expanded, and without what is empty. -/
def Renders (limits : Limits) (context : Value) (c : Crumb) (place : Nat) (item : Value) : Prop :=
  ∃ depth link name,
    CanGive (c.link.traverseTexts
      (Template.expandText limits context depth ["current.breadcrumbs"])) link ∧
    CanGive (c.name.cleaned.traverseTexts
      (Template.expandText limits context depth ["current.breadcrumbs"])) name ∧
    item = (listItem place link name).prune

/-- A pruned list item still has its type and its position. -/
theorem prune_listItem (place : Nat) (link name : Value) :
    (listItem place link name).prune = .object (("@type", .text "ListItem") ::
      ("position", .int place) :: Value.pruneFields
        [("item", .object [("@id", link), ("name", name)])]) := by
  rw [listItem, Value.prune, Value.pruneFields, Value.pruneFields]
  rfl

/-- A list item is not cut. -/
theorem isDropped_prune_listItem (place : Nat) (link name : Value) :
    (listItem place link name).prune.isDropped = false := by
  rw [prune_listItem]
  rfl

theorem partAt_type_prune_listItem (place : Nat) (link name : Value) :
    (listItem place link name).prune.partAt ["@type"] = .ok "ListItem" := by
  rw [prune_listItem]
  rfl

theorem partAt_position_prune_listItem (place : Nat) (link name : Value) :
    (listItem place link name).prune.partAt ["position"] = .ok (.int place) := by
  rw [prune_listItem]
  rfl

/-- Going through a list item changes its link and its name. -/
theorem exists_of_canGive_listItem {f : String → Expansion Value}
    (hf : f "ListItem" = pure (.text "ListItem")) {place : Nat} {link name w : Value}
    (h : CanGive ((listItem place link name).traverseTexts f) w) :
    ∃ link' name', CanGive (link.traverseTexts f) link' ∧ CanGive (name.traverseTexts f) name' ∧
      w = listItem place link' name' := by
  obtain ⟨fields, rfl, hfields⟩ := Value.exists_of_canGive_object h
  obtain ⟨type, rest, htype, hrest, rfl⟩ := Value.exists_of_canGive_fields_cons hfields
  obtain ⟨position, rest', hposition, hrest', rfl⟩ := Value.exists_of_canGive_fields_cons hrest
  obtain ⟨item, last, hitem, hlast, rfl⟩ := Value.exists_of_canGive_fields_cons hrest'
  obtain ⟨parts, rfl, hparts⟩ := Value.exists_of_canGive_object hitem
  obtain ⟨link', rest'', hlink, hrest'', rfl⟩ := Value.exists_of_canGive_fields_cons hparts
  obtain ⟨name', last', hname, hlast', rfl⟩ := Value.exists_of_canGive_fields_cons hrest''
  rw [Value.traverseTexts, hf] at htype
  rw [Value.traverseFields] at hlast hlast'
  obtain rfl := htype.eq_of_pure
  obtain rfl : position = .int place := hposition.eq_of_pure
  obtain rfl := hlast.eq_of_pure
  obtain rfl := hlast'.eq_of_pure
  exact ⟨link', name', hlink, hname, rfl⟩

/-- What the list items of a trail come to is a list of their renderings, of which none is cut. -/
theorem exists_renders_of_canGive {depth : Nat} {crumbs : List Crumb} {w : Value}
    (h : CanGive ((Value.list (listItems (crumbs.map Facts.cleanCrumb))).traverseTexts
      (Template.expandText limits context depth ["current.breadcrumbs"])) w) :
    w.listed = w ∧ ∃ items, w.prune = .list items ∧
      List.Forall₂ (fun (e : Crumb × Nat) item => Renders limits context e.1 e.2 item)
        (crumbs.zipIdx 1) items := by
  have htype : Template.expandText limits context depth ["current.breadcrumbs"] "ListItem" =
      pure (.text "ListItem") := Template.expandText_of_isEmpty rfl
  obtain ⟨items, rfl, hitems⟩ := Value.exists_of_canGive_list h
  rw [listItems_map, List.forall₂_map_left_iff] at hitems
  have hrenders := hitems.imp fun e v hv => exists_of_canGive_listItem htype hv
  have hkept : ∀ v ∈ items, v.prune.isDropped = false := by
    intro v hv
    obtain ⟨e, -, link, name, -, -, rfl⟩ := exists_mem_left_of_forall₂ hrenders hv
    exact isDropped_prune_listItem e.2 link name
  refine ⟨rfl, items.map Value.prune, by rw [Value.prune, Value.pruneItems_eq_map hkept], ?_⟩
  rw [List.forall₂_map_right_iff]
  refine hrenders.imp fun e v hv => ?_
  obtain ⟨link, name, hlink, hname, rfl⟩ := hv
  exact ⟨depth, link, name, hlink, hname, rfl⟩

end Trail

/-! ## Built-in types -/

/-- Whether values have no list items but those of the trail. -/
def Fields.listOnlyTrail (values : Fields) : Bool :=
  values.all fun e => !(Scalar.text "itemListElement" == e.1) || e.2.isText "%current.breadcrumbs%"

/-- The values of built-in types have no list items but those of the trail. -/
theorem SchemaType.listOnlyTrail_builtin [Slugifier] {t : SchemaType} (ht : t ∈ builtin true)
    {values : Fields} (hvalues : t.values = .ok values) : values.listOnlyTrail = true := by
  have hall : ∀ t ∈ builtin true,
      (t.defaults.map Fields.listOnlyTrail).toOption.getD true = true := by decide +kernel
  obtain ⟨defaults, hdefaults, hsame⟩ := exists_defaults_of_values hvalues
  have honly : defaults.listOnlyTrail = true := holds_of_builtin hall ht hdefaults
  rcases hsame with rfl | ⟨id, slug, -, -, rfl⟩
  · exact honly
  · -- an `@id` is no list of items, whatever slug is in it
    refine List.all_eq_true.mpr fun e he => ?_
    rcases Assoc.mem_set he with he | ⟨hkey, -⟩
    · exact List.all_eq_true.mp honly e he
    · have hother : (Scalar.text "itemListElement" == e.1) = false := by
        rw [(Scalar.text_beq_iff "@id" e.1).mp hkey]
        decide
      simp [hother]

theorem Fields.eq_of_listOnlyTrail {values : Fields} (h : values.listOnlyTrail = true)
    {v : Value} (hv : (.text "itemListElement", v) ∈ values) :
    v = .text "%current.breadcrumbs%" := by
  have hv := List.all_eq_true.mp h _ hv
  simpa [Value.isText_iff] using hv

namespace Document

variable {settings : Settings} {r : Registry} {s : Source} {page : Page}

/-- The list items in a node of a schema that has none but those of the trail. -/
theorem forall₂_renders_of_mem_node [Slugifier] {facts currentFacts : Fields} {crumbs : List Crumb}
    (hcurrent : facts.get? "current" = some (.object currentFacts))
    (htrail : currentFacts.get? "breadcrumbs" =
      some (.list (Trail.listItems (crumbs.map Facts.cleanCrumb))))
    {d : Schema} (hd : ∀ values, d.fieldValues = .ok values → values.listOnlyTrail = true)
    {node : Fields} {p q : Pass}
    (hrun : runFrom (d.node limits (.object facts)) p = (.ok node, q)) {items : List Value}
    (hitems : node.get? "itemListElement" = some (.list items)) :
    List.Forall₂ (fun (e : Crumb × Nat) item =>
      Trail.Renders limits (.object facts) e.1 e.2 item) (crumbs.zipIdx 1) items := by
  obtain ⟨k, hk, hmem⟩ := Assoc.exists_mem_of_lookup hitems
  obtain rfl := (Scalar.text_beq_iff _ _).mp hk
  obtain ⟨values, v, w, hvalues, hv, hgive, hw⟩ :=
    Schema.exists_canGive_of_mem_node hrun hmem (by simp)
  obtain rfl := Fields.eq_of_listOnlyTrail (hd values hvalues) hv
  have hat : (Value.object facts).at (Path.ofToken "current.breadcrumbs") =
      .ok (.list (Trail.listItems (crumbs.map Facts.cleanCrumb))) := by
    have hpath : Path.ofToken "current.breadcrumbs" = [.text "current", .text "breadcrumbs"] := rfl
    rw [hpath, Value.at_member hcurrent, htrail]
    rfl
  have htoken : Template.IsToken "current.breadcrumbs" :=
    Template.isToken_of_all (by decide) (by decide)
  rw [Value.expand_text] at hgive
  rcases Template.eq_or_exists_of_canGive_placeholder htoken hat rfl hgive with
    rfl | ⟨left, hgive⟩
  · rcases hw with hw | hw <;> cases hw
  · obtain ⟨hlisted, items', hprune, hall⟩ := Trail.exists_renders_of_canGive hgive
    rw [hlisted, or_self, hprune] at hw
    cases hw
    exact hall

/-- Where no schemas are stored, each schema that is shown has the values of a built-in type. -/
theorem exists_builtin_of_mem_visible [Slugifier] {sells : Bool}
    (hextensions : r.catalog.extensions = [])
    (htypes : ∀ e ∈ r.catalog.types, e.2 ∈ SchemaType.builtin sells)
    (hschemas : settings.schemas.truthy = false) (hstored : s.storedSchemas page = [])
    {visible : List Schema} {log log' : Log}
    (hvisible : runFrom (visibleSchemas settings r s page) log = (.ok visible, log')) {d : Schema}
    (hd : d ∈ visible) : ∃ t ∈ SchemaType.builtin true, d.fieldValues = t.values := by
  obtain ⟨ctx, active, -, hactive, hsub, -⟩ := exists_of_run_visibleSchemas hvisible
  have hcatalog : r.catalog.all = .ok active := by
    rw [activeSchemas, hstored] at hactive
    simpa [hschemas] using hactive
  exact Catalog.exists_builtin_of_mem_all hextensions htypes hcatalog (hsub.subset hd)

/-- The lists of items in the nodes of a graph. -/
def itemLists (graph : List Value) : List (List Value) :=
  graph.filterMap fun v =>
    match v.partAt ["itemListElement"] with
    | .ok (.list items) => some items
    | _ => none

theorem exists_of_mem_itemLists {graph : List Value} {items : List Value}
    (h : items ∈ itemLists graph) :
    ∃ v ∈ graph, v.partAt ["itemListElement"] = .ok (.list items) := by
  obtain ⟨v, hv, hlist⟩ := List.mem_filterMap.mp h
  split at hlist
  · rename_i items' hpart
    cases hlist
    exact ⟨v, hv, hpart⟩
  · cases hlist

/-- **The positions in a rendered trail are a count from one.**  With the built-in types, whatever
the limits are, and no schemas stored for the site or for what the page is about: wherever a node of
the document of a page has a list of items, this has one item for each crumb of the trail, in this
order and of the type for list items, and the positions count the crumbs, of which there is at least
one.  The rest of an item is the link and the name of its crumb, expanded among the facts for the
page and pruned. -/
theorem trail_of_run [Slugifier] {sells : Bool} {log₀ log : Log} {document : Value}
    (hr : Logged.run (Registry.build sells []) = (.ok r, log₀))
    (hschemas : settings.schemas.truthy = false) (hstored : s.storedSchemas page = [])
    (hrun : Logged.run (ofPage settings r s page) = (.ok (some document), log)) :
    ∃ visible context crumbs graph,
      (Logged.run (visibleSchemas settings r.freeze s page)).1 = .ok visible ∧
      (Logged.run (Facts.collect s (some r.freeze) page visible)).1 = .ok context ∧
      Trail.ofPage s page = .ok crumbs ∧ crumbs ≠ [] ∧
      document = .object [("@context", vocabulary), ("@graph", .list graph)] ∧
      ∀ items ∈ itemLists graph,
        List.Forall₂ (fun (e : Crumb × Nat) item =>
          item.partAt ["@type"] = .ok "ListItem" ∧ item.partAt ["position"] = .ok (.int e.2) ∧
          Trail.Renders settings.limits context e.1 e.2 item) (crumbs.zipIdx 1) items := by
  obtain ⟨hextenders, -, hextensions, htypes⟩ := Registry.exists_of_run_build hr
  rw [List.append_nil] at htypes
  obtain ⟨visible, context, graph, log₁, log₂, q, hvisible, hcontext, hnodes, -, hdocument⟩ :=
    exists_of_run_ofPage hrun
  have hfrozen : r.freeze.extenders = [] := hextenders
  rw [Facts.runFrom_collect hfrozen] at hcontext
  obtain ⟨facts, currentFacts, crumbs, rfl, hcrumbs, hcurrent, htrail⟩ :=
    Facts.exists_trail_of_collect (Prod.mk.inj hcontext).1
  refine ⟨visible, .object facts, crumbs, graph, congrArg Prod.fst hvisible, ?_, hcrumbs, ?_,
    graph_of_ofNodes hdocument, ?_⟩
  · show (runFrom (Facts.collect s (some r.freeze) page visible) #[]).1 = _
    rw [Facts.runFrom_collect hfrozen]
    exact (Prod.mk.inj hcontext).1
  · obtain ⟨t, after, -, -, rfl⟩ := Trail.ofPage_eq_ok_iff.mp hcrumbs
    exact List.cons_ne_nil _ _
  · intro items hmem
    obtain ⟨v, hv, hpart⟩ := exists_of_mem_itemLists hmem
    obtain ⟨shown, hshown, hall⟩ := exists_sublist_of_run_nodes hnodes
    obtain ⟨d, hd, -, node, p, q, hnode, -, rfl⟩ := exists_mem_left_of_forall₂ hall hv
    have hitems : node.get? "itemListElement" = some (.list items) :=
      Value.get?_of_partAt hpart
    obtain ⟨type, htype, hsame⟩ := exists_builtin_of_mem_visible hextensions htypes hschemas
      hstored hvisible (hshown.subset hd)
    have honly : ∀ values, d.fieldValues = .ok values → values.listOnlyTrail = true :=
      fun values hvalues => SchemaType.listOnlyTrail_builtin htype (hsame ▸ hvalues)
    refine (forall₂_renders_of_mem_node hcurrent htrail honly hnode hitems).imp fun e item he => ?_
    obtain ⟨depth, link, name, hlink, hname, rfl⟩ := he
    exact ⟨Trail.partAt_type_prune_listItem e.2 link name,
      Trail.partAt_position_prune_listItem e.2 link name, depth, link, name, hlink, hname, rfl⟩

section

attribute [local instance] Slugifier.ascii

/-- A page for a date whose title comes to nothing: the item for it keeps its place. -/
theorem trail_of_run_of_date :
    let s : Source :=
      { content := { site := { title := "Example", url := "https://example.com/" } } }
    let page : Page := { kind := .dateArchive, url := "https://example.com/2026/", title := "<br>" }
    let r := (Logged.run (Registry.build false [])).1.toOption.getD {}
    ∃ document log visible context crumbs graph items,
      Logged.run (ofPage {} r s page) = (.ok (some document), log) ∧
      (Logged.run (visibleSchemas {} r.freeze s page)).1 = .ok visible ∧
      (Logged.run (Facts.collect s (some r.freeze) page visible)).1 = .ok context ∧
      Trail.ofPage s page = .ok crumbs ∧ (crumbs.map fun c => c.name.cleanText) = ["Home", ""] ∧
      document = .object [("@context", vocabulary), ("@graph", .list graph)] ∧
      items ∈ itemLists graph ∧
      List.Forall₂ (fun (e : Crumb × Nat) item =>
        item.partAt ["@type"] = .ok "ListItem" ∧ item.partAt ["position"] = .ok (.int e.2) ∧
        Trail.Renders {} context e.1 e.2 item) (crumbs.zipIdx 1) items := by
  intro s page r
  have hr : Logged.run (Registry.build false []) = (.ok r, #[]) := rfl
  have hlists : ((Logged.run (ofPage {} r s page)).1.toOption.join.any fun document =>
      match document.partAt ["@graph"] with
      | .ok (.list graph) => !(itemLists graph).isEmpty
      | _ => false) = true := by decide +kernel
  have hnames : (Trail.ofPage s page).map (·.map fun c => c.name.cleanText) =
    .ok ["Home", ""] := by decide +kernel
  rcases hrun : Logged.run (ofPage {} r s page) with ⟨_ | _ | document, log⟩
  · rw [hrun] at hlists
    cases hlists
  · rw [hrun] at hlists
    cases hlists
  · obtain ⟨visible, context, crumbs, graph, hvisible, hcontext, hcrumbs, -, rfl, hall⟩ :=
      trail_of_run hr rfl rfl hrun
    rw [hrun] at hlists
    rw [hcrumbs] at hnames
    have hne : (!(itemLists graph).isEmpty) = true := hlists
    obtain ⟨items, hitems⟩ := List.isEmpty_eq_false_iff_exists_mem.mp (by simpa using hne)
    exact ⟨_, log, visible, context, crumbs, graph, items, rfl, hvisible, hcontext, hcrumbs,
      Except.ok.inj hnames, rfl, hitems, hall items hitems⟩

end

end Document

end StructuredData
