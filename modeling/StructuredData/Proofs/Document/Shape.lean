import Mathlib.Data.List.Forall2
import StructuredData.Proofs.Document.Nodes
import StructuredData.Proofs.Schema.NodeType

/-!
# The shape of a document

The schemas that may be shown on a page are gone through in order: those that their rules or a veto
hide are passed over, then those of types that are not registered, and at last those whose nodes are
empty.  Of what is left the document holds the nodes, and pruning would change none of them
(`Document.shape_of_run`).
-/

namespace StructuredData

open Expansion

/-! ## Which schemas are shown -/

/-- What passes a test is kept in its order. -/
theorem sublist_of_run_filterLogged {α : Type} {test : α → Logged Bool} {l kept : List α}
    {log log' : Log} (hrun : runFrom (filterLogged test l) log = (.ok kept, log')) :
    kept.Sublist l ∧ ∀ a ∈ kept, ∃ log₁ log₂, runFrom (test a) log₁ = (.ok true, log₂) := by
  induction l generalizing kept log log' with
  | nil =>
    cases hrun
    exact ⟨List.Sublist.slnil, by simp⟩
  | cons a rest ih =>
    rw [filterLogged] at hrun
    obtain ⟨passes, log₁, htest, hrun⟩ := runFrom_bind_eq_ok hrun
    obtain ⟨rest', log₂, hrest, hrun⟩ := runFrom_bind_eq_ok hrun
    obtain ⟨hsub, hall⟩ := ih hrest
    cases hrun
    cases passes with
    | true =>
      refine ⟨hsub.cons_cons a, fun b hb => ?_⟩
      rcases List.mem_cons.mp hb with rfl | hb
      · exact ⟨log, log₁, htest⟩
      · exact hall b hb
    | false => exact ⟨hsub.cons a, hall⟩

/-- A schema that is let pass is hidden by no veto. -/
theorem Registry.ne_false_of_run_allVetoes {d : Schema} {ctx : PageContext} {vetoes : List Veto}
    {log log' : Log} (hrun : runFrom (allVetoes d ctx vetoes) log = (.ok true, log')) :
    ∀ veto ∈ vetoes, veto d ctx ≠ .ok false := by
  induction vetoes generalizing log with
  | nil => simp
  | cons veto rest ih =>
    rw [allVetoes] at hrun
    cases hveto : veto d ctx with
    | ok allowed =>
      rw [hveto] at hrun
      cases allowed with
      | true =>
        intro other hother
        rcases List.mem_cons.mp hother with rfl | hother
        · rw [hveto]
          simp
        · exact ih hrun other hother
      | false => cases hrun
    | error f =>
      -- a veto that fails hides nothing
      rw [hveto] at hrun
      obtain ⟨_, log₁, -, hrun⟩ := runFrom_bind_eq_ok hrun
      intro other hother
      rcases List.mem_cons.mp hother with rfl | hother
      · rw [hveto]
        simp
      · exact ih hrun other hother

namespace Document

variable {settings : Settings} {r : Registry} {s : Source} {page : Page}

/-- Whether a schema is shown in a context: its rules say so and no veto hides it. -/
structure Admits (r : Registry) (ctx : PageContext) (d : Schema) : Prop where
  visible : d.isVisible ctx = .ok true
  not_vetoed : ∀ veto ∈ r.vetoes, veto d ctx ≠ .ok false

theorem admits_of_run_isShown {ctx : PageContext} {d : Schema} {log log' : Log}
    (hrun : runFrom (isShown r ctx d) log = (.ok true, log')) : Admits r ctx d := by
  rw [isShown] at hrun
  obtain ⟨visible, hvisible, hrun⟩ := exists_of_runFrom_lift_bind hrun
  cases visible with
  | true => exact ⟨hvisible, Registry.ne_false_of_run_allVetoes hrun⟩
  | false => cases hrun

/-- The schemas shown are those of the active ones, in their order, that are admitted. -/
theorem exists_of_run_visibleSchemas {visible : List Schema} {log log' : Log}
    (hrun : runFrom (visibleSchemas settings r s page) log = (.ok visible, log')) :
    ∃ ctx active, s.pageContext page = .ok ctx ∧ activeSchemas settings r s page = .ok active ∧
      visible.Sublist active ∧ ∀ d ∈ visible, Admits r ctx d := by
  rw [visibleSchemas] at hrun
  obtain ⟨ctx, hctx, hrun⟩ := exists_of_runFrom_lift_bind hrun
  obtain ⟨active, hactive, hrun⟩ := exists_of_runFrom_lift_bind hrun
  obtain ⟨hsub, hall⟩ := sublist_of_run_filterLogged hrun
  refine ⟨ctx, active, hctx, hactive, hsub, fun d hd => ?_⟩
  obtain ⟨log₁, log₂, hshown⟩ := hall d hd
  exact admits_of_run_isShown hshown

/-! ## Which nodes there are -/

variable {limits : Limits} {c : Catalog} {context : Value}

/-- Whether a value is the node of a schema of a registered type. -/
structure Renders [Slugifier] (limits : Limits) (c : Catalog) (context : Value) (d : Schema)
    (v : Value) : Prop where
  registered : c.contains d.type = .ok true
  isNode : ∃ (node : Fields) (p q : Pass), runFrom (d.node limits context) p = (.ok node, q) ∧
    node ≠ [] ∧ v = .object node

/-- The nodes of a graph are those of some of the schemas, in their order. -/
theorem exists_sublist_of_run_nodes [Slugifier] {ds : List Schema} {graph : List Value} {p q : Pass}
    (hrun : runFrom (nodes limits c context ds) p = (.ok graph, q)) :
    ∃ shown : List Schema, shown.Sublist ds ∧
      List.Forall₂ (Renders limits c context) shown graph := by
  induction ds generalizing p graph with
  | nil =>
    cases hrun
    exact ⟨[], List.Sublist.slnil, .nil⟩
  | cons d rest ih =>
    rw [nodes] at hrun
    obtain ⟨registered, hregistered, hrun⟩ := exists_of_runFrom_lift_bind hrun
    cases registered with
    | true =>
      obtain ⟨node, p₁, hnode, hrun⟩ := runFrom_bind_eq_ok hrun
      obtain ⟨more, p₂, hmore, hrun⟩ := runFrom_bind_eq_ok hrun
      cases hrun
      obtain ⟨shown, hsub, hall⟩ := ih hmore
      cases node with
      | nil => exact ⟨shown, hsub.cons d, hall⟩
      | cons e node =>
        have hrenders : Renders limits c context d (.object (e :: node)) :=
          ⟨hregistered, e :: node, p, p₁, hnode, by simp, rfl⟩
        exact ⟨d :: shown, hsub.cons_cons d, .cons hrenders hall⟩
    | false =>
      rw [if_neg (by simp), runFrom_bind_of_ok (runFrom_tell _ p)] at hrun
      obtain ⟨shown, hsub, hall⟩ := ih hrun
      exact ⟨shown, hsub.cons d, hall⟩

theorem ne_nil_of_ofNodes {graph : List Value} {document : Value}
    (h : ofNodes graph = some document) : graph ≠ [] := by
  rintro rfl
  cases h

end Document

/-! ## What is in a node -/

namespace Schema

variable [Slugifier] {d : Schema} {limits : Limits} {context : Value} {p q : Pass} {node : Fields}
  (hrun : runFrom (d.node limits context) p = (.ok node, q))

include hrun

/-- Pruning would change nothing in a node. -/
theorem isClean_node : (Value.object node).isClean = true := by
  obtain ⟨_, _, entries, _, _, _, _, rfl, _⟩ := exists_of_run_node hrun
  have hclean := Value.isClean_prune (.object entries)
  rwa [Value.prune] at hclean

/-- The keys that are not published do not stand in a node, but for its type. -/
theorem get?_node_of_mem_internalKeys {key : String} (hkey : key ∈ internalKeys)
    (htype : key ≠ "@type") : node.get? key = none := by
  obtain ⟨values, expanded, rendered, rest, r, -, -, -, rfl, hrest⟩ :=
    exists_of_run_node_eq_ok hrun
  have hne : ¬ (Scalar.text key == Scalar.text "@type") = true := by
    intro heq
    cases (Scalar.text_beq_iff _ _).mp heq
    exact htype rfl
  unfold Value.keepField
  split
  · exact hrest key hkey
  · rw [Fields.get?, Assoc.lookup_cons_ite, if_neg hne]
    exact hrest key hkey

end Schema

namespace Document

variable {settings : Settings} {r : Registry} {s : Source} {page : Page}

/-- **The shape of a document.**  Whatever a page, a source, settings and a registry are: a page
either has no document, or this has exactly the two keys, and a graph that is not empty.  The nodes
of the graph are those of some of the active schemas, in their order; each of these is visible,
hidden by no veto and of a registered type; and each node is an object that is not empty, in which
pruning would change nothing at any depth, and in which no key for internal use stands. -/
theorem shape_of_run [Slugifier] {result : Option Value} {log : Log}
    (hrun : Logged.run (ofPage settings r s page) = (.ok result, log)) :
    result = none ∨
    ∃ (ctx : PageContext) (active shown : List Schema) (context : Value) (graph : List Value),
      result = some (.object [("@context", vocabulary), ("@graph", .list graph)]) ∧
      graph ≠ [] ∧
      s.pageContext page = .ok ctx ∧
      activeSchemas settings r.freeze s page = .ok active ∧
      shown.Sublist active ∧
      List.Forall₂ (fun d v =>
        d.isVisible ctx = .ok true ∧
        (∀ veto ∈ r.vetoes, veto d ctx ≠ .ok false) ∧
        r.catalog.contains d.type = .ok true ∧
        ∃ node : Fields, v = .object node ∧
          (∃ p q, runFrom (d.node settings.limits context) p = (.ok node, q)) ∧
          node ≠ [] ∧
          (Value.object node).prune = .object node ∧
          (Value.object node).isClean = true ∧
          ∀ key ∈ ["schema_name", "_label", "@sub_type"], node.get? key = none)
        shown graph := by
  cases result with
  | none => exact Or.inl rfl
  | some document =>
    right
    obtain ⟨visible, context, graph, log₁, log₂, q, hvisible, -, hnodes, -, hdocument⟩ :=
      exists_of_run_ofPage hrun
    obtain ⟨ctx, active, hctx, hactive, hsub, hadmits⟩ := exists_of_run_visibleSchemas hvisible
    obtain ⟨shown, hshown, hall⟩ := exists_sublist_of_run_nodes hnodes
    refine ⟨ctx, active, shown, context, graph, ?_, ne_nil_of_ofNodes hdocument, hctx, hactive,
      hshown.trans hsub, ?_⟩
    · rw [graph_of_ofNodes hdocument]
    · have hboth : List.Forall₂
          (fun d v => Admits r.freeze ctx d ∧ Renders settings.limits r.freeze.catalog context d v)
          shown graph :=
        (List.forall₂_and_left shown graph).mpr ⟨fun d hd => hadmits d (hshown.subset hd), hall⟩
      refine hboth.imp fun d v h => ?_
      obtain ⟨⟨hvis, hveto⟩, hregistered, node, p, q, hnode, hne, rfl⟩ := h
      have hclean := Schema.isClean_node hnode
      refine ⟨hvis, hveto, hregistered, node, rfl, ⟨p, q, hnode⟩, hne,
        Value.prune_of_isClean hclean, hclean, fun key hkey => ?_⟩
      have hinternal : key ∈ Schema.internalKeys ∧ key ≠ "@type" := by
        revert key
        decide
      exact Schema.get?_node_of_mem_internalKeys hnode hinternal.1 hinternal.2

section

attribute [local instance] Slugifier.ascii

/-- A page with two schemas, one of them of a type that is not registered; of the other one an empty
text and a label are left out. -/
theorem shape_of_run_of_page :
    let everywhere : Value := .object [("rules", .list ["basic-global"])]
    let values : Value := .object [("name", "Start"), ("image", .list [""]), ("_label", "Home")]
    let settings : Settings :=
      { schemas := .list [
          .object [("type", "Event"), ("show_on", everywhere)],
          .object [("type", "WebPage"), ("show_on", everywhere), ("fields", values)]] }
    let webPage : SchemaType := { name := "WebPage", title := .ok "WebPage", showOn := .ok {} }
    let registry : Registry :=
      { catalog := { types := [("WebPage", webPage)] }, vetoes := [Registry.breadcrumbVeto] }
    let graph : List Value := [.object [("@type", "WebPage"), ("name", "Start")]]
    ∃ (ctx : PageContext) (active shown : List Schema) (log : Log),
      Logged.run (ofPage settings registry {} { kind := .blog }) =
        (.ok (some (.object [("@context", vocabulary), ("@graph", .list graph)])), log) ∧
      shown.Sublist active ∧
      List.Forall₂ (fun d v => d.isVisible ctx = .ok true ∧
        registry.catalog.contains d.type = .ok true ∧ v.isClean = true) shown graph := by
  intro everywhere values settings webPage registry graph
  have hrun : Logged.run (ofPage settings registry {} { kind := .blog }) =
      (.ok (some (.object [("@context", vocabulary), ("@graph", .list graph)])),
        #[.unregistered "Event" "Event"]) := rfl
  obtain hnone | ⟨ctx, active, shown, context, graph', hdocument, -, -, -, hsub, hall⟩ :=
    shape_of_run hrun
  · cases hnone
  · cases hdocument
    refine ⟨ctx, active, shown, _, hrun, hsub, hall.imp fun d v h => ?_⟩
    obtain ⟨hvisible, -, hregistered, node, rfl, -, -, -, hclean, -⟩ := h
    exact ⟨hvisible, hregistered, hclean⟩

end

end Document

end StructuredData
