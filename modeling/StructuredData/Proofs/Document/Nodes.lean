import StructuredData.Document.Render
import StructuredData.Proofs.Schema.Node

/-!
# The nodes of a document

The schemas of a page are rendered one after the other in one pass.  Until the budget is told to be
spent, the document holds for each schema of a registered type the node that it has in a pass of its
own, unless this is empty (`Document.mem_nodes`).
-/

namespace StructuredData.Document

open Expansion

variable {limits : Limits} {c : Catalog} {context : Value} {ds : List Schema} {p q : Pass}

theorem runFrom_toLogged {α : Type} (act : Expansion α) (log : Log) :
    runFrom act.toLogged log =
      ((runFrom act { log := log }).1, (runFrom act { log := log }).2.log) :=
  rfl

/-- Whether a schema puts a node into a document: its type is registered, and made in a pass of its
own the node is not empty. -/
def Publishes [Slugifier] (limits : Limits) (c : Catalog) (context : Value) (d : Schema)
    (node : Fields) : Prop :=
  c.contains d.type = .ok true ∧ (d.node limits context).alone.1 = .ok node ∧ node.isEmpty = false

/-- Making the nodes of schemas keeps what is kept at each of them. -/
theorem compatible_nodes [Slugifier] {R : {α : Type} → Expansion α → Expansion α → Prop}
    (hR : Compatible R) (htell : ∀ n, R (tell n) (tell n)) (limits' : Limits) (context' : Value)
    (h : ∀ d ∈ ds, R (d.node limits context) (d.node limits' context')) :
    R (nodes limits c context ds) (nodes limits' c context' ds) := by
  induction ds with
  | nil => exact hR.pure []
  | cons d rest ih =>
    have hrest := ih fun d hd => h d (by simp [hd])
    rw [nodes, nodes]
    refine hR.bind (hR.lift _) fun registered => ?_
    cases registered with
    | true => exact hR.bind (h d (by simp)) fun _ => hR.bind hrest fun _ => hR.pure _
    | false => exact hR.bind (htell _) fun _ => hrest

/-- Making nodes adds to the steps that were taken before. -/
theorem additive_nodes [Slugifier] (limits : Limits) (c : Catalog) (context : Value)
    (ds : List Schema) : Additive (nodes limits c context ds) :=
  compatible_nodes compatible_additive additive_tell limits context fun d _ =>
    d.additive_node limits context

/-- The first schema of several: if its type is registered, its node is made as in a pass of its
own; then come those of the others. -/
theorem exists_of_run_nodes_cons [Slugifier] {d : Schema} {rest : List Schema} {graph : List Value}
    (hp : p.exhausted = false)
    (hrun : runFrom (nodes limits c context (d :: rest)) p = (.ok graph, q))
    (hq : ∀ n ∈ q.log, n.isOutOfSteps = false) :
    (c.contains d.type = .ok true ∧ ∃ node own r more,
      (d.node limits context).alone = (.ok node, own) ∧ (∀ n ∈ own.log, n ∈ q.log) ∧
      r.exhausted = false ∧ runFrom (nodes limits c context rest) r = (.ok more, q) ∧
      graph = if node.isEmpty then more else .object node :: more) ∨
    (c.contains d.type = .ok false ∧ ∃ r : Pass, r.exhausted = false ∧
      runFrom (nodes limits c context rest) r = (.ok graph, q)) := by
  rw [nodes] at hrun
  obtain ⟨registered, hregistered, hrun⟩ := exists_of_runFrom_lift_bind hrun
  cases registered with
  | true =>
    obtain ⟨node, r, hnode, hrun⟩ := runFrom_bind_eq_ok hrun
    obtain ⟨more, q', hmore, hrun⟩ := runFrom_bind_eq_ok hrun
    cases hrun
    have hlog : ∀ n ∈ r.log, n ∈ q.log := fun n hn =>
      (additive_nodes limits c context rest).mem_log hmore hn
    obtain ⟨k, notices, hr, halone⟩ := (d.additive_node limits context).alone_eq hp hnode
      fun n hn => hq n (hlog n hn)
    refine Or.inl ⟨hregistered, node, _, r, more, halone, fun n hn => hlog n ?_, ?_, hmore, rfl⟩
    · rw [hr]
      simpa [Pass.after] using Or.inr hn
    · rw [hr]
      exact hp
  | false =>
    rw [if_neg (by simp), runFrom_bind_of_ok (runFrom_tell _ p)] at hrun
    refine Or.inr ⟨hregistered, _, ?_, hrun⟩
    exact hp

/-- **The nodes of a document** are those that its schemas have in passes of their own. -/
theorem mem_nodes [Slugifier] {graph : List Value} (hp : p.exhausted = false)
    (hrun : runFrom (nodes limits c context ds) p = (.ok graph, q))
    (hq : ∀ n ∈ q.log, n.isOutOfSteps = false) {v : Value} :
    v ∈ graph ↔ ∃ d ∈ ds, ∃ node, Publishes limits c context d node ∧ v = .object node := by
  induction ds generalizing p graph with
  | nil =>
    cases hrun
    simp
  | cons d rest ih =>
    rw [List.exists_mem_cons_iff]
    rcases exists_of_run_nodes_cons hp hrun hq with
      ⟨hreg, node, own, r, more, halone, -, hr, hmore, rfl⟩ | ⟨hreg, r, hr, hrest⟩
    · have hown : (∃ node', Publishes limits c context d node' ∧ v = .object node') ↔
          node.isEmpty = false ∧ v = .object node := by
        unfold Publishes
        rw [halone]
        constructor
        · rintro ⟨node', ⟨-, ⟨⟩, hne⟩, hv⟩
          exact ⟨hne, hv⟩
        · rintro ⟨hne, hv⟩
          exact ⟨node, ⟨hreg, rfl, hne⟩, hv⟩
      rw [hown, ← ih hr hmore]
      cases node.isEmpty <;> simp
    · rw [ih hr hrest]
      constructor
      · exact Or.inr
      · rintro (⟨node, ⟨hown, -⟩, -⟩ | h)
        · rw [hreg] at hown
          cases hown
        · exact h

/-- Each schema of a registered type has a node in a pass of its own, and what is told there is told
in the whole pass. -/
theorem exists_alone_of_run_nodes [Slugifier] {graph : List Value} (hp : p.exhausted = false)
    (hrun : runFrom (nodes limits c context ds) p = (.ok graph, q))
    (hq : ∀ n ∈ q.log, n.isOutOfSteps = false) {d : Schema} (hd : d ∈ ds)
    (hreg : c.contains d.type = .ok true) :
    ∃ node own, (d.node limits context).alone = (.ok node, own) ∧ ∀ n ∈ own.log, n ∈ q.log := by
  induction ds generalizing p graph with
  | nil => cases hd
  | cons d' rest ih =>
    rcases exists_of_run_nodes_cons hp hrun hq with
      ⟨hreg', node, own, r, more, halone, hown, hr, hmore, -⟩ | ⟨hreg', r, hr, hrest⟩
    · rcases List.mem_cons.mp hd with rfl | hd
      · exact ⟨node, own, halone, hown⟩
      · exact ih hr hmore hd
    · rcases List.mem_cons.mp hd with rfl | hd
      · rw [hreg] at hreg'
        cases hreg'
      · exact ih hr hrest hd

/-! ## The way to a document -/

/-- The steps from a page to what is rendered for it, where pages are rendered at all. -/
theorem exists_of_run_ofPage_eq_ok [Slugifier] {settings : Settings} {r : Registry} {s : Source}
    {page : Page} {result : Option Value} {log : Log} (henabled : settings.enabled = true)
    (hrun : Logged.run (ofPage settings r s page) = (.ok result, log)) :
    ∃ visible log₁,
      runFrom (visibleSchemas settings r.freeze s page) #[] = (.ok visible, log₁) ∧
      (visible = [] ∧ result = none ∨ visible ≠ [] ∧ ∃ context graph log₂ q,
        runFrom (Facts.collect s (some r.freeze) page visible) log₁ = (.ok context, log₂) ∧
        runFrom (nodes settings.limits r.freeze.catalog context visible) { log := log₂ } =
          (.ok graph, q) ∧
        q.log = log ∧ ofNodes graph = result) := by
  change runFrom (ofPage settings r s page) #[] = _ at hrun
  rw [ofPage, if_pos henabled] at hrun
  obtain ⟨visible, log₁, hvisible, hrun⟩ := runFrom_bind_eq_ok hrun
  refine ⟨visible, log₁, hvisible, ?_⟩
  -- a page on which nothing is shown has no document
  by_cases hempty : visible.isEmpty = true
  · rw [if_pos hempty] at hrun
    cases hrun
    exact Or.inl ⟨List.isEmpty_iff.mp hempty, rfl⟩
  · rw [if_neg hempty] at hrun
    obtain ⟨context, log₂, hcontext, hrun⟩ := runFrom_bind_eq_ok hrun
    obtain ⟨graph, log₃, hgraph, hrun⟩ := runFrom_bind_eq_ok hrun
    rw [runFrom_toLogged] at hgraph
    rcases hnodes : runFrom (nodes settings.limits r.freeze.catalog context visible)
      { log := log₂ } with ⟨nodes, q⟩
    rw [hnodes] at hgraph
    cases hgraph
    obtain ⟨hresult, rfl⟩ := Prod.mk.inj hrun
    exact Or.inr ⟨fun h => hempty (List.isEmpty_iff.mpr h), context, graph, log₂, q, hcontext,
      hnodes, rfl, Except.ok.inj hresult⟩

/-- The steps from a page to its document. -/
theorem exists_of_run_ofPage [Slugifier] {settings : Settings} {r : Registry} {s : Source}
    {page : Page} {document : Value} {log : Log}
    (hrun : Logged.run (ofPage settings r s page) = (.ok (some document), log)) :
    ∃ visible context graph log₁ log₂ q,
      runFrom (visibleSchemas settings r.freeze s page) #[] = (.ok visible, log₁) ∧
      runFrom (Facts.collect s (some r.freeze) page visible) log₁ = (.ok context, log₂) ∧
      runFrom (nodes settings.limits r.freeze.catalog context visible) { log := log₂ } =
        (.ok graph, q) ∧
      q.log = log ∧ ofNodes graph = some document := by
  by_cases henabled : settings.enabled = true
  · obtain ⟨visible, log₁, hvisible, ⟨-, hnone⟩ | ⟨-, context, graph, log₂, q, h⟩⟩ :=
      exists_of_run_ofPage_eq_ok henabled hrun
    · cases hnone
    · exact ⟨visible, context, graph, log₁, log₂, q, hvisible, h⟩
  · rw [ofPage, if_neg henabled] at hrun
    cases hrun

theorem graph_of_ofNodes {graph : List Value} {document : Value}
    (h : ofNodes graph = some document) :
    document = .object [("@context", vocabulary), ("@graph", .list graph)] := by
  unfold ofNodes at h
  split at h
  · cases h
  · exact (Option.some.inj h).symm

end StructuredData.Document
