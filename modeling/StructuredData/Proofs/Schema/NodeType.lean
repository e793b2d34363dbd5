import StructuredData.Proofs.Schema.Node
import StructuredData.Proofs.Text.Slug

/-!
# The type of a node

A node starts with its type: what is rendered for it, else the type of its schema, and then the
types below it.  Whether something is rendered is decided before the node is pruned, so a type that
is rendered as a list or an object with nothing in it takes the place of the type of the schema and
is cut afterwards (`Schema.type_first_iff`).
-/

namespace StructuredData

open Expansion

variable {limits : Limits} {context : Value} {p q : Pass}

namespace Schema

variable {d : Schema}

/-- The types below the type of a node: what is rendered for them and counts as given. -/
def subTypes (rendered : Fields) : List Value :=
  match rendered.get? "@sub_type" with
  | some (.list types) => types.filter Value.truthy
  | _ => []

/-- The type of a node without those below it: what is rendered for it if this counts as given, else
the type of the schema. -/
def ownType (d : Schema) (rendered : Fields) : Value :=
  ((rendered.get? "@type").getD .null).orElse d.type

theorem nodeType_eq (hd : d.type.truthy = true) (rendered : Fields) :
    d.nodeType rendered =
      if subTypes rendered = [] then d.ownType rendered
      else .list (d.ownType rendered :: subTypes rendered) := by
  have hown : (d.ownType rendered).orElse "Thing" = d.ownType rendered :=
    if_pos (Value.truthy_orElse hd)
  unfold nodeType
  rw [← ownType, hown]
  split
  · rename_i types hget
    have hsub : subTypes rendered = types.filter Value.truthy := by rw [subTypes, hget]
    rw [hsub]
    simp only [List.isEmpty_iff]
  · rename_i hno
    have hsub : subTypes rendered = [] := by
      unfold subTypes
      split
      · rename_i types hget
        exact absurd hget (hno types)
      · rfl
    rw [if_pos hsub]

/-- The type of a node is cut if and only if its own type and all types below it are. -/
theorem isDropped_nodeType_iff (hd : d.type.truthy = true) (rendered : Fields) :
    (d.nodeType rendered).prune.isDropped = true ↔
      ∀ t ∈ d.ownType rendered :: subTypes rendered, t.prune.isDropped = true := by
  rw [nodeType_eq hd]
  by_cases hsub : subTypes rendered = []
  · rw [if_pos hsub, hsub]
    simp
  · rw [if_neg hsub]
    exact Value.isDropped_prune_list_iff

/-- So it is kept if one of these is. -/
theorem isDropped_nodeType_eq_false_iff (hd : d.type.truthy = true) (rendered : Fields) :
    (d.nodeType rendered).prune.isDropped = false ↔
      ∃ t ∈ d.ownType rendered :: subTypes rendered, t.prune.isDropped = false := by
  rw [← Bool.not_eq_true, isDropped_nodeType_iff hd]
  simp only [not_forall, Bool.not_eq_true, exists_prop]

/-- A type that is no list or object is not cut. -/
theorem isDropped_ownType_of_scalar (hd : d.type.truthy = true) {rendered : Fields}
    (hscalar : (d.ownType rendered).isContainer = false) :
    (d.ownType rendered).prune.isDropped = false := by
  have htruthy : (d.ownType rendered).truthy = true := Value.truthy_orElse hd
  cases hcase : d.ownType rendered with
  | scalar a =>
    rw [hcase] at htruthy
    rw [Value.prune_scalar]
    exact Value.isDropped_scalar_of_truthy htruthy
  | list items => simp [hcase, Value.isContainer] at hscalar
  | object fields => simp [hcase, Value.isContainer] at hscalar

/-- **The entries of a node**: its type, unless this is cut, and behind it none of the entries that
are not published under their own name. -/
theorem exists_of_run_node_eq_ok [Slugifier] {node : Fields}
    (hrun : runFrom (d.node limits context) p = (.ok node, q)) :
    ∃ values expanded rendered rest r, d.fieldValues = .ok values ∧
      runFrom (expandFields limits context values) p = (.ok expanded, r) ∧
      d.flattenFields expanded = .ok rendered ∧
      node = Value.keepField "@type" (d.nodeType rendered).prune rest ∧
      ∀ key ∈ internalKeys, rest.get? key = none := by
  obtain ⟨values, expanded, entries, r, hvalues, hexpanded, hentries, rfl, -⟩ :=
    exists_of_run_node hrun
  obtain ⟨rendered, hrendered, hentries⟩ := exists_of_bind_eq_ok hentries
  cases hentries
  refine ⟨values, expanded, rendered, _, r, hvalues, hexpanded, hrendered, rfl, ?_⟩
  intro key hkey
  apply Assoc.lookup_eq_none_of_forall
  intro e he
  -- what is left of an entry has its key, and the entries under this key were left out
  obtain ⟨v, hv, -, -⟩ := Value.mem_pruneFields.mp he
  have hpublic := (List.mem_filter.mp hv).2
  rw [Bool.not_eq_true', List.any_eq_false] at hpublic
  simpa using hpublic key hkey

/-- **When a node is typed.**  A node starts with its type, which is not empty, if and only if the
type of the schema, or what is rendered in its place, is not cut, or one of the types below it is
not; else it has no type at all.  What is rendered is only cut if it is a list or an object. -/
theorem type_first_iff [Slugifier] {type : String} (htype : d.type = .text type) (hne : type ≠ "")
    {node : Fields} (hrun : runFrom (d.node limits context) p = (.ok node, q)) :
    ∃ values expanded rendered r, d.fieldValues = .ok values ∧
      runFrom (expandFields limits context values) p = (.ok expanded, r) ∧
      d.flattenFields expanded = .ok rendered ∧
      let own := ((rendered.get? "@type").getD .null).orElse (.text type)
      let published :=
        (if subTypes rendered = [] then own else .list (own :: subTypes rendered)).prune
      ((∃ rest : Fields, node = (.text "@type", published) :: rest ∧ published.isDropped = false) ↔
        ∃ t ∈ own :: subTypes rendered, t.prune.isDropped = false) ∧
      ((∀ t ∈ own :: subTypes rendered, t.prune.isDropped = true) → node.get? "@type" = none) ∧
      (own.isContainer = false → own.prune.isDropped = false) := by
  have hd : d.type.truthy = true := by
    rw [htype]
    simpa [Value.truthy, Scalar.truthy] using hne
  obtain ⟨values, expanded, rendered, rest, r, hvalues, hexpanded, hrendered, hnode, hrest⟩ :=
    exists_of_run_node_eq_ok hrun
  refine ⟨values, expanded, rendered, r, hvalues, hexpanded, hrendered, ?_⟩
  have hown : ((rendered.get? "@type").getD .null).orElse (.text type) = d.ownType rendered := by
    rw [ownType, htype]
  rw [hown]
  dsimp only
  have hcut := isDropped_nodeType_iff hd rendered
  rw [← nodeType_eq hd rendered]
  rw [← isDropped_nodeType_eq_false_iff hd]
  refine ⟨?_, fun hall => ?_, isDropped_ownType_of_scalar hd⟩
  · constructor
    · rintro ⟨_, -, hkept⟩
      exact hkept
    · intro hkept
      refine ⟨rest, ?_, hkept⟩
      rw [hnode, Value.keepField, hkept]
      rfl
  · -- a type that is cut leaves nothing under its key, as nothing else stands there
    rw [hnode, Value.keepField, if_pos (hcut.mpr hall)]
    exact hrest "@type" (by simp [internalKeys])

section

attribute [local instance] Slugifier.ascii

/-- A schema whose type is rendered as a list of nothing: its node has no type. -/
theorem type_first_iff_of_empty_list :
    let d : Schema :=
      { type := "Article", values := .object [("@type", .list ["%kind%"]), ("name", "Dune")] }
    ∃ node q, runFrom (d.node {} (.object [])) {} = (.ok node, q) ∧ node.get? "@type" = none := by
  intro d
  have hrun : runFrom (d.node {} (.object [])) {} =
      (.ok [("name", "Dune")], { steps := 1 }) := rfl
  refine ⟨_, _, hrun, ?_⟩
  obtain ⟨values, expanded, rendered, r, hvalues, hexpanded, hrendered, -, hnone, -⟩ :=
    type_first_iff rfl (by decide) hrun
  have hvalues' : d.fieldValues = .ok [("@type", .list ["%kind%"]), ("name", "Dune")] := rfl
  obtain rfl := Except.ok.inj (hvalues.symm.trans hvalues')
  have hexpanded' : runFrom (expandFields {} (.object [])
      [("@type", .list ["%kind%"]), ("name", "Dune")]) {} =
      (.ok [("@type", .list [""]), ("name", "Dune")], { steps := 1 }) := rfl
  cases hexpanded.symm.trans hexpanded'
  cases hrendered
  apply hnone
  intro t ht
  rw [List.mem_singleton.mp ht]
  rfl

end

end Schema

end StructuredData
