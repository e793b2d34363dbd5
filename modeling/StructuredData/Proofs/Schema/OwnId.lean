import StructuredData.Proofs.Schema.Identity
import StructuredData.Proofs.Schema.Node
import StructuredData.Proofs.Template.Placeholder

/-!
# The `@id` of a node

Every schema offers a reference, but its node has the `@id` of this reference only if a text that is
not empty is stored as `@id`.
-/

namespace StructuredData

open Expansion

variable {limits : Limits} {context : Value}

/-! ## What comes to a scalar -/

/-- Only a text comes to another scalar than itself. -/
theorem Value.eq_of_alone_eq_scalar {v : Value} {a : Scalar}
    (h : (v.expand limits context).alone.1 = .ok (.scalar a)) :
    v = .scalar a ∨ ∃ s, v = .text s := by
  rcases hrun : (v.expand limits context).alone with ⟨w, r⟩
  rw [hrun] at h
  cases h
  cases v with
  | scalar b =>
    cases b with
    | text s => exact Or.inr ⟨s, rfl⟩
    | _ =>
      cases hrun
      exact Or.inl rfl
  | list items => cases gives_traverseTexts rfl _ _ _ hrun
  | object fields => cases gives_traverseTexts rfl _ _ _ hrun

namespace Schema

variable {d : Schema}

/-- Whether a text that is not empty is stored as the `@id` of a schema. -/
def StoresId (d : Schema) : Prop :=
  ∃ (values : Fields) (id : String), d.effectiveValues = .ok (.object values) ∧
    values.get? "@id" = some (.text id) ∧ id ≠ ""

/-- The usual template with a slug in it is not one placeholder. -/
theorem whole?_default [Slugifier] {template : String}
    (h : d.withSlug defaultIdTemplate = .ok template) :
    (Template.ofText template).whole? = none := by
  obtain ⟨slug, hslug, rfl⟩ := exists_of_map_eq_ok h
  have hname := isName_slug hslug
  cases hwhole : (Template.ofText _).whole? with
  | none => rfl
  | some token =>
    have hlast := Template.getLast?_of_whole? hwhole
    have hput : putSlug slug.toList defaultIdTemplate.toList =
        "%current.url%#".toList ++ slug.toList := by
      show putSlug slug.toList ("%current.url%#".toList ++ ['%', 'i', 'd', '%']) = _
      simp [putSlug]
    rw [String.toList_ofList, hput, List.getLast?_append] at hlast
    cases hend : slug.toList.getLast? with
    | none =>
      rw [hend] at hlast
      exact absurd hlast (by decide)
    | some c =>
      rw [hend] at hlast
      obtain rfl : c = '%' := by simpa using hlast
      rcases hname '%' (List.mem_of_getLast? hend) with h | h
      · exact absurd h (by decide)
      · exact absurd h (by decide)

/-- The effective values of a schema that offers a reference are an object. -/
theorem exists_values_of_idTemplate [Slugifier] {template : String}
    (h : d.idTemplate = .ok template) :
    ∃ values : Fields, d.effectiveValues = .ok (.object values) := by
  obtain ⟨v, hv, h⟩ := exists_of_bind_eq_ok h
  obtain ⟨w, hw, -⟩ := exists_of_bind_eq_ok h
  cases v with
  | object values => exact ⟨values, hv⟩
  | scalar a => cases hw
  | list items => cases hw

/-- Where no text is stored as `@id`, or an empty one, the usual template is taken. -/
theorem idTemplate_of_not_stored [Slugifier] {values : Fields}
    (hvalues : d.effectiveValues = .ok (.object values))
    (hid : ∀ id, values.get? "@id" = some (.text id) → id = "") :
    d.idTemplate = d.withSlug defaultIdTemplate := by
  have hmember : (Value.object values).member "@id" = .ok ((values.get? "@id").getD .null) := rfl
  rw [idTemplate, hvalues]
  simp only [bind, Except.bind, hmember]
  cases hget : values.get? "@id" with
  | none => rfl
  | some v =>
    rw [Option.getD_some, Value.orElse]
    by_cases htruthy : v.truthy = true
    · rw [if_pos htruthy]
      split
      · rename_i s
        rw [hid s hget] at htruthy
        cases htruthy
      · rfl
    · rw [if_neg htruthy]

/-- Values in which no text is stored as `@id` are published as they are. -/
theorem fieldValues_of_not_stored [Slugifier] {values : Fields}
    (hvalues : d.effectiveValues = .ok (.object values))
    (hid : ∀ id, values.get? "@id" ≠ some (.text id)) : d.fieldValues = .ok values := by
  rw [fieldValues, hvalues]
  simp only [bind, Except.bind, Value.toRecord]
  rfl

theorem fieldValues_eq_ok [Slugifier] {values published : Fields} {id : String}
    (hvalues : d.effectiveValues = .ok (.object values)) (hid : values.get? "@id" = some (.text id))
    (h : d.fieldValues = .ok published) :
    ∃ template, d.withSlug id = .ok template ∧
      published = Assoc.set (Scalar.text "@id") (Value.text template) values := by
  cases htemplate : d.withSlug id with
  | error f =>
    rw [fieldValues, hvalues] at h
    simp only [bind, Except.bind, Value.toRecord, hid, htemplate] at h
    cases h
  | ok template =>
    rw [fieldValues_of_stored hvalues hid htemplate] at h
    exact ⟨template, rfl, (Except.ok.inj h).symm⟩

/-- The slug does not make a text of an empty one. -/
theorem withSlug_empty [Slugifier] {template : String} (h : d.withSlug "" = .ok template) :
    template = "" := by
  obtain ⟨slug, -, rfl⟩ := exists_of_map_eq_ok h
  rfl

theorem keys_fieldValues [Slugifier] {values published : Fields}
    (hvalues : d.effectiveValues = .ok (.object values)) (h : d.fieldValues = .ok published) :
    Assoc.keys published = Assoc.keys values := by
  by_cases hid : ∃ stored, values.get? "@id" = some (.text stored)
  · obtain ⟨stored, hid⟩ := hid
    obtain ⟨template, -, rfl⟩ := fieldValues_eq_ok hvalues hid h
    exact Assoc.keys_set_of_lookup hid
  · have hown := fieldValues_of_not_stored hvalues fun stored hget => hid ⟨stored, hget⟩
    cases hown.symm.trans h
    rfl

variable [Slugifier] {template : String} {id : Value} (htemplate : d.idTemplate = .ok template)
  (hexpand : ((Value.text template).expand limits context).alone.1 = .ok id)

include htemplate hexpand

/-- If what a value under `@id` comes to is pruned to what the reference is pruned to, and is not
cut then, a text that is not empty is stored there. -/
theorem storesId_of_comesTo {published : Fields} {log : Log} {v w : Value} {repeated : Bool}
    (hpublished : d.fieldValues = .ok published) (hv : published.get? "@id" = some v)
    (hcomes : Value.ComesTo limits context log v w)
    (hprune : (w.listedIf repeated).prune = id.prune) (hkept : id.prune.isDropped = false) :
    d.StoresId := by
  by_contra hno
  obtain ⟨values, hvalues⟩ := exists_values_of_idTemplate htemplate
  obtain ⟨s, halone, -⟩ := hcomes
  have hstored : ∀ stored, values.get? "@id" = some (.text stored) → stored = "" := by
    intro stored hget
    by_contra hne
    exact hno ⟨values, stored, hvalues, hget, hne⟩
  -- so the reference is made of the usual template, and comes to a text
  rw [idTemplate_of_not_stored hvalues hstored] at htemplate
  obtain ⟨t, rfl⟩ : ∃ t, id = .text t := by
    rcases hrun : ((Value.text template).expand limits context).alone with ⟨u, p⟩
    rw [hrun] at hexpand
    cases hexpand
    rw [Value.expand_text] at hrun
    exact Template.gives_expandText (whole?_default htemplate) _ _ _ hrun
  rw [Value.prune_scalar] at hprune hkept
  obtain rfl : w = .text t := by
    cases w with
    | scalar b => simpa using hprune
    | list items => cases repeated <;> simp [Value.listedIf, Value.listed, Value.prune] at hprune
    | object fields => cases repeated <;> simp [Value.listedIf, Value.listed, Value.prune] at hprune
  by_cases hid : ∃ stored, values.get? "@id" = some (.text stored)
  · -- an empty text comes to itself, and would be cut from the node
    obtain ⟨stored, hid⟩ := hid
    obtain rfl := hstored stored hid
    obtain ⟨own, hown, rfl⟩ := fieldValues_eq_ok hvalues hid hpublished
    obtain rfl := withSlug_empty hown
    cases hv.symm.trans (Assoc.lookup_set_self _ _ _)
    rw [Value.expand_text, Template.expandText_of_isEmpty (by decide)] at halone
    cases halone
    cases hkept
  · -- only a text comes to a text
    have hnone : ∀ stored, values.get? "@id" ≠ some (.text stored) := fun stored hget =>
      hid ⟨stored, hget⟩
    obtain rfl := Except.ok.inj (hpublished.symm.trans (fieldValues_of_not_stored hvalues hnone))
    rcases Value.eq_of_alone_eq_scalar (congrArg Prod.fst halone) with rfl | ⟨stored, rfl⟩
    · exact hnone t hv
    · exact hnone stored hv

/-- **When a node has the `@id` of its reference**: one is stored that is not empty, no list is made
of what it comes to, and this is not cut.  The keys of the values are distinct. -/
theorem get?_id_node_iff {node : Fields} {r : Pass}
    (hnode : (d.node limits context).alone = (.ok node, r))
    (hquiet : ∀ n ∈ r.log, n.isOutOfSteps = false)
    (hkeys : ∀ values : Fields, d.effectiveValues = .ok (.object values) →
      (Assoc.keys values).Nodup) :
    node.get? "@id" = some id.prune ↔
      d.StoresId ∧ id.listedIf (d.repeats "@id") = id ∧ id.prune.isDropped = false := by
  obtain ⟨values, hvalues⟩ := exists_values_of_idTemplate htemplate
  obtain ⟨published, _, _, _, hpublished, -⟩ := exists_of_run_node hnode
  have hnodup : (Assoc.keys published).Nodup := by
    rw [keys_fieldValues hvalues hpublished]
    exact hkeys values hvalues
  have hread : d.StoresId → published.get? "@id" = some (.text template) := by
    rintro ⟨values', stored, hvalues', hstored, hne⟩
    obtain ⟨published', hpublished', hget⟩ :=
      fieldValues_of_idTemplate hvalues' hstored hne htemplate
    cases hpublished.symm.trans hpublished'
    exact hget
  rw [get?_node_iff rfl hnode hquiet hpublished hnodup (by decide)]
  constructor
  · rintro ⟨v, w, hv, hcomes, hprune, hkept⟩
    have hstores := storesId_of_comesTo htemplate hexpand hpublished hv hcomes hprune hkept
    obtain ⟨s, halone, -⟩ := hcomes
    cases hv.symm.trans (hread hstores)
    rw [halone] at hexpand
    cases hexpand
    exact ⟨hstores, Value.listedIf_of_prune_listedIf hprune, hkept⟩
  · rintro ⟨hstores, hlisted, hkept⟩
    obtain ⟨w, s, halone, hs⟩ :=
      exists_comesTo_of_get? rfl hnode hquiet hpublished (hread hstores)
    rw [halone] at hexpand
    cases hexpand
    exact ⟨_, _, hread hstores, ⟨s, halone, hs⟩, by rw [hlisted], hkept⟩

end Schema

end StructuredData
