import StructuredData.Proofs.Assoc
import StructuredData.Proofs.Fault
import StructuredData.Proofs.Text.Slug
import StructuredData.Schema.Identity

/-!
# The two ids of a schema

The `@id` of a schema is made twice: as a template for the references of other schemas, and among
the values of its own node.  Where a text is stored for it that is not empty, the two are the same
(`Schema.fieldValues_of_idTemplate`).
-/

namespace StructuredData

theorem Value.orElse_assoc (u v w : Value) : (u.orElse v).orElse w = u.orElse (v.orElse w) := by
  by_cases hu : u.truthy = true
  · simp [orElse, hu]
  · simp [orElse, hu]

/-- The slug of a label has the shape of slugs, also if the label is no text. -/
theorem isJoined_slugOf [Slugifier] (v : Value) : Slug.IsJoined (slugOf v).toList := by
  unfold slugOf
  split
  · exact Slug.isJoined_ofText _
  · exact ⟨[], nofun, rfl⟩

namespace Schema

variable {d : Schema} {ds : List Schema}

theorem isJoined_slug [Slugifier] {slug : String} (h : d.slug = .ok slug) :
    Slug.IsJoined slug.toList := by
  obtain ⟨label, -, rfl⟩ := exists_of_map_eq_ok h
  exact isJoined_slugOf label

theorem isName_slug [Slugifier] {slug : String} (h : d.slug = .ok slug) : Slug.IsName slug :=
  Slug.isName_of_isJoined (isJoined_slug h)

/-! ## The label -/

/-- The label that a schema has with given values: the one among them, else its title, else its
type. -/
def labelWith (d : Schema) (values : Fields) : Value :=
  ((values.get? "_label").getD .null).orElse (d.title.orElse d.type)

theorem label_of_values {values : Fields} (h : d.values = .object values) :
    d.label = .ok (d.labelWith values) := by
  have hgiven : d.values.orElse (.object []) = .object values := by
    rw [h]
    cases values with
    | nil => rfl
    | cons e rest => rfl
  have hlabel : d.label =
      .ok ((((values.get? "_label").getD .null).orElse d.title).orElse d.type) := by
    rw [label, hgiven]
    rfl
  rw [hlabel, Value.orElse_assoc, labelWith]

/-- Where no values are stored the label is not looked for among the defaults. -/
theorem label_of_null (h : d.values = .null) : d.label = .ok (d.title.orElse d.type) := by
  rw [label, h]
  rfl

/-! ## The `@id` -/

/-- Where a text that is not empty is stored as `@id`, the template is made of it. -/
theorem idTemplate_of_stored [Slugifier] {values : Fields} {id : String}
    (hvalues : d.effectiveValues = .ok (.object values)) (hid : values.get? "@id" = some (.text id))
    (hne : id ≠ "") : d.idTemplate = d.withSlug id := by
  have hmember : (Value.object values).member "@id" = .ok (.text id) := by
    rw [Value.member, hid, Option.getD_some]
  have htruthy : (Value.text id).orElse (.text defaultIdTemplate) = .text id := by
    simp [Value.orElse, Value.truthy, Scalar.truthy, hne]
  rw [idTemplate, hvalues]
  simp only [bind, Except.bind, hmember, htruthy]

/-- Such a text is also the `@id` of the node, with the slug in place. -/
theorem fieldValues_of_stored [Slugifier] {values : Fields} {id template : String}
    (hvalues : d.effectiveValues = .ok (.object values)) (hid : values.get? "@id" = some (.text id))
    (htemplate : d.withSlug id = .ok template) :
    d.fieldValues = .ok (Assoc.set "@id" (.text template) values) := by
  rw [fieldValues, hvalues]
  simp only [bind, Except.bind, Value.toRecord, hid, htemplate]
  rfl

/-- **Node ids and references agree**: the `@id` of the node is the template for references. -/
theorem fieldValues_of_idTemplate [Slugifier] {values : Fields} {id template : String}
    (hvalues : d.effectiveValues = .ok (.object values)) (hid : values.get? "@id" = some (.text id))
    (hne : id ≠ "") (htemplate : d.idTemplate = .ok template) :
    ∃ fields, d.fieldValues = .ok fields ∧ fields.get? "@id" = some (.text template) := by
  rw [idTemplate_of_stored hvalues hid hne] at htemplate
  exact ⟨_, fieldValues_of_stored hvalues hid htemplate, Assoc.lookup_set_self _ _ _⟩

/-! ## References -/

/-- What a schema adds to the references of a page. -/
def Offers [Slugifier] (d : Schema) (slug : String) (link : Value) : Prop :=
  ∃ template, d.slug = .ok slug ∧ d.idTemplate = .ok template ∧
    link = .object [("@id", .text template)]

/-- The references are those that the schemas add, under their slugs. -/
theorem exists_pairs_of_links [Slugifier] {links : Fields} (h : Schema.links ds = .ok links) :
    ∃ pairs : Fields, links = Assoc.ofPairs pairs ∧
      (∀ e ∈ pairs, ∃ d ∈ ds, ∃ slug, e.1 = .text slug ∧ d.Offers slug e.2) ∧
      ∀ d ∈ ds, ∃ slug link, (Scalar.text slug, link) ∈ pairs ∧ d.Offers slug link := by
  obtain ⟨pairs, hpairs, hlinks⟩ := exists_of_bind_eq_ok h
  have hone : ∀ (d : Schema) (e : Scalar × Value), (do
      let slug ← d.slug
      return (Scalar.text slug, Value.object [("@id", .text (← d.idTemplate))])) = .ok e →
      ∃ slug, e.1 = .text slug ∧ d.Offers slug e.2 := by
    intro d e he
    obtain ⟨slug, hslug, he⟩ := exists_of_bind_eq_ok he
    obtain ⟨template, htemplate, he⟩ := exists_of_bind_eq_ok he
    cases he
    exact ⟨slug, rfl, template, hslug, htemplate, rfl⟩
  obtain ⟨hfrom, hto⟩ := mem_of_mapM_eq_ok hpairs
  refine ⟨pairs, (Except.ok.inj hlinks).symm, fun e he => ?_, fun d hd => ?_⟩
  · obtain ⟨d, hd, hde⟩ := hfrom e he
    exact ⟨d, hd, hone d e hde⟩
  · obtain ⟨e, he, hde⟩ := hto d hd
    obtain ⟨slug, hslug, hoffers⟩ := hone d e hde
    exact ⟨slug, e.2, hslug ▸ he, hoffers⟩

/-- Each reference is one that a schema adds under its slug. -/
theorem exists_offers_of_mem_links [Slugifier] {links : Fields} (h : Schema.links ds = .ok links)
    {e : Scalar × Value} (he : e ∈ links) :
    ∃ d ∈ ds, ∃ slug, e.1 = .text slug ∧ d.Offers slug e.2 := by
  obtain ⟨pairs, rfl, hfrom, -⟩ := exists_pairs_of_links h
  obtain ⟨k, hk, hmem⟩ := Assoc.exists_mem_of_mem_ofPairs he
  obtain ⟨d, hd, slug, hslug, hoffers⟩ := hfrom _ hmem
  obtain rfl : k = .text slug := hslug
  exact ⟨d, hd, slug, (Scalar.text_beq_iff _ _).mp hk, hoffers⟩

/-- The reference under a slug that only one schema has is its own. -/
theorem get?_links_of_unique [Slugifier] {links : Fields} (h : Schema.links ds = .ok links)
    (hd : d ∈ ds)
    (hunique : ∀ d' ∈ ds, d'.slug = d.slug → d' = d) {slug : String} (hslug : d.slug = .ok slug) :
    ∃ template, d.idTemplate = .ok template ∧
      links.get? slug = some (.object [("@id", .text template)]) := by
  obtain ⟨pairs, rfl, hfrom, hto⟩ := exists_pairs_of_links h
  obtain ⟨slug', link, hmem, template, hslug', htemplate, rfl⟩ := hto d hd
  obtain rfl : slug' = slug := Except.ok.inj (hslug'.symm.trans hslug)
  refine ⟨template, htemplate, Assoc.lookup_ofPairs_of_forall hmem BEq.rfl fun e he hkey => ?_⟩
  obtain ⟨d', hd', slug'', hkey', template', hslug'', htemplate', hlink⟩ := hfrom e he
  rw [(Scalar.text_beq_iff _ _).mp hkey] at hkey'
  obtain rfl : slug' = slug'' := by simpa using hkey'
  obtain rfl := hunique d' hd' (hslug''.trans hslug.symm)
  rw [hlink, Except.ok.inj (htemplate'.symm.trans htemplate)]

/-- There is no reference under a name that is no slug. -/
theorem get?_links_eq_none [Slugifier] {links : Fields} (h : Schema.links ds = .ok links)
    {name : String} (hname : ∀ d ∈ ds, d.slug ≠ .ok name) : links.get? name = none := by
  obtain ⟨pairs, rfl, hfrom, -⟩ := exists_pairs_of_links h
  rw [Fields.get?, Assoc.lookup_ofPairs]
  refine Assoc.lookup_eq_none_of_forall fun e he => ?_
  obtain ⟨d, hd, slug, hkey, _, hslug, _⟩ := hfrom e (List.mem_reverse.mp he)
  rw [hkey, Bool.eq_false_iff]
  intro hbeq
  have := (Scalar.text_beq_iff _ _).mp hbeq
  cases this
  exact hname d hd hslug

end Schema

end StructuredData
