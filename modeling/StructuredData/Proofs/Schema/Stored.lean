import StructuredData.Proofs.Field.Defaults
import StructuredData.Proofs.Schema.Identity
import StructuredData.Schema.Node
import StructuredData.Schema.Visibility

/-!
# The stored form of a schema

A schema that is read back from its stored form is shown where it was shown and has the values that
it had.  If none were stored, the defaults of its fields are stored now; and the label, which was
looked for among stored values only, is found among these.  So the schema keeps its slug, and with
it its references and its nodes, just if this label has the slug that it had without one
(`Schema.read_toValue_iff`).
-/

namespace StructuredData

/-! ## Rule sets -/

namespace RuleSet

/-- Whether the rules and specifics of a set are texts. -/
def HasTexts (s : RuleSet) : Prop :=
  (∀ v ∈ s.rules, ∃ t, v = .text t) ∧ ∀ v ∈ s.specifics, ∃ t, v = .text t

/-- A list of texts is read as it is. -/
theorem readTexts_list {items : List Value} (h : ∀ v ∈ items, ∃ t, v = .text t) :
    readTexts (.list items) = .ok items := by
  have hitems : items.map (fun item => Value.text item.toText) = items := by
    refine (List.map_congr_left fun v hv => ?_).trans (List.map_id items)
    obtain ⟨t, rfl⟩ := h v hv
    rfl
  have hgiven : ((Value.list items).orElse (.list [])).items = .ok items := by
    cases items with
    | nil => rfl
    | cons v rest => rfl
  rw [readTexts, hgiven]
  exact congrArg Except.ok hitems

/-- A set is read back from its stored form as it was. -/
theorem read_toValue {s : RuleSet} (h : s.HasTexts) : read s.toValue = .ok s := by
  have hrules := readTexts_list h.1
  have hspecifics := readTexts_list h.2
  show (do
    let rules ← readTexts (.list s.rules)
    let specifics ← readTexts (.list s.specifics)
    return ({ rules, specifics } : RuleSet)) = .ok s
  rw [hrules, hspecifics]
  rfl

end RuleSet

/-! ## What a schema is made of -/

theorem Value.orElse_self (v : Value) : v.orElse v = v := ite_self v

namespace Schema

variable {d d' : Schema} {values : Fields}

/-- The template of the `@id` depends on the values and the slug only. -/
theorem idTemplate_eq_of_slug [Slugifier] (hvalues : d'.effectiveValues = d.effectiveValues)
    (hslug : d'.slug = d.slug) : d'.idTemplate = d.idTemplate := by
  have hput : d'.withSlug = d.withSlug := funext fun s => by rw [withSlug, withSlug, hslug]
  rw [idTemplate, idTemplate, hvalues, hput]

/-- The node of a schema depends on its values, its slug, its fields and its type only. -/
theorem node_eq_of_slug [Slugifier] (hvalues : d'.effectiveValues = d.effectiveValues)
    (hslug : d'.slug = d.slug) (hfields : d'.fields = d.fields) (htype : d'.type = d.type)
    (limits : Limits) (context : Value) : d'.node limits context = d.node limits context := by
  have hput : d'.withSlug = d.withSlug := funext fun s => by rw [withSlug, withSlug, hslug]
  have hown : d'.fieldValues = d.fieldValues := by rw [fieldValues, fieldValues, hvalues, hput]
  have hentries : d'.nodeFields = d.nodeFields := by
    funext expanded
    simp only [nodeFields, flattenFields, nodeType, hfields, htype]
  have hempty : d'.requiredEmpty = d.requiredEmpty := by
    funext node
    rw [requiredEmpty, requiredEmpty, hfields]
  rw [node, node, hown, hentries, hempty, htype]

/-! ## Reading back -/

/-- The schema as it is read back from its stored form. -/
def restored (d : Schema) (values : Fields) : Schema :=
  { d with title := d.title.orElse d.type, values := .object values }

/-- A schema that is stored and read again has the same label. -/
theorem labelWith_restored (values : Fields) :
    (d.restored values).labelWith values = d.labelWith values := by
  show ((values.get? "_label").getD .null).orElse ((d.title.orElse d.type).orElse d.type) =
    d.labelWith values
  rw [Value.orElse_assoc, Value.orElse_self, labelWith]

/-- A schema that is stored is read again. -/
theorem exists_read_toValue (htype : d.type.truthy = true) (hshow : d.showOn.HasTexts)
    (hnot : d.notShowOn.HasTexts) (hvalues : d.effectiveValues = .ok (.object values)) :
    ∃ stored, d.toValue = .ok stored ∧ read stored d.fields = .ok (d.restored values) := by
  have hkept : (d.type.orElse d.title).orElse "Thing" = d.type := by
    simp [Value.orElse, htype]
  refine ⟨_, by rw [toValue, hvalues]; rfl, ?_⟩
  show (do
    let showOn ← RuleSet.read d.showOn.toValue
    let notShowOn ← RuleSet.read d.notShowOn.toValue
    return ({ title := d.title.orElse ((d.type.orElse d.title).orElse "Thing"),
              type := (d.type.orElse d.title).orElse "Thing", showOn, notShowOn,
              fields := d.fields, values := .object values } : Schema)) = _
  rw [RuleSet.read_toValue hshow, RuleSet.read_toValue hnot, hkept]
  rfl

/-- Whether the label among the defaults of a schema, if they are what it has, has the slug that the
schema has without one. -/
def DefaultsKeepSlug [Slugifier] (d : Schema) : Prop :=
  d.values = .null → ∀ defaults, Field.defaults d.fields = .ok defaults →
    slugOf (d.labelWith defaults) = slugOf (d.title.orElse d.type)

/-- **What saving a schema changes.**  A schema of a type, with stored values or none, has a stored
form and is read back from it.  It is shown on the same pages then, and it has the same slug, the
same template for references and the same node in each context just if the label among its defaults
does not give it another slug. -/
theorem read_toValue_iff [Slugifier] (htype : d.type.truthy = true) (hshow : d.showOn.HasTexts)
    (hnot : d.notShowOn.HasTexts) (hfields : Field.areKeyed d.fields = true)
    (hvalues : d.values = .null ∨ ∃ values, d.values = .object values) :
    ∃ stored d', d.toValue = .ok stored ∧ read stored d.fields = .ok d' ∧
      (∀ ctx, d'.isVisible ctx = d.isVisible ctx) ∧
      ((d'.slug = d.slug ∧ d'.idTemplate = d.idTemplate ∧
          ∀ limits context, d'.node limits context = d.node limits context) ↔
        d.DefaultsKeepSlug) := by
  obtain ⟨values, hkept, hlabels⟩ : ∃ values, d.effectiveValues = .ok (.object values) ∧
      ((d.restored values).slug = d.slug ↔ d.DefaultsKeepSlug) := by
    have hrestored : ∀ values, (d.restored values).slug = .ok (slugOf (d.labelWith values)) :=
      fun values => by rw [slug, label_of_values rfl, labelWith_restored]; rfl
    rcases hvalues with hnull | ⟨values, hstored⟩
    -- without stored values the label of the defaults counts for the restored schema only
    · obtain ⟨defaults, hdefaults⟩ := Field.exists_defaults hfields
      refine ⟨defaults, by rw [effectiveValues, hnull, hdefaults]; rfl, ?_⟩
      have hslug : d.slug = .ok (slugOf (d.title.orElse d.type)) := by
        rw [slug, label_of_null hnull]
        rfl
      rw [hrestored, hslug]
      constructor
      · intro heq _ defaults' hdefaults'
        obtain rfl := Except.ok.inj (hdefaults.symm.trans hdefaults')
        exact Except.ok.inj heq
      · intro hkeep
        rw [hkeep hnull defaults hdefaults]
    · refine ⟨values, by rw [effectiveValues, hstored]; rfl, ?_⟩
      have hslug : d.slug = .ok (slugOf (d.labelWith values)) := by
        rw [slug, label_of_values hstored]
        rfl
      rw [hrestored, hslug]
      refine iff_of_true rfl fun hnull => ?_
      rw [hstored] at hnull
      cases hnull
  obtain ⟨stored, hstored, hread⟩ := exists_read_toValue htype hshow hnot hkept
  refine ⟨stored, d.restored values, hstored, hread, fun _ => rfl, ?_⟩
  rw [← hlabels]
  have hsame : (d.restored values).effectiveValues = d.effectiveValues := hkept.symm
  constructor
  · exact fun h => h.1
  · intro hslug
    exact ⟨hslug, idTemplate_eq_of_slug hsame hslug, node_eq_of_slug hsame hslug rfl rfl⟩

section

attribute [local instance] Slugifier.ascii

/-- A schema whose default label is not its title has another slug after it has been stored. -/
theorem read_toValue_iff_of_label :
    let field (id : String) (v : Value) : Field :=
      { id := .text id, defaultValue := v, required := true }
    let d : Schema := { title := "Fair", type := "Event", fields := [
      field "@id" "%current.url%#%id%", field "_label" "Main Story", field "name" "Fair"] }
    d.type.truthy = true ∧ Field.areKeyed d.fields = true ∧ d.slug = .ok "fair" ∧
      d.idTemplate = .ok "%current.url%#fair" ∧
      ∃ stored d', d.toValue = .ok stored ∧ read stored d.fields = .ok d' ∧
        (∀ ctx, d'.isVisible ctx = d.isVisible ctx) ∧
        ¬ (d'.slug = d.slug ∧ d'.idTemplate = d.idTemplate ∧
          ∀ limits context, d'.node limits context = d.node limits context) := by
  intro field d
  have hrules : RuleSet.HasTexts {} := ⟨nofun, nofun⟩
  obtain ⟨stored, d', hstored, hread, hvisible, hiff⟩ :=
    read_toValue_iff (d := d) rfl hrules hrules (by decide +kernel) (Or.inl rfl)
  refine ⟨rfl, by decide +kernel, by decide +kernel, by decide +kernel, stored, d', hstored, hread,
    hvisible, fun hsame => ?_⟩
  -- the label among the defaults makes a slug of its own
  have hother : (Field.defaults d.fields).map (fun defaults => slugOf (d.labelWith defaults)) =
      .ok "main_story" := by
    decide +kernel
  obtain ⟨defaults, hdefaults, hlabel⟩ := exists_of_map_eq_ok hother
  have hkeep := hiff.mp hsame rfl defaults hdefaults
  rw [hlabel] at hkeep
  exact absurd hkeep (by decide +kernel)

end

end Schema

end StructuredData
