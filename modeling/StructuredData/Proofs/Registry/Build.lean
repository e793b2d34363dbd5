import StructuredData.Proofs.Schema.OwnId
import StructuredData.Registry.Basic

/-!
# The registry of a site

A registry that is built has the built-in types and those of the site, the veto on breadcrumbs, and
nothing that changes fields or facts.
-/

namespace StructuredData.Registry

variable {r r' : Registry} {log log' : Log}

/-- Registering types adds no type but these, and leaves all else alone. -/
theorem exists_of_run_registerAll {types : List SchemaType}
    (hrun : runFrom (r.registerAll types) log = (.ok r', log')) :
    r'.extenders = r.extenders ∧ r'.vetoes = r.vetoes ∧
      r'.catalog.extensions = r.catalog.extensions ∧
      ∀ e ∈ r'.catalog.types, e ∈ r.catalog.types ∨ e.2 ∈ types := by
  induction types generalizing r log with
  | nil =>
    cases hrun
    exact ⟨rfl, rfl, rfl, fun e he => Or.inl he⟩
  | cons t rest ih =>
    rw [registerAll] at hrun
    obtain ⟨r₁, log₁, hregister, hrun⟩ := runFrom_bind_eq_ok hrun
    obtain ⟨hextenders, hvetoes, hextensions, htypes⟩ := ih hrun
    rw [register] at hregister
    obtain ⟨c, log₂, hc, hregister⟩ := runFrom_bind_eq_ok hregister
    cases hregister
    rw [Catalog.register] at hc
    obtain ⟨-, -, hc⟩ := exists_of_runFrom_lift_bind hc
    obtain ⟨key, -, hc⟩ := exists_of_runFrom_lift_bind hc
    -- a notice may be given that a type gives way; the catalog is the same then
    have hcatalog : c = { r.catalog with types := Assoc.set key t r.catalog.types } := by
      dsimp only at hc
      split at hc
      · obtain ⟨-, log₃, -, hc⟩ := runFrom_bind_eq_ok hc
        cases hc
        rfl
      · cases hc
        rfl
    subst hcatalog
    refine ⟨hextenders, hvetoes, hextensions, fun e he => ?_⟩
    rcases htypes e he with he | he
    · rcases Assoc.mem_set he with he | ⟨-, ht⟩
      · exact Or.inl he
      · exact Or.inr (by simp [ht])
    · exact Or.inr (by simp [he])

/-- **What a registry is built of.** -/
theorem exists_of_run_build {sells : Bool} {custom : List SchemaType}
    (hrun : runFrom (build sells custom) log = (.ok r, log')) :
    r.extenders = [] ∧ r.vetoes = [breadcrumbVeto] ∧ r.catalog.extensions = [] ∧
      ∀ e ∈ r.catalog.types, e.2 ∈ SchemaType.builtin sells ++ custom := by
  rw [build] at hrun
  obtain ⟨r₁, log₁, hbuiltin, hrun⟩ := runFrom_bind_eq_ok hrun
  obtain ⟨r₂, log₂, hcustom, hrun⟩ := runFrom_bind_eq_ok hrun
  obtain ⟨hextenders₁, hvetoes₁, hextensions₁, htypes₁⟩ := exists_of_run_registerAll hbuiltin
  obtain ⟨hextenders₂, hvetoes₂, hextensions₂, htypes₂⟩ := exists_of_run_registerAll hcustom
  have hveto : r = { r₂ with vetoes := r₂.vetoes ++ [breadcrumbVeto] } := by
    have hadd := congrArg Prod.fst hrun
    change r₂.addVeto breadcrumbVeto = .ok r at hadd
    unfold addVeto at hadd
    split at hadd
    · cases hadd
    · cases hadd
      rfl
  subst hveto
  refine ⟨hextenders₂.trans hextenders₁, ?_, hextensions₂.trans hextensions₁, fun e he => ?_⟩
  · rw [hvetoes₂, hvetoes₁]
    rfl
  · rcases htypes₂ e he with he | he
    · rcases htypes₁ e he with he | he
      · cases he
      · exact List.mem_append_left _ he
    · exact List.mem_append_right _ he

end StructuredData.Registry

/-! ## The schemas of built-in types -/

namespace StructuredData

/-- The values of the schema that a type stands for, if nothing is added to its fields. -/
def SchemaType.values [Slugifier] (t : SchemaType) : Except Fault Fields := do
  (← t.schema (← t.fields)).fieldValues

/-- The defaults of the fields of a type, in which no slug is put in place. -/
def SchemaType.defaults (t : SchemaType) : Except Fault Fields := do Field.defaults (← t.fields)

/-- The values of the schema of a type are the defaults, but for the slug that is put in their
`@id`. -/
theorem SchemaType.exists_defaults_of_values [Slugifier] {t : SchemaType} {values : Fields}
    (h : t.values = .ok values) :
    ∃ defaults, t.defaults = .ok defaults ∧
      (values = defaults ∨ ∃ id slug : String, defaults.get? "@id" = some (.text id) ∧
        Slug.IsName slug ∧ values = Assoc.set (Scalar.text "@id")
          (.text (String.ofList (putSlug slug.toList id.toList))) defaults) := by
  obtain ⟨fields, hfields, h⟩ := exists_of_bind_eq_ok h
  obtain ⟨d, hschema, hvalues⟩ := exists_of_bind_eq_ok h
  obtain ⟨-, -, -, -, rfl, hnull⟩ := schema_eq_ok_iff.mp hschema
  have heffective : d.effectiveValues = (Field.defaults d.fields).map .object := by
    rw [Schema.effectiveValues, hnull]
    rfl
  cases hdefaults : Field.defaults d.fields with
  | error f =>
    rw [Schema.fieldValues, heffective, hdefaults] at hvalues
    cases hvalues
  | ok defaults =>
    rw [hdefaults] at heffective
    refine ⟨defaults, by rw [SchemaType.defaults, hfields]; exact hdefaults, ?_⟩
    by_cases hid : ∃ id, defaults.get? "@id" = some (.text id)
    · obtain ⟨id, hid⟩ := hid
      obtain ⟨template, htemplate, rfl⟩ := Schema.fieldValues_eq_ok heffective hid hvalues
      obtain ⟨slug, hslug, rfl⟩ := exists_of_map_eq_ok htemplate
      exact Or.inr ⟨id, slug, hid, Schema.isName_slug hslug, rfl⟩
    · have hsame := Schema.fieldValues_of_not_stored heffective fun id h => hid ⟨id, h⟩
      exact Or.inl (Except.ok.inj (hvalues.symm.trans hsame))

/-- A type that is built in is so also where products are sold. -/
theorem SchemaType.mem_builtin_true {sells : Bool} {t : SchemaType} (h : t ∈ builtin sells) :
    t ∈ builtin true := by
  cases sells with
  | true => exact h
  | false =>
    rw [builtin, if_neg (by decide), List.append_nil] at h
    exact List.mem_append_left _ h

/-- A test that all built-in types pass holds of what is read off one of them. -/
theorem SchemaType.holds_of_builtin {α : Type} {read : SchemaType → Except Fault α}
    {test : α → Bool} (hall : ∀ t ∈ builtin true, ((read t).map test).toOption.getD true = true)
    {t : SchemaType} (ht : t ∈ builtin true) {a : α} (ha : read t = .ok a) : test a = true := by
  have htest := hall t ht
  rw [ha] at htest
  exact htest

/-! ## The schemas of a catalog -/

/-- The schema under a name is that of its type, with the fields of the type passed through the
extensions for the name. -/
theorem Catalog.schema?_eq_ok_some_iff {c : Catalog} {name : Scalar} {d : Schema} :
    c.schema? (.scalar name) = .ok (some d) ↔
      ∃ t fields, c.types.lookup name = some t ∧ c.extended name t = .ok fields ∧
        t.schema fields = .ok d := by
  rw [c.schema?_of_key (show (Value.scalar name).key = .ok name from rfl)]
  constructor
  · intro h
    cases hlookup : c.types.lookup name with
    | none =>
      rw [hlookup] at h
      cases h
    | some t =>
      rw [hlookup] at h
      obtain ⟨d', hd, h⟩ := exists_of_bind_eq_ok h
      cases h
      obtain ⟨fields, hfields, hd⟩ := exists_of_bind_eq_ok hd
      exact ⟨t, fields, rfl, hfields, hd⟩
  · rintro ⟨t, fields, hlookup, hfields, hd⟩
    rw [hlookup]
    dsimp only
    show (c.extended name t >>= t.schema) >>= _ = _
    rw [hfields]
    show t.schema fields >>= _ = _
    rw [hd]
    rfl

/-- All schemas of a catalog are those under its names, in their order. -/
theorem Catalog.all_eq_ok_iff {c : Catalog} {ds : List Schema} :
    c.all = .ok ds ↔ List.Forall₂ (fun name d => ∃ t fields, c.types.lookup name = some t ∧
      c.extended name t = .ok fields ∧ t.schema fields = .ok d) c.names ds := by
  simp only [← schema?_eq_ok_some_iff]
  refine mapM_filterMap_eq_ok_iff fun name hname hnone => ?_
  rw [c.schema?_of_key (show (Value.scalar name).key = .ok name from rfl)] at hnone
  cases hlookup : c.types.lookup name with
  | none =>
    -- each name has a type
    obtain ⟨e, he, rfl⟩ := List.mem_map.mp hname
    have hsome := List.lookup_isSome_iff.mpr ⟨e, he, BEq.rfl⟩
    rw [hlookup] at hsome
    cases hsome
  | some t =>
    rw [hlookup] at hnone
    obtain ⟨d, -, hnone⟩ := exists_of_bind_eq_ok hnone
    cases hnone

/-- Each schema of a catalog of built-in types has the values of one of them. -/
theorem Catalog.exists_builtin_of_mem_all [Slugifier] {sells : Bool} {c : Catalog}
    {ds : List Schema} (hextensions : c.extensions = [])
    (htypes : ∀ e ∈ c.types, e.2 ∈ SchemaType.builtin sells) (hall : c.all = .ok ds) {d : Schema}
    (hd : d ∈ ds) : ∃ t ∈ SchemaType.builtin true, d.fieldValues = t.values := by
  obtain ⟨name, -, t, fields, hlookup, hfields, hschema⟩ :=
    exists_mem_left_of_forall₂ (all_eq_ok_iff.mp hall) hd
  have hextended : c.extended name t = t.fields := by
    rw [extended, hextensions]
    cases t.fields <;> rfl
  obtain ⟨k, -, he⟩ := Assoc.exists_mem_of_lookup hlookup
  refine ⟨t, SchemaType.mem_builtin_true (htypes _ he), ?_⟩
  rw [SchemaType.values, ← hextended, hfields]
  show _ = t.schema fields >>= fun d => d.fieldValues
  rw [hschema]
  rfl

end StructuredData
