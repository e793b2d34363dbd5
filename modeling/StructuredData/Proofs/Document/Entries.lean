import Mathlib.Data.List.Forall2
import StructuredData.Document.Render
import StructuredData.Proofs.Schema.NodeType
import StructuredData.Settings.Stored

/-!
# Stored entries

A stored entry that names no type is taken for its title, or for a thing, but the fields are looked
up under the name that it lacks.  So the schemas that are built of stored entries have the fields of
their types just if the entries name them, or if there is nothing to tell the fields apart; the
others are published bare where no values are stored (`Document.storedFields_agree_iff`).
-/

namespace StructuredData

/-! ## Schemas without fields -/

namespace Schema

variable {d : Schema}

/-- Of a schema without fields and values nothing is published but its type. -/
theorem runFrom_node_of_bare [Slugifier] (hfields : d.fields = []) (hvalues : d.values = .null)
    {a : Scalar}
    (htype : d.type = .scalar a) (hgiven : a.truthy = true) (limits : Limits) (context : Value)
    (p : Pass) : runFrom (d.node limits context) p = (.ok [(.text "@type", d.type)], p) := by
  have hown : d.fieldValues = .ok [] := by
    rw [fieldValues, effectiveValues, hvalues, hfields]
    rfl
  have htypes : d.nodeType [] = d.type := by
    have htruthy : d.type.truthy = true := by rwa [htype]
    show (Value.orElse (Value.null.orElse d.type) "Thing") = d.type
    rw [Value.orElse, if_pos (Value.truthy_orElse htruthy)]
    rfl
  have hentries : d.nodeFields [] = .ok [("@type", d.type)] := by
    rw [nodeFields, flattenFields, hfields]
    show Except.ok [(Scalar.text "@type", d.nodeType [])] = _
    rw [htypes]
  have hempty : d.requiredEmpty [("@type", d.type)] = .ok [] := by
    rw [requiredEmpty, hfields]
    rfl
  have hkept : Value.pruneFields [(.text "@type", d.type)] = [(.text "@type", d.type)] := by
    rw [htype, Value.pruneFields, Value.prune_scalar, Value.keepField,
      Value.isDropped_scalar_of_truthy hgiven]
    rfl
  rw [node, hown, lift_ok_bind, expandFields, pure_bind, hentries, lift_ok_bind, hempty,
    lift_ok_bind, hkept]
  rfl

end Schema

/-- A type that is not registered has no fields. -/
theorem Catalog.fields_of_not_contains {c : Catalog} {name : Value}
    (h : c.contains name = .ok false) : c.fields name = .ok [] := by
  obtain ⟨key, hkey, hcontains⟩ := exists_of_map_eq_ok h
  have hnone : c.types.lookup key = none := by
    rwa [Assoc.contains_eq_isSome, Option.isSome_eq_false_iff, Option.isNone_iff_eq_none]
      at hcontains
  rw [fields, hkey]
  dsimp only [bind, Except.bind]
  rw [hnone]
  rfl

/-- Only what can be a key is registered. -/
theorem Catalog.exists_scalar_of_contains {c : Catalog} {name : Value} {b : Bool}
    (h : c.contains name = .ok b) : ∃ a, name = .scalar a := by
  obtain ⟨key, hkey, -⟩ := exists_of_map_eq_ok h
  cases name with
  | scalar a => exact ⟨a, rfl⟩
  | _ => cases hkey

namespace Document

/-! ## Stored sets -/

/-- Whether a set of stored schemas is the one for a page: it is stored for what the page is about,
or it is that of the site and nothing is stored for what the page is about. -/
structure IsStoredSet (settings : Settings) (s : Source) (page : Page) (entries : List Value) :
    Prop where
  ne_nil : entries ≠ []
  stored : s.storedSchemas page = entries ∨
    s.storedSchemas page = [] ∧ settings.schemas = .list entries

variable {settings : Settings} {r : Registry} {s : Source} {page : Page} {entries : List Value}
  {ds : List Schema}

theorem IsStoredSet.activeSchemas_eq (h : IsStoredSet settings s page entries) :
    activeSchemas settings r s page = storedSchemas r.catalog entries := by
  have hgiven : entries.isEmpty = false := by simpa using h.ne_nil
  unfold activeSchemas
  rcases h.stored with h | ⟨hnone, h⟩
  · rw [h]
    dsimp only
    rw [hgiven]
    rfl
  · have htruthy : (Value.list entries).truthy = true := by
      rw [Value.truthy, hgiven]
      rfl
    rw [hnone, h, if_neg (by decide), if_pos htruthy]
    rfl

/-- The schemas of a stored set are those that its entries describe, one for each. -/
theorem IsStoredSet.forall₂_storedSchema (h : IsStoredSet settings s page entries)
    (hactive : activeSchemas settings r s page = .ok ds) :
    List.Forall₂ (fun e d => storedSchema r.catalog e = .ok d) (entries.filter isEntry) ds := by
  rw [h.activeSchemas_eq] at hactive
  exact mapM_eq_ok_iff.mp hactive

/-! ## The type of an entry and its fields -/

section Entry

variable {c : Catalog} {e : Value} {d : Schema}

/-- The type of a schema falls back on the title of its entry, the look-up of its fields does
not. -/
theorem exists_of_storedSchema (h : storedSchema c e = .ok d) :
    ∃ type title, e.member "type" = .ok type ∧ e.member "title" = .ok title ∧
      c.fields (type.orElse "") = .ok d.fields ∧ d.type = (type.orElse title).orElse "Thing" := by
  rw [storedSchema] at h
  obtain ⟨type, htype, h⟩ := exists_of_bind_eq_ok h
  obtain ⟨fields, hfields, h⟩ := exists_of_bind_eq_ok h
  rw [Schema.read, htype] at h
  obtain ⟨title, htitle, h⟩ := exists_of_bind_eq_ok h
  obtain ⟨type', htype', h⟩ := exists_of_bind_eq_ok h
  obtain rfl := Except.ok.inj htype'
  -- the rules and the values have no part in this
  obtain ⟨_, -, h⟩ := exists_of_bind_eq_ok h
  obtain ⟨_, -, h⟩ := exists_of_bind_eq_ok h
  obtain ⟨_, -, h⟩ := exists_of_bind_eq_ok h
  obtain ⟨_, -, h⟩ := exists_of_bind_eq_ok h
  obtain ⟨_, -, h⟩ := exists_of_bind_eq_ok h
  cases h
  exact ⟨_, _, htype, htitle, hfields, rfl⟩

theorem isTyped_of_member {type : Value} (h : e.member "type" = .ok type) :
    Settings.isTyped e = type.truthy := by
  rw [Settings.isTyped, h]

variable (h : storedSchema c e = .ok d)

include h

/-- An entry with a type has the fields of that type. -/
theorem fields_eq_of_isTyped (htyped : Settings.isTyped e = true) :
    c.fields d.type = .ok d.fields := by
  obtain ⟨type, title, htype, -, hfields, hd⟩ := exists_of_storedSchema h
  have hgiven : type.truthy = true := (isTyped_of_member htype).symm.trans htyped
  have hown : d.type = type := by simp [hd, Value.orElse, hgiven]
  rw [Value.orElse, if_pos hgiven] at hfields
  rw [hown, hfields]

/-- An entry without one has the fields that stand under the empty name. -/
theorem fields_eq_of_not_isTyped (huntyped : Settings.isTyped e = false) :
    c.fields "" = .ok d.fields := by
  obtain ⟨type, title, htype, -, hfields, -⟩ := exists_of_storedSchema h
  have hmissing : ¬ type.truthy = true := by
    rw [← isTyped_of_member htype, huntyped]
    decide
  rwa [Value.orElse, if_neg hmissing] at hfields

/-- The type of a stored schema counts. -/
theorem truthy_type_of_storedSchema : d.type.truthy = true := by
  obtain ⟨_, _, -, -, -, hd⟩ := exists_of_storedSchema h
  rw [hd]
  exact Value.truthy_orElse rfl

/-- An entry that names its type has the fields of this type, any other one those of a type without
a name. -/
theorem fields_agree_iff : c.fields d.type = .ok d.fields ↔
    Settings.isTyped e = true ∨ c.fields d.type = c.fields "" := by
  by_cases htyped : Settings.isTyped e = true
  · exact ⟨fun _ => .inl htyped, fun _ => fields_eq_of_isTyped h htyped⟩
  · rw [fields_eq_of_not_isTyped h (by simpa using htyped), or_iff_right htyped]

/-- An entry that names no type and stores no values is published with nothing but the type that it
is taken for. -/
theorem runFrom_node_of_not_isTyped [Slugifier] (huntyped : Settings.isTyped e = false)
    (hunnamed : c.contains "" = .ok false) (hregistered : c.contains d.type = .ok true)
    (hvalues : d.values = .null) (limits : Limits) (context : Value) (p : Pass) :
    runFrom (d.node limits context) p = (.ok [(.text "@type", d.type)], p) := by
  have hfields : d.fields = [] := by
    have hsame := (fields_eq_of_not_isTyped h huntyped).symm.trans
      (Catalog.fields_of_not_contains hunnamed)
    exact Except.ok.inj hsame
  obtain ⟨a, ha⟩ := Catalog.exists_scalar_of_contains hregistered
  have hgiven : a.truthy = true := by
    have htruthy := truthy_type_of_storedSchema h
    rwa [ha] at htruthy
  exact Schema.runFrom_node_of_bare hfields hvalues ha hgiven limits context p

end Entry

/-- **Stored entries and the fields of their types.**  Each schema that is built of an entry of a
stored set has the fields that the catalog has for its type if and only if the entry names a type,
or these fields are those of a type without a name.  If no values are stored, an entry that names
its type has the registered defaults of this type; of one that names none, though it is taken for a
registered type, nothing is published but this type. -/
theorem storedFields_agree_iff [Slugifier] (hset : IsStoredSet settings s page entries)
    (hactive : activeSchemas settings r s page = .ok ds) :
    List.Forall₂ (fun e d =>
      (r.catalog.fields d.type = .ok d.fields ↔
        Settings.isTyped e = true ∨ r.catalog.fields d.type = r.catalog.fields "") ∧
      (d.values = .null →
        (Settings.isTyped e = true → d.effectiveValues =
          (r.catalog.fields d.type).bind fun fields => (Field.defaults fields).map .object) ∧
        (Settings.isTyped e = false → r.catalog.contains "" = .ok false →
          r.catalog.contains d.type = .ok true →
          ∀ (limits : Limits) (context : Value) (p : Pass),
            runFrom (d.node limits context) p = (.ok [(.text "@type", d.type)], p))))
      (entries.filter isEntry) ds := by
  refine (hset.forall₂_storedSchema hactive).imp fun e d h => ?_
  refine ⟨fields_agree_iff h, fun hvalues => ⟨fun htyped => ?_, ?_⟩⟩
  · rw [fields_eq_of_isTyped h htyped, Schema.effectiveValues, hvalues]
    rfl
  · intro huntyped hunnamed hregistered limits context p
    exact runFrom_node_of_not_isTyped h huntyped hunnamed hregistered hvalues limits context p

section

attribute [local instance] Slugifier.ascii

/-- Two entries for the same type, one of which gives it as its title only. -/
theorem storedFields_agree_iff_of_title :
    let name : Field := { id := "name", required := true, defaultValue := "%site.title%" }
    let webSite : SchemaType :=
      { name := "WebSite", title := .ok "Website", showOn := .ok {}, fields := .ok [name] }
    let r : Registry := { catalog := { types := [("WebSite", webSite)] } }
    let settings : Settings :=
      { schemas := .list [.object [("title", "WebSite")], .object [("type", "WebSite")]] }
    let bare : Schema := { title := "WebSite", type := "WebSite" }
    let full : Schema := { title := "WebSite", type := "WebSite", fields := [name] }
    activeSchemas settings r {} { kind := .blog } = .ok [bare, full] ∧
      r.catalog.fields bare.type ≠ .ok bare.fields ∧
      runFrom (bare.node {} .null) {} = (.ok [(.text "@type", "WebSite")], {}) ∧
      r.catalog.fields full.type = .ok full.fields ∧
      full.effectiveValues = .ok (.object [("name", "%site.title%")]) := by
  intro name webSite r settings bare full
  have hset : IsStoredSet settings {} { kind := .blog }
      [.object [("title", "WebSite")], .object [("type", "WebSite")]] :=
    ⟨List.cons_ne_nil _ _, .inr ⟨rfl, rfl⟩⟩
  have hactive : activeSchemas settings r {} { kind := .blog } = .ok [bare, full] := rfl
  obtain _ | ⟨⟨hbare, hbareNode⟩, _ | ⟨⟨hfull, hfullValues⟩, -⟩⟩ :=
    storedFields_agree_iff hset hactive
  refine ⟨hactive, fun hsame => ?_, ?_, hfull.mpr (.inl rfl), (hfullValues rfl).1 rfl⟩
  · rcases hbare.mp hsame with htyped | hfields
    · cases htyped
    · cases hfields
  · exact (hbareNode rfl).2 rfl rfl rfl {} .null {}

end

end Document

end StructuredData
