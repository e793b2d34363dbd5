import StructuredData.Proofs.Schema.Identity
import StructuredData.Proofs.Template.Placeholder

/-!
# The slug of a schema in placeholders

The slug of a schema is a safe segment of a placeholder: whatever its label is,
`%schemas.slug%` is one placeholder and nothing else, and the path that it names has the slug as
its second key (`Schema.slug_isSegment`).
-/

namespace StructuredData

/-- The placeholder for the reference to a schema is one token. -/
theorem Slug.isToken_schemas {name : String} (h : IsName name) :
    Template.IsToken ("schemas." ++ name) := by
  refine ⟨?_, fun c hc => ?_⟩
  · intro hempty
    have := congrArg String.length hempty
    simp at this
  · rw [String.toList_append, List.mem_append] at hc
    rcases hc with hc | hc
    · have hspace : ("schemas.".toList.all fun c => c != '%' && !isBlank c) = true := by decide
      simpa using List.all_eq_true.mp hspace c hc
    · refine ⟨?_, isBlank_eq_false_of_isSlugChar (h c hc)⟩
      rintro rfl
      exact absurd (h '%' hc) (by decide)

/-- The path of this token has two segments, the second being the slug. -/
theorem Slug.path_schemas {name : String} (h : IsName name) :
    Path.ofToken ("schemas." ++ name) = [.text "schemas", .text name] := by
  have hdot : '.' ∉ name.toList := fun hc => absurd (h '.' hc) (by decide)
  have hspace : '.' ∉ "schemas".toList := by decide
  have hsplit : "schemas." = "schemas" ++ "." := by decide
  rw [hsplit]
  exact Path.ofToken_member hspace hdot

theorem Template.placeholder_schemas (name : String) :
    "%schemas." ++ name ++ "%" = placeholder ("schemas." ++ name) := by
  have hsplit : "%schemas." = "%" ++ "schemas." := by decide
  rw [placeholder, hsplit]
  simp only [String.append_assoc]

namespace Schema

variable {d : Schema}

/-- A schema has a slug if its values are an object, or none are stored. -/
theorem exists_slug [Slugifier] (hvalues : d.values = .null ∨ ∃ values, d.values = .object values) :
    ∃ slug, d.slug = .ok slug := by
  rcases hvalues with hnull | ⟨values, hvalues⟩
  · exact ⟨slugOf (d.title.orElse d.type), by rw [slug, label_of_null hnull]; rfl⟩
  · exact ⟨slugOf (d.labelWith values), by rw [slug, label_of_values hvalues]; rfl⟩

/-- **Slugs are safe in placeholders.**  Whatever the slugifier gives for a label, its slug is empty
or consists of runs of letters and digits with single underscores between them; and so the
placeholder of a schema is one token, and the path that the token names has two keys of which the
second one is the slug. -/
theorem slug_isSegment [Slugifier] :
    (∀ s, Slug.IsJoined (Slug.ofText s).toList) ∧
    (∀ v, Slug.IsJoined (slugOf v).toList) ∧
    ∀ d : Schema, (d.values = .null ∨ ∃ values, d.values = .object values) →
      ∃ slug, d.slug = .ok slug ∧ Slug.IsJoined slug.toList ∧
        (Template.ofText ("%schemas." ++ slug ++ "%")).whole? = some ("schemas." ++ slug) ∧
        Path.ofToken ("schemas." ++ slug) = [.text "schemas", .text slug] := by
  refine ⟨Slug.isJoined_ofText, isJoined_slugOf, ?_⟩
  intro d hvalues
  obtain ⟨slug, hslug⟩ := exists_slug hvalues
  have hname : Slug.IsName slug := isName_slug hslug
  refine ⟨slug, hslug, isJoined_slug hslug, ?_, Slug.path_schemas hname⟩
  rw [Template.placeholder_schemas, Template.whole?_placeholder (Slug.isToken_schemas hname)]

section

attribute [local instance] Slugifier.ascii

/-- A label with dots and percent signs, and one of which nothing is left. -/
theorem slug_isSegment_of_label :
    let d (label : String) : Schema := { title := "Fair", values := .object [("_label", label)] }
    Slug.IsJoined (Slug.ofText "2024 Fair").toList ∧
      (d "2024 %Fair.Main%").slug = .ok "fair_main" ∧
      (Template.ofText "%schemas.fair_main%").whole? = some "schemas.fair_main" ∧
      Path.ofToken "schemas.fair_main" = [.text "schemas", .text "fair_main"] ∧
      (d "2024 %").slug = .ok "" ∧ Path.ofToken "schemas." = [.text "schemas", .text ""] := by
  intro d
  obtain ⟨hjoined, -, hschemas⟩ := slug_isSegment
  have hmain : (d "2024 %Fair.Main%").slug = .ok "fair_main" := by decide +kernel
  have hempty : (d "2024 %").slug = .ok "" := by decide +kernel
  obtain ⟨slug, hslug, -, hwhole, hpath⟩ := hschemas (d "2024 %Fair.Main%") (.inr ⟨_, rfl⟩)
  obtain rfl := Except.ok.inj (hmain.symm.trans hslug)
  obtain ⟨slug', hslug', -, -, hpath'⟩ := hschemas (d "2024 %") (.inr ⟨_, rfl⟩)
  obtain rfl := Except.ok.inj (hempty.symm.trans hslug')
  exact ⟨hjoined "2024 Fair", hmain, hwhole, hpath, hempty, hpath'⟩

end

end Schema

end StructuredData
