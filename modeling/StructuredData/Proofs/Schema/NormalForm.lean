import StructuredData.Proofs.Schema.Stored

/-!
# The stored form is a normal form

An entry may leave out most of what a schema is made of, and may give its rules as other values than
texts.  A schema that is read from an entry and stored has a form of its own, in which nothing is
left out.  The entries in this form are those that are stored as they were read, and to read and
store any entry once leads to one of them (`Schema.stored_form`).
-/

namespace StructuredData

namespace RuleSet

/-- The rules and specifics of a set that is read are texts. -/
theorem hasTexts_of_read {v : Value} {s : RuleSet} (h : read v = .ok s) : s.HasTexts := by
  have htexts : ∀ {w : Value} {items : List Value}, readTexts w = .ok items →
      ∀ item ∈ items, ∃ t, item = .text t := by
    intro w items hitems item hitem
    obtain ⟨given, -, hgiven⟩ := exists_of_bind_eq_ok hitems
    obtain rfl := Except.ok.inj hgiven
    obtain ⟨x, -, rfl⟩ := List.mem_map.mp hitem
    exact ⟨x.toText, rfl⟩
  obtain ⟨rules, -, h⟩ := exists_of_bind_eq_ok h
  obtain ⟨ruleTexts, hrules, h⟩ := exists_of_bind_eq_ok h
  obtain ⟨specifics, -, h⟩ := exists_of_bind_eq_ok h
  obtain ⟨specificTexts, hspecifics, h⟩ := exists_of_bind_eq_ok h
  obtain rfl := Except.ok.inj h
  exact ⟨htexts hrules, htexts hspecifics⟩

end RuleSet

namespace Schema

variable {d : Schema} {fields : List Field}

/-- Whether a value is in stored form: a title and a type that count, two sets of texts, and an
object with the values of fields, under these keys in this order. -/
inductive IsStoredForm : Value → Prop
  | mk {title type : Value} {showOn notShowOn : RuleSet} {values : Fields}
      (htitle : title.truthy = true) (htype : type.truthy = true) (hshow : showOn.HasTexts)
      (hnot : notShowOn.HasTexts) :
      IsStoredForm (.object [("title", title), ("type", type), ("show_on", showOn.toValue),
        ("not_show_on", notShowOn.toValue), ("fields", .object values)])

/-- What holds of each schema that is read from an entry. -/
structure IsFilled (d : Schema) (fields : List Field) : Prop where
  title : d.title.truthy = true
  type : d.type.truthy = true
  showOn : d.showOn.HasTexts
  notShowOn : d.notShowOn.HasTexts
  fields_eq : d.fields = fields
  values : d.values = .null ∨ ∃ values, d.values = .object values

/-- A schema that is read has a title and a type, for which the one, the other or a common name
stands in, sets of texts, and stored values only if they are an object. -/
theorem isFilled_of_read {stored : Value} (h : read stored fields = .ok d) :
    d.IsFilled fields := by
  obtain ⟨title, -, h⟩ := exists_of_bind_eq_ok h
  obtain ⟨type, -, h⟩ := exists_of_bind_eq_ok h
  obtain ⟨showOn, -, h⟩ := exists_of_bind_eq_ok h
  obtain ⟨shown, hshown, h⟩ := exists_of_bind_eq_ok h
  obtain ⟨notShowOn, -, h⟩ := exists_of_bind_eq_ok h
  obtain ⟨notShown, hnotShown, h⟩ := exists_of_bind_eq_ok h
  obtain ⟨values, -, h⟩ := exists_of_bind_eq_ok h
  obtain rfl := Except.ok.inj h
  have htype : ((type.orElse title).orElse "Thing").truthy = true := Value.truthy_orElse rfl
  refine ⟨Value.truthy_orElse htype, htype, RuleSet.hasTexts_of_read hshown,
    RuleSet.hasTexts_of_read hnotShown, rfl, ?_⟩
  cases values with
  | object fields => exact Or.inr ⟨fields, rfl⟩
  | _ => exact Or.inl rfl

/-- The values of a schema that is read are an object, if it has any. -/
theorem IsFilled.exists_object (h : d.IsFilled fields) {v : Value}
    (hv : d.effectiveValues = .ok v) : ∃ values, v = .object values := by
  rw [effectiveValues] at hv
  rcases h.values with hnull | ⟨values, hstored⟩
  · rw [hnull] at hv
    obtain ⟨defaults, -, rfl⟩ := exists_of_map_eq_ok hv
    exact ⟨defaults, rfl⟩
  · rw [hstored] at hv
    exact ⟨values, (Except.ok.inj hv).symm⟩

/-- A schema that is read has a stored form if the ids of its fields can be keys. -/
theorem IsFilled.exists_toValue (h : d.IsFilled fields) (hfields : Field.areKeyed fields = true) :
    ∃ t, d.toValue = .ok t := by
  have hvalues : ∃ v, d.effectiveValues = .ok v := by
    rw [effectiveValues]
    rcases h.values with hnull | ⟨values, hstored⟩
    · obtain ⟨defaults, hdefaults⟩ := Field.exists_defaults hfields
      rw [hnull, h.fields_eq, hdefaults]
      exact ⟨_, rfl⟩
    · rw [hstored]
      exact ⟨_, rfl⟩
  obtain ⟨v, hv⟩ := hvalues
  exact ⟨_, by rw [toValue, hv]; rfl⟩

/-- What a schema that is read is stored as is in stored form. -/
theorem IsFilled.isStoredForm (h : d.IsFilled fields) {t : Value} (ht : d.toValue = .ok t) :
    IsStoredForm t := by
  obtain ⟨v, hv, ht⟩ := exists_of_bind_eq_ok ht
  obtain ⟨values, rfl⟩ := h.exists_object hv
  obtain rfl := Except.ok.inj ht
  exact .mk h.title h.type h.showOn h.notShowOn

/-- What is in stored form is stored as it is read. -/
theorem IsStoredForm.exists_read {v : Value} (h : IsStoredForm v) (fields : List Field) :
    ∃ d, read v fields = .ok d ∧ d.toValue = .ok v := by
  obtain @⟨title, type, showOn, notShowOn, values, htitle, htype, hshow, hnot⟩ := h
  let d : Schema := { title, type, showOn, notShowOn, fields, values := .object values }
  obtain ⟨stored, hstored, hread⟩ := exists_read_toValue (d := d) htype hshow hnot rfl
  obtain rfl := Except.ok.inj hstored
  -- a title that counts is not replaced
  have hrestored : d.restored values = d := by
    show ({ d with title := title.orElse type } : Schema) = d
    rw [Value.orElse, if_pos htitle]
  rw [hrestored] at hread
  exact ⟨d, hread, hstored⟩

/-- **The stored form is a normal form.**  A schema that is read from an entry has a stored form if
the ids of its fields can be keys; a schema is read from this form, with the same fields, and is
stored in the same form.  What is read and stored as it was is what is in stored form, with a title
and a type that count, sets of texts and an object of values, in the order in which these are
stored. -/
theorem stored_form (fields : List Field) :
    (∀ (entries : Fields) (d : Schema), read (.object entries) fields = .ok d →
      (Field.areKeyed fields = true → ∃ t, d.toValue = .ok t) ∧
      ∀ t, d.toValue = .ok t → ∃ d', read t fields = .ok d' ∧ d'.toValue = .ok t) ∧
    ∀ v, (∃ d, read v fields = .ok d ∧ d.toValue = .ok v) ↔ IsStoredForm v := by
  refine ⟨fun entries d hread => ?_, fun v => ⟨?_, fun h => h.exists_read fields⟩⟩
  · have hfilled := isFilled_of_read hread
    exact ⟨hfilled.exists_toValue, fun t ht => (hfilled.isStoredForm ht).exists_read fields⟩
  · rintro ⟨d, hread, hv⟩
    exact (isFilled_of_read hread).isStoredForm hv

/-- An entry without a type, with a number as a rule and a default among its fields. -/
theorem stored_form_of_untyped :
    let fields : List Field := [{ id := "name", defaultValue := "%post.title%", required := true }]
    let entries : Fields := [("fields", "none"), ("title", "Fair"), ("id", .int 7),
      ("show_on", .object [("specific", .list [.int 12, "post|7"])])]
    let t : Value := .object [("title", "Fair"), ("type", "Fair"),
      ("show_on", .object [("rules", .list []), ("specific", .list ["12", "post|7"])]),
      ("not_show_on", .object [("rules", .list []), ("specific", .list [])]),
      ("fields", .object [("name", "%post.title%")])]
    Field.areKeyed fields = true ∧
      ∃ d, read (.object entries) fields = .ok d ∧ d.toValue = .ok t ∧
        (∃ d', read t fields = .ok d' ∧ d'.toValue = .ok t) ∧ IsStoredForm t := by
  intro fields entries t
  obtain ⟨hread, hform⟩ := stored_form fields
  have hkeyed : Field.areKeyed fields = true := by decide +kernel
  obtain ⟨d, hd⟩ : ∃ d, read (.object entries) fields = .ok d := ⟨_, rfl⟩
  have ht : d.toValue = .ok t := by
    obtain rfl := Except.ok.inj hd
    rfl
  have hagain := (hread entries d hd).2 t ht
  exact ⟨hkeyed, d, hd, ht, hagain, (hform t).mp hagain⟩

end Schema

end StructuredData
