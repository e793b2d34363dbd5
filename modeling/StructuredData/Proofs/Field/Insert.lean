import Mathlib.Data.List.Find
import Mathlib.Data.List.Induction
import StructuredData.Registry.Catalog

/-!
# Fields that are added

A field that is added takes the place of the one with its id, and the others stay in their order.
So fields with different ids, to which fields are added one after the other, still have different
ids, and under each id stands the field that was added last (`Field.addAll_keeps`).
-/

namespace StructuredData.Field

/-! ## Ids -/

/-- Whether the id of a field is a scalar that is equal to itself, as each text is. -/
def IsNamed (f : Field) : Prop := ∃ a : Scalar, f.id = .scalar a ∧ a.isNoNumber = false

/-- Whether a field has an id. -/
def hasId (id : Value) (f : Field) : Bool := f.id.equals id

/-- Whether no two fields have equal ids. -/
def AreDistinct (fields : List Field) : Prop := fields.Pairwise fun f g => f.hasId g.id = false

instance (fields : List Field) : Decidable (AreDistinct fields) :=
  inferInstanceAs (Decidable (fields.Pairwise _))

variable {f g : Field}

theorem isNamed_of_text {s : String} (h : f.id = .text s) : f.IsNamed := ⟨.text s, h, rfl⟩

/-- The id of a field is compared as a scalar. -/
theorem hasId_scalar {a : Scalar} (hf : f.id = .scalar a) (ha : a.isNoNumber = false)
    (b : Scalar) : f.hasId (.scalar b) = (a == b) := by
  simp [hasId, hf, Value.equals, Value.isNoNumber, ha, Value.same]

theorem IsNamed.hasId_self (hf : f.IsNamed) : f.hasId f.id = true := by
  obtain ⟨a, ha, hnumber⟩ := hf
  rw [ha, hasId_scalar ha hnumber]
  exact BEq.rfl

/-- Having the same id goes both ways. -/
theorem IsNamed.hasId_comm (hf : f.IsNamed) (hg : g.IsNamed) : f.hasId g.id = g.hasId f.id := by
  obtain ⟨a, ha, hnumber⟩ := hf
  obtain ⟨b, hb, hnumber'⟩ := hg
  rw [ha, hb, hasId_scalar ha hnumber, hasId_scalar hb hnumber', BEq.comm]

/-- Of two fields with equal ids each has the ids that the other one has. -/
theorem IsNamed.hasId_congr (hf : f.IsNamed) (hg : g.IsNamed) (h : f.hasId g.id = true)
    (id : Value) : f.hasId id = g.hasId id := by
  obtain ⟨a, ha, hnumber⟩ := hf
  obtain ⟨b, hb, hnumber'⟩ := hg
  rw [hb, hasId_scalar ha hnumber] at h
  cases id with
  | scalar c => rw [hasId_scalar ha hnumber, hasId_scalar hb hnumber', BEq.congr_left h]
  | _ => simp [hasId, ha, hb, Value.equals, Value.same]

/-- Two fields that have one id have equal ids. -/
theorem IsNamed.hasId_of_hasId (hf : f.IsNamed) (hg : g.IsNamed) {id : Value}
    (h : f.hasId id = true) (h' : g.hasId id = true) : f.hasId g.id = true := by
  obtain ⟨a, ha, hnumber⟩ := hf
  obtain ⟨b, hb, hnumber'⟩ := hg
  cases id with
  | scalar c =>
    rw [hasId_scalar ha hnumber] at h
    rw [hasId_scalar hb hnumber'] at h'
    rw [hb, hasId_scalar ha hnumber, BEq.congr_right h']
    exact h
  | _ => simp [hasId, ha, Value.equals, Value.same] at h

/-! ## Adding one field -/

/-- The fields that stay when a field is added: those with another id. -/
def others (new : Field) (fields : List Field) : List Field :=
  fields.filter fun f => !f.hasId new.id

/-- Where a field is put among others: directly behind the first one that has the id which is named,
and at the end if none of them has it or none is named. -/
inductive IsPlaced (new : Field) (after : Value) (others : List Field) : List Field → Prop
  | behind {before rest : List Field} {f : Field} (hothers : others = before ++ f :: rest)
      (hafter : after.isNull = false) (hf : f.hasId after = true)
      (hbefore : ∀ g ∈ before, g.hasId after = false) :
      IsPlaced new after others (before ++ f :: new :: rest)
  | last (hothers : after.isNull = true ∨ ∀ f ∈ others, f.hasId after = false) :
      IsPlaced new after others (others ++ [new])

variable {new : Field} {after : Value} {fields : List Field}

/-- A field is put behind the first one with the id, if there is one. -/
theorem insertAfter?_spec (new : Field) (id : Value) (fields : List Field) :
    match insertAfter? new id fields with
    | some placed => ∃ before f rest, fields = before ++ f :: rest ∧ f.hasId id = true ∧
        (∀ g ∈ before, g.hasId id = false) ∧ placed = before ++ f :: new :: rest
    | none => ∀ f ∈ fields, f.hasId id = false := by
  induction fields with
  | nil => simp [insertAfter?]
  | cons f rest ih =>
    rw [insertAfter?]
    by_cases hf : f.id.equals id = true
    · rw [if_pos hf]
      exact ⟨[], f, rest, rfl, hf, by simp, rfl⟩
    · rw [if_neg hf]
      have hf' : f.hasId id = false := by simpa [hasId] using hf
      cases hplaced : insertAfter? new id rest with
      | none =>
        rw [hplaced] at ih
        simpa [hf'] using ih
      | some placed =>
        rw [hplaced] at ih
        obtain ⟨before, g, behind, rfl, hg, hbefore, rfl⟩ := ih
        exact ⟨f :: before, g, behind, rfl, hg, by simpa [hf'] using hbefore, rfl⟩

/-- A field is added to those with other ids. -/
theorem insert_eq (new : Field) (after : Value) (fields : List Field) :
    insert new after fields =
      match if after.isNull then none else insertAfter? new after (others new fields) with
      | some placed => placed
      | none => others new fields ++ [new] :=
  rfl

/-- **Where an added field is put** among the fields with other ids. -/
theorem isPlaced_insert (new : Field) (after : Value) (fields : List Field) :
    IsPlaced new after (others new fields) (insert new after fields) := by
  have hspec := insertAfter?_spec new after (others new fields)
  rw [insert_eq]
  cases hafter : after.isNull with
  | true => exact .last (Or.inl hafter)
  | false =>
    rw [if_neg (by simp)]
    cases hplaced : insertAfter? new after (others new fields) with
    | none =>
      rw [hplaced] at hspec
      exact .last (Or.inr hspec)
    | some placed =>
      rw [hplaced] at hspec
      obtain ⟨before, f, rest, hothers, hf, hbefore, rfl⟩ := hspec
      exact .behind hothers hafter hf hbefore

/-- An added field stands between two parts of those with other ids. -/
theorem exists_insert_eq (new : Field) (after : Value) (fields : List Field) :
    ∃ before behind, others new fields = before ++ behind ∧
      insert new after fields = before ++ new :: behind := by
  have hplaced := isPlaced_insert new after fields
  generalize insert new after fields = placed at hplaced ⊢
  cases hplaced with
  | @behind before rest f hothers => exact ⟨before ++ [f], rest, by simp [hothers], by simp⟩
  | last => exact ⟨others new fields, [], by simp, rfl⟩

/-- What is there after inserting is the new field or one of the others. -/
theorem mem_insert (hf : f ∈ insert new after fields) : f = new ∨ f ∈ others new fields := by
  obtain ⟨before, behind, hothers, hinsert⟩ := exists_insert_eq new after fields
  rw [hinsert] at hf
  rw [hothers]
  simp only [List.mem_append, List.mem_cons] at hf ⊢
  tauto

/-- What leaves out the fields with the id of an added one is the same before and after. -/
theorem filter_insert {p : Field → Bool} (hnew : p new = false)
    (hp : ∀ f ∈ fields, f.hasId new.id = true → p f = false) :
    (insert new after fields).filter p = fields.filter p := by
  obtain ⟨before, behind, hothers, hinsert⟩ := exists_insert_eq new after fields
  have hkept : (others new fields).filter p = fields.filter p := by
    rw [others, List.filter_filter]
    refine List.filter_congr fun f hf => ?_
    cases hid : f.hasId new.id with
    | true => simp [hp f hf hid]
    | false => simp
  rw [← hkept, hothers, hinsert, List.filter_append, List.filter_append,
    List.filter_cons_of_neg (by simp [hnew])]

/-- A field that is added twice stands where it stands when it is added once. -/
theorem insert_insert (hnew : new.IsNamed) (after : Value) (fields : List Field) :
    insert new after (insert new after fields) = insert new after fields := by
  have hothers : others new (insert new after fields) = others new fields :=
    filter_insert (by simp [hnew.hasId_self]) fun f _ hf => by simp [hf]
  rw [insert_eq, hothers, ← insert_eq]

/-- Inserting keeps ids apart. -/
theorem areDistinct_insert (hnew : new.IsNamed) (hfields : ∀ f ∈ fields, f.IsNamed)
    (h : AreDistinct fields) : AreDistinct (insert new after fields) := by
  obtain ⟨before, behind, hothers, hinsert⟩ := exists_insert_eq new after fields
  have hkept : (before ++ behind).Pairwise fun f g => f.hasId g.id = false :=
    hothers ▸ h.sublist List.filter_sublist
  have hdiffers : ∀ f ∈ before ++ behind, f.IsNamed ∧ f.hasId new.id = false := by
    intro f hf
    rw [← hothers] at hf
    obtain ⟨hmem, hid⟩ := List.mem_filter.mp hf
    exact ⟨hfields f hmem, by simpa using hid⟩
  rw [hinsert, AreDistinct, List.pairwise_append, List.pairwise_cons]
  obtain ⟨hbefore, hbehind, hboth⟩ := List.pairwise_append.mp hkept
  refine ⟨hbefore, ⟨fun g hg => ?_, hbehind⟩, fun f hf g hg => ?_⟩
  · obtain ⟨hnamed, hid⟩ := hdiffers g (List.mem_append_right before hg)
    rwa [hnew.hasId_comm hnamed]
  · rcases List.mem_cons.mp hg with rfl | hg
    · exact (hdiffers f (List.mem_append_left behind hf)).2
    · exact hboth f hf g hg

/-- What is found under an id after a field has been added: this field if it has the id, else what
was found before. -/
theorem find?_insert (hnew : new.IsNamed) (hfields : ∀ f ∈ fields, f.IsNamed) (id : Value) :
    (insert new after fields).find? (hasId id) =
      if new.hasId id then some new else fields.find? (hasId id) := by
  obtain ⟨before, behind, hothers, hinsert⟩ := exists_insert_eq new after fields
  rw [hinsert, List.find?_append, List.find?_cons]
  by_cases hid : new.hasId id = true
  · -- no field with another id has this one
    have hbefore : before.find? (hasId id) = none := by
      refine List.find?_eq_none.mpr fun f hf hfid => ?_
      have hmem : f ∈ others new fields := hothers ▸ List.mem_append_left behind hf
      obtain ⟨hmem, hother⟩ := List.mem_filter.mp hmem
      have hsame := (hfields f hmem).hasId_of_hasId hnew hfid hid
      simp [hsame] at hother
    rw [hbefore, if_pos hid, hid]
    rfl
  · have hkept : (others new fields).find? (hasId id) = fields.find? (hasId id) := by
      rw [others, List.find?_filter]
      refine List.find?_congr fun f hf => ?_
      cases hsame : f.hasId new.id with
      | true => simp [(hfields f hf).hasId_congr hnew hsame, hid]
      | false => simp
    rw [if_neg hid, ← hkept, hothers, List.find?_append, Bool.eq_false_iff.mpr hid]

/-! ## Adding fields one after the other -/

/-- A field to be added, with the id of the field behind which it goes, null if none is named. -/
structure Addition where
  field : Field
  after : Value := .null

/-- The extension that adds a field. -/
def Addition.extension (a : Addition) : FieldExtension := insert a.field a.after

/-- Adds fields one after the other. -/
def addAll (l : List Addition) (fields : List Field) : List Field :=
  l.foldl (fun fields a => a.extension fields) fields

/-- The field that is added last under an id. -/
def lastAdded (id : Value) (l : List Addition) : Option Field :=
  (l.map Addition.field).reverse.find? (hasId id)

/-- Whether a field has an id under which none is added. -/
def isKept (l : List Addition) (f : Field) : Bool := !l.any fun a => f.hasId a.field.id

variable {l : List Addition}

theorem addAll_append (l l' : List Addition) (fields : List Field) :
    addAll (l ++ l') fields = addAll l' (addAll l fields) :=
  List.foldl_append

theorem isNamed_of_mem_addAll (hl : ∀ a ∈ l, a.field.IsNamed)
    (hfields : ∀ f ∈ fields, f.IsNamed) : ∀ f ∈ addAll l fields, f.IsNamed := by
  induction l generalizing fields with
  | nil => exact hfields
  | cons a rest ih =>
    refine ih (fun a ha => hl a (by simp [ha])) fun f hf => ?_
    rcases mem_insert hf with rfl | hf
    · exact hl a (by simp)
    · exact hfields f (List.mem_filter.mp hf).1

/-- Adding fields keeps ids apart. -/
theorem areDistinct_addAll (hl : ∀ a ∈ l, a.field.IsNamed) (hfields : ∀ f ∈ fields, f.IsNamed)
    (h : AreDistinct fields) : AreDistinct (addAll l fields) := by
  induction l using List.reverseRecOn with
  | nil => exact h
  | append_singleton l a ih =>
    have hl' : ∀ a ∈ l, a.field.IsNamed := fun a ha => hl a (by simp [ha])
    rw [addAll_append]
    exact areDistinct_insert (hl a (by simp)) (isNamed_of_mem_addAll hl' hfields) (ih hl')

/-- Under an id stands the field that was added last under it, else the one that was there. -/
theorem find?_addAll (hl : ∀ a ∈ l, a.field.IsNamed) (hfields : ∀ f ∈ fields, f.IsNamed)
    (id : Value) :
    (addAll l fields).find? (hasId id) = (lastAdded id l).or (fields.find? (hasId id)) := by
  induction l using List.reverseRecOn with
  | nil => rfl
  | append_singleton l a ih =>
    have hl' : ∀ a ∈ l, a.field.IsNamed := fun a ha => hl a (by simp [ha])
    have hlast : lastAdded id (l ++ [a]) =
        if a.field.hasId id then some a.field else lastAdded id l := by
      rw [lastAdded, List.map_append, List.reverse_append]
      by_cases ha : a.field.hasId id = true <;> simp [lastAdded, ha]
    rw [addAll_append, hlast]
    refine (find?_insert (hl a (by simp)) (isNamed_of_mem_addAll hl' hfields) id).trans ?_
    rw [ih hl']
    split <;> rfl

/-- A catalog whose extensions of a type add fields gives the type its fields with these added. -/
theorem extended_eq_addAll {c : Catalog} {name : Scalar} {t : SchemaType}
    (ht : t.fields = .ok fields)
    (hc : (c.extensions.lookup name).getD [] = l.map Addition.extension) :
    c.extended name t = .ok (addAll l fields) := by
  rw [Catalog.extended, ht, hc]
  exact congrArg Except.ok List.foldl_map

/-- What leaves out the fields under whose ids others are added is the same before and after. -/
theorem filter_addAll {p : Field → Bool} (hl : ∀ a ∈ l, a.field.IsNamed)
    (hp : ∀ a ∈ l, ∀ f : Field, f.hasId a.field.id = true → p f = false) :
    (addAll l fields).filter p = fields.filter p := by
  induction l generalizing fields with
  | nil => rfl
  | cons a rest ih =>
    have hadded : p a.field = false := hp a (by simp) a.field (hl a (by simp)).hasId_self
    show (addAll rest (insert a.field a.after fields)).filter p = fields.filter p
    rw [ih (fun a ha => hl a (by simp [ha])) fun a ha => hp a (by simp [ha])]
    exact filter_insert hadded fun f _ => hp a (by simp) f

/-- **Fields that are added one after the other.**  Fields with different ids still have different
ids when fields have been added to them.  Under each id is then the field that was added last, else
the one that was there; and the fields under whose ids none was added are all there, in their order.
Each field that is added goes behind the field that is named, if another one has that id, and to the
end if not, the others staying in their order; and it makes no difference if it is added twice in a
row.  A catalog with these extensions of a type gives the type these fields. -/
theorem addAll_keeps (hfields : ∀ f ∈ fields, f.IsNamed) (hdistinct : AreDistinct fields)
    (hl : ∀ a ∈ l, a.field.IsNamed) :
    AreDistinct (addAll l fields) ∧
    (∀ id, (addAll l fields).find? (hasId id) =
      (lastAdded id l).or (fields.find? (hasId id))) ∧
    (addAll l fields).filter (isKept l) = fields.filter (isKept l) ∧
    (∀ before a behind, l = before ++ a :: behind →
      IsPlaced a.field a.after (others a.field (addAll before fields))
        (addAll (before ++ [a]) fields) ∧
      addAll (before ++ a :: a :: behind) fields = addAll l fields) ∧
    ∀ (c : Catalog) (name : Scalar) (t : SchemaType), t.fields = .ok fields →
      (c.extensions.lookup name).getD [] = l.map Addition.extension →
      c.extended name t = .ok (addAll l fields) := by
  refine ⟨areDistinct_addAll hl hfields hdistinct, find?_addAll hl hfields,
    filter_addAll hl fun a ha f hf => ?_, ?_, fun _ _ _ ht hc => extended_eq_addAll ht hc⟩
  · rw [isKept, Bool.not_eq_false']
    exact List.any_eq_true.mpr ⟨a, ha, hf⟩
  · rintro before a behind rfl
    refine ⟨?_, ?_⟩
    · rw [addAll_append]
      exact isPlaced_insert a.field a.after (addAll before fields)
    · have htwice := insert_insert (hl a (by simp)) a.after (addAll before fields)
      rw [addAll_append, addAll_append]
      show addAll behind (insert a.field a.after (insert a.field a.after (addAll before fields))) =
        addAll behind (insert a.field a.after (addAll before fields))
      rw [htwice]

/-- A field behind one that was added before, one in the place of the field that it names, and one
in the place of the first. -/
theorem addAll_keeps_of_replaced :
    let field (id : String) (v : Value) : Field := { id := .text id, defaultValue := v }
    let fields := [field "name" "A", field "url" "B", field "image" "C"]
    let l : List Addition := [⟨field "sku" "D", "name"⟩, ⟨field "url" "E", "url"⟩,
      ⟨field "name" "F", "sku"⟩]
    (∀ f ∈ fields, f.IsNamed) ∧ AreDistinct fields ∧ (∀ a ∈ l, a.field.IsNamed) ∧
      (addAll l fields).map Field.id = [.text "sku", .text "name", .text "image", .text "url"] ∧
      AreDistinct (addAll l fields) ∧
      (addAll l fields).find? (hasId "url") = some (field "url" "E") ∧
      (addAll l fields).filter (isKept l) = [field "image" "C"] := by
  intro field fields l
  have hfields : ∀ f ∈ fields, f.IsNamed := by
    simp only [fields, List.forall_mem_cons, List.not_mem_nil, false_implies, implies_true,
      and_true]
    exact ⟨isNamed_of_text rfl, isNamed_of_text rfl, isNamed_of_text rfl⟩
  have hl : ∀ a ∈ l, a.field.IsNamed := by
    simp only [l, List.forall_mem_cons, List.not_mem_nil, false_implies, implies_true, and_true]
    exact ⟨isNamed_of_text rfl, isNamed_of_text rfl, isNamed_of_text rfl⟩
  have hdistinct : AreDistinct fields := by decide
  obtain ⟨hkept, hfound, hrest, -⟩ := addAll_keeps hfields hdistinct hl
  exact ⟨hfields, hdistinct, hl, rfl, hkept, (hfound "url").trans rfl, hrest.trans rfl⟩

end StructuredData.Field
