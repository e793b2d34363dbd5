import Mathlib.Data.List.Forall2
import StructuredData.Field.Defaults
import StructuredData.Proofs.Assoc
import StructuredData.Proofs.Fault
import StructuredData.Proofs.Value.Clean

/-!
# Default values follow the field tree

The rule for default values is said by a relation between fields and values, which looks at one
level of the tree at a time: which sub-fields are kept, where their entries stand and which of
several fields with one id gives the value.  Fields whose ids can be keys come to the entries that
the rule gives them and to no others, and no object of a type alone is made
(`Field.defaults_follow_tree`).
-/

namespace StructuredData

/-- A stub has the key `@type` and no other. -/
theorem Value.isTypeStub_object_iff {entries : Fields} :
    (object entries).isTypeStub = true ↔ Assoc.keys entries = [.text "@type"] := by
  unfold isTypeStub
  split
  · rename_i heq
    obtain rfl := object.inj heq
    simp [Assoc.keys]
  · rename_i hother
    refine iff_of_false Bool.false_ne_true fun hkeys => ?_
    obtain ⟨⟨k, v⟩, hentries, hk⟩ := List.map_eq_singleton_iff.mp hkeys
    obtain rfl : k = .text "@type" := hk
    exact hother _ _ (by rw [hentries])

namespace Field

/-! ## Fields that have default values -/

mutual

/-- Whether the ids of a field and of all fields below it can be keys. -/
def isKeyed : Field → Bool
  | { id, children, .. } => id.key.isOk && areKeyed children

/-- Whether the ids of fields and of all fields below them can be keys. -/
def areKeyed : List Field → Bool
  | [] => true
  | f :: rest => isKeyed f && areKeyed rest

end

theorem exists_key_of_isKeyed {f : Field} (h : f.isKeyed = true) : ∃ key, f.id.key = .ok key := by
  obtain ⟨id⟩ := f
  rw [isKeyed, Bool.and_eq_true] at h
  cases hkey : id.key with
  | ok key => exact ⟨key, rfl⟩
  | error e =>
    rw [hkey] at h
    cases h.1

mutual

/-- Fields whose ids can be keys have default values. -/
theorem exists_initial : ∀ {f : Field}, f.isKeyed = true → ∃ v, f.initial = .ok v
  | { kind, defaultValue, cloneable, children, .. }, h => by
    rw [isKeyed, Bool.and_eq_true] at h
    obtain ⟨pairs, hpairs⟩ := exists_initialPairs (groupType children) h.2
    rw [initial, hpairs]
    split
    · exact ⟨_, rfl⟩
    · split
      · exact ⟨_, rfl⟩
      · exact ⟨_, rfl⟩

/-- Fields with keys have initial values. -/
theorem exists_initialPairs (type : Value) :
    ∀ {fields : List Field}, areKeyed fields = true →
      ∃ pairs, initialPairs type fields = .ok pairs
  | [], _ => ⟨[], by rw [initialPairs]⟩
  | f :: rest, h => by
    rw [areKeyed, Bool.and_eq_true] at h
    obtain ⟨v, hv⟩ := exists_initial h.1
    obtain ⟨key, hkey⟩ := exists_key_of_isKeyed h.1
    obtain ⟨pairs, hpairs⟩ := exists_initialPairs type h.2
    rw [initialPairs, hv, hkey, hpairs]
    split
    · exact ⟨_, rfl⟩
    · exact ⟨_, rfl⟩

end

/-- Fields with keys have defaults. -/
theorem exists_defaults {fields : List Field} (h : areKeyed fields = true) :
    ∃ values, defaults fields = .ok values := by
  obtain ⟨pairs, hpairs⟩ := exists_initialPairs .null h
  exact ⟨Assoc.ofPairs pairs, by rw [defaults, hpairs]; rfl⟩

/-! ## Fields below fields -/

/-- A child is smaller than its group. -/
theorem sizeOf_lt_of_mem_children {f c : Field} (h : c ∈ f.children) : sizeOf c < sizeOf f := by
  have hlt := List.sizeOf_lt_of_mem h
  obtain ⟨id⟩ := f
  simp only [mk.sizeOf_spec]
  dsimp only at hlt
  omega

/-- **Induction on fields**: what holds of a field if it holds of its sub-fields holds of all
fields. -/
@[elab_as_elim]
theorem inductionOn {P : Field → Prop} (step : ∀ f, (∀ c ∈ f.children, P c) → P f)
    (f : Field) : P f :=
  step f fun c _ => inductionOn step c
termination_by sizeOf f
decreasing_by
  exact sizeOf_lt_of_mem_children ‹c ∈ f.children›

/-- Whether a field stands among fields or, at whatever depth, below them. -/
inductive InTree (fields : List Field) : Field → Prop
  | root {f : Field} : f ∈ fields → InTree fields f
  | child {f c : Field} : InTree fields f → c ∈ f.children → InTree fields c

theorem isKeyed_of_mem {fields : List Field} (h : areKeyed fields = true) {f : Field}
    (hf : f ∈ fields) : f.isKeyed = true := by
  induction fields with
  | nil => cases hf
  | cons f₀ rest ih =>
    rw [areKeyed, Bool.and_eq_true] at h
    rcases List.mem_cons.mp hf with rfl | hf
    · exact h.1
    · exact ih h.2 hf

/-- Where all fields of a list have keys, so have the fields below them. -/
theorem InTree.isKeyed {fields : List Field} (h : areKeyed fields = true) {f : Field}
    (hf : InTree fields f) : f.isKeyed = true := by
  induction hf with
  | root hf => exact isKeyed_of_mem h hf
  | @child f c _ hc ih =>
    obtain ⟨id⟩ := f
    rw [Field.isKeyed, Bool.and_eq_true] at ih
    exact isKeyed_of_mem ih.2 hc

/-! ## The rule -/

/-- Whether the id of a field is a key. -/
def hasKey (k : Scalar) (f : Field) : Bool :=
  match f.id with
  | .scalar a => k == a
  | _ => false

/-- The keys of the emitted fields, in order and with repetitions. -/
def emittedKeys (fields : List Field) : List Scalar :=
  (fields.filter isEmitted).filterMap fun f => f.id.key.toOption

/-- Whether a field is the last emitted one with a key. -/
def IsLast (fields : List Field) (k : Scalar) (f : Field) : Prop :=
  ((fields.filter isEmitted).filter (hasKey k)).getLast? = some f

/-- The sub-fields that are not for another variant: if one of those that are named for the type has
a default that counts, the first such default is the type, and a sub-field with a variant has to
equal it. -/
def kept (f : Field) : List Field :=
  match f.children.find? fun c => c.id.isText "@type" && c.defaultValue.truthy with
  | some type =>
    f.children.filter fun c => c.variant.isNull || c.variant.equals type.defaultValue
  | none => f.children

/-- What a group comes to if its sub-fields come to entries. -/
inductive IsGroupValue (cloneable : Bool) (entries : Fields) : Value → Prop
  | bare : Assoc.keys entries = [.text "@type"] → IsGroupValue cloneable entries (.object [])
  | single : Assoc.keys entries ≠ [.text "@type"] → cloneable = false →
      IsGroupValue cloneable entries (.object entries)
  | repeated : Assoc.keys entries ≠ [.text "@type"] → cloneable = true →
      IsGroupValue cloneable entries (.list [.object entries])

/-- What a field comes to without stored values. -/
inductive IsDefault : Field → Value → Prop
  | given {f : Field} : f.kind ≠ .group → f.defaultValue ≠ .null → IsDefault f f.defaultValue
  | missing {f : Field} : f.kind ≠ .group → f.defaultValue = .null → IsDefault f ""
  | group {f : Field} {entries : Fields} {v : Value} : f.kind = .group →
      Assoc.keys entries = (emittedKeys f.kept).eraseDups →
      (∀ e ∈ entries, ∀ c, IsLast f.kept e.1 c → IsDefault c e.2) →
      IsGroupValue f.cloneable.truthy entries v → IsDefault f v

/-- What fields come to without stored values: an entry for each id of an emitted field, where the
first one stands, with the value of the last one. -/
structure AreDefaults (fields : List Field) (entries : Fields) : Prop where
  keys : Assoc.keys entries = (emittedKeys fields).eraseDups
  values : ∀ e ∈ entries, ∀ f, IsLast fields e.1 f → IsDefault f e.2

/-! ## Defaults, one level at a time -/

/-- The entry that a field makes. -/
def entry (f : Field) : Except Fault (Scalar × Value) := do
  let v ← initial f
  let key ← f.id.key
  return (key, v)

/-- The initial values are those of the fields that are emitted and fit the type. -/
theorem initialPairs_eq (type : Value) (fields : List Field) :
    initialPairs type fields =
      (fields.filter fun f => f.isEmitted && f.fits type).mapM entry := by
  induction fields with
  | nil => rw [initialPairs]; rfl
  | cons f rest ih =>
    rw [initialPairs, List.filter_cons, ih]
    split
    · rw [List.mapM_cons, entry]
      cases f.initial with
      | error e => rfl
      | ok v => cases f.id.key <;> rfl
    · rfl

/-- The defaults are the initial values of the fields that are emitted, under their keys. -/
theorem defaults_eq (fields : List Field) :
    defaults fields = ((fields.filter isEmitted).mapM entry).map Assoc.ofPairs := by
  have hall : (fun f : Field => f.isEmitted && f.fits .null) = isEmitted :=
    funext fun f => Bool.and_true _
  rw [defaults, initialPairs_eq, hall]

/-- A group keeps the children that fit its type. -/
theorem kept_eq (f : Field) : f.kept = f.children.filter (fits (groupType f.children)) := by
  rw [kept, groupType]
  cases htype : f.children.find? fun c => c.id.isText "@type" && c.defaultValue.truthy with
  | none => exact (List.filter_eq_self.mpr fun c _ => rfl).symm
  | some type =>
    have hfound := List.find?_some htype
    have hgiven : type.defaultValue.truthy = true := (Bool.and_eq_true_iff.mp hfound).2
    refine congrArg (fun p => f.children.filter p) (funext fun c => ?_)
    simp [fits, hgiven]

/-- A field that is no group starts with its default, or empty. -/
theorem initial_of_ne_group {f : Field} (h : f.kind ≠ .group) :
    f.initial = .ok (if f.defaultValue.isNull then "" else f.defaultValue) := by
  obtain ⟨id, kind⟩ := f
  rw [initial, if_neg h]
  split
  · rfl
  · rfl

/-- A group starts with the defaults of the children that it keeps. -/
theorem initial_of_group {f : Field} (h : f.kind = .group) :
    f.initial = (defaults f.kept).map (groupValue f.cloneable.truthy) := by
  have hpairs : f.initial = (initialPairs (groupType f.children) f.children).map fun pairs =>
      groupValue f.cloneable.truthy (Assoc.ofPairs pairs) := by
    obtain ⟨id, kind, defaultValue, required, visible, cloneable, flatten, children⟩ := f
    rw [initial, if_pos h]
    cases initialPairs (groupType children) children <;> rfl
  rw [hpairs, initialPairs_eq, defaults_eq, kept_eq, List.filter_filter]
  cases List.mapM entry _ <;> rfl

/-- A group has one value for its entries. -/
theorem isGroupValue_iff {cloneable : Bool} {entries : Fields} {v : Value} :
    IsGroupValue cloneable entries v ↔ v = groupValue cloneable entries := by
  have hstub : (Value.object entries).isTypeStub = true ↔ Assoc.keys entries = [.text "@type"] :=
    Value.isTypeStub_object_iff
  rw [groupValue]
  constructor
  · intro h
    cases h with
    | bare hkeys => rw [if_pos (hstub.mpr hkeys)]
    | single hkeys hone => rw [if_neg (mt hstub.mp hkeys), if_neg (by simp [hone])]
    | repeated hkeys hmany => rw [if_neg (mt hstub.mp hkeys), if_pos hmany]
  · rintro rfl
    split
    · exact .bare (hstub.mp ‹_›)
    · have hkeys : Assoc.keys entries ≠ [.text "@type"] := mt hstub.mpr ‹_›
      split
      · exact .repeated hkeys ‹_›
      · exact .single hkeys (by simpa using ‹¬ cloneable = true›)

/-! ## The program follows the rule -/

theorem key_eq_ok_iff {f : Field} {k : Scalar} : f.id.key = .ok k ↔ f.id = .scalar k := by
  cases hid : f.id <;> simp [Value.key]

section Pairs

variable {fields : List Field} {pairs : List (Scalar × Value)}
  (h : List.Forall₂ (fun f p => f.entry = .ok p) fields pairs)

include h

/-- The entries of fields stand under the keys of these, in their order. -/
theorem keys_eq_of_entries :
    Assoc.keys pairs = fields.filterMap fun f => f.id.key.toOption := by
  induction h with
  | nil => rfl
  | @cons f p fields pairs hp _ ih =>
    obtain ⟨v, -, hp⟩ := exists_of_bind_eq_ok hp
    obtain ⟨k, hkey, hp⟩ := exists_of_bind_eq_ok hp
    cases hp
    rw [List.filterMap_cons_some (by rw [hkey]; rfl), ← ih]
    rfl

/-- Under a key stands the default value of the first field with this key. -/
theorem initial_of_lookup {k : Scalar} {f : Field} (hf : fields.find? (hasKey k) = some f)
    {v : Value} (hv : pairs.lookup k = some v) : f.initial = .ok v := by
  induction h with
  | nil => cases hf
  | @cons f₀ p fields pairs hp _ ih =>
    obtain ⟨v₀, hinitial, hp⟩ := exists_of_bind_eq_ok hp
    obtain ⟨k₀, hkey, hp⟩ := exists_of_bind_eq_ok hp
    cases hp
    have hsame : hasKey k f₀ = (k == k₀) := by rw [hasKey, key_eq_ok_iff.mp hkey]
    rw [Assoc.lookup_cons_ite] at hv
    by_cases hk : (k == k₀) = true
    · rw [List.find?_cons_of_pos (hsame.trans hk)] at hf
      rw [if_pos hk] at hv
      cases hf
      cases hv
      exact hinitial
    · rw [List.find?_cons_of_neg (by rwa [hsame])] at hf
      rw [if_neg hk] at hv
      exact ih hf hv

end Pairs

/-- One level of the rule: if each field comes to what the rule says, the entries of several fields
are those that it says. -/
theorem areDefaults_of_defaults {fields : List Field} {entries : Fields}
    (hfields : ∀ f ∈ fields, ∀ v, f.initial = .ok v → IsDefault f v)
    (h : defaults fields = .ok entries) : AreDefaults fields entries := by
  rw [defaults_eq] at h
  obtain ⟨pairs, hpairs, rfl⟩ := exists_of_map_eq_ok h
  have hentries := mapM_eq_ok_iff.mp hpairs
  refine ⟨?_, fun e he f hlast => ?_⟩
  · rw [Assoc.keys_ofPairs, keys_eq_of_entries hentries, emittedKeys]
  · -- from behind, the last field with the key is the first, and so is its pair
    rw [IsLast, List.getLast?_filter] at hlast
    have hmem : f ∈ fields :=
      (List.mem_filter.mp (List.mem_reverse.mp (List.mem_of_find?_eq_some hlast))).1
    have hreverse := List.rel_reverse hentries
    exact hfields f hmem e.2
      (initial_of_lookup hreverse hlast (Assoc.lookup_of_mem_ofPairs he))

theorem mem_children_of_mem_kept {f c : Field} (h : c ∈ f.kept) : c ∈ f.children := by
  rw [kept_eq] at h
  exact (List.mem_filter.mp h).1

/-- What a field comes to is what the rule says. -/
theorem isDefault_of_initial {f : Field} {v : Value} (h : f.initial = .ok v) : IsDefault f v := by
  induction f using inductionOn generalizing v with
  | step f ih =>
    by_cases hkind : f.kind = .group
    · -- the kept sub-fields come to what the rule says, so their entries do
      rw [initial_of_group hkind] at h
      obtain ⟨entries, hentries, rfl⟩ := exists_of_map_eq_ok h
      have hdefaults := areDefaults_of_defaults
        (fun c hc v hv => ih c (mem_children_of_mem_kept hc) hv) hentries
      exact .group hkind hdefaults.keys hdefaults.values (isGroupValue_iff.mpr rfl)
    · rw [initial_of_ne_group hkind] at h
      cases h
      split
      · exact .missing hkind (Value.isNull_iff.mp ‹_›)
      · exact .given hkind fun hnull => ‹¬ _› (Value.isNull_iff.mpr hnull)

/-! ## The rule leaves no choice -/

/-- Under each key there is a last field. -/
theorem exists_isLast {fields : List Field} {k : Scalar}
    (h : k ∈ (emittedKeys fields).eraseDups) : ∃ f ∈ fields, IsLast fields k f := by
  obtain ⟨f, hf, hkey⟩ := List.mem_filterMap.mp ((Assoc.eraseDups_sublist _).mem h)
  have hid : f.id = .scalar k := by
    cases hid : f.id.key with
    | error e => rw [hid] at hkey; cases hkey
    | ok k' =>
      rw [hid] at hkey
      cases hkey
      exact key_eq_ok_iff.mp hid
  have hmem : f ∈ (fields.filter isEmitted).filter (hasKey k) :=
    List.mem_filter.mpr ⟨hf, by rw [hasKey, hid]; exact BEq.rfl⟩
  have hlast := List.getLast?_eq_getLast_of_ne_nil (List.ne_nil_of_mem hmem)
  have hin := (List.mem_filter.mp (List.getLast_mem (List.ne_nil_of_mem hmem))).1
  exact ⟨_, (List.mem_filter.mp hin).1, hlast⟩

namespace AreDefaults

variable {fields : List Field} {entries entries' : Fields}

/-- Each entry is that of a field. -/
theorem exists_of_mem (h : AreDefaults fields entries) {e : Scalar × Value} (he : e ∈ entries) :
    ∃ f ∈ fields, IsLast fields e.1 f ∧ IsDefault f e.2 := by
  have hkey : e.1 ∈ Assoc.keys entries := List.mem_map_of_mem he
  rw [h.keys] at hkey
  obtain ⟨f, hf, hlast⟩ := exists_isLast hkey
  exact ⟨f, hf, hlast, h.values e he f hlast⟩

/-- If each field has one default at most, there is one set of defaults. -/
theorem unique (hfields : ∀ f ∈ fields, ∀ v v', IsDefault f v → IsDefault f v' → v = v')
    (h : AreDefaults fields entries) (h' : AreDefaults fields entries') : entries = entries' := by
  refine Assoc.eq_of_keys_eq (h.keys.trans h'.keys.symm) fun k v v' hv hv' => ?_
  obtain ⟨f, hf, hlast, hdefault⟩ := h.exists_of_mem hv
  exact hfields f hf v v' hdefault (h'.values _ hv' f hlast)

end AreDefaults

/-- The rule gives one value. -/
theorem IsDefault.unique {f : Field} {v v' : Value} (h : IsDefault f v) (h' : IsDefault f v') :
    v = v' := by
  induction f using inductionOn generalizing v v' with
  | step f ih =>
    cases h with
    | given hkind hgiven =>
      cases h' with
      | given => rfl
      | missing _ hnull => exact absurd hnull hgiven
      | group hgroup => exact absurd hgroup hkind
    | missing hkind hnull =>
      cases h' with
      | given _ hgiven => exact absurd hnull hgiven
      | missing => rfl
      | group hgroup => exact absurd hgroup hkind
    | group hgroup hkeys hvalues hv =>
      cases h' with
      | given hkind => exact absurd hgroup hkind
      | missing hkind => exact absurd hgroup hkind
      | group _ hkeys' hvalues' hv' =>
        obtain rfl := AreDefaults.unique
          (fun c hc v v' hv hv' => ih c (mem_children_of_mem_kept hc) hv hv')
          ⟨hkeys, hvalues⟩ ⟨hkeys', hvalues'⟩
        exact (isGroupValue_iff.mp hv).trans (isGroupValue_iff.mp hv').symm

/-! ## Objects of a type alone -/

/-- What stands inside an object is the value of an entry or stands inside one. -/
theorem exists_of_isInside_object {entries : Fields} {w : Value}
    (h : Value.IsInside w (.object entries)) :
    ∃ e ∈ entries, w = e.2 ∨ Value.IsInside w e.2 := by
  obtain ⟨u, hu, hw⟩ := Value.isInside_iff.mp h
  cases hu with
  | entry he => exact ⟨_, he, hw⟩

/-- Whether a value is the default that a field of a tree is given, or stands inside one. -/
def IsGiven (fields : List Field) (w : Value) : Prop :=
  ∃ f, InTree fields f ∧ (w = f.defaultValue ∨ Value.IsInside w f.defaultValue)

/-- An object of a type alone is not made: where a default value has one, it has been given. -/
theorem IsDefault.isGiven_of_stub {fields : List Field} {f : Field} {v : Value}
    (h : IsDefault f v) (hf : InTree fields f) {type : Value}
    (hstub : .object [("@type", type)] = v ∨ Value.IsInside (.object [("@type", type)]) v) :
    IsGiven fields (.object [("@type", type)]) := by
  induction h with
  | @given f => exact ⟨f, hf, hstub⟩
  | missing =>
    rcases hstub with hstub | hstub
    · cases hstub
    · obtain ⟨u, hu, -⟩ := Value.isInside_iff.mp hstub
      cases hu
  | @group f entries v hgroup hkeys hvalues hv ih =>
    have hdefaults : AreDefaults f.kept entries := ⟨hkeys, hvalues⟩
    have hinside (hin : Value.IsInside (.object [("@type", type)]) (.object entries)) :
        IsGiven fields (.object [("@type", type)]) := by
      obtain ⟨e, he, hstub⟩ := exists_of_isInside_object hin
      obtain ⟨c, hc, hlast, -⟩ := hdefaults.exists_of_mem he
      exact ih e he c hlast (hf.child (mem_children_of_mem_kept hc)) hstub
    -- the group itself is no such object: that would have been collapsed
    have hself (hkeys : Assoc.keys entries ≠ [.text "@type"]) :
        (.object [("@type", type)] : Value) ≠ .object entries := by
      intro heq
      obtain rfl := Value.object.inj heq
      exact hkeys rfl
    cases hv with
    | bare =>
      rcases hstub with hstub | hstub
      · cases hstub
      · obtain ⟨e, he, -⟩ := exists_of_isInside_object hstub
        cases he
    | single hkeys => exact hinside (hstub.resolve_left (hself hkeys))
    | repeated hkeys =>
      rcases hstub with hstub | hstub
      · cases hstub
      · obtain ⟨u, hu, hstub⟩ := Value.isInside_iff.mp hstub
        cases hu with
        | item hu =>
          obtain rfl := List.mem_singleton.mp hu
          exact hinside (hstub.resolve_left (hself hkeys))

/-! ## Default values as a whole -/

/-- What is not kept does not count: a field has the same default value with other sub-fields for
other variants, or with none of them. -/
theorem initial_congr {f : Field} {children : List Field}
    (h : ({ f with children } : Field).kept = f.kept) :
    ({ f with children } : Field).initial = f.initial := by
  by_cases hkind : f.kind = .group
  · have hother : ({ f with children } : Field).kind = .group := hkind
    rw [initial_of_group hother, initial_of_group hkind, h]
  · have hother : ({ f with children } : Field).kind ≠ .group := hkind
    rw [initial_of_ne_group hother, initial_of_ne_group hkind]

/-- **Default values follow the field tree.**  Fields whose ids can be keys have default values: the
entries that the rule gives them and no others, with a value for each field of the tree that the
rule gives it.  An object of a type alone stands in them only if it comes with a default that a
field is given, and sub-fields for other variants make no difference. -/
theorem defaults_follow_tree {fields : List Field} (h : areKeyed fields = true) :
    ∃ entries, defaults fields = .ok entries ∧ AreDefaults fields entries ∧
      (∀ entries', AreDefaults fields entries' → entries' = entries) ∧
      (∀ f, InTree fields f → ∃ v, f.initial = .ok v ∧ IsDefault f v) ∧
      (∀ type, Value.IsInside (.object [("@type", type)]) (.object entries) →
        IsGiven fields (.object [("@type", type)])) ∧
      ∀ (f : Field) (children : List Field), ({ f with children } : Field).kept = f.kept →
        ({ f with children } : Field).initial = f.initial := by
  obtain ⟨entries, hentries⟩ := exists_defaults h
  have hdefaults : AreDefaults fields entries :=
    areDefaults_of_defaults (fun _ _ _ hv => isDefault_of_initial hv) hentries
  refine ⟨entries, hentries, hdefaults, fun entries' h' => ?_, fun f hf => ?_,
    fun type hstub => ?_, fun f children => initial_congr⟩
  · exact h'.unique (fun _ _ _ _ => IsDefault.unique) hdefaults
  · obtain ⟨v, hv⟩ := exists_initial (hf.isKeyed h)
    exact ⟨v, hv, isDefault_of_initial hv⟩
  · obtain ⟨e, he, hstub⟩ := exists_of_isInside_object hstub
    obtain ⟨f, hf, -, hdefault⟩ := hdefaults.exists_of_mem he
    exact hdefault.isGiven_of_stub (.root hf) hstub

/-- A group with sub-fields for two variants, a group of which its type is left, one that may be
repeated, an id that comes twice and a default that is a type alone. -/
theorem defaults_follow_tree_of_offers :
    let type (t : String) : Field := { id := "@type", required := true, defaultValue := .text t }
    let price : Field := { id := "price", visible := true, variant := "Offer" }
    let lowPrice : Field := { id := "lowPrice", required := true, variant := "AggregateOffer" }
    let offers : Field := {
      id := "offers", kind := .group, required := true
      children := [type "Offer", price, lowPrice] }
    let part : Field := {
      id := "hasPart", kind := .group, required := true, cloneable := true
      children := [type "Clip", { id := "name" }] }
    let review : Field := {
      id := "review", kind := .group, required := true, cloneable := true
      children := [type "Review", { id := "name", visible := true, defaultValue := "Great" }] }
    let stub : Value := .object [("@type", "Thing")]
    let about : Field := { id := "about", visible := true, defaultValue := stub }
    let fields : List Field := [{ id := "review", required := true }, offers, part, review, about]
    let entries : Fields := [
      ("review", .list [.object [("@type", "Review"), ("name", "Great")]]),
      ("offers", .object [("@type", "Offer"), ("price", "")]),
      ("hasPart", .object []),
      ("about", stub)]
    defaults fields = .ok entries ∧ AreDefaults fields entries ∧ IsDefault part (.object []) ∧
      IsGiven fields stub ∧
      ({ offers with children := [type "Offer", price] } : Field).initial = offers.initial := by
  intro type price lowPrice offers part review stub about fields entries
  obtain ⟨entries', hentries, hdefaults, -, hinitial, hstub, hkept⟩ :=
    defaults_follow_tree (show areKeyed fields = true by decide)
  have hfields : defaults fields = .ok entries := by rfl
  obtain rfl := Except.ok.inj (hfields.symm.trans hentries)
  have hpart : part.initial = .ok (.object []) := by rfl
  obtain ⟨v, hv, hdefault⟩ := hinitial part (.root (by simp [fields]))
  obtain rfl := Except.ok.inj (hpart.symm.trans hv)
  have habout : ((.text "about", stub) : Scalar × Value) ∈ entries := by simp [entries]
  exact ⟨hfields, hdefaults, hdefault, hstub "Thing" (.single (.entry habout)),
    hkept offers _ (by rfl)⟩

end Field

end StructuredData
