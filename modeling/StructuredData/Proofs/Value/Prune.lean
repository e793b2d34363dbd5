import StructuredData.Proofs.Assoc
import StructuredData.Proofs.Value.Texts
import StructuredData.Value.Prune

/-!
# What pruning leaves

An entry of a pruned object is an entry of the object, pruned itself and not dropped.  The values
that pruning leaves as they are are those in which nothing would be dropped
(`Value.prune_eq_self_iff`), and what it makes of a value is of this kind (`Value.isClean_prune`).
-/

namespace StructuredData.Value

@[simp] theorem prune_scalar (a : Scalar) : (scalar a).prune = scalar a := by
  cases a <;> rfl

theorem mem_keepField {k : Scalar} {v : Value} {rest : Fields} {e : Scalar × Value} :
    e ∈ keepField k v rest ↔ (e = (k, v) ∧ v.isDropped = false) ∨ e ∈ rest := by
  unfold keepField
  cases hv : v.isDropped
  · simp
  · simp

/-- What is left of an object stood in it and is not dropped. -/
theorem mem_pruneFields {fields : Fields} {e : Scalar × Value} :
    e ∈ pruneFields fields ↔ ∃ v, (e.1, v) ∈ fields ∧ v.prune = e.2 ∧ e.2.isDropped = false := by
  induction fields with
  | nil => simp [pruneFields]
  | cons e₀ rest ih =>
    obtain ⟨k, v⟩ := e₀
    rw [pruneFields, mem_keepField, ih]
    constructor
    · rintro (⟨rfl, hv⟩ | ⟨w, hw, hprune, hkept⟩)
      · exact ⟨v, by simp, rfl, hv⟩
      · exact ⟨w, by simp [hw], hprune, hkept⟩
    · rintro ⟨w, hw, hprune, hkept⟩
      rcases List.mem_cons.mp hw with heq | hw
      · obtain ⟨rfl, rfl⟩ := Prod.mk.inj heq
        rw [hprune]
        exact Or.inl ⟨rfl, hkept⟩
      · exact Or.inr ⟨w, hw, hprune, hkept⟩

/-- A value that is not dropped is found, pruned, where it was. -/
theorem lookup_pruneFields {fields : Fields} {k : Scalar} {v : Value}
    (h : fields.lookup k = some v) (hkept : v.prune.isDropped = false) :
    (pruneFields fields).lookup k = some v.prune := by
  induction fields with
  | nil => cases h
  | cons e rest ih =>
    obtain ⟨k₀, v₀⟩ := e
    rw [Assoc.lookup_cons_ite] at h
    rw [pruneFields]
    by_cases hk : (k == k₀) = true
    · rw [if_pos hk] at h
      cases h
      rw [keepField, if_neg (by simp [hkept]), Assoc.lookup_cons_ite, if_pos hk]
    · rw [if_neg hk] at h
      unfold keepField
      split
      · exact ih h
      · rw [Assoc.lookup_cons_ite, if_neg hk]
        exact ih h

/-- What is read in a pruned object, if the keys are distinct. -/
theorem lookup_pruneFields_iff {fields : Fields} {k : Scalar}
    (hk : ∀ k', (k == k') = true ↔ k' = k) (hkeys : (Assoc.keys fields).Nodup) {u : Value} :
    (pruneFields fields).lookup k = some u ↔
      ∃ v, fields.lookup k = some v ∧ v.prune = u ∧ u.isDropped = false := by
  constructor
  · intro h
    obtain ⟨k', hk', hmem⟩ := Assoc.exists_mem_of_lookup h
    obtain rfl := (hk k').mp hk'
    obtain ⟨v, hv, hprune, hkept⟩ := mem_pruneFields.mp hmem
    exact ⟨v, Assoc.lookup_of_mem hk hkeys hv, hprune, hkept⟩
  · rintro ⟨v, hv, rfl, hkept⟩
    exact lookup_pruneFields hv hkept

/-- A scalar that counts as given is not cut. -/
theorem isDropped_scalar_of_truthy {a : Scalar} (h : (scalar a).truthy = true) :
    (scalar a).isDropped = false := by
  cases a with
  | null => cases h
  | bool b =>
    have hb : b = true := h
    rw [hb]
    rfl
  | text s =>
    have hs : s ≠ "" := by simpa [truthy, Scalar.truthy] using h
    simp [isDropped, isEmpty, isTypeStub, hs]
  | _ => rfl

/-! ## The normal form -/

theorem itemsClean_iff {items : List Value} :
    itemsClean items = true ↔ ∀ v ∈ items, v.isDropped = false ∧ v.isClean = true := by
  induction items with
  | nil => simp [itemsClean]
  | cons v rest ih => simp [itemsClean, ih]

theorem fieldsClean_iff {fields : Fields} :
    fieldsClean fields = true ↔ ∀ e ∈ fields, e.2.isDropped = false ∧ e.2.isClean = true := by
  induction fields with
  | nil => simp [fieldsClean]
  | cons e rest ih => simp [fieldsClean, ih]

/-- What is left of a list stood in it and is not dropped. -/
theorem mem_pruneItems {items : List Value} {v : Value} :
    v ∈ pruneItems items ↔ ∃ w ∈ items, w.prune = v ∧ v.isDropped = false := by
  induction items with
  | nil => simp [pruneItems]
  | cons w rest ih =>
    rw [pruneItems, keepItem, List.exists_mem_cons_iff, ← ih]
    by_cases hw : w.prune.isDropped = true
    · rw [if_pos hw]
      constructor
      · exact Or.inr
      · rintro (⟨rfl, hv⟩ | h)
        · rw [hw] at hv
          cases hv
        · exact h
    · rw [if_neg hw, List.mem_cons]
      constructor
      · rintro (rfl | h)
        · exact Or.inl ⟨rfl, by simpa using hw⟩
        · exact Or.inr h
      · rintro (⟨rfl, -⟩ | h)
        · exact Or.inl rfl
        · exact Or.inr h

/-- A list keeps all its items if none is dropped. -/
theorem pruneItems_eq_map {items : List Value} (h : ∀ v ∈ items, v.prune.isDropped = false) :
    pruneItems items = items.map prune := by
  induction items with
  | nil => rfl
  | cons v rest ih =>
    rw [pruneItems, keepItem, if_neg (by simp [h v (by simp)]), ih fun w hw => h w (by simp [hw]),
      List.map_cons]

/-- A list is cut if and only if each of its items is. -/
theorem isDropped_prune_list_iff {items : List Value} :
    (list items).prune.isDropped = true ↔ ∀ v ∈ items, v.prune.isDropped = true := by
  have hdropped : (list items).prune.isDropped = (pruneItems items).isEmpty := by
    rw [prune, isDropped, isEmpty, isTypeStub, Bool.or_false]
    intro k w h
    cases h
  rw [hdropped, List.isEmpty_iff, List.eq_nil_iff_forall_not_mem]
  constructor
  · intro h v hv
    by_contra hkept
    exact h v.prune (mem_pruneItems.mpr ⟨v, hv, rfl, by simpa using hkept⟩)
  · intro h v hv
    obtain ⟨w, hw, rfl, hkept⟩ := mem_pruneItems.mp hv
    rw [h w hw] at hkept
    cases hkept

/-- **Pruning leaves nothing that would be dropped**, at any depth. -/
theorem isClean_prune (v : Value) : v.prune.isClean = true := by
  induction v using inductionOn with
  | scalar a => cases a <;> rfl
  | list items ih =>
    rw [prune, isClean, itemsClean_iff]
    intro v hv
    obtain ⟨w, hw, rfl, hkept⟩ := mem_pruneItems.mp hv
    exact ⟨hkept, ih w hw⟩
  | object fields ih =>
    rw [prune, isClean, fieldsClean_iff]
    intro e he
    obtain ⟨w, hw, hprune, hkept⟩ := mem_pruneFields.mp he
    have hclean := ih _ hw
    dsimp only at hclean
    rw [hprune] at hclean
    exact ⟨hkept, hclean⟩

/-- Where nothing would be dropped, pruning changes nothing. -/
theorem prune_of_isClean {v : Value} (h : v.isClean = true) : v.prune = v := by
  induction v using inductionOn with
  | scalar a => exact prune_scalar a
  | list items ih =>
    rw [isClean, itemsClean_iff] at h
    have hitems : pruneItems items = items := by
      induction items with
      | nil => rfl
      | cons v rest ihrest =>
        obtain ⟨hkept, hclean⟩ := h v (by simp)
        rw [pruneItems, keepItem, ih v (by simp) hclean, hkept,
          ihrest (fun w hw => ih w (by simp [hw])) fun w hw => h w (by simp [hw])]
        rfl
    rw [prune, hitems]
  | object fields ih =>
    rw [isClean, fieldsClean_iff] at h
    have hfields : pruneFields fields = fields := by
      induction fields with
      | nil => rfl
      | cons e rest ihrest =>
        obtain ⟨hkept, hclean⟩ := h e (by simp)
        rw [pruneFields, keepField, ih e (by simp) hclean, hkept,
          ihrest (fun e' he => ih e' (by simp [he])) fun e' he => h e' (by simp [he])]
        rfl
    rw [prune, hfields]

/-- The values that pruning leaves as they are. -/
theorem prune_eq_self_iff {v : Value} : v.prune = v ↔ v.isClean = true :=
  ⟨fun h => h ▸ isClean_prune v, prune_of_isClean⟩

end StructuredData.Value
