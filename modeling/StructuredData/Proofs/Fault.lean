import Mathlib.Data.List.Forall2
import StructuredData.Fault

/-!
# Computations that come to a result

A sequence of computations that has a result has one at each of its steps.
-/

namespace StructuredData

variable {α β ε : Type}

instance decidableForallOk {x : Except ε α} {P : α → Prop} [DecidablePred P] :
    Decidable (∀ a, x = .ok a → P a) :=
  match x with
  | .ok a => decidable_of_iff (P a) ⟨fun h _ e => Except.ok.inj e ▸ h, fun h => h a rfl⟩
  | .error _ => isTrue nofun

theorem exists_of_bind_eq_ok {x : Except ε α} {f : α → Except ε β} {b : β}
    (h : x >>= f = .ok b) : ∃ a, x = .ok a ∧ f a = .ok b := by
  cases x with
  | error e => cases h
  | ok a => exact ⟨a, rfl, h⟩

theorem bind_eq_ok_iff {x : Except ε Unit} {y : Except ε β} {b : β} :
    (do x; y) = .ok b ↔ x = .ok () ∧ y = .ok b := by
  cases x with
  | error e => simp [bind, Except.bind]
  | ok a => simp [bind, Except.bind]

theorem exists_of_map_eq_ok {x : Except ε α} {f : α → β} {b : β} (h : x.map f = .ok b) :
    ∃ a, x = .ok a ∧ f a = b := by
  cases x with
  | error e => cases h
  | ok a => exact ⟨a, rfl, Except.ok.inj h⟩

/-- Each item of the second of two lists that are related is related to an item of the first one. -/
theorem exists_mem_left_of_forall₂ {R : α → β → Prop} {l : List α} {l' : List β}
    (h : List.Forall₂ R l l') {b : β} (hb : b ∈ l') : ∃ a ∈ l, R a b := by
  induction h with
  | nil => cases hb
  | @cons a b' _ _ hab _ ih =>
    rcases List.mem_cons.mp hb with rfl | hb
    · exact ⟨a, by simp, hab⟩
    · obtain ⟨a', ha', hR⟩ := ih hb
      exact ⟨a', by simp [ha'], hR⟩

/-- The results of a list are those of its items, in their order. -/
theorem mapM_eq_ok_iff {f : α → Except ε β} {l : List α} {l' : List β} :
    l.mapM f = .ok l' ↔ List.Forall₂ (fun a b => f a = .ok b) l l' := by
  constructor
  · intro h
    induction l generalizing l' with
    | nil =>
      cases h
      exact .nil
    | cons a rest ih =>
      rw [List.mapM_cons] at h
      obtain ⟨b, hb, h⟩ := exists_of_bind_eq_ok h
      obtain ⟨bs, hbs, h⟩ := exists_of_bind_eq_ok h
      cases h
      exact .cons hb (ih hbs)
  · intro h
    induction h with
    | nil => rfl
    | cons hb _ ih =>
      rw [List.mapM_cons, hb, ih]
      rfl

/-- Where all items have something as their results, the results are these things, in their
order. -/
theorem mapM_filterMap_eq_ok_iff {f : α → Except ε (Option β)} {l : List α} {l' : List β}
    (h : ∀ a ∈ l, f a ≠ .ok none) :
    (l.mapM f >>= fun found => .ok (found.filterMap id)) = .ok l' ↔
      List.Forall₂ (fun a b => f a = .ok (some b)) l l' := by
  rw [← List.forall₂_map_right_iff (R := fun a b => f a = .ok b) (f := some), ← mapM_eq_ok_iff]
  constructor
  · intro hresult
    obtain ⟨found, hfound, hl'⟩ := exists_of_bind_eq_ok hresult
    cases hl'
    have hsome : (found.filterMap id).map some = found := by
      rw [List.map_filterMap_some_eq_filter_map_isSome, List.map_id, List.filter_eq_self]
      intro b hb
      obtain ⟨a, ha, hab⟩ := exists_mem_left_of_forall₂ (mapM_eq_ok_iff.mp hfound) hb
      exact Option.isSome_iff_ne_none.mpr fun hnone => h a ha (hnone ▸ hab)
    rw [hsome, hfound]
  · intro hfound
    rw [hfound]
    exact congrArg Except.ok (by simp [List.filterMap_map])

/-- Each result is that of an item, and each item has one. -/
theorem mem_of_mapM_eq_ok {f : α → Except ε β} {l : List α} {l' : List β}
    (h : l.mapM f = .ok l') :
    (∀ b ∈ l', ∃ a ∈ l, f a = .ok b) ∧ ∀ a ∈ l, ∃ b ∈ l', f a = .ok b := by
  have hall := mapM_eq_ok_iff.mp h
  exact ⟨fun b hb => exists_mem_left_of_forall₂ hall hb,
    fun a ha => exists_mem_left_of_forall₂ (List.Forall₂.flip hall) ha⟩

/-- The results of two lists put together are those of the one and of the other. -/
theorem exists_of_mapM_append_eq_ok {f : α → Except ε β} {l more : List α} {l' : List β}
    (h : (l ++ more).mapM f = .ok l') :
    ∃ a b, l.mapM f = .ok a ∧ more.mapM f = .ok b ∧ l' = a ++ b := by
  rw [List.mapM_append] at h
  obtain ⟨a, ha, h⟩ := exists_of_bind_eq_ok h
  obtain ⟨b, hb, h⟩ := exists_of_bind_eq_ok h
  exact ⟨a, b, ha, hb, (Except.ok.inj h).symm⟩

/-- Lists can be related to others if their items can. -/
theorem exists_forall₂ {R : α → β → Prop} {l : List α} (h : ∀ a ∈ l, ∃ b, R a b) :
    ∃ l', List.Forall₂ R l l' := by
  induction l with
  | nil => exact ⟨[], .nil⟩
  | cons a rest ih =>
    obtain ⟨b, hb⟩ := h a (by simp)
    obtain ⟨bs, hbs⟩ := ih fun a ha => h a (by simp [ha])
    exact ⟨b :: bs, .cons hb hbs⟩

/-- A list has results if all its items have. -/
theorem exists_mapM_eq_ok {f : α → Except ε β} {l : List α} (h : ∀ a ∈ l, ∃ b, f a = .ok b) :
    ∃ l', l.mapM f = .ok l' := by
  simp only [mapM_eq_ok_iff]
  exact exists_forall₂ h

/-- A list can be put to a test if all its items can. -/
theorem exists_filterM_eq_ok {f : α → Except ε Bool} {l : List α}
    (h : ∀ a ∈ l, ∃ b, f a = .ok b) : ∃ kept, l.filterM f = .ok kept := by
  have haux : ∀ (l acc : List α), (∀ a ∈ l, ∃ b, f a = .ok b) →
      ∃ out, l.filterAuxM f acc = .ok out := by
    intro l
    induction l with
    | nil => exact fun acc _ => ⟨acc, rfl⟩
    | cons a rest ih =>
      intro acc h
      obtain ⟨passes, ha⟩ := h a (by simp)
      rw [List.filterAuxM, ha]
      exact ih _ fun b hb => h b (by simp [hb])
  obtain ⟨out, hout⟩ := haux l [] h
  exact ⟨out.reverse, by rw [List.filterM, hout]; rfl⟩

/-- What passes a test is kept. -/
theorem mem_filterM_iff {f : α → Except ε Bool} {l kept : List α} (h : l.filterM f = .ok kept)
    (a : α) : a ∈ kept ↔ a ∈ l ∧ f a = .ok true := by
  have haux : ∀ (l acc out : List α), l.filterAuxM f acc = .ok out →
      (a ∈ out ↔ a ∈ acc ∨ a ∈ l ∧ f a = .ok true) := by
    intro l
    induction l with
    | nil =>
      intro acc out h
      cases h
      simp
    | cons b rest ih =>
      intro acc out h
      rw [List.filterAuxM] at h
      obtain ⟨passes, hb, h⟩ := exists_of_bind_eq_ok h
      have := ih _ _ h
      cases passes <;> grind
  obtain ⟨out, hout, h⟩ := exists_of_bind_eq_ok h
  cases h
  simpa using haux l [] out hout

/-! ## Computations that come to related results -/

/-- Whether two computations fail alike or come to results that are related. -/
inductive Alike (R : α → β → Prop) : Except ε α → Except ε β → Prop
  | error (f : ε) : Alike R (.error f) (.error f)
  | ok {a : α} {b : β} : R a b → Alike R (.ok a) (.ok b)

namespace Alike

variable {γ δ : Type} {R : α → β → Prop} {S : γ → δ → Prop}

theorem refl (x : Except ε α) : Alike (· = ·) x x := by
  cases x with
  | error f => exact .error f
  | ok a => exact .ok rfl

/-- Related results are what sequences go on from. -/
theorem bind {x : Except ε α} {y : Except ε β} {f : α → Except ε γ} {g : β → Except ε δ}
    (h : Alike R x y) (hfg : ∀ a b, R a b → Alike S (f a) (g b)) :
    Alike S (x >>= f) (y >>= g) := by
  cases h with
  | error e => exact .error e
  | ok hab => exact hfg _ _ hab

/-- Sequences with the same first part. -/
theorem bind_same {x : Except ε α} {f : α → Except ε γ} {g : α → Except ε δ}
    (hfg : ∀ a, Alike S (f a) (g a)) : Alike S (x >>= f) (x >>= g) :=
  (refl x).bind fun a _ hab => hab ▸ hfg a

theorem branch {p : Prop} {hp hp' : Decidable p} {x x' : Except ε α} {y y' : Except ε β}
    (h : Alike R x y) (h' : Alike R x' y') :
    Alike R (@ite _ p hp x x') (@ite _ p hp' y y') := by
  by_cases hc : p
  · rwa [if_pos hc, if_pos hc]
  · rwa [if_neg hc, if_neg hc]

end Alike

end StructuredData
