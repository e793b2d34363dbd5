import Mathlib.Logic.Basic
import StructuredData.Proofs.Text.Digit
import StructuredData.Template.Path

/-!
# Where a path leads

A path of texts leads from an object to its members and, by keys that are written like indexes, from
a list to its items (`Value.Leads`).  Looking for what stands at its end fails only where a list is
reached at a key that is written like an index but cannot be read as one (`Value.MeetsBadIndex`).
-/

namespace StructuredData

/-! ## Keys that are written like indexes -/

namespace Path

/-- Whether a key is written like an index: it is not empty, and all its characters have a digit
value. -/
def IsIndexLike (key : String) : Prop := key ≠ "" ∧ ∀ c ∈ key.toList, isDigitLike c = true

instance : DecidablePred IsIndexLike := fun key =>
  decidable_of_iff (key ≠ "" ∧ key.toList.all isDigitLike = true) (by simp [IsIndexLike])

/-- Whether a key is written like an index but cannot be read as a whole number. -/
def IsBadIndex (key : String) : Prop := IsIndexLike key ∧ readInteger key = none

instance : DecidablePred IsBadIndex := fun key =>
  inferInstanceAs (Decidable (IsIndexLike key ∧ readInteger key = none))

/-- What makes an index bad: a digit that is not decimal, or too many digits. -/
theorem isBadIndex_iff {key : String} :
    IsBadIndex key ↔ IsIndexLike key ∧
      ((∃ c ∈ key.toList, isDecimal c = false) ∨ digitLimit < key.toList.length) :=
  and_congr_right fun h => readInteger_eq_none_iff h.1 h.2

/-- Whether a key is written like an index is looked at first. -/
theorem isIndexLike_iff {key : String} :
    IsIndexLike key ↔ ¬ (key.toList.isEmpty || !key.toList.all isDigitLike) = true := by
  simp [IsIndexLike]

theorem index?_of_not_isIndexLike {key : String} (h : ¬ IsIndexLike key) :
    index? key = .ok none := by
  rw [index?]
  exact if_pos (not_not.mp (isIndexLike_iff.not.mp h))

/-- A key that is written like an index is read as a whole number. -/
theorem index?_of_isIndexLike {key : String} (h : IsIndexLike key) :
    index? key = match readInteger key with
      | some n => .ok (some n.toNat)
      | none => .error (.badInteger key) := by
  rw [index?, if_neg (isIndexLike_iff.mp h), readInteger_of_isDigitLike h.1 h.2]
  by_cases hlimit : key.toList.length ≤ digitLimit
  · rw [if_pos hlimit, if_pos hlimit]
    cases readDecimal key.toList 0 <;> rfl
  · rw [if_neg hlimit, if_neg hlimit]
    rfl

/-- An index is read unless it is a bad one. -/
theorem isOk_index?_iff {key : String} : (index? key).isOk = true ↔ ¬ IsBadIndex key := by
  by_cases h : IsIndexLike key
  · rw [index?_of_isIndexLike h]
    cases hread : readInteger key with
    | none => simp [IsBadIndex, h, hread, Except.isOk, Except.toBool]
    | some n => simp [IsBadIndex, hread, Except.isOk, Except.toBool]
  · rw [index?_of_not_isIndexLike h]
    simp [IsBadIndex, h, Except.isOk, Except.toBool]

end Path

namespace Value

/-! ## Going along a path -/

/-- **Where one key leads**: from an object to the member under it, and from a list to the item at
the index that it is read as. -/
inductive StepsTo : Value → String → Value → Prop
  | member {fields : Fields} {key : String} {w : Value} : fields.get? key = some w →
      StepsTo (.object fields) key w
  | item {items : List Value} {key : String} {n : Nat} {w : Value} : Path.IsIndexLike key →
      readInteger key = some (n : Int) → items[n]? = some w → StepsTo (.list items) key w

/-- Where the keys of a path lead, one after the other. -/
inductive Leads : Value → List String → Value → Prop
  | refl (v : Value) : Leads v [] v
  | step {v u w : Value} {key : String} {rest : List String} : StepsTo v key u →
      Leads u rest w → Leads v (key :: rest) w

/-- Whether a path leads to a list at a key that is written like an index but cannot be read as
one. -/
def MeetsBadIndex (v : Value) (keys : List String) : Prop :=
  ∃ before key after items, keys = before ++ key :: after ∧ Leads v before (.list items) ∧
    Path.IsBadIndex key

variable {v u w : Value} {key : String} {keys before : List String}

/-- The rest of a path is read from where its first key leads. -/
theorem at_of_stepsTo (h : StepsTo v key u) (rest : Path) :
    v.at (.text key :: rest) = u.at rest := by
  cases h with
  | @member fields _ _ hget =>
    have hlookup : lookupKey fields (.text key) = .ok (some u) := congrArg Except.ok hget
    rw [Value.at, hlookup]
    rfl
  | item hlike hread hitem =>
    rw [Value.at, Path.index?_of_isIndexLike hlike, hread]
    dsimp only [bind, Except.bind]
    rw [Int.toNat_natCast, hitem]

theorem at_of_isBadIndex (h : Path.IsBadIndex key) (items : List Value) (rest : Path) :
    (list items).at (.text key :: rest) = .error (.badInteger key) := by
  rw [Value.at, Path.index?_of_isIndexLike h.1, h.2]
  rfl

/-- A key leads somewhere, or it is a bad index into a list, or there is nothing. -/
theorem stepsTo_or_isBadIndex_or_null (v : Value) (key : String) :
    (∃ u, StepsTo v key u) ∨ (∃ items, v = .list items ∧ Path.IsBadIndex key) ∨
      ∀ rest, v.at (.text key :: rest) = .ok .null := by
  cases v with
  | scalar a => exact Or.inr (Or.inr fun rest => by rw [Value.at])
  | list items =>
    by_cases hlike : Path.IsIndexLike key
    · cases hread : readInteger key with
      | none => exact Or.inr (Or.inl ⟨items, rfl, hlike, hread⟩)
      | some n =>
        obtain ⟨n, rfl⟩ := exists_nat_of_readInteger hlike.1 hlike.2 hread
        cases hitem : items[n]? with
        | some u => exact Or.inl ⟨u, .item hlike hread hitem⟩
        | none =>
          right; right
          intro rest
          rw [Value.at, Path.index?_of_isIndexLike hlike, hread]
          dsimp only [bind, Except.bind]
          rw [Int.toNat_natCast, hitem]
          rfl
    · right; right
      intro rest
      rw [Value.at, Path.index?_of_not_isIndexLike hlike]
      rfl
  | object fields =>
    cases hget : Fields.get? fields key with
    | some u => exact Or.inl ⟨u, .member hget⟩
    | none =>
      right; right
      intro rest
      have hlookup : lookupKey fields (.text key) = .ok none := congrArg Except.ok hget
      rw [Value.at, hlookup]
      rfl

/-- What stands at the end of a path stands at the end of the rest of it, seen from where the
beginning leads. -/
theorem Leads.at_append (h : Leads v before u) (after : List String) :
    v.at ((before ++ after).map .text) = u.at (after.map .text) := by
  induction h with
  | refl v => rfl
  | step hstep _ ih => rw [List.cons_append, List.map_cons, at_of_stepsTo hstep, ih]

/-- What keys lead to stands at their path. -/
theorem at_of_leads (h : Leads v keys w) : v.at (keys.map .text) = .ok w := by
  have hat := h.at_append []
  rwa [List.append_nil, List.map_nil, Value.at] at hat

/-- A path that meets a bad index has no value. -/
theorem at_of_meetsBadIndex (h : v.MeetsBadIndex keys) :
    ∃ key, v.at (keys.map .text) = .error (.badInteger key) := by
  obtain ⟨before, key, after, items, rfl, hleads, hbad⟩ := h
  refine ⟨key, ?_⟩
  rw [hleads.at_append, List.map_cons, at_of_isBadIndex hbad]

/-- A path leads somewhere, or to a list at a bad index, or there is nothing at its end. -/
theorem leads_or_meetsBadIndex_or_null (keys : List String) (v : Value) :
    (∃ w, Leads v keys w) ∨ v.MeetsBadIndex keys ∨ v.at (keys.map .text) = .ok .null := by
  induction keys generalizing v with
  | nil => exact Or.inl ⟨v, .refl v⟩
  | cons key rest ih =>
    rcases stepsTo_or_isBadIndex_or_null v key with ⟨u, hstep⟩ | ⟨items, rfl, hbad⟩ | hnull
    · -- the key leads on, and the rest of the path decides
      rcases ih u with ⟨w, hw⟩ | ⟨before, bad, after, items, rfl, hleads, hbad⟩ | hnull
      · exact Or.inl ⟨w, .step hstep hw⟩
      · exact Or.inr (Or.inl ⟨key :: before, bad, after, items, rfl, .step hstep hleads, hbad⟩)
      · right; right
        rw [List.map_cons, at_of_stepsTo hstep, hnull]
    · exact Or.inr (Or.inl ⟨[], key, rest, items, rfl, .refl _, hbad⟩)
    · exact Or.inr (Or.inr (hnull _))

/-- Looking for what stands at the end of a path fails with the first bad index into a list. -/
theorem exists_badInteger_of_at_eq_error {f : Fault} (h : v.at (keys.map .text) = .error f) :
    v.MeetsBadIndex keys ∧ ∃ key, f = .badInteger key := by
  rcases leads_or_meetsBadIndex_or_null keys v with ⟨w, hw⟩ | hbad | hnull
  · rw [at_of_leads hw] at h
    cases h
  · obtain ⟨key, hat⟩ := at_of_meetsBadIndex hbad
    rw [hat] at h
    cases h
    exact ⟨hbad, key, rfl⟩
  · rw [hnull] at h
    cases h

end Value

end StructuredData
