/-!
# Ordered maps

A list of pairs read as a map: a key keeps the place at which it was first set, and the value that
was set last.  Reading is `List.lookup`.
-/

namespace StructuredData.Assoc

variable {κ α β : Type} [BEq κ]

/-- Sets a key, in place if it is there and at the end if it is new. -/
def set (k : κ) (a : α) : List (κ × α) → List (κ × α)
  | [] => [(k, a)]
  | (k', a') :: rest => if k == k' then (k', a) :: rest else (k', a') :: set k a rest

/-- The keys, in order. -/
def keys (m : List (κ × α)) : List κ := m.map Prod.fst

/-- The values, in the order of their keys. -/
def values (m : List (κ × α)) : List α := m.map Prod.snd

/-- Whether a key is set. -/
def contains (k : κ) (m : List (κ × α)) : Bool := m.any fun e => k == e.1

/-- The map without a key. -/
def erase (k : κ) (m : List (κ × α)) : List (κ × α) := m.filter fun e => !(k == e.1)

/-- Sets the pairs of a list one after the other. -/
def setAll (m : List (κ × α)) (pairs : List (κ × α)) : List (κ × α) :=
  pairs.foldl (fun m e => set e.1 e.2 m) m

/-- The map that a list of pairs denotes: of several pairs with one key the last counts. -/
def ofPairs (pairs : List (κ × α)) : List (κ × α) := setAll [] pairs

/-- Changes the values and keeps the keys. -/
def mapValues (f : α → β) (m : List (κ × α)) : List (κ × β) := m.map fun e => (e.1, f e.2)

/-! ## Reading after a change -/

section Lookup

variable [EquivBEq κ]

theorem lookup_set (k k' : κ) (a : α) (m : List (κ × α)) :
    (set k a m).lookup k' = if k' == k then some a else m.lookup k' := by
  induction m with
  | nil => by_cases h : k' == k <;> simp [set, List.lookup_cons, h]
  | cons e rest ih =>
    obtain ⟨k₀, a₀⟩ := e
    by_cases h₀ : k == k₀
    · have same : (k' == k) = (k' == k₀) := BEq.congr_right h₀
      by_cases h : k' == k₀ <;> simp [set, h₀, List.lookup_cons, h, same]
    · have hne : (k == k₀) = false := by simpa using h₀
      simp only [set, hne, Bool.false_eq_true, if_false, List.lookup_cons]
      by_cases h' : k' == k₀
      · have : (k' == k) = false := by
          have same : (k == k') = (k == k₀) := BEq.congr_right h'
          rw [BEq.comm, same, hne]
        simp [h', this]
      · have : (k' == k₀) = false := by simpa using h'
        simp [this, ih]

theorem lookup_set_self (k : κ) (a : α) (m : List (κ × α)) : (set k a m).lookup k = some a := by
  simp [lookup_set]

omit [EquivBEq κ] in
/-- A key that is there keeps its place, and a new one goes to the end. -/
theorem keys_set (k : κ) (a : α) (m : List (κ × α)) :
    keys (set k a m) = if contains k m then keys m else keys m ++ [k] := by
  induction m with
  | nil => simp [set, keys, contains]
  | cons e rest ih =>
    obtain ⟨k₀, a₀⟩ := e
    by_cases h₀ : k == k₀
    · simp [set, keys, contains, h₀]
    · have hne : (k == k₀) = false := by simpa using h₀
      have hset : set k a ((k₀, a₀) :: rest) = (k₀, a₀) :: set k a rest := by simp [set, hne]
      have hany : contains k ((k₀, a₀) :: rest) = contains k rest := by simp [contains, hne]
      have hkeys : ∀ m : List (κ × α), keys ((k₀, a₀) :: m) = k₀ :: keys m := fun _ => rfl
      rw [hset, hany, hkeys, hkeys, ih]
      by_cases hm : contains k rest = true <;> simp [hm]

end Lookup

end StructuredData.Assoc
