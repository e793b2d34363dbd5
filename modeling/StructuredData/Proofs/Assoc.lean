import Mathlib.Data.List.Induction
import StructuredData.Assoc

/-!
# Reading ordered maps

What is read from an ordered map stands in it, and of pairs set one after the other the last one
under a key is read.
-/

namespace StructuredData.Assoc

variable {κ α : Type} [BEq κ]

theorem lookup_cons_ite (k k₀ : κ) (a₀ : α) (m : List (κ × α)) :
    ((k₀, a₀) :: m).lookup k = if k == k₀ then some a₀ else m.lookup k := by
  rw [List.lookup_cons]
  cases k == k₀ <;> rfl

/-- What is read under a key is the value of an entry with that key. -/
theorem exists_mem_of_lookup {k : κ} {a : α} {m : List (κ × α)} (h : m.lookup k = some a) :
    ∃ k', (k == k') = true ∧ (k', a) ∈ m := by
  induction m with
  | nil => cases h
  | cons e rest ih =>
    obtain ⟨k₀, a₀⟩ := e
    rw [lookup_cons_ite] at h
    by_cases hk : (k == k₀) = true
    · rw [if_pos hk] at h
      cases h
      exact ⟨k₀, hk, by simp⟩
    · rw [if_neg hk] at h
      obtain ⟨k', hk', hm⟩ := ih h
      exact ⟨k', hk', by simp [hm]⟩

/-- Equal keys read the same. -/
theorem lookup_congr [EquivBEq κ] {k k' : κ} (h : (k == k') = true) (m : List (κ × α)) :
    m.lookup k = m.lookup k' := by
  induction m with
  | nil => rfl
  | cons e rest ih => rw [lookup_cons_ite, lookup_cons_ite, ih, BEq.congr_left h]

/-- Setting a key that is there changes the value of an entry. -/
theorem mem_of_mem_set {k : κ} {a b : α} {m : List (κ × α)} (hk : m.lookup k = some b)
    {e : κ × α} (he : e ∈ set k a m) : e ∈ m ∨ e.2 = a ∧ (e.1, b) ∈ m := by
  induction m with
  | nil => cases hk
  | cons e₀ rest ih =>
    obtain ⟨k₀, a₀⟩ := e₀
    rw [lookup_cons_ite] at hk
    rw [set] at he
    by_cases h : (k == k₀) = true
    · rw [if_pos h] at hk he
      cases hk
      rcases List.mem_cons.mp he with rfl | he
      · exact Or.inr ⟨rfl, by simp⟩
      · exact Or.inl (by simp [he])
    · rw [if_neg h] at hk he
      rcases List.mem_cons.mp he with rfl | he
      · exact Or.inl (by simp)
      · rcases ih hk he with he | ⟨ha, hb⟩
        · exact Or.inl (by simp [he])
        · exact Or.inr ⟨ha, by simp [hb]⟩

theorem mem_set [EquivBEq κ] {k : κ} {a : α} {m : List (κ × α)} {e : κ × α}
    (he : e ∈ set k a m) : e ∈ m ∨ (k == e.1) = true ∧ e.2 = a := by
  induction m with
  | nil =>
    rw [List.mem_singleton.mp he]
    exact Or.inr ⟨BEq.rfl, rfl⟩
  | cons e₀ rest ih =>
    rw [set] at he
    by_cases h : (k == e₀.1) = true
    · rw [if_pos h] at he
      rcases List.mem_cons.mp he with rfl | he
      · exact Or.inr ⟨h, rfl⟩
      · exact Or.inl (by simp [he])
    · rw [if_neg h] at he
      rcases List.mem_cons.mp he with rfl | he
      · exact Or.inl (by simp)
      · rcases ih he with he | he
        · exact Or.inl (by simp [he])
        · exact Or.inr he

/-- What stands in a map that pairs denote is the value of a pair with an equal key. -/
theorem exists_mem_of_mem_ofPairs [EquivBEq κ] {pairs : List (κ × α)} {e : κ × α}
    (he : e ∈ ofPairs pairs) : ∃ k, (k == e.1) = true ∧ (k, e.2) ∈ pairs := by
  have hset : ∀ (pairs m : List (κ × α)), e ∈ setAll m pairs →
      e ∈ m ∨ ∃ k, (k == e.1) = true ∧ (k, e.2) ∈ pairs := by
    intro pairs
    induction pairs with
    | nil => exact fun m he => Or.inl he
    | cons e₀ rest ih =>
      intro m he
      rcases ih (set e₀.1 e₀.2 m) he with he | ⟨k, hk, hmem⟩
      · rcases mem_set he with he | ⟨hk, ha⟩
        · exact Or.inl he
        · exact Or.inr ⟨e₀.1, hk, by simp [ha]⟩
      · exact Or.inr ⟨k, hk, by simp [hmem]⟩
  rcases hset pairs [] he with he | he
  · cases he
  · exact he

/-- What is read under a key stays when no entry under this key is left out. -/
theorem lookup_filter {k : κ} {p : κ × α → Bool} {m : List (κ × α)}
    (h : ∀ e ∈ m, (k == e.1) = true → p e = true) : (m.filter p).lookup k = m.lookup k := by
  induction m with
  | nil => rfl
  | cons e rest ih =>
    have ih := ih fun e he => h e (by simp [he])
    rw [lookup_cons_ite]
    by_cases hp : p e = true
    · rw [List.filter_cons_of_pos hp, lookup_cons_ite, ih]
    · have hk : ¬ (k == e.1) = true := fun hk => hp (h e (by simp) hk)
      rw [List.filter_cons_of_neg hp, if_neg hk, ih]

/-- Setting pairs one after the other: the last one under a key is read, if there is one. -/
theorem lookup_setAll [EquivBEq κ] (k : κ) (m pairs : List (κ × α)) :
    (setAll m pairs).lookup k = (pairs.reverse.lookup k).or (m.lookup k) := by
  induction pairs generalizing m with
  | nil => rfl
  | cons e rest ih =>
    obtain ⟨k₀, a₀⟩ := e
    show (setAll (set k₀ a₀ m) rest).lookup k = _
    rw [ih, lookup_set, List.reverse_cons, List.lookup_append, lookup_cons_ite, Option.or_assoc]
    by_cases h : (k == k₀) = true
    · rw [if_pos h, if_pos h, Option.some_or]
    · rw [if_neg h, if_neg h]
      rfl

theorem lookup_ofPairs [EquivBEq κ] (k : κ) (pairs : List (κ × α)) :
    (ofPairs pairs).lookup k = pairs.reverse.lookup k := by
  rw [ofPairs, lookup_setAll]
  exact Option.or_none

/-- If the pairs under a key all have one value and there is one, this value is read. -/
theorem lookup_ofPairs_of_forall [EquivBEq κ] {k k' : κ} {a : α} {pairs : List (κ × α)}
    (hmem : (k', a) ∈ pairs) (hkey : (k == k') = true)
    (hall : ∀ e ∈ pairs, (k == e.1) = true → e.2 = a) : (ofPairs pairs).lookup k = some a := by
  rw [lookup_ofPairs]
  cases hl : pairs.reverse.lookup k with
  | none =>
    have := List.lookup_isSome_iff.mpr ⟨(k', a), List.mem_reverse.mpr hmem, hkey⟩
    rw [hl] at this
    cases this
  | some b =>
    obtain ⟨k₁, hk₁, hb⟩ := exists_mem_of_lookup hl
    rw [← hall (k₁, b) (List.mem_reverse.mp hb) hk₁]

/-- If there is no pair under a key, nothing is read. -/
theorem lookup_eq_none_of_forall {k : κ} {m : List (κ × α)}
    (h : ∀ e ∈ m, (k == e.1) = false) : m.lookup k = none := by
  cases hl : m.lookup k with
  | none => rfl
  | some b =>
    obtain ⟨k', hk', hb⟩ := exists_mem_of_lookup hl
    rw [h _ hb] at hk'
    cases hk'

/-- What stands under a key that is there once is read, if the key is equal to itself only. -/
theorem lookup_of_mem {k : κ} (hk : ∀ k', (k == k') = true ↔ k' = k) {a : α} {m : List (κ × α)}
    (hkeys : (keys m).Nodup) (h : (k, a) ∈ m) : m.lookup k = some a := by
  induction m with
  | nil => cases h
  | cons e rest ih =>
    obtain ⟨hfresh, hrest⟩ := List.nodup_cons.mp hkeys
    rw [lookup_cons_ite]
    rcases List.mem_cons.mp h with rfl | h
    · rw [if_pos ((hk k).mpr rfl)]
    · have hne : ¬ (k == e.1) = true := by
        rw [hk]
        intro heq
        rw [heq] at hfresh
        exact hfresh (List.mem_map.mpr ⟨(k, a), h, rfl⟩)
      rw [if_neg hne]
      exact ih hrest h

theorem contains_eq_isSome (k : κ) (m : List (κ × α)) : contains k m = (m.lookup k).isSome := by
  rw [Bool.eq_iff_iff, List.lookup_isSome_iff]
  exact List.any_eq_true

/-- The keys of pairs are those of the map that they denote. -/
theorem contains_ofPairs [EquivBEq κ] (k : κ) (pairs : List (κ × α)) :
    contains k (ofPairs pairs) = contains k pairs := by
  rw [contains_eq_isSome, lookup_ofPairs, ← contains_eq_isSome]
  exact List.any_reverse

/-- Setting a key that is there leaves the keys as they are. -/
theorem keys_set_of_lookup {k : κ} {a b : α} {m : List (κ × α)} (h : m.lookup k = some b) :
    keys (set k a m) = keys m := by
  obtain ⟨k', hk', hmem⟩ := exists_mem_of_lookup h
  have hcontains : contains k m = true := List.any_eq_true.mpr ⟨(k', b), hmem, hk'⟩
  rw [keys_set, if_pos hcontains]

/-- A new key goes to the end. -/
theorem set_of_contains_eq_false {k : κ} {a : α} {m : List (κ × α)} (h : contains k m = false) :
    set k a m = m ++ [(k, a)] := by
  induction m with
  | nil => rfl
  | cons e rest ih =>
    simp only [contains, List.any_cons, Bool.or_eq_false_iff] at h
    rw [set, if_neg (by simp [h.1]), ih h.2, List.cons_append]

/-- Pairs whose keys differ from all keys before them are set as they stand. -/
theorem setAll_of_pairwise {m pairs : List (κ × α)}
    (h : (keys (m ++ pairs)).Pairwise fun k k' => (k' == k) = false) :
    setAll m pairs = m ++ pairs := by
  induction pairs generalizing m with
  | nil => rw [List.append_nil]; rfl
  | cons e rest ih =>
    have hnew : contains e.1 m = false := by
      rw [contains, List.any_eq_false]
      intro e' he'
      rw [keys, List.map_append, List.pairwise_append] at h
      have := h.2.2 e'.1 (List.mem_map_of_mem he') e.1 (by simp)
      simp [this]
    show setAll (set e.1 e.2 m) rest = _
    rw [set_of_contains_eq_false hnew, ih (by simpa using h), List.append_assoc]
    rfl

/-- The map that pairs with different keys denote is made of these pairs. -/
theorem ofPairs_of_pairwise {pairs : List (κ × α)}
    (h : (keys pairs).Pairwise fun k k' => (k' == k) = false) : ofPairs pairs = pairs :=
  setAll_of_pairwise h

/-! ## The keys of a map -/

omit [BEq κ] in
/-- Maps with the same keys are the same if they agree under each key. -/
theorem eq_of_keys_eq {m m' : List (κ × α)} (hkeys : keys m = keys m')
    (h : ∀ k a a', (k, a) ∈ m → (k, a') ∈ m' → a = a') : m = m' := by
  induction m generalizing m' with
  | nil => exact (List.map_eq_nil_iff.mp hkeys.symm).symm
  | cons e rest ih =>
    obtain ⟨k, a⟩ := e
    obtain ⟨e', rest', rfl, hkey, hrest⟩ := List.map_eq_cons_iff.mp hkeys.symm
    obtain ⟨k', a'⟩ := e'
    obtain rfl : k' = k := hkey
    rw [h k' a a' (by simp) (by simp),
      ih hrest.symm fun k a a' ha ha' => h k a a' (by simp [ha]) (by simp [ha'])]

theorem eraseDups_sublist (ks : List κ) : ks.eraseDups.Sublist ks := by
  match ks with
  | [] => simp
  | k :: ks =>
    rw [List.eraseDups_cons]
    exact .cons_cons k ((eraseDups_sublist _).trans List.filter_sublist)
termination_by ks.length
decreasing_by
  exact Nat.lt_succ_of_le (List.length_filter_le _ _)

theorem pairwise_eraseDups (ks : List κ) :
    ks.eraseDups.Pairwise fun k k' => (k' == k) = false := by
  match ks with
  | [] => simp
  | k :: ks =>
    rw [List.eraseDups_cons, List.pairwise_cons]
    refine ⟨fun k' hk' => ?_, pairwise_eraseDups _⟩
    simpa using (List.mem_filter.mp ((eraseDups_sublist _).mem hk')).2
termination_by ks.length
decreasing_by
  exact Nat.lt_succ_of_le (List.length_filter_le _ _)

/-- Of a list with one more key at the end the repetitions are those of the list, and the key if it
is there already. -/
theorem eraseDups_append_singleton [EquivBEq κ] (ks : List κ) (k : κ) :
    (ks ++ [k]).eraseDups =
      if ks.any (k == ·) then ks.eraseDups else ks.eraseDups ++ [k] := by
  match ks with
  | [] => simp [List.eraseDups_cons]
  | k₀ :: ks =>
    rw [List.cons_append, List.eraseDups_cons, List.eraseDups_cons, List.filter_append,
      List.any_cons]
    by_cases hk : (k == k₀) = true
    · simp [hk]
    · have hlast : [k].filter (fun k' => !k' == k₀) = [k] := by simp [hk]
      -- what is left out below is no key that equals the last one
      have hany : (ks.filter fun k' => !k' == k₀).any (k == ·) = ks.any (k == ·) := by
        rw [List.any_filter]
        congr 1
        funext k'
        by_cases hk' : (k == k') = true
        · rw [hk', Bool.and_true, ← BEq.congr_left hk', Bool.eq_false_iff.mpr hk, Bool.not_false]
        · rw [Bool.eq_false_iff.mpr hk', Bool.and_false]
      rw [hlast, eraseDups_append_singleton, hany, Bool.eq_false_iff.mpr hk, Bool.false_or]
      split
      · rfl
      · rfl
termination_by ks.length
decreasing_by
  exact Nat.lt_succ_of_le (List.length_filter_le _ _)

/-- **The keys of a map** are those of the pairs that it denotes, each where it comes first. -/
theorem keys_ofPairs [EquivBEq κ] (pairs : List (κ × α)) :
    keys (ofPairs pairs) = (keys pairs).eraseDups := by
  induction pairs using List.reverseRecOn with
  | nil => rfl
  | append_singleton pairs e ih =>
    have hset : ofPairs (pairs ++ [e]) = set e.1 e.2 (ofPairs pairs) := List.foldl_append
    have hkeys : keys (pairs ++ [e]) = keys pairs ++ [e.1] := List.map_append
    have hcontains : contains e.1 pairs = (keys pairs).any (e.1 == ·) := by
      rw [contains, keys, List.any_map]
      rfl
    rw [hset, keys_set, contains_ofPairs, ih, hkeys, eraseDups_append_singleton, hcontains]

/-- Each entry of a map is read under its key. -/
theorem lookup_of_mem_of_pairwise [EquivBEq κ] {m : List (κ × α)}
    (hkeys : (keys m).Pairwise fun k k' => (k' == k) = false) {e : κ × α} (h : e ∈ m) :
    m.lookup e.1 = some e.2 := by
  induction m with
  | nil => cases h
  | cons e₀ rest ih =>
    obtain ⟨hfresh, hrest⟩ := List.pairwise_cons.mp hkeys
    rw [lookup_cons_ite]
    rcases List.mem_cons.mp h with rfl | h
    · rw [if_pos BEq.rfl]
    · have hne := hfresh e.1 (List.mem_map_of_mem h)
      rw [hne, ih hrest h]
      rfl

/-- What stands in the map that pairs denote is the value of the last pair under its key. -/
theorem lookup_of_mem_ofPairs [EquivBEq κ] {pairs : List (κ × α)} {e : κ × α}
    (h : e ∈ ofPairs pairs) : pairs.reverse.lookup e.1 = some e.2 := by
  rw [← lookup_ofPairs]
  refine lookup_of_mem_of_pairwise ?_ h
  rw [keys_ofPairs]
  exact pairwise_eraseDups _

end StructuredData.Assoc
