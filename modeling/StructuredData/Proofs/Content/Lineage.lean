import Mathlib.Data.List.Chain
import StructuredData.Content.Lineage
import StructuredData.Proofs.Assoc

/-!
# The line of ancestors

A line of ancestors goes from each record to its parent and meets no record twice.  However the
parents of a table are tied to each other, the line that is followed from a record is its longest
one: each other line is a beginning of it (`Lineage.exists_ancestors`).
-/

namespace StructuredData

/-- What is read besides the entries under a key that has been erased. -/
theorem Assoc.lookup_erase {α : Type} (k n : Int) (m : List (Int × α)) :
    (erase k m).lookup n = if n = k then none else m.lookup n := by
  induction m with
  | nil => simp [erase]
  | cons e rest ih =>
    obtain ⟨k₀, a⟩ := e
    rw [erase] at ih ⊢
    by_cases hk : k = k₀
    · subst hk
      rw [List.filter_cons_of_neg (by simp), ih, lookup_cons_ite]
      by_cases hn : n = k <;> simp [hn]
    · rw [List.filter_cons_of_pos (by simp [hk]), lookup_cons_ite, lookup_cons_ite, ih]
      by_cases hn : n = k₀
      · subst hn
        simp [Ne.symm hk]
      · simp [hn]

namespace Lineage

variable {α : Type} {idOf : α → Int} {parentOf : α → Value} {table : List (Int × α)}

/-- Whether the records of a table stand under their own ids, and whole numbers are the ids of their
parents. -/
structure IsTable (idOf : α → Int) (parentOf : α → Value) (table : List (Int × α)) : Prop where
  id_eq : ∀ e ∈ table, idOf e.2 = e.1
  parent : ∀ e ∈ table, ∃ n, parentOf e.2 = .int n

/-- Whether one record has another one as its parent: the other one stands under the id that it
names, which is not zero. -/
def HasParent (parentOf : α → Value) (table : List (Int × α)) (a b : α) : Prop :=
  ∃ n : Int, parentOf a = .int n ∧ n ≠ 0 ∧ table.lookup n = some b

/-- Whether a list goes up from a record: each record in it is the parent of the one before it, and
none is met twice, the first one included. -/
structure IsLine (idOf : α → Int) (parentOf : α → Value) (table : List (Int × α)) (a : α)
    (line : List α) : Prop where
  parents : (a :: line).IsChain (HasParent parentOf table)
  distinct : ((a :: line).map idOf).Nodup

/-- Whether a line from a record is the longest one: it goes on where another one ends. -/
structure IsLongestLine (idOf : α → Int) (parentOf : α → Value) (table : List (Int × α)) (a : α)
    (line : List α) : Prop where
  isLine : IsLine idOf parentOf table a line
  longest : ∀ other, IsLine idOf parentOf table a other → other <+: line

theorem IsTable.of_lookup (h : IsTable idOf parentOf table) {n : Int} {a : α}
    (ha : table.lookup n = some a) : idOf a = n ∧ ∃ m, parentOf a = .int m := by
  obtain ⟨k, hk, hmem⟩ := Assoc.exists_mem_of_lookup ha
  rw [eq_of_beq hk]
  exact ⟨h.id_eq _ hmem, h.parent _ hmem⟩

/-- A record has one parent at most. -/
theorem HasParent.unique {a b b' : α} (h : HasParent parentOf table a b)
    (h' : HasParent parentOf table a b') : b = b' := by
  obtain ⟨n, hn, -, hb⟩ := h
  obtain ⟨n', hn', -, hb'⟩ := h'
  cases hn.symm.trans hn'
  exact Option.some.inj (hb.symm.trans hb')

/-- **One step up.**  The ancestors that remain of a record: its parent and then those that remain
of the parent, or none if there is no parent that remains. -/
theorem ancestors_int (remain : List (Int × α)) (n : Int) :
    ancestors parentOf remain (.int n) =
      if n = 0 then .ok []
      else match remain.lookup n with
        | none => .ok []
        | some b => (ancestors parentOf (Assoc.erase n remain) (parentOf b)).map (b :: ·) := by
  rw [ancestors]
  by_cases hn : n = 0
  · simp [hn, Value.truthy, Scalar.truthy]
  · have htruthy : (Value.int n).truthy = true := by simpa [Value.truthy, Scalar.truthy] using hn
    have hkey : (Value.int n).asIntKey = .ok (some n) := rfl
    rw [if_pos htruthy, if_neg hn, hkey]
    dsimp only
    split <;> rename_i h <;> rw [h]

/-- The line of a record whose parent names none ends with this parent. -/
theorem isLongestLine_singleton {a b : α} (h : HasParent parentOf table a b)
    (hb : parentOf b = .int 0) (hne : idOf a ≠ idOf b) :
    IsLongestLine idOf parentOf table a [b] where
  isLine := ⟨by simpa using h, by simpa using hne⟩
  longest := by
    rintro (_ | ⟨c, _ | ⟨d, rest⟩⟩) hother
    · exact List.nil_prefix
    · obtain rfl := (List.isChain_cons_cons.mp hother.parents).1.unique h
      exact List.prefix_rfl
    · obtain ⟨hc, hchain⟩ := List.isChain_cons_cons.mp hother.parents
      rw [hc.unique h] at hchain
      obtain ⟨n, hn, hn0, -⟩ := (List.isChain_cons_cons.mp hchain).1
      cases hn.symm.trans hb
      exact absurd rfl hn0

/-- Whether a list goes up from a record by ids that are different and not among those `seen`. -/
structure GoesUp (idOf : α → Int) (parentOf : α → Value) (table : List (Int × α))
    (seen : List Int) (a : α) (line : List α) : Prop where
  parents : (a :: line).IsChain (HasParent parentOf table)
  fresh : ∀ b ∈ line, idOf b ∉ seen
  distinct : (line.map idOf).Nodup

theorem isLine_iff_goesUp {a : α} {line : List α} :
    IsLine idOf parentOf table a line ↔ GoesUp idOf parentOf table [idOf a] a line := by
  constructor
  · rintro ⟨parents, distinct⟩
    obtain ⟨hfresh, hdistinct⟩ := List.nodup_cons.mp distinct
    refine ⟨parents, fun b hb hid => hfresh ?_, hdistinct⟩
    rw [← List.mem_singleton.mp hid]
    exact List.mem_map_of_mem hb
  · rintro ⟨parents, fresh, distinct⟩
    refine ⟨parents, List.nodup_cons.mpr ⟨fun hmem => ?_, distinct⟩⟩
    obtain ⟨b, hb, hid⟩ := List.mem_map.mp hmem
    exact fresh b hb (by simp [hid])

/-- A line goes on by the parent, if it has not been seen, and by a line from there. -/
theorem goesUp_cons_iff (h : IsTable idOf parentOf table) {seen : List Int} {a c : α} {n : Int}
    {rest : List α} (hn : parentOf a = .int n) :
    GoesUp idOf parentOf table seen a (c :: rest) ↔
      (n ≠ 0 ∧ n ∉ seen ∧ table.lookup n = some c) ∧
        GoesUp idOf parentOf table (n :: seen) c rest := by
  constructor
  · rintro ⟨parents, fresh, distinct⟩
    obtain ⟨⟨m, hm, hm0, hc⟩, hchain⟩ := List.isChain_cons_cons.mp parents
    cases hn.symm.trans hm
    obtain ⟨hid, -⟩ := h.of_lookup hc
    obtain ⟨hnew, hdistinct⟩ := List.nodup_cons.mp distinct
    refine ⟨⟨hm0, hid ▸ fresh c (by simp), hc⟩, hchain, fun b hb => ?_, hdistinct⟩
    rw [List.mem_cons, not_or]
    refine ⟨fun hb' => hnew ?_, fresh b (by simp [hb])⟩
    rw [hid, ← hb']
    exact List.mem_map_of_mem hb
  · rintro ⟨⟨hn0, hseen, hc⟩, parents, fresh, distinct⟩
    obtain ⟨hid, -⟩ := h.of_lookup hc
    refine ⟨List.isChain_cons_cons.mpr ⟨⟨n, hn, hn0, hc⟩, parents⟩, ?_, ?_⟩
    · intro b hb
      rcases List.mem_cons.mp hb with rfl | hb
      · rwa [hid]
      · exact fun hmem => fresh b hb (by simp [hmem])
    · refine List.nodup_cons.mpr ⟨fun hmem => ?_, distinct⟩
      obtain ⟨b, hb, hb'⟩ := List.mem_map.mp hmem
      exact fresh b hb (by simp [hb', hid])

/-- The line that is followed among what remains when the records `seen` are gone: the lines that
go up from there are its beginnings. -/
theorem exists_ancestors_of_remain (h : IsTable idOf parentOf table) {seen : List Int}
    {remain : List (Int × α)} {a : α} {n : Int}
    (hremain : ∀ k b, remain.lookup k = some b ↔ k ∉ seen ∧ table.lookup k = some b)
    (hn : parentOf a = .int n) :
    ∃ line, ancestors parentOf remain (parentOf a) = .ok line ∧ line.length ≤ remain.length ∧
      ∀ other, GoesUp idOf parentOf table seen a other ↔ other <+: line := by
  -- on the records that remain, which get fewer with each step
  induction hlen : remain.length using Nat.strong_induction_on generalizing remain seen a n with
  | _ size ih =>
  subst hlen
  have hnil : GoesUp idOf parentOf table seen a [] := ⟨by simp, by simp, by simp⟩
  have hcons : ∀ c rest, GoesUp idOf parentOf table seen a (c :: rest) ↔
      (n ≠ 0 ∧ remain.lookup n = some c) ∧ GoesUp idOf parentOf table (n :: seen) c rest := by
    intro c rest
    rw [goesUp_cons_iff h hn, hremain]
  rw [hn, ancestors_int]
  by_cases hn0 : n = 0
  · rw [if_pos hn0]
    refine ⟨[], rfl, by simp, ?_⟩
    rintro (_ | ⟨c, rest⟩)
    · simpa using hnil
    · simp [hcons, hn0]
  rw [if_neg hn0]
  cases hb : remain.lookup n with
  | none =>
    refine ⟨[], rfl, by simp, ?_⟩
    rintro (_ | ⟨c, rest⟩)
    · simpa using hnil
    · simp [hcons, hb]
  | some b =>
    obtain ⟨-, m, hm⟩ := h.of_lookup ((hremain n b).mp hb).2
    have hlt := Assoc.length_erase_lt hb
    have hremain' : ∀ k c, (Assoc.erase n remain).lookup k = some c ↔
        k ∉ n :: seen ∧ table.lookup k = some c := by
      intro k c
      rw [Assoc.lookup_erase]
      by_cases hk : k = n <;> simp [hk, hremain]
    obtain ⟨line, hline, hle, hall⟩ := ih _ hlt hremain' hm rfl
    refine ⟨b :: line, by simp [hline, Except.map], by simp; omega, ?_⟩
    rintro (_ | ⟨c, rest⟩)
    · simpa using hnil
    · rw [hcons, List.cons_prefix_cons, hb, Option.some.injEq]
      constructor
      · rintro ⟨⟨-, rfl⟩, hrest⟩
        exact ⟨rfl, (hall rest).mp hrest⟩
      · rintro ⟨rfl, hrest⟩
        exact ⟨⟨hn0, rfl⟩, (hall rest).mpr hrest⟩

/-- **The line of ancestors** of a record of the table is its longest line, and it has fewer records
than the table. -/
theorem exists_ancestors (h : IsTable idOf parentOf table) {k : Int} {a : α}
    (ha : table.lookup k = some a) :
    ∃ line, ancestors parentOf (Assoc.erase (idOf a) table) (parentOf a) = .ok line ∧
      line.length < table.length ∧ IsLongestLine idOf parentOf table a line := by
  obtain ⟨hid, n, hn⟩ := h.of_lookup ha
  have hremain : ∀ k b, (Assoc.erase (idOf a) table).lookup k = some b ↔
      k ∉ [idOf a] ∧ table.lookup k = some b := by
    intro k b
    by_cases hk : k = idOf a <;> simp [Assoc.lookup_erase, hk]
  obtain ⟨line, hline, hle, hall⟩ := exists_ancestors_of_remain h hremain hn
  simp only [← isLine_iff_goesUp] at hall
  have hlt : (Assoc.erase (idOf a) table).length < table.length :=
    Assoc.length_erase_lt (hid ▸ ha)
  exact ⟨line, hline, by omega, (hall line).mpr List.prefix_rfl, fun other => (hall other).mp⟩

end Lineage

end StructuredData
