import Mathlib.Data.List.DropRight
import StructuredData.Text.Blank

/-!
# Cutting texts

A text that is put together of pieces with separators between them is cut into these pieces again,
and stripping changes nothing where no blank stands at an end.
-/

namespace StructuredData.Text

/-- The first piece of a cut text ends at the first separator. -/
theorem cutFrom_append {sep : Char} (part xs rest : List Char) (h : sep ∉ xs) :
    cutFrom sep part (xs ++ sep :: rest) = (part.reverse ++ xs) :: cutFrom sep [] rest := by
  induction xs generalizing part with
  | nil => simp [cutFrom]
  | cons x xs ih =>
    have hx : x ≠ sep := fun hx => h (by simp [hx])
    rw [List.cons_append, cutFrom, if_neg hx, ih _ fun hs => h (by simp [hs])]
    simp

/-- A text without separators is one piece. -/
theorem cutFrom_of_not_mem {sep : Char} (part xs : List Char) (h : sep ∉ xs) :
    cutFrom sep part xs = [part.reverse ++ xs] := by
  induction xs generalizing part with
  | nil => simp [cutFrom]
  | cons x xs ih =>
    have hx : x ≠ sep := fun hx => h (by simp [hx])
    rw [cutFrom, if_neg hx, ih _ fun hs => h (by simp [hs])]
    simp

/-- The part before the first separator comes first. -/
theorem cut_append {sep : Char} {a : String} (h : sep ∉ a.toList) (b : String) :
    cut sep (a ++ String.singleton sep ++ b) = a :: cut sep b := by
  have hchars : (a ++ String.singleton sep ++ b).toList = a.toList ++ sep :: b.toList := by simp
  rw [cut, hchars, cutFrom_append _ _ _ h, List.map_cons, ← cut]
  simp

/-- Where there is no separator, nothing is cut. -/
theorem cut_of_not_mem {sep : Char} {s : String} (h : sep ∉ s.toList) : cut sep s = [s] := by
  rw [cut, cutFrom_of_not_mem _ _ h]
  simp

/-! ## Joined pieces -/

theorem head?_intercalate {r : List Char} (hr : r ≠ []) (x : Char) (rs : List (List Char)) :
    ([x].intercalate (r :: rs)).head? = r.head? := by
  cases rs with
  | nil => rw [List.intercalate_singleton]
  | cons r' rs =>
    rw [List.intercalate_cons_cons, List.append_assoc, List.head?_append_of_ne_nil _ hr]

theorem getLast?_intercalate {x : Char} {rs : List (List Char)} (h : ∀ r ∈ rs, r ≠ []) :
    ([x].intercalate rs).getLast? = rs.getLast?.bind List.getLast? := by
  induction rs with
  | nil => rfl
  | cons r rs ih =>
    cases rs with
    | nil => rw [List.intercalate_singleton]; rfl
    | cons r' rs =>
      have hrest : [x].intercalate (r' :: rs) ≠ [] := by
        intro hnil
        have hhead := head?_intercalate (h r' (by simp)) x rs
        rw [hnil, List.head?_nil, eq_comm, List.head?_eq_none_iff] at hhead
        exact h r' (by simp) hhead
      rw [List.intercalate_cons_cons, List.getLast?_append_of_ne_nil _ hrest,
        ih fun s hs => h s (by simp [hs]), List.getLast?_cons_cons]

/-- What is put together has the separator and the characters of the parts. -/
theorem mem_intercalate {x c : Char} {ls : List (List Char)} (h : c ∈ [x].intercalate ls) :
    c = x ∨ ∃ l ∈ ls, c ∈ l := by
  induction ls with
  | nil => cases h
  | cons l rest ih =>
    cases rest with
    | nil =>
      rw [List.intercalate_singleton] at h
      exact Or.inr ⟨l, by simp, h⟩
    | cons l' rest =>
      rw [List.intercalate_cons_cons, List.mem_append, List.mem_append, List.mem_singleton] at h
      rcases h with (h | h) | h
      · exact Or.inr ⟨l, by simp, h⟩
      · exact Or.inl h
      · rcases ih h with h | ⟨m, hm, hc⟩
        · exact Or.inl h
        · exact Or.inr ⟨m, List.mem_cons_of_mem _ hm, hc⟩

/-- Trimming leaves characters as they are if and only if neither the first nor the last one is to
be dropped. -/
theorem trimWhile_eq_self_iff {p : Char → Bool} {cs : List Char} :
    trimWhile p cs = cs ↔ (∀ c ∈ cs.head?, p c = false) ∧ ∀ c ∈ cs.getLast?, p c = false := by
  have htrim : trimWhile p cs = (cs.dropWhile p).rdropWhile p := rfl
  have hhead : cs.dropWhile p = cs ↔ ∀ c ∈ cs.head?, p c = false := by
    cases cs with
    | nil => simp
    | cons c rest => simp [List.dropWhile_eq_self_iff]
  have hlast : cs.rdropWhile p = cs ↔ ∀ c ∈ cs.getLast?, p c = false := by
    rw [List.rdropWhile_eq_self_iff]
    constructor
    · intro h c hc
      obtain ⟨hne, rfl⟩ := List.mem_getLast?_eq_getLast hc
      simpa using h hne
    · intro h hne
      simpa using h _ (List.getLast?_eq_getLast_of_ne_nil hne)
  rw [htrim, ← hhead, ← hlast]
  constructor
  · intro h
    -- neither end can have lost anything, as together they have lost nothing
    have hdrop : cs.dropWhile p = cs := by
      apply (List.dropWhile_suffix _).eq_of_length_le
      calc cs.length
          = ((cs.dropWhile p).rdropWhile p).length := by rw [h]
        _ ≤ (cs.dropWhile p).length := (List.rdropWhile_prefix _ _).length_le
    exact ⟨hdrop, by rwa [hdrop] at h⟩
  · rintro ⟨hdrop, hrdrop⟩
    rw [hdrop, hrdrop]

/-- What is left of trimmed characters neither starts nor ends with one that is dropped. -/
theorem ends_trimWhile (p : Char → Bool) (cs : List Char) :
    (∀ c ∈ (trimWhile p cs).head?, p c = false) ∧ ∀ c ∈ (trimWhile p cs).getLast?, p c = false := by
  rw [← trimWhile_eq_self_iff]
  show (((cs.dropWhile p).rdropWhile p).dropWhile p).rdropWhile p = (cs.dropWhile p).rdropWhile p
  -- what stands first after trimming stood first before the end was trimmed
  have hfront : ((cs.dropWhile p).rdropWhile p).dropWhile p = (cs.dropWhile p).rdropWhile p := by
    rw [List.dropWhile_eq_self_iff]
    intro hlength
    have hstart := List.rdropWhile_prefix p (cs.dropWhile p)
    rw [hstart.getElem hlength]
    exact List.dropWhile_eq_self_iff.mp (List.dropWhile_idempotent p cs) _
  rw [hfront, List.rdropWhile_idempotent]

/-- A text is stripped if and only if it neither starts nor ends with a blank. -/
theorem strip_eq_self_iff {s : String} :
    strip s = s ↔ (∀ c ∈ s.toList.head?, isBlank c = false) ∧
      ∀ c ∈ s.toList.getLast?, isBlank c = false := by
  rw [← String.toList_inj, strip, String.toList_ofList, trimWhile_eq_self_iff]

/-- Between stripped texts anything may stand. -/
theorem strip_append {a b : String} (ha : strip a = a) (hb : strip b = b) (hane : a ≠ "")
    (hbne : b ≠ "") (m : String) : strip (a ++ m ++ b) = a ++ m ++ b := by
  have hane' : a.toList ≠ [] := fun h => hane (String.toList_eq_nil_iff.mp h)
  have hbne' : b.toList ≠ [] := fun h => hbne (String.toList_eq_nil_iff.mp h)
  rw [strip_eq_self_iff] at ha hb ⊢
  rw [String.toList_append, String.toList_append, List.append_assoc,
    List.head?_append_of_ne_nil _ hane', ← List.append_assoc,
    List.getLast?_append_of_ne_nil _ hbne']
  exact ⟨ha.1, hb.2⟩

/-! ## Stripping what stands behind a separator -/

/-- A text without the blanks at its end. -/
def stripEnd (s : String) : String := String.ofList (s.toList.rdropWhile isBlank)

/-- Nothing is dropped in front of what is kept. -/
theorem rdropWhile_append_cons {α : Type} {p : α → Bool} {x : α} (hx : p x = false) (a b : List α) :
    (a ++ x :: b).rdropWhile p = a ++ x :: b.rdropWhile p := by
  induction b using List.reverseRecOn with
  | nil =>
    rw [List.rdropWhile_concat_neg _ _ _ (by simp [hx]), List.rdropWhile_nil]
  | append_singleton b y ih =>
    rw [List.rdropWhile_concat, ← List.cons_append, ← List.append_assoc, List.rdropWhile_concat, ih]
    split
    · rfl
    · simp

variable {sep : Char} {a : String}

/-- Blanks at the end are behind the separator. -/
theorem stripEnd_append_singleton (hsep : isBlank sep = false) (a b : String) :
    stripEnd (a ++ String.singleton sep ++ b) = a ++ String.singleton sep ++ stripEnd b := by
  rw [← String.toList_inj]
  simp [stripEnd, rdropWhile_append_cons hsep]

/-- Of a text that goes on behind a separator only the end is stripped if its first piece is. -/
theorem strip_append_singleton (hsep : isBlank sep = false) (ha : strip a = a) (b : String) :
    strip (a ++ String.singleton sep ++ b) = a ++ String.singleton sep ++ stripEnd b := by
  have hhead : (a.toList ++ sep :: b.toList).dropWhile isBlank = a.toList ++ sep :: b.toList := by
    have hfirst := (strip_eq_self_iff.mp ha).1
    cases hchars : a.toList with
    | nil => simp [hsep]
    | cons c rest =>
      rw [hchars] at hfirst
      simp [hfirst c rfl]
  have hchars : (a ++ String.singleton sep ++ b).toList = a.toList ++ sep :: b.toList := by simp
  rw [← stripEnd_append_singleton hsep, strip, stripEnd, trimWhile, hchars, hhead]
  rfl

/-- The first piece of a cut text is the text itself or ends at a separator. -/
theorem exists_of_head?_cut {s : String} (h : (cut sep s).head? = some a) :
    sep ∉ a.toList ∧ (s = a ∨ ∃ b, s = a ++ String.singleton sep ++ b) := by
  by_cases hsep : sep ∈ s.toList
  · obtain ⟨xs, ys, hchars, hxs⟩ := List.eq_append_cons_of_mem hsep
    have hs : s = String.ofList xs ++ String.singleton sep ++ String.ofList ys := by
      rw [← String.toList_inj, hchars]
      simp
    have hpiece : sep ∉ (String.ofList xs).toList := by simpa using hxs
    rw [hs, cut_append hpiece, List.head?_cons, Option.some.injEq] at h
    subst h
    exact ⟨hpiece, .inr ⟨_, hs⟩⟩
  · rw [cut_of_not_mem hsep, List.head?_cons, Option.some.injEq] at h
    subst h
    exact ⟨hsep, .inl rfl⟩

/-- Stripping leaves the first piece of a cut text alone if no blank stands at its ends. -/
theorem head?_cut_strip {s : String} (hsep : isBlank sep = false) (ha : strip a = a)
    (h : (cut sep s).head? = some a) : (cut sep (strip s)).head? = some a := by
  obtain ⟨hpiece, rfl | ⟨b, rfl⟩⟩ := exists_of_head?_cut h
  · rwa [ha]
  · rw [strip_append_singleton hsep ha, cut_append hpiece, List.head?_cons]

end StructuredData.Text
