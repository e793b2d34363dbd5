import StructuredData.Number.Integer
import StructuredData.Proofs.Text.Cut

/-!
# Texts of digits

There are no signs, blanks or underscores among the characters with a digit value.  So a text of
them is read as a whole number just if all of them are decimal and there are not too many, and a
number that is not too long is read back from its digits.
-/

namespace StructuredData

/-- What holds of the digits in the tables holds of all characters with a digit value. -/
theorem forall_isDigitLike {P : Char → Prop}
    (hdecimal : ∀ z ∈ decimalZeros, ∀ d < 10, P (Char.ofNat (z + d)))
    (hother : ∀ r ∈ otherDigitRanges, ∀ d < r.2 + 1 - r.1, P (Char.ofNat (r.1 + d))) {c : Char}
    (h : isDigitLike c = true) : P c := by
  rcases Bool.or_eq_true _ _ |>.mp h with hdec | hrange
  · obtain ⟨v, hv⟩ := Option.isSome_iff_exists.mp hdec
    obtain ⟨z, hz, -⟩ := Option.map_eq_some_iff.mp hv
    have hle : z ≤ c.toNat ∧ c.toNat ≤ z + 9 := by simpa using List.find?_some hz
    have hc := hdecimal z (List.mem_of_find?_eq_some hz) (c.toNat - z) (by omega)
    rwa [Nat.add_sub_cancel' hle.1, Char.ofNat_toNat] at hc
  · obtain ⟨r, hr, hin⟩ := List.any_eq_true.mp hrange
    have hle : r.1 ≤ c.toNat ∧ c.toNat ≤ r.2 := by simpa using hin
    have hc := hother r hr (c.toNat - r.1) (by omega)
    rwa [Nat.add_sub_cancel' hle.1, Char.ofNat_toNat] at hc

/-- A character with a digit value is no blank, no underscore and no sign. -/
theorem plain_of_isDigitLike {c : Char} (h : isDigitLike c = true) :
    isBlank c = false ∧ c ≠ '_' ∧ c ≠ '-' ∧ c ≠ '+' := by
  refine forall_isDigitLike
    (P := fun c => isBlank c = false ∧ c ≠ '_' ∧ c ≠ '-' ∧ c ≠ '+') ?_ ?_ h
  · decide +kernel
  · decide +kernel

/-! ## Runs of digits -/

/-- No number is read where something is no decimal digit. -/
theorem readDecimal_eq_none_iff {cs : List Char} {acc : Nat} :
    readDecimal cs acc = none ↔ ∃ c ∈ cs, isDecimal c = false := by
  induction cs generalizing acc with
  | nil => simp [readDecimal]
  | cons c rest ih =>
    rw [readDecimal]
    cases hc : decimalValue? c with
    | none => simp [isDecimal, hc]
    | some d => simp [isDecimal, hc, ih]

/-- Without underscores the digits of a number are its characters. -/
theorem bareDigits_of_forall {cs : List Char} (h : ∀ c ∈ cs, isDecimal c = true ∧ c ≠ '_')
    {ready : Bool} (hready : ready = true ∨ cs ≠ []) : bareDigits ready cs = some cs := by
  induction cs generalizing ready with
  | nil =>
    rw [bareDigits, if_pos (hready.resolve_right (by simp))]
  | cons c rest ih =>
    obtain ⟨hdec, hunder⟩ := h c (by simp)
    rw [bareDigits, if_neg hunder, if_pos hdec, ih (fun d hd => h d (by simp [hd])) (Or.inl rfl)]
    rfl

theorem bareDigits_of_exists {cs : List Char} (hunder : '_' ∉ cs)
    (h : ∃ c ∈ cs, isDecimal c = false) (ready : Bool) : bareDigits ready cs = none := by
  induction cs generalizing ready with
  | nil => simp at h
  | cons c rest ih =>
    have hc : c ≠ '_' := fun hc => hunder (by simp [hc])
    rw [bareDigits, if_neg hc]
    by_cases hdec : isDecimal c = true
    · rw [if_pos hdec, ih (fun hu => hunder (by simp [hu])) (by simpa [hdec] using h) true]
      rfl
    · rw [if_neg hdec]

/-- A run of digits is read digit by digit, if it is not too long. -/
theorem readDigits_of_isDigitLike {cs : List Char} (hne : cs ≠ [])
    (h : ∀ c ∈ cs, isDigitLike c = true) :
    readDigits cs = if cs.length ≤ digitLimit then readDecimal cs 0 else none := by
  have hunder : '_' ∉ cs := fun hu => (plain_of_isDigitLike (h _ hu)).2.1 rfl
  rw [readDigits]
  by_cases hdec : ∃ c ∈ cs, isDecimal c = false
  · -- then neither way of reading gives a number, whatever the length is
    rw [bareDigits_of_exists hunder hdec, readDecimal_eq_none_iff.mpr hdec]
    simp
  · have hall : ∀ c ∈ cs, isDecimal c = true ∧ c ≠ '_' := by
      intro c hc
      have hno : ¬ isDecimal c = false := fun hf => hdec ⟨c, hc, hf⟩
      exact ⟨by simpa using hno, fun hu => hunder (hu ▸ hc)⟩
    rw [bareDigits_of_forall hall (Or.inr hne)]

/-! ## Texts of digits as whole numbers -/

/-- Where nothing is to be trimmed, nothing is. -/
theorem Text.trimWhile_of_forall {p : Char → Bool} {cs : List Char} (h : ∀ c ∈ cs, p c = false) :
    trimWhile p cs = cs :=
  trimWhile_eq_self_iff.mpr
    ⟨fun c hc => h c (List.mem_of_mem_head? hc), fun c hc => h c (List.mem_of_mem_getLast? hc)⟩

/-- A text of digits is read digit by digit, if it is not too long. -/
theorem readInteger_of_isDigitLike {s : String} (hne : s ≠ "")
    (h : ∀ c ∈ s.toList, isDigitLike c = true) :
    readInteger s =
      (if s.toList.length ≤ digitLimit then readDecimal s.toList 0 else none).map Int.ofNat := by
  have hcs : s.toList ≠ [] := fun hnil => hne (String.toList_eq_nil_iff.mp hnil)
  have htrim : Text.trimWhile isNumberBlank s.toList = s.toList := by
    refine Text.trimWhile_of_forall fun c hc => ?_
    simp [isNumberBlank, (plain_of_isDigitLike (h c hc)).1]
  rw [readInteger, htrim, ← readDigits_of_isDigitLike hcs h]
  split
  · rename_i cs hminus
    exact absurd rfl (plain_of_isDigitLike (h '-' (by simp [hminus]))).2.2.1
  · rename_i cs hplus
    exact absurd rfl (plain_of_isDigitLike (h '+' (by simp [hplus]))).2.2.2
  · cases readDigits s.toList <;> rfl

/-- Characters that look like digits denote no negative number. -/
theorem exists_nat_of_readInteger {s : String} (hne : s ≠ "")
    (h : ∀ c ∈ s.toList, isDigitLike c = true) {n : Int} (hread : readInteger s = some n) :
    ∃ m : Nat, n = m := by
  rw [readInteger_of_isDigitLike hne h] at hread
  obtain ⟨m, -, hm⟩ := Option.map_eq_some_iff.mp hread
  exact ⟨m, hm.symm⟩

/-- **When a text of digits cannot be read**: one of them is not decimal, or there are too many. -/
theorem readInteger_eq_none_iff {s : String} (hne : s ≠ "")
    (h : ∀ c ∈ s.toList, isDigitLike c = true) :
    readInteger s = none ↔
      (∃ c ∈ s.toList, isDecimal c = false) ∨ digitLimit < s.toList.length := by
  rw [readInteger_of_isDigitLike hne h, Option.map_eq_none_iff]
  by_cases hlimit : s.toList.length ≤ digitLimit
  · rw [if_pos hlimit, readDecimal_eq_none_iff]
    exact ⟨Or.inl, fun h => h.resolve_right (by omega)⟩
  · rw [if_neg hlimit]
    exact ⟨fun _ => Or.inr (by omega), fun _ => rfl⟩

/-! ## Numbers as they are written -/

/-- The digits that numbers are written with come first in the tables. -/
theorem decimalValue?_of_isDigit {c : Char} (h : c.isDigit = true) :
    decimalValue? c = some (c.toNat - '0'.toNat) := by
  have hc : 48 ≤ c.toNat ∧ c.toNat ≤ 57 := by
    simpa [Char.isDigit, UInt32.le_iff_toNat_le] using h
  have hzero : decimalZeros.find? (fun z => z ≤ c.toNat && c.toNat ≤ z + 9) = some 48 :=
    List.find?_cons_of_pos (by simpa using hc)
  rw [decimalValue?, hzero]
  rfl

/-- Plain digits denote the number that they show. -/
theorem readDecimal_of_isDigit {cs : List Char} (h : ∀ c ∈ cs, c.isDigit = true) (acc : Nat) :
    readDecimal cs acc = some (Nat.ofDigitChars 10 cs acc) := by
  induction cs generalizing acc with
  | nil => rfl
  | cons c rest ih =>
    simp only [readDecimal, decimalValue?_of_isDigit (h c (by simp))]
    exact ih (fun d hd => h d (by simp [hd])) _

theorem isDigit_of_mem_toString {n : Nat} {c : Char} (hc : c ∈ (toString n).toList) :
    c.isDigit = true := by
  rw [Nat.toString_eq_repr, Nat.toList_repr] at hc
  exact Nat.isDigit_of_mem_toDigits (by decide) (by decide) hc

theorem toString_ne_empty (n : Nat) : toString n ≠ "" := by
  intro hempty
  have hchars : (toString n).toList = Nat.toDigits 10 n := Nat.toList_repr
  rw [hempty] at hchars
  exact Nat.toDigits_ne_nil hchars.symm

/-- **A number is read back from its digits**, if there are not too many. -/
theorem readInteger_toString {n : Nat} (h : (toString n).length ≤ digitLimit) :
    readInteger (toString n) = some (n : Int) := by
  have hlike : ∀ c ∈ (toString n).toList, isDigitLike c = true := by
    intro c hc
    refine isDigitLike_of_isDecimal ?_
    rw [isDecimal, decimalValue?_of_isDigit (isDigit_of_mem_toString hc), Option.isSome_some]
  have hchars : (toString n).toList = Nat.toDigits 10 n := Nat.toList_repr
  rw [readInteger_of_isDigitLike (toString_ne_empty n) hlike,
    if_pos (by rwa [String.length_toList]),
    readDecimal_of_isDigit (fun c => isDigit_of_mem_toString), hchars,
    Nat.ofDigitChars_toDigits (by decide) (by decide)]
  rfl

end StructuredData
