import Mathlib.Data.List.Infix
import StructuredData.Document.Script
import StructuredData.Proofs.Fault
import StructuredData.Proofs.Json.RoundTrip
import StructuredData.Proofs.Value.Texts

/-!
# Where a tag may open in a JSON text

Angle brackets are written as they are, and stand in a JSON text nowhere but in its quoted texts.
So what starts with such a bracket and is written as it is occurs in the JSON text of a value
exactly if it occurs in a text that the value holds, as a key or otherwise (`Json.showsIn`).
-/

namespace StructuredData

/-- Whether a value holds a text, as a key or otherwise. -/
inductive Value.Holds (s : String) : Value → Prop
  | text : Holds s (.text s)
  | item {items : List Value} {v : Value} (hv : v ∈ items) (h : Holds s v) :
      Holds s (.list items)
  | key {fields : Fields} {v : Value} (he : (.text s, v) ∈ fields) : Holds s (.object fields)
  | entry {fields : Fields} {e : Scalar × Value} (he : e ∈ fields) (h : Holds s e.2) :
      Holds s (.object fields)

namespace Value

variable {s : String}

/-- A scalar holds no text but the one that it is. -/
theorem holds_scalar_iff {a : Scalar} : (Value.scalar a).Holds s ↔ a = .text s := by
  constructor
  · intro h
    cases h
    rfl
  · rintro rfl
    exact .text

@[simp] theorem not_holds_list_nil : ¬ (list []).Holds s := by
  rintro ⟨⟩
  contradiction

/-- A list holds what its first item or the others hold. -/
theorem holds_list_cons_iff {v : Value} {items : List Value} :
    (list (v :: items)).Holds s ↔ v.Holds s ∨ (list items).Holds s := by
  constructor
  · rintro (_ | ⟨hw, h⟩)
    rcases List.mem_cons.mp hw with rfl | hw
    · exact Or.inl h
    · exact Or.inr (.item hw h)
  · rintro (h | _ | ⟨hw, h⟩)
    · exact .item List.mem_cons_self h
    · exact .item (List.mem_cons_of_mem _ hw) h

@[simp] theorem not_holds_object_nil : ¬ (object []).Holds s := by
  rintro ⟨⟩ <;> contradiction

/-- An object holds its first key, what the first value holds, and what the other entries hold. -/
theorem holds_object_cons_iff {k : Scalar} {v : Value} {fields : Fields} :
    (object ((k, v) :: fields)).Holds s ↔ k = .text s ∨ v.Holds s ∨ (object fields).Holds s := by
  constructor
  · intro h
    cases h with
    | key he =>
      rcases List.mem_cons.mp he with he | he
      · exact Or.inl (Prod.mk.inj he).1.symm
      · exact Or.inr (Or.inr (.key he))
    | entry he h =>
      rcases List.mem_cons.mp he with rfl | he
      · exact Or.inr (Or.inl h)
      · exact Or.inr (Or.inr (.entry he h))
  · rintro (rfl | h | h)
    · exact .key List.mem_cons_self
    · exact .entry List.mem_cons_self h
    · cases h with
      | key he => exact .key (List.mem_cons_of_mem _ he)
      | entry he h => exact .entry (List.mem_cons_of_mem _ he) h

end Value

/-! ## Occurrences in a row of characters -/

section Infix

variable {a b p : List Char} {c : Char}

/-- What starts with a character does not start where there is no such character. -/
theorem infix_append_of_not_mem (h : c ∉ a) : c :: p <:+: a ++ b ↔ c :: p <:+: b := by
  induction a with
  | nil => rfl
  | cons d a ih =>
    rw [List.mem_cons, not_or] at h
    rw [List.cons_append, List.infix_cons_iff, ih h.2, or_iff_right]
    exact fun hp => h.1 (List.cons_prefix_cons.mp hp).1

/-- What starts with another character is found behind the first. -/
theorem infix_cons_of_ne {d : Char} (h : c ≠ d) : c :: p <:+: d :: b ↔ c :: p <:+: b :=
  infix_append_of_not_mem (a := [d]) (by simpa using h)

/-- What a prefix does not contain ends it. -/
theorem prefix_append_cons (h : c ∉ p) : p <+: a ++ c :: b ↔ p <+: a := by
  induction a generalizing p with
  | nil =>
    cases p with
    | nil => simp
    | cons d p =>
      rw [List.mem_cons, not_or] at h
      simp [List.cons_prefix_cons, Ne.symm h.1]
  | cons d a ih =>
    cases p with
    | nil => simp
    | cons e p =>
      rw [List.mem_cons, not_or] at h
      rw [List.cons_append, List.cons_prefix_cons, List.cons_prefix_cons, ih h.2]

/-- What has a character nowhere in it lies in front of such a character or behind it. -/
theorem infix_append_cons (h : c ∉ p) :
    p <:+: a ++ c :: b ↔ p <:+: a ∨ p <:+: b := by
  induction a with
  | nil =>
    have hleads : p <+: c :: b ↔ p <+: [] := prefix_append_cons (a := []) h
    rw [List.nil_append, List.infix_cons_iff, hleads, List.prefix_nil, List.infix_nil]
  | cons d a ih =>
    rw [List.cons_append, List.infix_cons_iff, ih, List.infix_cons_iff, ← List.cons_append,
      prefix_append_cons h, or_assoc]

end Infix

namespace Json

/-! ## Occurrences in a quoted text -/

/-- Whether a character is written as it is, also where a tag is closed. -/
def IsPlain (c : Char) : Prop :=
  0x20 ≤ c.toNat ∧ c.toNat < 0x7F ∧ c ≠ '"' ∧ c ≠ '\\' ∧ c ≠ '/'

instance (c : Char) : Decidable (IsPlain c) := inferInstanceAs (Decidable (_ ∧ _))

variable {p : List Char}

/-- A digit opens no tag. -/
theorem hexDigit_ne (n : Nat) : hexDigit (n % 16) ≠ '<' := by
  have hall : ∀ k < 16, hexDigit k ≠ '<' := by decide
  exact hall _ (Nat.mod_lt n (by decide))

/-- What stands for a code unit starts with a backslash and opens no tag. -/
theorem escapedUnit_eq (n : Nat) : ∃ more, escapedUnit n = '\\' :: more ∧ '<' ∉ more := by
  refine ⟨_, rfl, ?_⟩
  simp only [List.mem_cons, List.not_mem_nil, or_false, not_or]
  exact ⟨by decide, (hexDigit_ne _).symm, (hexDigit_ne _).symm, (hexDigit_ne _).symm,
    (hexDigit_ne _).symm⟩

/-- A character that is not written as it is is written behind a backslash and without angle
brackets. -/
theorem escapedChar_eq (ascii : Bool) (c : Char) :
    escapedChar ascii c = [c] ∨
      ¬ IsPlain c ∧ ∃ more, escapedChar ascii c = '\\' :: more ∧ '<' ∉ more := by
  unfold escapedChar
  repeat' split
  all_goals first
    | exact Or.inr ⟨by rename_i h; rw [h]; decide, _, rfl, by decide⟩
    | skip
  · rename_i h
    exact Or.inr ⟨fun hc => absurd hc.1 (by omega), escapedUnit_eq _⟩
  · rename_i h
    have hcode : 0x7F ≤ c.toNat := by
      simp only [Bool.and_eq_true, decide_eq_true_eq] at h
      exact h.2
    refine Or.inr ⟨fun hc => absurd hc.2.1 (by omega), ?_⟩
    unfold escapedCode
    split
    · exact escapedUnit_eq _
    · obtain ⟨more, hmore, hne⟩ := escapedUnit_eq (0xD800 + (c.toNat - 0x10000) / 1024)
      obtain ⟨more', hmore', hne'⟩ := escapedUnit_eq (0xDC00 + (c.toNat - 0x10000) % 1024)
      exact ⟨more ++ '\\' :: more', by rw [hmore, hmore']; rfl, by simp [hne, hne']⟩
  · exact Or.inl rfl

/-- What is written as it is starts the written text exactly if it starts the text. -/
theorem prefix_flatMap_escapedChar (ascii : Bool) (hp : ∀ c ∈ p, IsPlain c) (cs : List Char) :
    p <+: cs.flatMap (escapedChar ascii) ↔ p <+: cs := by
  induction cs generalizing p with
  | nil => rfl
  | cons c cs ih =>
    cases p with
    | nil => simp
    | cons d p =>
      have hd := hp d (by simp)
      rw [List.flatMap_cons]
      rcases escapedChar_eq ascii c with h | ⟨hc, more, h, -⟩
      · rw [h, List.singleton_append, List.cons_prefix_cons, List.cons_prefix_cons,
          ih fun e he => hp e (by simp [he])]
      · rw [h, List.cons_append, List.cons_prefix_cons, List.cons_prefix_cons]
        refine ⟨fun hleads => absurd hleads.1 hd.2.2.2.1, fun hleads => ?_⟩
        rw [hleads.1] at hd
        exact absurd hd hc

/-- It occurs in the written text exactly if it occurs in the text. -/
theorem infix_flatMap_escapedChar (ascii : Bool) (hp : ∀ c ∈ '<' :: p, IsPlain c)
    (cs : List Char) : '<' :: p <:+: cs.flatMap (escapedChar ascii) ↔ '<' :: p <:+: cs := by
  induction cs with
  | nil => rfl
  | cons c cs ih =>
    have hleads := prefix_flatMap_escapedChar ascii hp (c :: cs)
    rw [List.flatMap_cons] at hleads ⊢
    rw [List.infix_cons_iff, ← ih]
    rcases escapedChar_eq ascii c with h | ⟨hc, more, h, hmore⟩
    · rw [h, List.singleton_append] at hleads ⊢
      rw [List.infix_cons_iff, hleads]
    · have hopen : '<' ∉ '\\' :: more := by simp [hmore]
      have hne : ¬ '<' :: p <+: c :: cs := fun h =>
        hc ((List.cons_prefix_cons.mp h).1 ▸ hp _ (by simp))
      rw [h, infix_append_of_not_mem hopen, or_iff_right hne]

/-- It occurs in a quoted text exactly if it occurs in the text. -/
theorem infix_textChars_iff (ascii : Bool) (hp : ∀ c ∈ '<' :: p, IsPlain c) (s : String)
    (rest : List Char) :
    '<' :: p <:+: textChars ascii s ++ rest ↔ '<' :: p <:+: s.toList ∨ '<' :: p <:+: rest := by
  have hquote : '"' ∉ '<' :: p := fun h => absurd (hp _ h) (by decide)
  have hchars : textChars ascii s ++ rest =
      ['"'] ++ (s.toList.flatMap (escapedChar ascii) ++ '"' :: rest) := by
    simp [textChars]
  rw [hchars, infix_append_of_not_mem (by decide), infix_append_cons hquote,
    infix_flatMap_escapedChar ascii hp]

/-! ## Bare words -/

/-- Whether all characters of a text can be part of a bare word. -/
def IsWord (s : String) : Prop := s.toList.all isWordChar = true

instance (s : String) : Decidable (IsWord s) := inferInstanceAs (Decidable (_ = true))

/-- Words put together are a word. -/
theorem IsWord.append {s t : String} (hs : IsWord s) (ht : IsWord t) : IsWord (s ++ t) := by
  rw [IsWord, String.toList_append, List.all_append, hs, ht, Bool.and_self]

theorem isWord_ofList {cs : List Char} :
    IsWord (String.ofList cs) ↔ ∀ c ∈ cs, isWordChar c = true := by
  rw [IsWord, String.toList_ofList, List.all_eq_true]

theorem isWordChar_of_mem_replicate {n : Nat} {c : Char} (hc : c ∈ List.replicate n '0') :
    isWordChar c = true := by
  rw [List.eq_of_mem_replicate hc]
  decide

/-- A decimal is written as a bare word. -/
theorem isWord_decimalText (d : Nat) (k : Int) : IsWord (decimalText d k) := by
  have hdigits : ∀ c ∈ ((Nat.toDigits 10 d).reverse.dropWhile (· = '0')).reverse,
      isWordChar c = true := fun c hc =>
    isWordChar_of_mem_toDigits
      (List.mem_reverse.mp ((List.dropWhile_subset _) (List.mem_reverse.mp hc)))
  have hmark : ∀ lead : Int, IsWord ((if lead < 0 then "e-" else "e+") ++
      (if (toString lead.natAbs).length < 2 then "0" else "") ++ toString lead.natAbs) := by
    intro lead
    refine IsWord.append (IsWord.append ?_ ?_)
      (isWord_ofList.mpr fun c => isWordChar_of_mem_toDigits)
    all_goals split <;> decide
  unfold decimalText
  dsimp only
  generalize ((Nat.toDigits 10 d).reverse.dropWhile (· = '0')).reverse = digits at hdigits
  split
  · refine IsWord.append (by decide) (isWord_ofList.mpr fun c hc => ?_)
    exact (List.mem_append.mp hc).elim isWordChar_of_mem_replicate (hdigits c)
  · split
    · refine IsWord.append (IsWord.append (isWord_ofList.mpr fun c hc => ?_) (by decide)) ?_
      · rcases List.mem_append.mp hc with hc | hc
        · exact hdigits c (List.take_subset _ _ hc)
        · exact isWordChar_of_mem_replicate hc
      · split
        · decide
        · exact isWord_ofList.mpr fun c hc => hdigits c (List.drop_subset _ _ hc)
    · split
      · exact IsWord.append (by decide) (hmark _)
      · exact IsWord.append (isWord_ofList.mpr hdigits) (hmark _)
      · refine IsWord.append (isWord_ofList.mpr fun c hc => ?_) (hmark _)
        rcases List.mem_cons.mp hc with rfl | hc
        · exact hdigits _ (by simp)
        · rcases List.mem_cons.mp hc with rfl | hc
          · decide
          · exact hdigits c (by simp [hc])

/-- A float is written as a bare word. -/
theorem isWord_floatText (x : Float) : IsWord (floatText x) := by
  have hsign : ∀ b : Prop, [Decidable b] → IsWord (if b then "-" else "") := by
    intro b _
    split <;> decide
  unfold floatText
  dsimp only
  split
  · split
    · decide
    · exact (hsign _).append (by decide)
  · split
    · exact (hsign _).append (by decide)
    · exact (hsign _).append (isWord_decimalText _ _)

/-- A number is written in characters of words. -/
theorem isWordChar_of_mem_floatChars {x : Float} {c : Char} (hc : c ∈ floatChars x) :
    isWordChar c = true := by
  unfold floatChars at hc
  split at hc
  · exact List.all_eq_true.mp (by decide) c hc
  · split at hc
    · split at hc <;> exact List.all_eq_true.mp (by decide) c hc
    · exact List.all_eq_true.mp (isWord_floatText x) c hc

/-! ## Occurrences in the text of a value -/

variable {rest : List Char} {layout : Layout} {level : Nat}

/-- A scalar that is no text is written without angle brackets. -/
theorem not_mem_scalarChars {ascii : Bool} {a : Scalar} (htext : ∀ s, a ≠ .text s)
    (hmoment : ∀ t, a ≠ .moment t) : '<' ∉ scalarChars ascii a := by
  have hword : ∀ c ∈ scalarChars ascii a, isWordChar c = true := by
    have hnames : ∀ c ∈ "null".toList ++ "true".toList ++ "false".toList, isWordChar c = true :=
      List.all_eq_true.mp rfl
    intro c hc
    match a, htext, hmoment with
    | .null, _, _ => exact hnames c (List.mem_append_left _ (List.mem_append_left _ hc))
    | .bool true, _, _ => exact hnames c (List.mem_append_left _ (List.mem_append_right _ hc))
    | .bool false, _, _ => exact hnames c (List.mem_append_right _ hc)
    | .int n, _, _ => exact isWordChar_of_mem_int hc
    | .float x, _, _ => exact isWordChar_of_mem_floatChars hc
    | .text s, htext, _ => exact absurd rfl (htext s)
    | .moment t, _, hmoment => exact absurd rfl (hmoment t)
  intro hc
  exact absurd (hword _ hc) (by decide)

theorem not_mem_lineBreak : '<' ∉ lineBreak layout level := fun h =>
  absurd (isGap_of_mem_lineBreak h) (by decide)

/-- What parts two entries opens no tag. -/
theorem not_mem_entryMark : '<' ∉ entryMark layout level := by
  unfold entryMark
  split
  · decide
  · simp [not_mem_lineBreak]

/-- What stands behind a key opens no tag. -/
theorem not_mem_keyMark : '<' ∉ keyMark layout := by
  unfold keyMark
  split <;> decide

/-- A tag shows in a key where it is in its text. -/
theorem infix_keyChars_iff (ascii : Bool) (hp : ∀ c ∈ '<' :: p, IsPlain c) {k : Scalar}
    (hk : k.checkWritable = .ok ()) :
    '<' :: p <:+: keyChars ascii k ++ rest ↔
      (∃ s, k = .text s ∧ '<' :: p <:+: s.toList) ∨ '<' :: p <:+: rest := by
  by_cases htext : ∃ s, k = .text s
  · obtain ⟨s, rfl⟩ := htext
    rw [keyChars, infix_textChars_iff ascii hp]
    simp
  · have hmoment : ∀ t, k ≠ .moment t := by
      rintro t rfl
      cases hk
    have hquoted : keyChars ascii k = '"' :: (scalarChars ascii k ++ ['"']) := by
      rw [keyChars]
      · exact fun s hs => htext ⟨s, hs⟩
      · exact hmoment
    have hopen : '<' ∉ keyChars ascii k := by
      rw [hquoted]
      simp [not_mem_scalarChars (fun s hs => htext ⟨s, hs⟩) hmoment]
    rw [infix_append_of_not_mem hopen, or_iff_right]
    rintro ⟨s, hs, -⟩
    exact htext ⟨s, hs⟩

/-- Whether what is looked for occurs in the text of a value exactly if it occurs in a text that the
value holds, whatever follows. -/
def ShowsIn (p : List Char) (layout : Layout) (v : Value) : Prop :=
  ∀ level rest, '<' :: p <:+: valueChars layout level v ++ rest ↔
    (∃ s, v.Holds s ∧ '<' :: p <:+: s.toList) ∨ '<' :: p <:+: rest

/-- A tag shows in the further items of a list where it is in a text that they hold. -/
theorem infix_itemChars_iff {items : List Value} (hitems : ∀ v ∈ items, ShowsIn p layout v) :
    '<' :: p <:+: itemChars layout level items ++ rest ↔
      (∃ s, (Value.list items).Holds s ∧ '<' :: p <:+: s.toList) ∨ '<' :: p <:+: rest := by
  induction items with
  | nil => simp [itemChars]
  | cons v items ih =>
    rw [itemChars, List.append_assoc, List.append_assoc,
      infix_append_of_not_mem not_mem_entryMark, hitems v (by simp),
      ih fun w hw => hitems w (by simp [hw])]
    simp only [Value.holds_list_cons_iff, or_and_right, exists_or, or_assoc]

/-- A tag shows in the further entries of an object where it is in a text that they hold. -/
theorem infix_fieldChars_iff (hp : ∀ c ∈ '<' :: p, IsPlain c) {fields : Fields}
    (hkeys : ∀ e ∈ fields, e.1.checkWritable = .ok ())
    (hfields : ∀ e ∈ fields, ShowsIn p layout e.2) :
    '<' :: p <:+: fieldChars layout level fields ++ rest ↔
      (∃ s, (Value.object fields).Holds s ∧ '<' :: p <:+: s.toList) ∨ '<' :: p <:+: rest := by
  induction fields with
  | nil => simp [fieldChars]
  | cons e fields ih =>
    obtain ⟨k, v⟩ := e
    rw [fieldChars]
    simp only [List.append_assoc]
    rw [infix_append_of_not_mem not_mem_entryMark,
      infix_keyChars_iff layout.ascii hp (hkeys (k, v) (by simp)),
      infix_append_of_not_mem not_mem_keyMark, hfields (k, v) (by simp),
      ih (fun e he => hkeys e (by simp [he])) fun e he => hfields e (by simp [he])]
    simp only [Value.holds_object_cons_iff, or_and_right, exists_or, or_assoc]

end Json

/-! ## Values that can be written -/

/-- A list can be written if its items can. -/
theorem Value.checkWritable_list_iff {items : List Value} :
    (Value.list items).checkWritable = .ok () ↔ ∀ v ∈ items, v.checkWritable = .ok () := by
  induction items with
  | nil => simp [Value.checkWritable, Value.checkItems]
  | cons v items ih =>
    rw [Value.checkWritable] at ih ⊢
    rw [Value.checkItems, bind_eq_ok_iff, ih, List.forall_mem_cons]

/-- An object can be written if its keys and values can. -/
theorem Value.checkWritable_object_iff {fields : Fields} :
    (Value.object fields).checkWritable = .ok () ↔
      ∀ e ∈ fields, e.1.checkWritable = .ok () ∧ e.2.checkWritable = .ok () := by
  induction fields with
  | nil => simp [Value.checkWritable, Value.checkFields]
  | cons e fields ih =>
    rw [Value.checkWritable] at ih ⊢
    rw [Value.checkFields, bind_eq_ok_iff, bind_eq_ok_iff, ih, List.forall_mem_cons, and_assoc]

namespace Json

/-- **What starts with an angle bracket and is written as it is occurs in the text of a value
exactly if it occurs in a text that the value holds.** -/
theorem showsIn (hp : ∀ c ∈ '<' :: p, IsPlain c) (layout : Layout) {v : Value}
    (hv : v.checkWritable = .ok ()) : ShowsIn p layout v := by
  induction v using Value.inductionOn with
  | scalar a =>
    intro level rest
    rw [valueChars]
    by_cases htext : ∃ s, a = .text s
    · obtain ⟨s, rfl⟩ := htext
      rw [scalarChars, infix_textChars_iff layout.ascii hp]
      simp [Value.holds_scalar_iff]
    · have hmoment : ∀ t, a ≠ .moment t := by
        rintro t rfl
        cases hv
      rw [infix_append_of_not_mem (not_mem_scalarChars (fun s hs => htext ⟨s, hs⟩) hmoment),
        or_iff_right]
      rintro ⟨s, h, -⟩
      exact htext ⟨s, Value.holds_scalar_iff.mp h⟩
  | list items ih =>
    have hitems := fun w hw => ih w hw (Value.checkWritable_list_iff.mp hv w hw)
    intro level rest
    cases items with
    | nil =>
      rw [valueChars, infix_append_of_not_mem (by decide), or_iff_right]
      simp
    | cons w items =>
      rw [valueChars, List.cons_append]
      simp only [List.append_assoc]
      rw [infix_cons_of_ne (by decide), infix_append_of_not_mem not_mem_lineBreak,
        hitems w (by simp), infix_itemChars_iff fun u hu => hitems u (by simp [hu]),
        infix_append_of_not_mem not_mem_lineBreak, infix_append_of_not_mem (by decide)]
      simp only [Value.holds_list_cons_iff, or_and_right, exists_or, or_assoc]
  | object fields ih =>
    have hkeys := fun e he => (Value.checkWritable_object_iff.mp hv e he).1
    have hfields := fun e he => ih e he (Value.checkWritable_object_iff.mp hv e he).2
    intro level rest
    cases fields with
    | nil =>
      rw [valueChars, infix_append_of_not_mem (by decide), or_iff_right]
      simp
    | cons e fields =>
      obtain ⟨k, w⟩ := e
      rw [valueChars, List.cons_append]
      simp only [List.append_assoc]
      rw [infix_cons_of_ne (by decide), infix_append_of_not_mem not_mem_lineBreak,
        infix_keyChars_iff layout.ascii hp (hkeys (k, w) (by simp)),
        infix_append_of_not_mem not_mem_keyMark, hfields (k, w) (by simp),
        infix_fieldChars_iff hp (fun e he => hkeys e (by simp [he]))
          fun e he => hfields e (by simp [he]),
        infix_append_of_not_mem not_mem_lineBreak, infix_append_of_not_mem (by decide)]
      simp only [Value.holds_object_cons_iff, or_and_right, exists_or, or_assoc]

end Json

end StructuredData
