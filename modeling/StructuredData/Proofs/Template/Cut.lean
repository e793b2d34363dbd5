import StructuredData.Proofs.Template.Placeholder

/-!
# The cut of a text at its placeholders

A percent sign may close a placeholder or open one, so a text can be taken apart into gaps and
placeholders in several ways.  Only one of them leaves no placeholder that begins inside a gap, and
this is how the text is cut (`Template.eq_ofText_iff_isCut`).
-/

namespace StructuredData.Template

/-! ## Gaps -/

/-- Whether the character at a place stands in a gap, of parts with a text behind them. -/
def InGapOf (tail : List Char) : List (List Char × List Char) → Nat → Prop
  | [], n => n < tail.length
  | (gap, token) :: rest, n =>
    n < gap.length ∨
      gap.length + token.length + 2 ≤ n ∧ InGapOf tail rest (n - (gap.length + token.length + 2))

/-- Whether the character at a place of the text that is cut stands in a gap. -/
def InGap (t : Template) (n : Nat) : Prop := InGapOf t.tail t.parts n

/-- Whether a template is a text cut at its placeholders: gaps and placeholders put together are
the text, the tokens can stand between percent signs, and no placeholder in the text begins inside a
gap. -/
structure IsCut (t : Template) (cs : List Char) : Prop where
  toChars_eq : t.toChars = cs
  isToken : ∀ token ∈ t.tokens, IsToken token
  not_inGap : ∀ before token behind, IsToken token →
    cs = before ++ (placeholder token).toList ++ behind → ¬ t.InGap before.length

/-- Whether a text begins with a placeholder. -/
def BeginsWithPlaceholder (cs : List Char) : Prop :=
  ∃ token rest, IsToken token ∧ cs = (placeholder token).toList ++ rest

theorem toList_placeholder (token : String) :
    (placeholder token).toList = '%' :: (token.toList ++ ['%']) := by
  simp [placeholder]

/-- The template with more text in front of it. -/
def prepend (cs : List Char) (t : Template) : Template :=
  match t.parts with
  | [] => ⟨[], cs ++ t.tail⟩
  | (gap, token) :: rest => ⟨(cs ++ gap, token) :: rest, t.tail⟩

theorem prepend_prepend (cs ds : List Char) (t : Template) :
    (t.prepend ds).prepend cs = t.prepend (cs ++ ds) := by
  obtain ⟨_ | ⟨⟨gap, token⟩, rest⟩, tail⟩ := t <;> simp [prepend]

/-- What is put before a text stands before its characters. -/
theorem toChars_prepend (cs : List Char) (t : Template) :
    (t.prepend cs).toChars = cs ++ t.toChars := by
  obtain ⟨_ | ⟨⟨gap, token⟩, rest⟩, tail⟩ := t <;> simp [prepend, toChars]

/-- Characters that are put before a text add no tokens. -/
theorem tokens_prepend (cs : List Char) (t : Template) : (t.prepend cs).tokens = t.tokens := by
  obtain ⟨_ | ⟨⟨gap, token⟩, rest⟩, tail⟩ := t <;> simp [prepend, tokens]

theorem inGap_prepend_zero (c : Char) (t : Template) : (t.prepend [c]).InGap 0 := by
  obtain ⟨_ | ⟨⟨gap, token⟩, rest⟩, tail⟩ := t <;> simp [prepend, InGap, InGapOf]

theorem inGap_prepend_succ (c : Char) (t : Template) (n : Nat) :
    (t.prepend [c]).InGap (n + 1) ↔ t.InGap n := by
  obtain ⟨_ | ⟨⟨gap, token⟩, rest⟩, tail⟩ := t
  · simp [prepend, InGap, InGapOf]
  · have hshift : n + 1 - (gap.length + 1 + token.length + 2) =
        n - (gap.length + token.length + 2) := by
      omega
    simp only [prepend, InGap, InGapOf, List.singleton_append, List.length_cons, hshift]
    refine or_congr (by omega) (and_congr_left fun _ => by omega)

/-- Behind a placeholder at the front the gaps are those of the rest. -/
theorem inGap_placeholder (token : List Char) (t : Template) (n : Nat) :
    (⟨([], token) :: t.parts, t.tail⟩ : Template).InGap n ↔
      token.length + 2 ≤ n ∧ t.InGap (n - (token.length + 2)) := by
  simp [InGap, InGapOf]

/-! ## How the cut is made -/

/-- What has been read of a gap stands in front of the cut of the rest. -/
theorem scanFrom_eq_prepend (gap : List Char) (token : Option (List Char)) (cs : List Char) :
    scanFrom gap token cs = (scanFrom [] token cs).prepend gap.reverse := by
  induction cs generalizing gap token with
  | nil => cases token <;> simp [scanFrom, prepend]
  | cons c rest ih =>
    cases token with
    | none =>
      rw [scanFrom, scanFrom]
      split
      · exact ih gap (some [])
      · rw [ih (c :: gap), ih [c], prepend_prepend, List.reverse_cons, List.reverse_singleton]
    | some run =>
      rw [scanFrom, scanFrom]
      split
      · split
        · rw [ih ('%' :: gap), ih ['%'], prepend_prepend, List.reverse_cons,
            List.reverse_singleton]
        · simp [prepend]
      · split
        · rw [ih (c :: run ++ '%' :: gap), ih (c :: run ++ ['%']), prepend_prepend]
          simp
        · exact ih gap (some (c :: run))

/-- A percent sign with a run behind it that is not closed stands for itself. -/
theorem scanFrom_of_not_closed {run : List Char}
    (hrun : ∀ c ∈ run, c ≠ '%' ∧ isBlank c = false) {cs : List Char}
    (h : ¬ BeginsWithPlaceholder ('%' :: run.reverse ++ cs)) :
    scanFrom [] (some run) cs = (scanFrom [] none cs).prepend ('%' :: run.reverse) := by
  induction cs generalizing run with
  | nil => simp [scanFrom, prepend]
  | cons c rest ih =>
    by_cases hpercent : c = '%'
    · subst hpercent
      by_cases hempty : run = []
      · subst hempty
        exact scanFrom_eq_prepend ['%'] (some []) rest
      · -- the run would be closed here
        refine absurd ⟨String.ofList run.reverse, rest, ⟨?_, ?_⟩, ?_⟩ h
        · simpa using hempty
        · simpa using hrun
        · simp [toList_placeholder]
    · have hplain : scanFrom [] none (c :: rest) = (scanFrom [] none rest).prepend [c] := by
        rw [scanFrom, if_neg hpercent, scanFrom_eq_prepend [c], List.reverse_singleton]
      rw [hplain, prepend_prepend, scanFrom, if_neg hpercent]
      by_cases hblank : isBlank c = true
      · rw [if_pos hblank, scanFrom_eq_prepend]
        simp
      · have hmore : ∀ d ∈ c :: run, d ≠ '%' ∧ isBlank d = false := by
          simpa [hpercent, hblank] using hrun
        rw [if_neg hblank, ih hmore (by simpa using h), List.reverse_cons, List.cons_append]

/-- **A character with which no placeholder begins** goes to the gap in front. -/
theorem scanFrom_cons {c : Char} {rest : List Char} (h : ¬ BeginsWithPlaceholder (c :: rest)) :
    scanFrom [] none (c :: rest) = (scanFrom [] none rest).prepend [c] := by
  rw [scanFrom]
  split
  · rename_i hpercent
    subst hpercent
    exact scanFrom_of_not_closed (by simp) h
  · exact scanFrom_eq_prepend [c] none rest

/-- **A placeholder at the front** is the first one of the cut, with no gap before it. -/
theorem scanFrom_placeholder {token : String} (h : IsToken token) (rest : List Char) :
    scanFrom [] none ((placeholder token).toList ++ rest) =
      ⟨([], token.toList) :: (scanFrom [] none rest).parts, (scanFrom [] none rest).tail⟩ := by
  have hscan := scanFrom_token [] [] token.toList rest h.2 (by simpa using h.1)
  rw [toList_placeholder, List.cons_append, scanFrom, if_pos rfl, List.append_assoc,
    List.singleton_append, hscan]
  rfl

/-- No placeholder begins inside a gap of the cut. -/
theorem not_begins_of_inGap (cs : List Char) {n : Nat} (h : (scanFrom [] none cs).InGap n) :
    ¬ BeginsWithPlaceholder (cs.drop n) := by
  -- on the length of the text, which is read by characters and by whole placeholders
  induction hlen : cs.length using Nat.strong_induction_on generalizing cs n with
  | _ size ih =>
  subst hlen
  by_cases hbegins : BeginsWithPlaceholder cs
  · obtain ⟨token, rest, htoken, rfl⟩ := hbegins
    rw [scanFrom_placeholder htoken, inGap_placeholder] at h
    have hlength : (placeholder token).toList.length = token.toList.length + 2 := by
      simp [toList_placeholder]
    rw [List.drop_append, List.drop_eq_nil_of_le (by omega), List.nil_append, hlength]
    refine ih rest.length ?_ rest h.2 rfl
    rw [List.length_append]
    omega
  · cases cs with
    | nil => simpa using hbegins
    | cons c rest =>
      rw [scanFrom_cons hbegins] at h
      cases n with
      | zero => exact hbegins
      | succ n =>
        rw [inGap_prepend_succ] at h
        exact ih rest.length (by simp) rest h rfl

/-- A text is cut in this way. -/
theorem isCut_ofText (s : String) : (ofText s).IsCut s.toList where
  toChars_eq := toChars_ofText s
  isToken _ htoken := isToken_of_mem_tokens htoken
  not_inGap := by
    rintro before token behind htoken hcut hgap
    refine not_begins_of_inGap s.toList hgap ⟨token, behind, htoken, ?_⟩
    rw [hcut, List.append_assoc, List.drop_left]

/-! ## The only cut -/

variable {t : Template} {cs : List Char}

/-- What is cut with a character in front begins with no placeholder, and the rest is cut without
the character. -/
theorem IsCut.of_prepend {c : Char} (h : (t.prepend [c]).IsCut cs) :
    ∃ rest, cs = c :: rest ∧ ¬ BeginsWithPlaceholder cs ∧ t.IsCut rest := by
  have hchars := h.toChars_eq
  rw [toChars_prepend, List.singleton_append] at hchars
  refine ⟨t.toChars, hchars.symm, ?_, rfl, tokens_prepend [c] t ▸ h.isToken, ?_⟩
  · rintro ⟨token, rest, htoken, hcs⟩
    exact h.not_inGap [] token rest htoken hcs (inGap_prepend_zero c t)
  · intro before token behind htoken hrest hgap
    refine h.not_inGap (c :: before) token behind htoken ?_ ((inGap_prepend_succ c t _).mpr hgap)
    rw [← hchars, hrest]
    rfl

/-- What is cut with a placeholder in front begins with it, and the rest is cut behind it. -/
theorem IsCut.of_placeholder {token : List Char}
    (h : (⟨([], token) :: t.parts, t.tail⟩ : Template).IsCut cs) :
    ∃ rest, cs = (placeholder (String.ofList token)).toList ++ rest ∧
      IsToken (String.ofList token) ∧ t.IsCut rest := by
  have hchars := h.toChars_eq
  rw [toChars_cons] at hchars
  refine ⟨t.toChars, by simp [← hchars, toList_placeholder], h.isToken _ (by simp [tokens]), rfl,
    fun token' h' => h.isToken token' (List.mem_cons_of_mem _ h'), ?_⟩
  intro before token' behind htoken hrest hgap
  refine h.not_inGap ('%' :: token ++ '%' :: before) token' behind htoken ?_ ?_
  · simp [← hchars, hrest]
  · have hlength : ('%' :: token ++ '%' :: before).length = before.length + (token.length + 2) := by
      simp only [List.length_append, List.length_cons]
      omega
    rw [inGap_placeholder, hlength, Nat.add_sub_cancel]
    exact ⟨by omega, hgap⟩

/-- A text is cut in no other way. -/
theorem IsCut.eq_scanFrom (h : t.IsCut cs) : t = scanFrom [] none cs := by
  -- on the length of the text, by what stands in front of the template
  induction hlen : cs.length using Nat.strong_induction_on generalizing cs t with
  | _ size ih =>
  subst hlen
  have hfront : ∀ (c : Char) (t' : Template), t = t'.prepend [c] → t = scanFrom [] none cs := by
    rintro c t' rfl
    obtain ⟨rest, rfl, hbegins, hrest⟩ := h.of_prepend
    rw [scanFrom_cons hbegins, ← ih rest.length (by simp) hrest rfl]
  obtain ⟨parts, tail⟩ := t
  match parts, tail with
  | [], [] =>
    obtain rfl := h.toChars_eq
    rfl
  | [], c :: tail => exact hfront c ⟨[], tail⟩ rfl
  | (c :: gap, token) :: parts, tail => exact hfront c ⟨(gap, token) :: parts, tail⟩ rfl
  | ([], token) :: parts, tail =>
    obtain ⟨rest, rfl, htoken, hrest⟩ := IsCut.of_placeholder (t := ⟨parts, tail⟩) h
    have hshorter : rest.length <
        ((placeholder (String.ofList token)).toList ++ rest).length := by
      rw [List.length_append, toList_placeholder, List.length_cons]
      omega
    rw [scanFrom_placeholder htoken, ← ih rest.length hshorter hrest rfl, String.toList_ofList]

/-! ## Texts that are one placeholder -/

/-- A text is one token if there is nothing around it. -/
theorem whole?_eq_some_iff {token : String} :
    t.whole? = some token ↔ t = ⟨[([], token.toList)], []⟩ := by
  constructor
  · intro h
    unfold whole? at h
    split at h
    · rename_i run hparts htail
      obtain rfl := Option.some.inj h
      obtain ⟨parts, tail⟩ := t
      cases hparts
      cases htail
      rw [String.toList_ofList]
    · cases h
  · rintro rfl
    simp [whole?]

/-- A text is one placeholder just if it is cut into this placeholder and two empty gaps. -/
theorem eq_placeholder_iff {s token : String} :
    IsToken token ∧ s = placeholder token ↔ ofText s = ⟨[([], token.toList)], []⟩ := by
  constructor
  · rintro ⟨htoken, rfl⟩
    exact ofText_placeholder htoken
  · intro h
    have hwhole := whole?_eq_some_iff.mpr h
    have htokens : (ofText s).tokens = [token] := by simp [h, tokens]
    exact ⟨isToken_of_mem_tokens (s := s) (by simp [htokens]), eq_placeholder_of_whole? hwhole⟩

/-- Where each placeholder is filled with itself, gaps and placeholders are put together. -/
theorem fill_with_placeholders (t : Template) :
    t.fill (fun token => Except.ok (ε := Fault) (placeholder token)) =
      .ok (String.ofList t.toChars) := by
  obtain ⟨parts, tail⟩ := t
  have hparts : fillFrom (fun token => Except.ok (ε := Fault) (placeholder token)) parts =
      .ok (String.ofList (parts.flatMap fun p => p.1 ++ '%' :: p.2 ++ ['%'])) := by
    induction parts with
    | nil => rfl
    | cons p rest ih =>
      rw [fillFrom, ih]
      refine congrArg Except.ok (String.toList_inj.mp ?_)
      simp [toList_placeholder]
  rw [fill, hparts]
  refine congrArg Except.ok (String.toList_inj.mp ?_)
  simp [toChars]

/-- **The cut of a text is the only one** with tokens that can stand between percent signs and with
gaps in which no placeholder begins.  Its placeholders, filled with themselves, give the text back,
and the text is one placeholder just if its cut is this placeholder with nothing before or behind
it. -/
theorem eq_ofText_iff_isCut (s : String) :
    (∀ t : Template, t = ofText s ↔ t.IsCut s.toList) ∧
      (ofText s).fill (fun token => Except.ok (ε := Fault) (placeholder token)) = .ok s ∧
      ∀ token, (IsToken token ∧ s = placeholder token ↔
          ofText s = ⟨[([], token.toList)], []⟩) ∧
        ((ofText s).whole? = some token ↔ ofText s = ⟨[([], token.toList)], []⟩) := by
  refine ⟨fun t => ⟨?_, fun h => h.eq_scanFrom⟩, ?_, fun token =>
    ⟨eq_placeholder_iff, whole?_eq_some_iff⟩⟩
  · rintro rfl
    exact isCut_ofText s
  · rw [fill_with_placeholders, toChars_ofText, String.ofList_toList]

/-- The percent sign that closes a placeholder opens no other one. -/
example : ofText "%% 5%a%b%c%" =
    ⟨[("%% 5".toList, "a".toList), ("b".toList, "c".toList)], []⟩ := by
  decide

end StructuredData.Template
