import Mathlib.Data.List.Chain
import StructuredData.Proofs.Text.Cut
import StructuredData.Text.Clean

/-!
# Clean text

A text is clean if it has no tags, and its blanks are single spaces between other characters.
Cleaning makes a text clean, and what it leaves as it is are just the clean texts
(`Text.clean_normalizes`).  Texts of tags and blanks only come to nothing
(`Text.clean_eq_empty_iff`).
-/

namespace StructuredData.Text

/-! ## Tags -/

/-- Whether there are no tags: no `<` is followed anywhere by a `>`. -/
def IsUntagged (cs : List Char) : Prop := cs.Pairwise fun c d => c = '<' → d ≠ '>'

theorem isUntagged_cons_of_ne {c : Char} {cs : List Char} (hc : c ≠ '<') :
    IsUntagged (c :: cs) ↔ IsUntagged cs := by
  simp [IsUntagged, hc]

theorem isUntagged_of_not_mem {cs : List Char} (h : '>' ∉ cs) : IsUntagged cs :=
  List.pairwise_of_forall_mem_list fun _ _ _ hd _ heq => h (heq ▸ hd)

/-- What has been read since a `<` that may open a tag is kept, if no tag is closed after it. -/
theorem dropTagsFrom_of_not_mem {cs : List Char} (h : '>' ∉ cs) (read : List Char) :
    dropTagsFrom (some read) cs = '<' :: read.reverse ++ cs := by
  induction cs generalizing read with
  | nil => simp [dropTagsFrom]
  | cons c rest ih =>
    have hc : c ≠ '>' := fun hc => h (by simp [hc])
    simp [dropTagsFrom, hc, ih fun hrest => h (by simp [hrest])]

/-- No tag is left; what has been read since a `<` closes none. -/
theorem isUntagged_dropTagsFrom (tag : Option (List Char)) (cs : List Char)
    (htag : ∀ read, tag = some read → '>' ∉ read) : IsUntagged (dropTagsFrom tag cs) := by
  induction cs generalizing tag with
  | nil =>
    cases tag with
    | none => exact .nil
    | some read => exact isUntagged_of_not_mem (by simpa [dropTagsFrom] using htag read rfl)
  | cons c rest ih =>
    have hnone : IsUntagged (dropTagsFrom none rest) := ih none (by simp)
    cases tag with
    | none =>
      rw [dropTagsFrom]
      split
      · exact ih (some []) (by simp)
      · rename_i hc
        exact (isUntagged_cons_of_ne hc).mpr hnone
    | some read =>
      rw [dropTagsFrom]
      split
      · exact (isUntagged_cons_of_ne (by decide)).mpr hnone
      · rename_i hc
        refine ih (some (c :: read)) ?_
        rintro _ ⟨⟩ hmem
        rcases List.mem_cons.mp hmem with heq | hmem
        · exact hc heq.symm
        · exact htag read rfl hmem

/-- Where there are no tags none is dropped. -/
theorem dropTagsFrom_of_isUntagged {cs : List Char} (h : IsUntagged cs) :
    dropTagsFrom none cs = cs := by
  induction cs with
  | nil => rfl
  | cons c rest ih =>
    obtain ⟨hc, hrest⟩ := List.pairwise_cons.mp h
    rw [dropTagsFrom]
    split
    · rename_i hopen
      rw [dropTagsFrom_of_not_mem fun hmem => hc _ hmem hopen rfl, hopen]
      rfl
    · rw [ih hrest]

/-! ## Words -/

/-- A run of characters that are not blank. -/
structure IsWord (w : List Char) : Prop where
  ne_nil : w ≠ []
  not_blank : ∀ c ∈ w, isBlank c = false

theorem isWord_of_mem_wordsFrom {word cs w : List Char} (hword : ∀ c ∈ word, isBlank c = false)
    (hw : w ∈ wordsFrom word cs) : IsWord w := by
  induction cs generalizing word with
  | nil =>
    rw [wordsFrom] at hw
    split at hw
    · cases hw
    · rename_i hne
      rw [List.mem_singleton.mp hw]
      exact ⟨by simpa using hne, fun c hc => hword c (List.mem_reverse.mp hc)⟩
  | cons c rest ih =>
    rw [wordsFrom] at hw
    split at hw
    · split at hw
      · exact ih (by simp) hw
      · rename_i hne
        rcases List.mem_cons.mp hw with rfl | hw
        · exact ⟨by simpa using hne, fun c hc => hword c (List.mem_reverse.mp hc)⟩
        · exact ih (by simp) hw
    · rename_i hc
      refine ih (fun d hd => ?_) hw
      rcases List.mem_cons.mp hd with rfl | hd
      · simpa using hc
      · exact hword d hd

theorem isWord_of_mem_cleanWords {s : String} {w : List Char} (h : w ∈ cleanWords s) : IsWord w :=
  isWord_of_mem_wordsFrom (by simp) h

/-- The words of a text put together are the text without its blanks. -/
theorem flatten_wordsFrom {word : List Char} (hword : ∀ c ∈ word, isBlank c = false)
    (cs : List Char) :
    (wordsFrom word cs).flatten = word.reverse ++ cs.filter (!isBlank ·) := by
  induction cs generalizing word with
  | nil => cases word <;> simp [wordsFrom]
  | cons c rest ih =>
    by_cases hc : isBlank c = true
    · cases word <;> simp [wordsFrom, hc, @ih [] (by simp)]
    · have hword' : ∀ d ∈ c :: word, isBlank d = false := by simpa [hc] using hword
      simp [wordsFrom, hc, ih hword']

/-- Characters that are not blank go on the word that has been begun. -/
theorem wordsFrom_append {w : List Char} (hw : ∀ c ∈ w, isBlank c = false)
    (word rest : List Char) : wordsFrom word (w ++ rest) = wordsFrom (w.reverse ++ word) rest := by
  induction w generalizing word with
  | nil => rfl
  | cons c w ih =>
    have hc : ¬ isBlank c = true := by simp [hw c (by simp)]
    rw [List.cons_append, wordsFrom, if_neg hc, ih (fun d hd => hw d (by simp [hd]))]
    simp

/-- Joined words come apart into the same words. -/
theorem wordsFrom_intercalate {ws : List (List Char)} (h : ∀ w ∈ ws, IsWord w) :
    wordsFrom [] ([' '].intercalate ws) = ws := by
  induction ws with
  | nil => rfl
  | cons w ws ih =>
    have hw := h w (by simp)
    have hread : w.reverse.isEmpty = false := by simpa using hw.ne_nil
    cases ws with
    | nil =>
      have hlast := wordsFrom_append hw.not_blank [] []
      rw [List.append_nil, List.append_nil, wordsFrom, hread] at hlast
      rw [List.intercalate_singleton, hlast]
      simp
    | cons w' ws =>
      have hspace : isBlank ' ' = true := by decide
      have ih := ih fun w hw => h w (by simp [hw])
      rw [List.intercalate_cons_cons, List.append_assoc, wordsFrom_append hw.not_blank,
        List.append_nil, List.singleton_append, wordsFrom, if_pos hspace, hread,
        if_neg (by decide), ih, List.reverse_reverse]

/-- Joined words put together without spaces again. -/
theorem filter_intercalate {ws : List (List Char)} (h : ∀ w ∈ ws, IsWord w) :
    ([' '].intercalate ws).filter (!isBlank ·) = ws.flatten := by
  have hword : ∀ w ∈ ws, w.filter (!isBlank ·) = w := fun w hw =>
    List.filter_eq_self.mpr fun c hc => by simp [(h w hw).not_blank c hc]
  induction ws with
  | nil => rfl
  | cons w ws ih =>
    have ih := ih (fun w hw => h w (by simp [hw])) fun w hw => hword w (by simp [hw])
    cases ws with
    | nil => simp [List.intercalate_singleton, hword w]
    | cons w' ws =>
      rw [List.intercalate_cons_cons, List.filter_append, List.filter_append, ih, hword w (by simp)]
      simp [isBlank]

/-- Blanks play no part in tags. -/
theorem isUntagged_filter_iff {cs : List Char} :
    IsUntagged (cs.filter (!isBlank ·)) ↔ IsUntagged cs := by
  rw [IsUntagged, IsUntagged, List.pairwise_filter]
  refine List.Pairwise.iff fun c d => ⟨fun h hc hd => ?_, fun h _ _ => h⟩
  subst hc hd
  exact h (by decide) (by decide) rfl rfl

/-! ## Spaces -/

/-- Whether all blanks are single spaces between other characters. -/
structure IsSpaced (cs : List Char) : Prop where
  eq_space : ∀ c ∈ cs, isBlank c = true → c = ' '
  head : ∀ c ∈ cs.head?, isBlank c = false
  last : ∀ c ∈ cs.getLast?, isBlank c = false
  single : cs.IsChain fun c d => isBlank c = true → isBlank d = false

/-- Joined words are spaced. -/
theorem isSpaced_intercalate {ws : List (List Char)} (h : ∀ w ∈ ws, IsWord w) :
    IsSpaced ([' '].intercalate ws) where
  eq_space c hc hblank := by
    rcases mem_intercalate hc with rfl | ⟨w, hw, hc⟩
    · rfl
    · rw [(h w hw).not_blank c hc] at hblank
      cases hblank
  head c hc := by
    cases ws with
    | nil => cases hc
    | cons w ws =>
      rw [head?_intercalate (h w (by simp)).ne_nil] at hc
      exact (h w (by simp)).not_blank c (List.mem_of_mem_head? hc)
  last c hc := by
    rw [getLast?_intercalate fun w hw => (h w hw).ne_nil] at hc
    obtain ⟨w, hw, hc⟩ := Option.bind_eq_some_iff.mp hc
    exact (h w (List.mem_of_mem_getLast? hw)).not_blank c (List.mem_of_mem_getLast? hc)
  single := by
    have hword : ∀ w ∈ ws, w.IsChain fun c d => isBlank c = true → isBlank d = false :=
      fun w hw => List.Pairwise.isChain <| List.pairwise_of_forall_mem_list fun _ _ d hd _ =>
        (h w hw).not_blank d hd
    induction ws with
    | nil => exact .nil
    | cons w ws ih =>
      have ih := ih (fun w hw => h w (by simp [hw])) fun w hw => hword w (by simp [hw])
      cases ws with
      | nil => simpa [List.intercalate_singleton] using hword w (by simp)
      | cons w' ws =>
        rw [List.intercalate_cons_cons, List.append_assoc, List.singleton_append,
          List.isChain_append]
        refine ⟨hword w (by simp), ?_, fun c hc d _ hblank => ?_⟩
        · -- behind the space there is the next word
          refine List.isChain_cons.mpr ⟨fun d hd _ => ?_, ih⟩
          rw [head?_intercalate (h w' (by simp)).ne_nil] at hd
          exact (h w' (by simp)).not_blank d (List.mem_of_mem_head? hd)
        · rw [(h w (by simp)).not_blank c (List.mem_of_mem_getLast? hc)] at hblank
          cases hblank

/-- Behind a blank in a spaced text something follows, and this is spaced. -/
theorem IsSpaced.of_append_cons {a rest : List Char} {c : Char} (h : IsSpaced (a ++ c :: rest))
    (hc : isBlank c = true) : rest ≠ [] ∧ IsSpaced rest := by
  obtain ⟨hnext, hsingle⟩ := List.isChain_cons.mp (List.isChain_append.mp h.single).2.1
  have hne : rest ≠ [] := by
    rintro rfl
    have hlast := h.last c (by simp)
    rw [hc] at hlast
    cases hlast
  have hend : (a ++ c :: rest).getLast? = rest.getLast? := by
    rw [List.append_cons, List.getLast?_append_of_ne_nil _ hne]
  exact ⟨hne, fun d hd => h.eq_space d (by simp [hd]), fun d hd => hnext d hd hc,
    by rw [← hend]; exact h.last, hsingle⟩

/-- A spaced text is its words joined; of the first one `word` has been read. -/
theorem intercalate_wordsFrom {word cs : List Char} (h : IsSpaced (word.reverse ++ cs)) :
    [' '].intercalate (wordsFrom word cs) = word.reverse ++ cs := by
  induction cs generalizing word with
  | nil => cases word <;> simp [wordsFrom, List.intercalate_singleton]
  | cons c rest ih =>
    by_cases hc : isBlank c = true
    · obtain ⟨hne, hrest⟩ := h.of_append_cons hc
      have hword : word.isEmpty = false := by
        cases word with
        | nil =>
          have hhead := h.head c (by simp)
          rw [hc] at hhead
          cases hhead
        | cons => rfl
      have hspace : c = ' ' := h.eq_space c (by simp) hc
      have hjoined : [' '].intercalate (wordsFrom [] rest) = rest := @ih [] hrest
      rw [wordsFrom, if_pos hc, hword, if_neg (by decide)]
      -- what follows has a word, so that it is joined by a space
      rcases hwords : wordsFrom [] rest with _ | ⟨w, ws⟩
      · rw [hwords] at hjoined
        exact absurd hjoined.symm hne
      · rw [List.intercalate_cons_cons, ← hwords, hjoined, hspace, ← List.append_cons]
    · have hmore : (c :: word).reverse ++ rest = word.reverse ++ c :: rest := by simp
      rw [wordsFrom, if_neg hc, ih (by rwa [hmore]), hmore]

/-! ## Clean texts -/

/-- Whether a text is clean: it has no tags, and all its blanks are single spaces between other
characters. -/
structure IsClean (s : String) : Prop where
  untagged : IsUntagged s.toList
  spaced : IsSpaced s.toList

theorem toList_clean (s : String) : (clean s).toList = [' '].intercalate (cleanWords s) := by
  rw [clean, joinWords, String.toList_ofList]

theorem isClean_clean (s : String) : IsClean (clean s) where
  untagged := by
    have hwords : (cleanWords s).flatten = (dropTagsFrom none s.toList).filter (!isBlank ·) :=
      flatten_wordsFrom (by simp) _
    rw [toList_clean, ← isUntagged_filter_iff,
      filter_intercalate fun w hw => isWord_of_mem_cleanWords hw, hwords, isUntagged_filter_iff]
    exact isUntagged_dropTagsFrom none s.toList (by simp)
  spaced := by
    rw [toList_clean]
    exact isSpaced_intercalate fun w hw => isWord_of_mem_cleanWords hw

theorem IsClean.clean_eq {s : String} (h : IsClean s) : clean s = s := by
  rw [← String.toList_inj, toList_clean, cleanWords, dropTagsFrom_of_isUntagged h.untagged]
  have hspaced : IsSpaced (([] : List Char).reverse ++ s.toList) := h.spaced
  exact intercalate_wordsFrom hspaced

/-- **Clean text is a normal form.**  Whatever a text is, what it is cleaned to has no tags and no
blanks but single spaces between other characters, and is left as it is when it is cleaned again;
and the texts that are left as they are are just those that are clean in this sense. -/
theorem clean_normalizes (s : String) :
    IsClean (clean s) ∧ clean (clean s) = clean s ∧ (clean s = s ↔ IsClean s) :=
  ⟨isClean_clean s, (isClean_clean s).clean_eq, fun h => h ▸ isClean_clean s, IsClean.clean_eq⟩

/-- A tag goes on to the next `>`, over any other `<`; a `<` without one stays. -/
example : clean " 1 < 2 <i>or\t3 </i > 4 <\n5" = "1 or 3 4 < 5" := by decide +kernel

/-! ## Texts that come to nothing -/

/-- Whether a text is made of tags and blanks only. -/
inductive IsMarkup : List Char → Prop
  | nil : IsMarkup []
  | blank {c : Char} {cs : List Char} (hc : isBlank c = true) (h : IsMarkup cs) : IsMarkup (c :: cs)
  | tag {name cs : List Char} (hname : '>' ∉ name) (h : IsMarkup cs) :
      IsMarkup ('<' :: (name ++ '>' :: cs))

/-- A tag is replaced by a blank. -/
theorem dropTagsFrom_append {name : List Char} (h : '>' ∉ name) (read cs : List Char) :
    dropTagsFrom (some read) (name ++ '>' :: cs) = ' ' :: dropTagsFrom none cs := by
  induction name generalizing read with
  | nil => simp [dropTagsFrom]
  | cons c name ih =>
    have hc : c ≠ '>' := fun hc => h (by simp [hc])
    simp [dropTagsFrom, hc, ih fun hmem => h (by simp [hmem])]

/-- Tags and blanks are what is left blank. -/
theorem isBlank_dropTagsFrom_iff {cs : List Char} :
    (∀ c ∈ dropTagsFrom none cs, isBlank c = true) ↔ IsMarkup cs := by
  constructor
  · intro h
    induction hlen : cs.length using Nat.strong_induction_on generalizing cs with
    | _ n ih =>
    subst hlen
    rcases cs with _ | ⟨c, rest⟩
    · exact .nil
    · by_cases hopen : c = '<'
      · subst hopen
        rw [dropTagsFrom, if_pos rfl] at h
        by_cases hclose : '>' ∈ rest
        · obtain ⟨name, cs, rfl, hname⟩ := List.eq_append_cons_of_mem hclose
          rw [dropTagsFrom_append hname] at h
          refine .tag hname (ih cs.length ?_ (fun c hc => h c (by simp [hc])) rfl)
          simp only [List.length_cons, List.length_append]
          omega
        · rw [dropTagsFrom_of_not_mem hclose] at h
          exact absurd (h '<' (by simp)) (by decide)
      · rw [dropTagsFrom, if_neg hopen] at h
        exact .blank (h c (by simp)) (ih rest.length (by simp) (fun d hd => h d (by simp [hd])) rfl)
  · intro h
    induction h with
    | nil => simp [dropTagsFrom]
    | @blank c cs hc _ ih =>
      have hopen : c ≠ '<' := by
        rintro rfl
        exact absurd hc (by decide)
      simpa [dropTagsFrom, hopen, hc] using ih
    | tag hname _ ih =>
      rw [dropTagsFrom, if_pos rfl, dropTagsFrom_append hname]
      rintro c (_ | ⟨_, hc⟩)
      · decide
      · exact ih c hc

/-- A text without words is blank. -/
theorem wordsFrom_eq_nil_iff {cs : List Char} :
    wordsFrom [] cs = [] ↔ ∀ c ∈ cs, isBlank c = true := by
  have hflat : (wordsFrom [] cs).flatten = cs.filter (!isBlank ·) := flatten_wordsFrom (by simp) cs
  have hblank : cs.filter (!isBlank ·) = [] ↔ ∀ c ∈ cs, isBlank c = true := by
    simp [List.filter_eq_nil_iff]
  rw [← hblank, ← hflat]
  constructor
  · intro h
    rw [h, List.flatten_nil]
  · intro h
    refine List.eq_nil_iff_forall_not_mem.mpr fun w hw => ?_
    exact (isWord_of_mem_wordsFrom (by simp) hw).ne_nil (List.flatten_eq_nil_iff.mp h w hw)

/-- **What is cleaned to nothing** is made of tags and blanks only. -/
theorem clean_eq_empty_iff {s : String} : clean s = "" ↔ IsMarkup s.toList := by
  rw [← isBlank_dropTagsFrom_iff, ← wordsFrom_eq_nil_iff, ← String.toList_inj, toList_clean]
  show _ ↔ cleanWords s = []
  constructor
  · intro h
    rcases hwords : cleanWords s with _ | ⟨w, ws⟩
    · rfl
    · have hne : w ≠ [] := (isWord_of_mem_cleanWords (hwords ▸ List.mem_cons_self)).ne_nil
      have hhead := head?_intercalate hne ' ' ws
      rw [← hwords, h] at hhead
      exact absurd (by simpa using hhead.symm) hne
  · intro h
    rw [h]
    rfl

end StructuredData.Text
