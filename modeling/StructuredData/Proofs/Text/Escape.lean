import StructuredData.Proofs.Text.Clean

/-!
# Escaped text

Escaped text has no angle brackets.  Its references can be put back one kind after the other, that
of the ampersand last (`Text.unescape_escape`), and its words are those of the text, escaped one by
one (`Text.words_escape`).
-/

namespace StructuredData.Text

/-! ## Replacing -/

/-- Replaces each occurrence of a text that is not empty by another one, from left to right. -/
def replaceAll (old new : List Char) : List Char → List Char
  | [] => []
  | c :: rest =>
    if old.isPrefixOf (c :: rest) then new ++ replaceAll old new (rest.drop (old.length - 1))
    else c :: replaceAll old new rest
termination_by cs => cs.length

variable {more new : List Char} {c : Char}

theorem replaceAll_append (c : Char) (more new rest : List Char) :
    replaceAll (c :: more) new (c :: more ++ rest) = new ++ replaceAll (c :: more) new rest := by
  rw [List.cons_append, replaceAll, if_pos (by simp [List.isPrefixOf])]
  simp

theorem replaceAll_cons_of_not_prefix {d : Char} {rest : List Char}
    (h : ¬ c :: more <+: d :: rest) :
    replaceAll (c :: more) new (d :: rest) = d :: replaceAll (c :: more) new rest := by
  rw [replaceAll, if_neg (by rwa [List.isPrefixOf_iff_prefix])]

/-- Where the first character of what is replaced does not occur nothing is replaced. -/
theorem replaceAll_append_of_not_mem {w : List Char} (hw : c ∉ w) (rest : List Char) :
    replaceAll (c :: more) new (w ++ rest) = w ++ replaceAll (c :: more) new rest := by
  induction w with
  | nil => rfl
  | cons d w ih =>
    have hd : ¬ c :: more <+: d :: (w ++ rest) := by
      intro h
      exact hw (by simp [(List.cons_prefix_cons.mp h).1])
    rw [List.cons_append, replaceAll_cons_of_not_prefix hd, ih fun h => hw (by simp [h])]
    rfl

/-- What is replaced in each of the pieces that a text is made of is replaced in the text. -/
theorem replaceAll_flatMap {old : List Char} {f g : Char → List Char}
    (h : ∀ c rest, replaceAll old new (f c ++ rest) = g c ++ replaceAll old new rest)
    (cs : List Char) : replaceAll old new (cs.flatMap f) = cs.flatMap g := by
  induction cs with
  | nil => simp [replaceAll]
  | cons c cs ih => rw [List.flatMap_cons, List.flatMap_cons, h, ih]

/-! ## References -/

theorem escapedMarkup_eq (c : Char) :
    escapedMarkup c =
      if c = '&' then ['&', 'a', 'm', 'p', ';']
      else if c = '<' then ['&', 'l', 't', ';']
      else if c = '>' then ['&', 'g', 't', ';']
      else [c] := rfl

/-- A character is escaped by one that may be an ampersand and others that are none. -/
theorem exists_of_escapedMarkup (c : Char) : ∃ d w, escapedMarkup c = d :: w ∧ '&' ∉ w := by
  unfold escapedMarkup
  split
  · exact ⟨_, _, rfl, by decide⟩
  split
  · exact ⟨_, _, rfl, by decide⟩
  split
  · exact ⟨_, _, rfl, by decide⟩
  · exact ⟨c, [], rfl, by simp⟩

/-- The reference to a character is not how an escaped text with another character in front
starts. -/
theorem not_prefix_escapedMarkup {m : Char} {name : List Char}
    (hname : escapedMarkup m = '&' :: name) (hc : c ≠ m) (rest : List Char) :
    ¬ '&' :: name <+: escapedMarkup c ++ rest := by
  have hm : m = '&' ∨ m = '<' ∨ m = '>' := by
    by_contra hplain
    obtain ⟨hamp, hlt, hgt⟩ := by simpa using hplain
    rw [escapedMarkup_eq, if_neg hamp, if_neg hlt, if_neg hgt] at hname
    exact hamp (List.cons.inj hname).1
  rw [escapedMarkup_eq] at hname ⊢
  -- references to different characters differ behind the ampersand
  rcases hm with rfl | rfl | rfl
  all_goals
    obtain rfl := (List.cons.inj hname).2
    split_ifs <;> simp_all [List.cons_prefix_cons, @eq_comm _ '&']

/-- A character in a text in which the references to some characters have been put back. -/
def escapedBut (back : List Char) (c : Char) : List Char :=
  if c ∈ back then [c] else escapedMarkup c

/-- One kind of references is put back after others. -/
theorem replaceAll_escapedBut {back name : List Char} {m : Char} (hback : '&' ∉ back)
    (hm : m ∉ back) (hname : escapedMarkup m = '&' :: name) (cs : List Char) :
    replaceAll ('&' :: name) [m] (cs.flatMap (escapedBut back)) =
      cs.flatMap (escapedBut (m :: back)) := by
  refine replaceAll_flatMap (fun c rest => ?_) cs
  unfold escapedBut
  by_cases hc : c ∈ back
  · -- this one has been put back before
    have hne : '&' ∉ [c] := by
      intro h
      exact hback (List.mem_singleton.mp h ▸ hc)
    rw [if_pos hc, if_pos (by simp [hc]), replaceAll_append_of_not_mem hne]
  by_cases hcm : c = m
  · subst hcm
    rw [if_neg hc, if_pos (by simp), hname, replaceAll_append]
  · obtain ⟨d, w, hescaped, hw⟩ := exists_of_escapedMarkup c
    have hstart := not_prefix_escapedMarkup hname hcm rest
    rw [if_neg hc, if_neg (by simp [hc, hcm])]
    rw [hescaped, List.cons_append] at hstart
    rw [hescaped, List.cons_append, replaceAll_cons_of_not_prefix hstart,
      replaceAll_append_of_not_mem hw]
    rfl

/-- A text with its references put back, that of the ampersand last. -/
def unescape (s : String) : String :=
  String.ofList (replaceAll "&amp;".toList ['&']
    (replaceAll "&gt;".toList ['>'] (replaceAll "&lt;".toList ['<'] s.toList)))

/-- **What was escaped is put back.** -/
theorem unescape_escape (s : String) : unescape (escape s) = s := by
  have hescape : (escape s).toList = s.toList.flatMap (escapedBut []) := by
    rw [escape, String.toList_ofList]
    rfl
  have hplain : s.toList.flatMap (escapedBut ['&', '>', '<']) = s.toList := by
    have hall : escapedBut ['&', '>', '<'] = fun c => [c] := by
      funext c
      unfold escapedBut escapedMarkup
      split_ifs <;> simp_all
    rw [hall, List.flatMap_singleton']
  have hlt : replaceAll "&lt;".toList ['<'] (s.toList.flatMap (escapedBut [])) =
      s.toList.flatMap (escapedBut ['<']) :=
    replaceAll_escapedBut (by decide) (by decide) rfl _
  have hgt : replaceAll "&gt;".toList ['>'] (s.toList.flatMap (escapedBut ['<'])) =
      s.toList.flatMap (escapedBut ['>', '<']) :=
    replaceAll_escapedBut (by decide) (by decide) rfl _
  have hamp : replaceAll "&amp;".toList ['&'] (s.toList.flatMap (escapedBut ['>', '<'])) =
      s.toList.flatMap (escapedBut ['&', '>', '<']) :=
    replaceAll_escapedBut (by decide) (by decide) rfl _
  rw [unescape, hescape, hlt, hgt, hamp, hplain, String.ofList_toList]

/-- What is escaped has no angle brackets. -/
theorem not_mem_escape (s : String) : '<' ∉ (escape s).toList ∧ '>' ∉ (escape s).toList := by
  have hone : ∀ c, '<' ∉ escapedMarkup c ∧ '>' ∉ escapedMarkup c := by
    intro c
    unfold escapedMarkup
    split_ifs <;> simp_all [eq_comm]
  rw [escape, String.toList_ofList]
  constructor
  · intro h
    obtain ⟨c, -, hc⟩ := List.mem_flatMap.mp h
    exact (hone c).1 hc
  · intro h
    obtain ⟨c, -, hc⟩ := List.mem_flatMap.mp h
    exact (hone c).2 hc

/-! ## Words -/

/-- Where blanks stay, and other characters give way to some that are not blank, words stay
words. -/
theorem wordsFrom_flatMap {f : Char → List Char} (hne : ∀ c, f c ≠ [])
    (hblank : ∀ c, isBlank c = true → f c = [c])
    (hother : ∀ c, isBlank c = false → ∀ d ∈ f c, isBlank d = false) (word cs : List Char) :
    wordsFrom (word.reverse.flatMap f).reverse (cs.flatMap f) =
      (wordsFrom word cs).map (·.flatMap f) := by
  have hempty : ∀ word : List Char, (word.reverse.flatMap f).reverse.isEmpty = word.isEmpty := by
    intro word
    cases word with
    | nil => rfl
    | cons c word => simp [hne]
  induction cs generalizing word with
  | nil =>
    rw [List.flatMap_nil, wordsFrom, wordsFrom, hempty, List.reverse_reverse]
    split <;> rfl
  | cons c rest ih =>
    by_cases hc : isBlank c = true
    · have hbegun : wordsFrom [] (rest.flatMap f) = (wordsFrom [] rest).map (·.flatMap f) := ih []
      rw [List.flatMap_cons, hblank c hc, List.singleton_append, wordsFrom, wordsFrom, if_pos hc,
        if_pos hc, hempty, List.reverse_reverse, hbegun]
      split <;> rfl
    · have hread : ((c :: word).reverse.flatMap f).reverse =
          (f c).reverse ++ (word.reverse.flatMap f).reverse := by simp
      rw [List.flatMap_cons, wordsFrom_append (hother c (by simpa using hc)), ← hread, ih,
        wordsFrom, if_neg hc]

/-- **The words of an escaped text** are those of the text, escaped one by one. -/
theorem words_escape (s : String) : words (escape s) = (words s).map escape := by
  have hwords : wordsFrom [] (s.toList.flatMap escapedMarkup) =
      (wordsFrom [] s.toList).map (·.flatMap escapedMarkup) := by
    refine wordsFrom_flatMap ?_ ?_ ?_ [] s.toList
    · intro c
      obtain ⟨d, w, hc, -⟩ := exists_of_escapedMarkup c
      simp [hc]
    · intro c hc
      unfold escapedMarkup
      split_ifs with hamp hlt hgt
      · subst hamp
        cases hc
      · subst hlt
        cases hc
      · subst hgt
        cases hc
      · rfl
    · intro c hc
      unfold escapedMarkup
      split_ifs
      · simp [isBlank]
      · simp [isBlank]
      · simp [isBlank]
      · simpa using hc
  rw [words, escape, String.toList_ofList, hwords, words, List.map_map, List.map_map]
  apply List.map_congr_left
  intro w _
  simp [escape]

/-- An escaped reference is escaped once more, and comes back as it was. -/
example : escape "1 < 2 &lt; R&D" = "1 &lt; 2 &amp;lt; R&amp;D" ∧
    unescape "1 &lt; 2 &amp;lt; R&amp;D" = "1 < 2 &lt; R&D" := by decide +kernel

end StructuredData.Text
