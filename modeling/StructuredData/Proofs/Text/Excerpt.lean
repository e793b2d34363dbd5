import StructuredData.Facts.Entity
import StructuredData.Proofs.Text.Clean

/-!
# Excerpts

An excerpt has the first words of a clean text and ends between two of them, with an ellipsis if
words are left out.  It is clean itself and has no more words than were asked for, so that an
excerpt of it is the same again (`Text.excerpt_at_words`).
-/

namespace StructuredData.Text

/-! ## Words of joined words -/

/-- Words that have no tag in them are the words of the text that they are joined to. -/
theorem cleanWords_joinWords {ws : List (List Char)} (h : ∀ w ∈ ws, IsWord w)
    (htags : IsUntagged ws.flatten) : cleanWords (joinWords ws) = ws := by
  have huntagged : IsUntagged ([' '].intercalate ws) := by
    rwa [← isUntagged_filter_iff, filter_intercalate h]
  rw [cleanWords, joinWords, String.toList_ofList, dropTagsFrom_of_isUntagged huntagged,
    wordsFrom_intercalate h]

theorem isUntagged_flatten_cleanWords (s : String) : IsUntagged (cleanWords s).flatten := by
  have hclean := (isClean_clean s).untagged
  rwa [toList_clean, ← isUntagged_filter_iff,
    filter_intercalate fun w hw => isWord_of_mem_cleanWords hw] at hclean

/-- The words of a clean text are those without markup. -/
theorem words_clean (s : String) : words (clean s) = (cleanWords s).map String.ofList := by
  rw [words, toList_clean, wordsFrom_intercalate fun w hw => isWord_of_mem_cleanWords hw]

theorem joinWords_eq (ws : List (List Char)) :
    joinWords ws = " ".intercalate (ws.map String.ofList) := by
  have hwords : (ws.map String.ofList).map String.toList = ws := by simp
  rw [← String.toList_inj, String.toList_intercalate, hwords, joinWords, String.toList_ofList]
  rfl

/-! ## What an excerpt keeps -/

@[simp] theorem keptWords_natCast (n : Nat) (ws : List (List Char)) :
    keptWords n ws = ws.take n := by
  simp [keptWords]

/-- A text without more words than are asked for is not cut. -/
theorem excerpt_of_le {s : String} {n : Nat} (h : (cleanWords s).length ≤ n) :
    excerpt s n = clean s := by
  unfold excerpt
  rw [if_pos (by omega), clean]

/-- A longer text is cut behind the words that are asked for. -/
theorem excerpt_of_lt {s : String} {n : Nat} (h : n < (cleanWords s).length) :
    excerpt s n = joinWords ((cleanWords s).take n) ++ "…" := by
  unfold excerpt
  rw [if_neg (by omega), keptWords_natCast]

/-- An ellipsis behind a text closes no tag. -/
theorem isUntagged_append_ellipsis {cs : List Char} (h : IsUntagged cs) :
    IsUntagged (cs ++ ['…']) := by
  refine List.pairwise_append.mpr ⟨h, List.pairwise_singleton _ _, ?_⟩
  intro c _ d hd _
  rw [List.mem_singleton.mp hd]
  decide

/-- What stands behind joined words goes on the last one. -/
theorem intercalate_append_last (init : List (List Char)) (last more : List Char) :
    [' '].intercalate (init ++ [last]) ++ more = [' '].intercalate (init ++ [last ++ more]) := by
  induction init with
  | nil => simp [List.intercalate_singleton]
  | cons w init ih =>
    cases init with
    | nil => simp [List.intercalate_cons_cons, List.intercalate_singleton]
    | cons w' init =>
      simp only [List.cons_append, List.intercalate_cons_cons, List.append_assoc] at ih ⊢
      rw [ih]

/-- With an ellipsis behind them joined words are words again: the last one goes on with it, and
where there is none it stands alone. -/
theorem exists_words_ellipsis {ws : List (List Char)} (h : ∀ w ∈ ws, IsWord w)
    (htags : IsUntagged ws.flatten) :
    ∃ ws' : List (List Char), ws'.length = max ws.length 1 ∧ (∀ w ∈ ws', IsWord w) ∧
      IsUntagged ws'.flatten ∧ joinWords ws' = joinWords ws ++ "…" := by
  rcases List.eq_nil_or_concat' ws with rfl | ⟨init, last, rfl⟩
  · refine ⟨[['…']], rfl, ?_, isUntagged_append_ellipsis .nil, rfl⟩
    intro w hw
    rw [List.mem_singleton.mp hw]
    exact ⟨by simp, by simp [isBlank]⟩
  · refine ⟨init ++ [last ++ ['…']], ?_, ?_, ?_, ?_⟩
    · simp
    · intro w hw
      rcases List.mem_append.mp hw with hw | hw
      · exact h w (by simp [hw])
      · rw [List.mem_singleton.mp hw]
        refine ⟨by simp, ?_⟩
        intro c hc
        rcases List.mem_append.mp hc with hc | hc
        · exact (h last (by simp)).not_blank c hc
        · rw [List.mem_singleton.mp hc]
          decide
    · have hflat : (init ++ [last ++ ['…']]).flatten = (init ++ [last]).flatten ++ ['…'] := by
        simp
      rw [hflat]
      exact isUntagged_append_ellipsis htags
    · rw [← String.toList_inj, String.toList_append, joinWords, joinWords, String.toList_ofList,
        String.toList_ofList, ← intercalate_append_last]
      rfl

/-- An excerpt that leaves words out is clean, and has as many words as were asked for, or the
ellipsis alone if none were. -/
theorem clean_excerpt_of_lt {s : String} {n : Nat} (hn : n < (cleanWords s).length) :
    (cleanWords (excerpt s n)).length = max n 1 ∧ clean (excerpt s n) = excerpt s n := by
  have hkept : ∀ w ∈ (cleanWords s).take n, IsWord w := fun w hw =>
    isWord_of_mem_cleanWords (List.mem_of_mem_take hw)
  have htags : IsUntagged ((cleanWords s).take n).flatten := by
    have hall := isUntagged_flatten_cleanWords s
    rw [← List.take_append_drop n (cleanWords s), List.flatten_append] at hall
    exact (List.pairwise_append.mp hall).1
  obtain ⟨ws, hlength, hwords, huntagged, hjoined⟩ := exists_words_ellipsis hkept htags
  rw [List.length_take, Nat.min_eq_left hn.le] at hlength
  rw [excerpt_of_lt hn, ← hjoined, clean, cleanWords_joinWords hwords huntagged]
  exact ⟨hlength, rfl⟩

/-- An excerpt of an excerpt is the same. -/
theorem excerpt_excerpt (s : String) (n : Nat) : excerpt (excerpt s n) n = excerpt s n := by
  rcases Nat.lt_or_ge n (cleanWords s).length with hn | hn
  · obtain ⟨hlength, hclean⟩ := clean_excerpt_of_lt hn
    rcases Nat.lt_or_ge n (cleanWords (excerpt s n)).length with hmore | hmore
    · -- only the ellipsis is more than what was asked for, which was nothing
      obtain rfl : n = 0 := by omega
      rw [excerpt_of_lt hmore, excerpt_of_lt hn, List.take_zero, List.take_zero]
    · rw [excerpt_of_le hmore, hclean]
  · have hwords : cleanWords (clean s) = cleanWords s := by
      rw [clean, cleanWords_joinWords (fun w hw => isWord_of_mem_cleanWords hw)
        (isUntagged_flatten_cleanWords s)]
    rw [excerpt_of_le hn, excerpt_of_le (by rwa [hwords]), (isClean_clean s).clean_eq]

/-- The excerpt of a text, as a value, is that of the text. -/
theorem excerpt_text (s : String) (n : Nat) :
    (Value.text s).excerpt (.whole n) = .ok (excerpt s n) := by
  show (if (decide ((cleanWords s).length ≤ (n : Int))) = true then
    Except.ok (clean s) else .ok (excerpt s n)) = _
  split
  · rename_i hn
    rw [excerpt_of_le (by simpa using hn)]
  · rfl

/-- **An excerpt ends between words.**  It is the clean text if that has no more words than are
asked for, and else the first words of it with an ellipsis directly behind; an excerpt of the
excerpt is the same. -/
theorem excerpt_at_words (s : String) (n : Nat) :
    (Value.text s).excerpt (.whole n) = .ok (excerpt s n) ∧
    (excerpt s n =
      if (words (clean s)).length ≤ n then " ".intercalate (words (clean s))
      else " ".intercalate ((words (clean s)).take n) ++ "…") ∧
    excerpt (excerpt s n) n = excerpt s n := by
  refine ⟨excerpt_text s n, ?_, excerpt_excerpt s n⟩
  rw [words_clean, List.length_map, ← List.map_take, ← joinWords_eq, ← joinWords_eq]
  split
  · rename_i hn
    rw [excerpt_of_le hn, clean]
  · rename_i hn
    exact excerpt_of_lt (by omega)

/-- A text that just meets the limit stays whole; of no words the ellipsis is left. -/
example : excerpt "<b>one</b> two\n<3 four" 4 = "one two <3 four" ∧
    excerpt "<b>one</b> two\n<3 four" 3 = "one two <3…" ∧ excerpt "one" 0 = "…" := by
  decide +kernel

end StructuredData.Text
