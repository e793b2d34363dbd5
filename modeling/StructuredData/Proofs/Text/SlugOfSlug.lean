import StructuredData.Proofs.Text.Slug

/-!
# Slugs of slugs

A slugifier that keeps to what is known of it reads the runs of a slug off it again, so making a
slug of a slug only takes the leading number off.  The number that a label starts with is taken off
once: what follows it may be a number too, and then the slug starts with a digit, and the slug of
the slug is another one (`Slug.ofText_ofText_eq_iff`).
-/

namespace StructuredData

open Slug

/-! ## What is known of a slugifier -/

namespace Slugifier

/-- Whether a slugifier gives runs of lower-case letters and digits with single dashes between
them. -/
def GivesRuns [Slugifier] : Prop :=
  ∀ s, ∃ rs, (∀ r ∈ rs, IsRun r) ∧ (slugify s).toList = ['-'].intercalate rs

/-- Whether a slugifier leaves such runs alone and writes the underscores between them as dashes. -/
def KeepsRuns [Slugifier] : Prop :=
  ∀ rs, (∀ r ∈ rs, IsRun r) →
    (slugify (String.ofList (['_'].intercalate rs))).toList = ['-'].intercalate rs

end Slugifier

namespace Slug

/-! ## The runs of joined runs -/

/-- The characters of a run go to the run that is begun. -/
theorem runsFrom_append {r : List Char} (hr : ∀ c ∈ r, isSlugChar c = true) (run cs : List Char) :
    runsFrom run (r ++ cs) = runsFrom (r.reverse ++ run) cs := by
  induction r generalizing run with
  | nil => rfl
  | cons c r ih =>
    rw [List.cons_append, runsFrom, if_pos (hr c (by simp)), ih (fun d hd => hr d (by simp [hd])),
      List.reverse_cons, List.append_assoc, List.singleton_append]

/-- A run that something else follows is the first one. -/
theorem runs_append_cons {r : List Char} (hr : IsRun r) {x : Char} (hx : isSlugChar x = false)
    (cs : List Char) : runs (r ++ x :: cs) = r :: runs cs := by
  have hbegun : (r.reverse ++ []).isEmpty = false := by simpa using hr.ne_nil
  rw [runs, runsFrom_append hr.isSlugChar, runsFrom_cons_of_not_isSlugChar hx, runsFrom, hbegun]
  simp [runs]

/-- Joined runs are cut into these runs again. -/
theorem runs_intercalate {rs : List (List Char)} (h : ∀ r ∈ rs, IsRun r) {x : Char}
    (hx : isSlugChar x = false) : runs ([x].intercalate rs) = rs := by
  induction rs with
  | nil => rfl
  | cons r rs ih =>
    have hr := h r List.mem_cons_self
    cases rs with
    | nil =>
      have hbegun : (r.reverse ++ []).isEmpty = false := by simpa using hr.ne_nil
      rw [List.intercalate_singleton, ← List.append_nil r, runs, runsFrom_append hr.isSlugChar,
        runsFrom, hbegun]
      simp
    | cons r' rs =>
      rw [List.intercalate_cons_cons, List.append_assoc, List.singleton_append,
        runs_append_cons hr hx, ih fun s hs => h s (List.mem_cons_of_mem r hs)]

/-- A run that is begun is the beginning of the first one. -/
theorem exists_runsFrom_eq_cons {run : List Char} (hrun : run ≠ []) (cs : List Char) :
    ∃ r rs, runsFrom run cs = (run.reverse ++ r) :: rs := by
  induction cs generalizing run with
  | nil => exact ⟨[], [], by simp [runsFrom, hrun]⟩
  | cons c rest ih =>
    cases hc : isSlugChar c with
    | true =>
      obtain ⟨r, rs, hrest⟩ := ih (List.cons_ne_nil c run)
      exact ⟨c :: r, rs, by simp [runsFrom, hc, hrest]⟩
    | false => exact ⟨[], runsFrom [] rest, by simp [runsFrom, hc, hrun]⟩

/-! ## The slug of a slug -/

section

variable [Slugifier]

/-- What the slugifier gives is put together of its runs. -/
theorem slugify_eq (hgives : Slugifier.GivesRuns) (s : String) :
    (Slugifier.slugify s).toList = ['-'].intercalate (runs (Slugifier.slugify s).toList) := by
  obtain ⟨rs, hrs, hs⟩ := hgives s
  rw [hs, runs_intercalate hrs (by decide)]

/-- A slug is put together of the runs that the slugifier gives, without the leading number. -/
theorem ofText_eq (hkeeps : Slugifier.KeepsRuns) (s : String) :
    (ofText s).toList =
      ['_'].intercalate (withoutNumber (runs (Slugifier.slugify s).toList)) := by
  rw [ofText]
  split
  · rename_i hs
    -- an empty label has no runs
    have hempty : (Slugifier.slugify s).toList = [] := hs ▸ hkeeps [] (by simp)
    rw [hempty]
    rfl
  · rw [String.toList_ofList, ofSlugified_eq]

/-- The slugifier gives the runs of a slug as they are. -/
theorem runs_slugify_ofText (hkeeps : Slugifier.KeepsRuns) (s : String) :
    runs (Slugifier.slugify (ofText s)).toList =
      withoutNumber (runs (Slugifier.slugify s).toList) := by
  have hruns : ∀ r ∈ withoutNumber (runs (Slugifier.slugify s).toList), IsRun r :=
    isRun_of_mem_withoutNumber fun r hr => isRun_of_mem_runs hr
  rw [← String.ofList_toList (s := ofText s), ofText_eq hkeeps, hkeeps _ hruns,
    runs_intercalate hruns (by decide)]

end

/-! ## Slugs that start with a digit -/

/-- Whether the first character is a digit. -/
def StartsWithDigit (cs : List Char) : Prop := ∃ c ∈ cs.head?, isDecimal c = true

/-- Joined runs start with a digit just if the first run does. -/
theorem startsWithDigit_intercalate {x : Char} {rs : List (List Char)} (h : ∀ r ∈ rs, IsRun r) :
    StartsWithDigit ([x].intercalate rs) ↔ ∃ r ∈ rs.head?, StartsWithDigit r := by
  cases rs with
  | nil => simp [StartsWithDigit]
  | cons r rs =>
    rw [StartsWithDigit, Text.head?_intercalate (h r (by simp)).ne_nil]
    simp [StartsWithDigit]

/-- Behind the digits in front there is none. -/
theorem not_startsWithDigit_dropWhile (r : List Char) :
    ¬ StartsWithDigit (r.dropWhile isDecimal) := by
  rintro ⟨c, hc, hdigit⟩
  have hfirst := List.head?_dropWhile_not isDecimal r
  rw [Option.mem_def.mp hc] at hfirst
  rw [hfirst] at hdigit
  cases hdigit

/-- Behind the leading number the next run shows, and it keeps its digits. -/
theorem startsWithDigit_withoutNumber {rs : List (List Char)} :
    (∃ r ∈ (withoutNumber rs).head?, StartsWithDigit r) ↔
      ∃ number next rest, rs = number :: next :: rest ∧ (∀ c ∈ number, isDecimal c = true) ∧
        StartsWithDigit next := by
  cases rs with
  | nil => simp [withoutNumber]
  | cons r rs =>
    rw [withoutNumber]
    by_cases hdigits : ∀ c ∈ r, isDecimal c = true
    · have hletters : r.dropWhile isDecimal = [] := List.dropWhile_eq_nil_iff.mpr hdigits
      rw [hletters]
      constructor
      · rintro ⟨next, hnext, hstarts⟩
        obtain ⟨rest, rfl⟩ := List.head?_eq_some_iff.mp hnext
        exact ⟨r, next, rest, rfl, hdigits, hstarts⟩
      · rintro ⟨number, next, rest, heq, -, hstarts⟩
        obtain ⟨-, rfl⟩ := List.cons.inj heq
        exact ⟨next, rfl, hstarts⟩
    · have hletters : (r.dropWhile isDecimal).isEmpty = false := by
        rw [List.isEmpty_eq_false_iff]
        exact fun hnil => hdigits (List.dropWhile_eq_nil_iff.mp hnil)
      simp only [hletters]
      constructor
      · rintro ⟨letters, hhead, hstarts⟩
        obtain rfl := Option.some.inj hhead
        exact absurd hstarts (not_startsWithDigit_dropWhile r)
      · rintro ⟨number, next, rest, heq, hnumber, -⟩
        obtain ⟨rfl, -⟩ := List.cons.inj heq
        exact absurd hnumber hdigits

/-- Runs lose nothing if and only if the first one does not start with a digit. -/
theorem withoutNumber_eq_self_iff {rs : List (List Char)} (h : ∀ r ∈ rs, IsRun r) :
    withoutNumber rs = rs ↔ ¬ ∃ r ∈ rs.head?, StartsWithDigit r := by
  cases rs with
  | nil => simp [withoutNumber]
  | cons r rs =>
    have hfirst : (∃ r' ∈ (r :: rs).head?, StartsWithDigit r') ↔ StartsWithDigit r := by simp
    rw [hfirst, withoutNumber]
    constructor
    · intro heq hstarts
      split at heq
      · have hlength := congrArg List.length heq
        simp at hlength
      · obtain ⟨hletters, -⟩ := List.cons.inj heq
        rw [← hletters] at hstarts
        exact not_startsWithDigit_dropWhile r hstarts
    · intro hstarts
      obtain ⟨c, r', rfl⟩ := List.exists_cons_of_ne_nil (h r (by simp)).ne_nil
      have hletter : ¬ isDecimal c = true := fun hc => hstarts ⟨c, rfl, hc⟩
      simp [List.dropWhile_cons_of_neg hletter]

/-- The first run is a number and the next one starts with a digit just if that can be seen of what
the slugifier gives. -/
theorem exists_runs_iff [Slugifier] (hgives : Slugifier.GivesRuns) {s : String} :
    (∃ number next rest, runs (Slugifier.slugify s).toList = number :: next :: rest ∧
      (∀ c ∈ number, isDecimal c = true) ∧ StartsWithDigit next) ↔
    ∃ number next, number ≠ [] ∧ (∀ c ∈ number, isDecimal c = true) ∧ StartsWithDigit next ∧
      (Slugifier.slugify s).toList = number ++ '-' :: next := by
  constructor
  · rintro ⟨number, next, rest, hruns, hnumber, hnext⟩
    have hrun : ∀ r ∈ number :: next :: rest, IsRun r := fun r hr =>
      isRun_of_mem_runs (hruns ▸ hr)
    have hjoined : ∀ r ∈ next :: rest, IsRun r := fun r hr => hrun r (List.mem_cons_of_mem _ hr)
    refine ⟨number, ['-'].intercalate (next :: rest), (hrun _ List.mem_cons_self).ne_nil, hnumber,
      ?_, ?_⟩
    · exact (startsWithDigit_intercalate hjoined).mpr ⟨next, rfl, hnext⟩
    · rw [slugify_eq hgives, hruns, List.intercalate_cons_cons, List.append_assoc,
        List.singleton_append]
  · rintro ⟨number, next, hne, hnumber, ⟨c, hc, hdigit⟩, hs⟩
    -- a digit that the slugifier gives stands in a run
    have hchar : ∀ c ∈ (Slugifier.slugify s).toList, isDecimal c = true → isSlugChar c = true := by
      intro c hc hdigit
      rw [slugify_eq hgives] at hc
      rcases Text.mem_intercalate hc with rfl | ⟨r, hr, hc⟩
      · exact absurd hdigit (by decide)
      · exact (isRun_of_mem_runs hr).isSlugChar c hc
    obtain ⟨rest, rfl⟩ := List.head?_eq_some_iff.mp hc
    have hrun : IsRun number :=
      ⟨hne, fun d hd => hchar d (by rw [hs]; simp [hd]) (hnumber d hd)⟩
    have hfirst : isSlugChar c = true := hchar c (by rw [hs]; simp) hdigit
    obtain ⟨r, rs, hnext⟩ := exists_runsFrom_eq_cons (List.cons_ne_nil c []) rest
    refine ⟨number, c :: r, rs, ?_, hnumber, c, rfl, hdigit⟩
    rw [hs, runs_append_cons hrun (by decide), runs, runsFrom, if_pos hfirst, hnext]
    rfl

/-- **When a slug is the slug of itself.**  A slug starts with a digit just if the slugifier gives a
number and behind a dash a digit, for the leading number is taken off once; and making the slug of
a slug changes nothing just if it does not start with a digit. -/
theorem ofText_ofText_eq_iff [Slugifier] (hgives : Slugifier.GivesRuns)
    (hkeeps : Slugifier.KeepsRuns) (s : String) :
    (StartsWithDigit (ofText s).toList ↔
      ∃ number next, number ≠ [] ∧ (∀ c ∈ number, isDecimal c = true) ∧ StartsWithDigit next ∧
        (Slugifier.slugify s).toList = number ++ '-' :: next) ∧
    (ofText (ofText s) = ofText s ↔ ¬ StartsWithDigit (ofText s).toList) := by
  have hlabel : ∀ r ∈ runs (Slugifier.slugify s).toList, IsRun r := fun r hr => isRun_of_mem_runs hr
  have hslug := isRun_of_mem_withoutNumber hlabel
  have hstarts : StartsWithDigit (ofText s).toList ↔
      ∃ r ∈ (withoutNumber (runs (Slugifier.slugify s).toList)).head?, StartsWithDigit r := by
    rw [ofText_eq hkeeps, startsWithDigit_intercalate hslug]
  have hagain : (ofText (ofText s)).toList =
      ['_'].intercalate (withoutNumber (withoutNumber (runs (Slugifier.slugify s).toList))) := by
    rw [ofText_eq hkeeps, runs_slugify_ofText hkeeps]
  refine ⟨by rw [hstarts, startsWithDigit_withoutNumber, exists_runs_iff hgives], ?_⟩
  rw [hstarts, ← withoutNumber_eq_self_iff hslug, ← String.toList_inj, hagain, ofText_eq hkeeps]
  constructor
  · intro heq
    -- the runs can be read off the joined text
    have hruns := congrArg runs heq
    rwa [runs_intercalate (isRun_of_mem_withoutNumber hslug) (by decide),
      runs_intercalate hslug (by decide)] at hruns
  · intro heq
    rw [heq]

/-! ## Labels in ASCII -/

section

attribute [local instance] Slugifier.ascii

/-- The characters of runs are lower case. -/
theorem toLower_of_isSlugChar {c : Char} (h : isSlugChar c = true) : c.toLower = c := by
  have hlower : (97 ≤ c.val.toNat ∧ c.val.toNat ≤ 122) ∨ (48 ≤ c.val.toNat ∧ c.val.toNat ≤ 57) := by
    simpa [isSlugChar, Char.le_def, UInt32.le_iff_toNat_le] using h
  refine dif_neg ?_
  rintro ⟨hfirst, hlast⟩
  rw [ge_iff_le, UInt32.le_iff_toNat_le] at hfirst
  rw [UInt32.le_iff_toNat_le] at hlast
  change 65 ≤ _ at hfirst
  change _ ≤ 90 at hlast
  omega

theorem givesRuns_ascii : Slugifier.GivesRuns :=
  fun s => ⟨runs (s.toList.map Char.toLower), fun _ hr => isRun_of_mem_runs hr,
    String.toList_ofList⟩

theorem keepsRuns_ascii : Slugifier.KeepsRuns := by
  intro rs hrs
  have hlower : (['_'].intercalate rs).map Char.toLower = ['_'].intercalate rs := by
    refine (List.map_congr_left fun c hc => ?_).trans (List.map_id _)
    rcases Text.mem_intercalate hc with rfl | ⟨r, hr, hc⟩
    · decide
    · exact toLower_of_isSlugChar ((hrs r hr).isSlugChar c hc)
  rw [Slugifier.slugify, String.toList_ofList, String.toList_ofList, hlower,
    runs_intercalate hrs (by decide)]

/-- Of a label with two numbers in front the first is taken off; the slug starts with the second,
and the slug of the slug is another one. -/
theorem ofText_ofText_eq_iff_of_two_numbers :
    Slugifier.GivesRuns ∧ Slugifier.KeepsRuns ∧
      ofText "24/7 Support" = "7_support" ∧ ofText "7_support" = "support" ∧
      StartsWithDigit (ofText "24/7 Support").toList ∧
      ofText (ofText "24/7 Support") ≠ ofText "24/7 Support" := by
  obtain ⟨hstarts, hagain⟩ := ofText_ofText_eq_iff givesRuns_ascii keepsRuns_ascii "24/7 Support"
  have hslugified : (Slugifier.slugify "24/7 Support").toList =
      "24".toList ++ '-' :: "7-support".toList := by decide +kernel
  have hdigit : StartsWithDigit (ofText "24/7 Support").toList :=
    hstarts.mpr ⟨"24".toList, "7-support".toList, by decide, List.all_eq_true.mp (by decide),
      ⟨'7', by decide, by decide⟩, hslugified⟩
  exact ⟨givesRuns_ascii, keepsRuns_ascii, by decide +kernel, by decide +kernel, hdigit,
    fun heq => hagain.mp heq hdigit⟩

end

end Slug

end StructuredData
