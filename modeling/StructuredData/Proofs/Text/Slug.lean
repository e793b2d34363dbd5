import Mathlib.Data.List.Chain
import StructuredData.Proofs.Text.Cut
import StructuredData.Text.Slug

/-!
# The shape of slugs

Whatever the slugifier gives for a label, its runs of lower-case letters and digits are joined by
single underscores in the end, without the number that they start with (`Slug.ofSlugified_eq`).  So
a slug consists of such runs (`Slug.isJoined_ofText`), and it can stand in a placeholder, for none
of its characters is blank, a percent sign or a dot.
-/

namespace StructuredData

/-- A blank is no lower-case letter, digit or underscore. -/
theorem isBlank_eq_false_of_isSlugChar {c : Char} (h : Slug.isSlugChar c ∨ c = '_') :
    isBlank c = false := by
  have hc : (97 ≤ c.toNat ∧ c.toNat ≤ 122) ∨ (48 ≤ c.toNat ∧ c.toNat ≤ 57) ∨ c.toNat = 95 := by
    rcases h with h | rfl
    · simp only [Slug.isSlugChar, Bool.or_eq_true, Bool.and_eq_true, decide_eq_true_eq, Char.le_def,
        UInt32.le_iff_toNat_le] at h
      rcases h with h | h
      · exact Or.inl h
      · exact Or.inr (Or.inl h)
    · exact Or.inr (Or.inr rfl)
  simp [isBlank]
  omega

namespace Slug

/-! ## Runs -/

/-- A run of lower-case letters and digits. -/
structure IsRun (r : List Char) : Prop where
  ne_nil : r ≠ []
  isSlugChar : ∀ c ∈ r, isSlugChar c = true

/-- Runs with single underscores between them; no runs at all make the empty text. -/
def IsJoined (cs : List Char) : Prop :=
  ∃ rs, (∀ r ∈ rs, IsRun r) ∧ cs = ['_'].intercalate rs

/-- Runs are made of the characters that identifiers are made of. -/
theorem isSlugChar_of_mem_runsFrom {run cs r : List Char} (hrun : ∀ c ∈ run, isSlugChar c)
    (hr : r ∈ runsFrom run cs) : ∀ c ∈ r, isSlugChar c := by
  induction cs generalizing run with
  | nil =>
    rw [runsFrom] at hr
    split at hr
    · cases hr
    · rw [List.mem_singleton.mp hr]
      exact fun c hc => hrun c (List.mem_reverse.mp hc)
  | cons c rest ih =>
    rw [runsFrom] at hr
    split at hr
    · rename_i hc
      refine ih (fun d hd => ?_) hr
      rcases List.mem_cons.mp hd with rfl | hd
      · exact hc
      · exact hrun d hd
    · split at hr
      · exact ih (by simp) hr
      · rcases List.mem_cons.mp hr with rfl | hr
        · exact fun c hc => hrun c (List.mem_reverse.mp hc)
        · exact ih (by simp) hr

/-- What a text is cut into are runs. -/
theorem isRun_of_mem_runs {cs r : List Char} (h : r ∈ runs cs) : IsRun r :=
  ⟨runsFrom_ne_nil h, isSlugChar_of_mem_runsFrom (by simp) h⟩

/-- No underscore stands in a run. -/
theorem ne_underscore_of_isSlugChar {c : Char} (h : isSlugChar c = true) : c ≠ '_' := by
  rintro rfl
  exact absurd h (by decide)

/-! ## Joined runs -/

/-- There are no underscores at the ends of joined runs. -/
theorem trimWhile_intercalate {rs : List (List Char)} (h : ∀ r ∈ rs, IsRun r) :
    Text.trimWhile (· = '_') (['_'].intercalate rs) = ['_'].intercalate rs := by
  have hplain : ∀ r ∈ rs, ∀ c ∈ r, decide (c = '_') = false := fun r hr c hc =>
    decide_eq_false (ne_underscore_of_isSlugChar ((h r hr).isSlugChar c hc))
  rw [Text.trimWhile_eq_self_iff]
  constructor
  · intro c hc
    cases rs with
    | nil => cases hc
    | cons r rs =>
      rw [Text.head?_intercalate (h r (by simp)).ne_nil] at hc
      exact hplain r (by simp) c (List.mem_of_mem_head? hc)
  · intro c hc
    rw [Text.getLast?_intercalate fun r hr => (h r hr).ne_nil] at hc
    obtain ⟨r, hr, hc⟩ := Option.bind_eq_some_iff.mp hc
    exact hplain r (List.mem_of_mem_getLast? hr) c (List.mem_of_mem_getLast? hc)

/-! ## What masking, collapsing and trimming do to runs -/

variable {cs : List Char}

/-- A separator stands in no run. -/
theorem isSlugChar_eq_false_of_isGap {c : Char} (h : isGap c = true) : isSlugChar c = false := by
  rcases (by simpa [isGap] using h : c = ' ' ∨ c = '_') with rfl | rfl <;> decide

/-- A character that stands in no run ends the one that is begun. -/
theorem runsFrom_cons_of_not_isSlugChar {c : Char} (hc : isSlugChar c = false) (run : List Char) :
    runsFrom run (c :: cs) = runsFrom run [] ++ runsFrom [] cs := by
  simp only [runsFrom, hc]
  cases run <;> simp

/-- Masking leaves the runs as they are. -/
theorem runsFrom_mask (run : List Char) : runsFrom run (mask cs) = runsFrom run cs := by
  induction cs generalizing run with
  | nil => rfl
  | cons c rest ih =>
    change runsFrom run ((if _ then c else '_') :: mask rest) = _
    cases hc : isSlugChar c with
    | true => rw [runsFrom, runsFrom, Bool.true_or, if_pos rfl, hc, if_pos rfl, if_pos rfl, ih]
    | false =>
      rw [runsFrom_cons_of_not_isSlugChar hc, runsFrom_cons_of_not_isSlugChar, ih]
      split
      · exact hc
      · decide

/-- Collapsing leaves the runs as they are. -/
theorem runsFrom_collapseFrom (run : List Char) (c : Char) :
    runsFrom run (collapseFrom c cs) = runsFrom run (c :: cs) := by
  induction cs generalizing run c with
  | nil => rfl
  | cons d rest ih =>
    rw [collapseFrom]
    split
    · rename_i hgaps
      obtain ⟨hc, hd⟩ := Bool.and_eq_true_iff.mp hgaps
      -- one separator ends a run as well as two
      rw [ih, runsFrom_cons_of_not_isSlugChar (isSlugChar_eq_false_of_isGap hc),
        runsFrom_cons_of_not_isSlugChar (isSlugChar_eq_false_of_isGap hd),
        runsFrom_cons_of_not_isSlugChar (by decide)]
      rfl
    · rw [runsFrom, runsFrom, ih, ih]

/-- A collapsed text has the runs that it had. -/
theorem runs_collapse : runs (collapse cs) = runs cs := by
  cases cs with
  | nil => rfl
  | cons c rest => exact runsFrom_collapseFrom [] c

/-- Underscores in front are in no run. -/
theorem runs_dropWhile (cs : List Char) : runs (cs.dropWhile (· = '_')) = runs cs := by
  induction cs with
  | nil => rfl
  | cons c rest ih =>
    rw [List.dropWhile_cons]
    split
    · rename_i hc
      obtain rfl := of_decide_eq_true hc
      rw [ih, runs, runs, runsFrom_cons_of_not_isSlugChar (by decide)]
      rfl
    · rfl

/-- An underscore at the end is in no run. -/
theorem runsFrom_append_underscore (run cs : List Char) :
    runsFrom run (cs ++ ['_']) = runsFrom run cs := by
  induction cs generalizing run with
  | nil =>
    rw [List.nil_append, runsFrom_cons_of_not_isSlugChar (by decide)]
    exact List.append_nil _
  | cons c rest ih => rw [List.cons_append, runsFrom, runsFrom, ih, ih]

/-- Underscores at the end are in no run. -/
theorem runs_rdropWhile (cs : List Char) : runs (cs.rdropWhile (· = '_')) = runs cs := by
  induction cs using List.reverseRecOn with
  | nil => rfl
  | append_singleton cs c ih =>
    rw [List.rdropWhile_concat]
    split
    · rename_i hc
      obtain rfl := of_decide_eq_true hc
      rw [ih, runs, runs, runsFrom_append_underscore]
    · rfl

/-- Trimming leaves the runs as they are. -/
theorem runs_trim : runs (trim cs) = runs cs := (runs_rdropWhile _).trans (runs_dropWhile cs)

/-- Whether not both of two characters separate the parts of an identifier. -/
def Apart (c d : Char) : Prop := ¬ (isGap c = true ∧ isGap d = true)

/-- In a collapsed text no two separators are adjacent. -/
theorem isChain_collapseFrom (c : Char) (cs : List Char) :
    (collapseFrom c cs).IsChain Apart ∧
      ∀ d ∈ (collapseFrom c cs).head?, isGap d = isGap c := by
  induction cs generalizing c with
  | nil =>
    refine ⟨List.isChain_singleton c, fun d hd => ?_⟩
    obtain rfl := Option.some.inj hd
    rfl
  | cons d rest ih =>
    rw [collapseFrom]
    split
    · rename_i hgaps
      have hc := (Bool.and_eq_true_iff.mp hgaps).1
      obtain ⟨hchain, hhead⟩ := ih '_'
      exact ⟨hchain, fun e he => (hhead e he).trans hc.symm⟩
    · rename_i hgaps
      obtain ⟨hchain, hhead⟩ := ih d
      refine ⟨List.isChain_cons.mpr ⟨fun e he => ?_, hchain⟩, fun e he => ?_⟩
      · rw [Apart, hhead e he]
        simpa using hgaps
      · obtain rfl := Option.some.inj he
        rfl

/-- A text in which no two underscores are adjacent and none stands last is put together from its
runs again, if a run is begun before it or it starts with one. -/
theorem intercalate_runsFrom {run : List Char} (hchars : ∀ c ∈ cs, isSlugChar c = true ∨ c = '_')
    (hchain : cs.IsChain Apart) (hlast : ∀ c ∈ cs.getLast?, c ≠ '_')
    (hbegun : run = [] → ∃ c ∈ cs.head?, isSlugChar c = true) :
    ['_'].intercalate (runsFrom run cs) = run.reverse ++ cs := by
  induction cs generalizing run with
  | nil =>
    cases run with
    | nil => simp at hbegun
    | cons c run => simp [runsFrom, List.intercalate]
  | cons c rest ih =>
    have hrest := fun d hd => hchars d (List.mem_cons_of_mem c hd)
    obtain ⟨hnext, hchain'⟩ := List.isChain_cons.mp hchain
    cases hc : isSlugChar c with
    | true =>
      have hlast : ∀ d ∈ rest.getLast?, d ≠ '_' := fun d hd =>
        hlast d (by rw [List.getLast?_cons, hd]; rfl)
      rw [runsFrom, hc, if_pos rfl, ih hrest hchain' hlast (by simp)]
      simp
    | false =>
      obtain rfl : c = '_' := (hchars c List.mem_cons_self).resolve_left (by simp [hc])
      -- a run is begun, and another one follows the underscore
      have hrun : run ≠ [] := fun h => by simp [hc] at hbegun; exact hbegun h
      cases rest with
      | nil => exact absurd rfl (hlast '_' rfl)
      | cons d rest =>
        have hd : isSlugChar d = true :=
          (hrest d List.mem_cons_self).resolve_right fun hd => hnext d rfl ⟨rfl, by rw [hd]; rfl⟩
        have hlast : ∀ e ∈ (d :: rest).getLast?, e ≠ '_' := fun e he =>
          hlast e (by rw [List.getLast?_cons, he]; rfl)
        have hjoined : ['_'].intercalate (runsFrom [] (d :: rest)) = d :: rest :=
          ih hrest hchain' hlast fun _ => ⟨d, rfl, hd⟩
        rw [runsFrom_cons_of_not_isSlugChar hc, runsFrom, if_neg (by simpa using hrun)]
        cases hruns : runsFrom [] (d :: rest) with
        | nil => simp [hruns] at hjoined
        | cons r rs =>
          rw [hruns] at hjoined
          rw [List.singleton_append, List.intercalate_cons_cons, hjoined]
          simp

/-- Where all but the characters of identifiers is masked, no others come in by collapsing. -/
theorem isSlugChar_of_mem_collapse_mask {c : Char} (h : c ∈ collapse (mask cs)) :
    isSlugChar c = true ∨ c = '_' := by
  have hmask : ∀ c ∈ mask cs, isSlugChar c = true ∨ c = '_' := by
    intro c hc
    obtain ⟨d, -, rfl⟩ := List.mem_map.mp hc
    split
    · rename_i hd
      simpa using hd
    · exact Or.inr rfl
  have hcollapse : ∀ (rest : List Char) (d : Char), c ∈ collapseFrom d rest →
      c ∈ d :: rest ∨ c = '_' := by
    intro rest
    induction rest with
    | nil => exact fun d hc => Or.inl hc
    | cons e rest ih =>
      intro d hc
      rw [collapseFrom] at hc
      split at hc
      · rcases ih '_' hc with hc | hc
        · rcases List.mem_cons.mp hc with hc | hc
          · exact Or.inr hc
          · exact Or.inl (by simp [hc])
        · exact Or.inr hc
      · rcases List.mem_cons.mp hc with rfl | hc
        · exact Or.inl List.mem_cons_self
        · exact (ih e hc).imp_left (List.mem_cons_of_mem d)
  cases hcs : mask cs with
  | nil =>
    rw [hcs] at h
    cases h
  | cons d rest =>
    rw [hcs] at h
    rcases hcollapse rest d h with h | h
    · exact hmask c (hcs ▸ h)
    · exact Or.inr h

/-- **What masking, collapsing and trimming come to**: the runs, joined by single underscores. -/
theorem trim_collapse_mask (cs : List Char) :
    trim (collapse (mask cs)) = ['_'].intercalate (runs cs) := by
  have hruns : runs (trim (collapse (mask cs))) = runs cs := by
    rw [runs_trim, runs_collapse, runs, runsFrom_mask]
    rfl
  have hpart : trim (collapse (mask cs)) <:+: collapse (mask cs) :=
    (List.rdropWhile_prefix _ _).isInfix.trans (List.dropWhile_suffix _).isInfix
  have hchars : ∀ c ∈ trim (collapse (mask cs)), isSlugChar c = true ∨ c = '_' := fun c hc =>
    isSlugChar_of_mem_collapse_mask (hpart.subset hc)
  have hchain : (trim (collapse (mask cs))).IsChain Apart := by
    refine List.IsChain.infix ?_ hpart
    cases mask cs with
    | nil => exact List.isChain_nil
    | cons c rest => exact (isChain_collapseFrom c rest).1
  obtain ⟨hfirst, hlast⟩ := Text.ends_trimWhile (· = '_') (collapse (mask cs))
  rw [← hruns]
  cases htrim : trim (collapse (mask cs)) with
  | nil => rfl
  | cons c rest =>
    rw [htrim] at hchars hchain
    change Text.trimWhile _ _ = _ at htrim
    rw [htrim] at hfirst hlast
    have hjoined : ['_'].intercalate (runsFrom [] (c :: rest)) = c :: rest := by
      refine intercalate_runsFrom hchars hchain ?_ fun _ => ⟨c, rfl, ?_⟩
      · exact fun d hd => of_decide_eq_false (hlast d hd)
      · exact (hchars c List.mem_cons_self).resolve_right (of_decide_eq_false (hfirst c rfl))
    exact hjoined.symm

/-! ## Without the leading number -/

/-- Runs without the digits that the first one starts with.  If it has nothing else it is left
out, and the next one stays as it is. -/
def withoutNumber : List (List Char) → List (List Char)
  | [] => []
  | r :: rs =>
    let letters := r.dropWhile isDecimal
    if letters.isEmpty then rs else letters :: rs

theorem isRun_of_mem_withoutNumber {rs : List (List Char)} (h : ∀ r ∈ rs, IsRun r) :
    ∀ r ∈ withoutNumber rs, IsRun r := by
  cases rs with
  | nil => exact nofun
  | cons r rs =>
    have hrest : ∀ r' ∈ rs, IsRun r' := fun r' hr' => h r' (by simp [hr'])
    rw [withoutNumber]
    split
    · exact hrest
    · rename_i hletters
      intro r' hr'
      rcases List.mem_cons.mp hr' with rfl | hr'
      · exact ⟨by simpa using hletters,
          fun c hc => (h r (by simp)).isSlugChar c ((List.dropWhile_sublist _).mem hc)⟩
      · exact hrest r' hr'

/-- **What becomes of what the slugifier gives**: its runs are joined, without the number that they
start with. -/
theorem ofSlugified_eq (cs : List Char) :
    ofSlugified cs = ['_'].intercalate (withoutNumber (runs cs)) := by
  have hruns : ∀ r ∈ runs cs, IsRun r := fun r hr => isRun_of_mem_runs hr
  rw [ofSlugified, trim_collapse_mask]
  generalize runs cs = rs at hruns
  have hkept := trimWhile_intercalate (isRun_of_mem_withoutNumber hruns)
  rw [← hkept, trim]
  cases rs with
  | nil => rfl
  | cons r rs =>
    cases rs with
    | nil =>
      rw [List.intercalate_singleton, withoutNumber]
      split
      · rename_i hletters
        rw [List.isEmpty_iff.mp hletters]
        rfl
      · rw [List.intercalate_singleton]
    | cons r' rs =>
      have hjoined : (['_'].intercalate (r :: r' :: rs)).dropWhile isDecimal =
          if (r.dropWhile isDecimal).isEmpty then '_' :: ['_'].intercalate (r' :: rs)
          else ['_'].intercalate (r.dropWhile isDecimal :: r' :: rs) := by
        rw [List.intercalate_cons_cons, List.append_assoc, List.dropWhile_append,
          List.intercalate_cons_cons, List.append_assoc]
        rfl
      rw [hjoined, withoutNumber]
      split
      · -- the underscore behind the number is trimmed
        rfl
      · rfl

/-- **The shape of a slug**: runs joined by single underscores, whatever the slugifier gives. -/
theorem isJoined_ofText [Slugifier] (s : String) : IsJoined (ofText s).toList := by
  rw [ofText]
  split
  · exact ⟨[], nofun, rfl⟩
  · rw [String.toList_ofList, ofSlugified_eq]
    exact ⟨_, isRun_of_mem_withoutNumber fun r hr => isRun_of_mem_runs hr, rfl⟩

/-! ## The characters of slugs -/

/-- Whether a text consists of lower-case letters, digits and underscores. -/
def IsName (s : String) : Prop := ∀ c ∈ s.toList, isSlugChar c ∨ c = '_'

/-- What consists of joined runs can be a name. -/
theorem isName_of_isJoined {s : String} (h : IsJoined s.toList) : IsName s := by
  obtain ⟨rs, hrs, hs⟩ := h
  intro c hc
  rw [hs] at hc
  rcases Text.mem_intercalate hc with hc | ⟨r, hr, hc⟩
  · exact Or.inr hc
  · exact Or.inl ((hrs r hr).isSlugChar c hc)

/-- A slug consists of lower-case letters, digits and underscores. -/
theorem isName_ofText [Slugifier] (s : String) : IsName (ofText s) :=
  isName_of_isJoined (isJoined_ofText s)

end Slug

/-- A slugifier for labels in ASCII: their runs in lower case, with dashes between them. -/
abbrev Slugifier.ascii : Slugifier where
  slugify s := String.ofList (['-'].intercalate (Slug.runs (s.toList.map Char.toLower)))

end StructuredData
