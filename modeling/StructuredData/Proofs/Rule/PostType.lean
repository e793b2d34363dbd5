import StructuredData.Proofs.Rule.Scope

/-!
# The grammar of rules for a post type

A rule is read by its first part.  If this is the name of a post type that the site knows, the parts
behind it say of which pages the rule holds; if it is no name of that kind and starts no other rule,
the rule holds nowhere (`Rule.applies_postType`).
-/

namespace StructuredData

/-- Whether a check comes to an answer, which is yes if and only if something is the case. -/
def Decides (answer : Except Fault Bool) (p : Prop) : Prop :=
  ∃ b, answer = .ok b ∧ (b = true ↔ p)

/-- An answer that decides what is the case is positive. -/
theorem Decides.eq_true {answer : Except Fault Bool} {p : Prop} (h : Decides answer p) (hp : p) :
    answer = .ok true := by
  obtain ⟨b, hb, hiff⟩ := h
  rw [hb, hiff.mpr hp]

/-- An answer that decides what is not the case is negative. -/
theorem Decides.eq_false {answer : Except Fault Bool} {p : Prop} (h : Decides answer p)
    (hp : ¬ p) : answer = .ok false := by
  obtain ⟨b, hb, hiff⟩ := h
  rw [hb, Bool.eq_false_iff.mpr fun hb => hp (hiff.mp hb)]

namespace PageContext

variable {ctx : PageContext} {n : String}

/-- A page shows a post of a type if it is a single page of the type. -/
theorem showsOne_iff :
    ctx.showsOne n = true ↔ ctx.page.kind = .singular ∧ ctx.page.postType = .text n := by
  simp [showsOne, Page.isSingular, Value.isText_iff]

/-- A page shows the archive of a type if it is an archive of the type. -/
theorem showsArchive_iff :
    ctx.showsArchive n = true ↔
      ctx.page.kind = .postTypeArchive ∧ ctx.page.postType = .text n := by
  simp [showsArchive, Value.isText_iff]

/-- A page shows a term of a taxonomy if it is an archive of one. -/
theorem showsTermOf_iff :
    ctx.showsTermOf n = true ↔ ctx.page.kind = .termArchive ∧ ctx.page.taxonomy = .text n := by
  simp [showsTermOf, Value.isText_iff]

end PageContext

namespace Rule

variable {ctx : PageContext} {n token : String} {selectors : List String}

/-- A name is known if it is one of the two that always are or of a post type of the site. -/
theorem isKnown_iff :
    isKnown ctx n = true ↔ n = "post" ∨ n = "product" ∨ Scalar.text n ∈ ctx.postTypes := by
  simp [isKnown, or_assoc, List.contains_iff_exists_mem_beq, Scalar.text_beq_iff]

/-- What stands behind the name of a post type that the site does not know does not matter. -/
theorem holds_ofSelectors_of_not_known (h : isKnown ctx n = false) (selectors : List String) :
    (ofSelectors n selectors).holds ctx = false := by
  unfold ofSelectors
  split <;> (try split) <;> simp [holds, h]

/-- A rule whose first part starts none of the other kinds says what stands behind this part. -/
theorem applies_of_cut (hcut : Text.cut '|' (Text.strip token) = n :: selectors)
    (hhead : n ∉ heads) (hpage : n ≠ "page") :
    applies ctx (.text token) = .ok ((ofSelectors n selectors).holds ctx) := by
  rw [applies, ofToken, hcut, ofParts_eq_ofSelectors hhead hpage]

/-- A rule with such a first part is false if the site does not know a post type of this name. -/
theorem applies_eq_false (hfirst : (Text.cut '|' (Text.strip token)).head? = some n)
    (hhead : n ∉ heads) (hpage : n ≠ "page") (hunknown : isKnown ctx n = false) :
    applies ctx (.text token) = .ok false := by
  obtain ⟨selectors, hcut⟩ := List.head?_eq_some_iff.mp hfirst
  rw [applies_of_cut hcut hhead hpage, holds_ofSelectors_of_not_known hunknown]

section Written

variable (hbar : '|' ∉ n.toList) (hstrip : Text.strip n = n) (hhead : n ∉ heads)
  (hpage : n ≠ "page")

include hbar hstrip hhead hpage

/-- What a rule says is read off the text behind the name of the post type, without the blanks at
its end. -/
theorem applies_append (tail behind : String)
    (htail : tail = String.singleton '|' ++ behind) :
    applies ctx (.text (n ++ tail)) =
      .ok ((ofSelectors n (Text.cut '|' (Text.stripEnd behind))).holds ctx) := by
  refine applies_of_cut ?_ hhead hpage
  rw [htail, ← String.append_assoc, Text.strip_append_singleton (by decide) hstrip,
    Text.cut_append hbar]

variable (hknown : isKnown ctx n = true)

include hknown

/-- The rule for the posts of a type applies to pages that show one of them. -/
theorem applies_all : applies ctx (.text (n ++ "|all")) = .ok (ctx.showsOne n) := by
  have hcut : Text.cut '|' (Text.stripEnd "all") = ["all"] := by decide
  rw [applies_append hbar hstrip hhead hpage "|all" "all" rfl, hcut, ofSelectors, holds, hknown,
    Bool.true_and]

/-- The rule for the archive of a type applies to its archive. -/
theorem applies_archive : applies ctx (.text (n ++ "|archive")) = .ok (ctx.showsArchive n) := by
  have hcut : Text.cut '|' (Text.stripEnd "archive") = ["archive"] := by decide
  rw [applies_append hbar hstrip hhead hpage "|archive" "archive" rfl, hcut, ofSelectors, holds,
    hknown, Bool.true_and]

/-- So does the longer form of that rule. -/
theorem applies_all_archive :
    applies ctx (.text (n ++ "|all|archive")) = .ok (ctx.showsArchive n) := by
  have hcut : Text.cut '|' (Text.stripEnd "all|archive") = ["all", "archive"] := by decide
  rw [applies_append hbar hstrip hhead hpage "|all|archive" "all|archive" rfl, hcut, ofSelectors,
    holds, hknown, Bool.true_and]

/-- The rule for the archives of a taxonomy applies to those of its terms. -/
theorem applies_taxarchive {taxonomy : String} (hne : taxonomy ≠ "")
    (hplain : '|' ∉ taxonomy.toList) (hend : Text.stripEnd taxonomy = taxonomy) :
    applies ctx (.text (n ++ "|all|taxarchive|" ++ taxonomy)) =
      .ok (ctx.showsTermOf taxonomy) := by
  -- the taxonomy may start with a blank, for behind the name only the end is stripped
  let behind := "all" ++ String.singleton '|' ++
    ("taxarchive" ++ String.singleton '|' ++ taxonomy)
  have htail : "|all|taxarchive|" ++ taxonomy = String.singleton '|' ++ behind := by
    rw [← String.toList_inj]
    simp [behind]
  have hcut : Text.cut '|' (Text.stripEnd behind) = ["all", "taxarchive", taxonomy] := by
    rw [Text.stripEnd_append_singleton (by decide), Text.stripEnd_append_singleton (by decide),
      hend, Text.cut_append (by decide), Text.cut_append (by decide), Text.cut_of_not_mem hplain]
  rw [String.append_assoc, applies_append hbar hstrip hhead hpage _ behind htail, hcut, ofSelectors,
    if_neg hne, holds, hknown, Bool.true_and]

end Written

/-- **Rules for a post type mean what the grammar says.**  For a name that starts no other kind of
rule, the rules for single posts, for the archive and for the terms of a taxonomy hold exactly on
the pages that they are for if the site knows the post type, and every rule that starts with the
name is false if not.  So a rule is false on every page if its first part starts no other kind of
rule and is no post type of the site. -/
theorem applies_postType (ctx : PageContext) :
    (∀ n : String, '|' ∉ n.toList → Text.strip n = n → n ∉ heads → n ≠ "page" →
      ((n = "post" ∨ n = "product" ∨ Scalar.text n ∈ ctx.postTypes) →
        Decides (applies ctx (.text (n ++ "|all")))
          (ctx.page.kind = .singular ∧ ctx.page.postType = .text n) ∧
        Decides (applies ctx (.text (n ++ "|archive")))
          (ctx.page.kind = .postTypeArchive ∧ ctx.page.postType = .text n) ∧
        Decides (applies ctx (.text (n ++ "|all|archive")))
          (ctx.page.kind = .postTypeArchive ∧ ctx.page.postType = .text n) ∧
        ∀ taxonomy : String, taxonomy ≠ "" → '|' ∉ taxonomy.toList →
          Text.stripEnd taxonomy = taxonomy →
          Decides (applies ctx (.text (n ++ "|all|taxarchive|" ++ taxonomy)))
            (ctx.page.kind = .termArchive ∧ ctx.page.taxonomy = .text taxonomy)) ∧
      (¬ (n = "post" ∨ n = "product" ∨ Scalar.text n ∈ ctx.postTypes) →
        ∀ token, (Text.cut '|' token).head? = some n →
          applies ctx (.text token) = .ok false)) ∧
    ∀ token n : String, (Text.cut '|' (Text.strip token)).head? = some n →
      n ∉ heads ++ ["page", "post", "product"] → Scalar.text n ∉ ctx.postTypes →
      applies ctx (.text token) = .ok false := by
  constructor
  · intro n hbar hstrip hhead hpage
    rw [← isKnown_iff]
    constructor
    · intro hknown
      refine ⟨⟨_, applies_all hbar hstrip hhead hpage hknown, ctx.showsOne_iff⟩,
        ⟨_, applies_archive hbar hstrip hhead hpage hknown, ctx.showsArchive_iff⟩,
        ⟨_, applies_all_archive hbar hstrip hhead hpage hknown, ctx.showsArchive_iff⟩, ?_⟩
      intro taxonomy hne hplain hend
      exact ⟨_, applies_taxarchive hbar hstrip hhead hpage hknown hne hplain hend,
        ctx.showsTermOf_iff⟩
    · intro hunknown token hfirst
      exact applies_eq_false (Text.head?_cut_strip (by decide) hstrip hfirst) hhead hpage
        (by simpa using hunknown)
  · intro token n hfirst hhead hlisted
    simp only [List.mem_append, List.mem_cons, List.not_mem_nil, or_false, not_or] at hhead
    obtain ⟨hhead, hpage, hpost, hproduct⟩ := hhead
    refine applies_eq_false hfirst hhead hpage ?_
    rw [← Bool.not_eq_true, isKnown_iff]
    simp [hpost, hproduct, hlisted]

/-- A post type that is the start of the name of another one, and a taxonomy that starts with a
blank. -/
theorem applies_postType_of_event :
    let ctx : PageContext :=
      { page := { kind := .termArchive, taxonomy := " genre" }, postTypes := ["event"] }
    applies ctx (.text "event|all|taxarchive| genre") = .ok true ∧
      applies ctx (.text "events|all|taxarchive| genre") = .ok false ∧
      applies ctx (.text " basic|all ") = .ok false := by
  intro ctx
  obtain ⟨hnamed, hother⟩ := applies_postType ctx
  obtain ⟨hknown, -⟩ := hnamed "event" (by decide) (by decide) (by decide) (by decide)
  obtain ⟨-, hunknown⟩ := hnamed "events" (by decide) (by decide) (by decide) (by decide)
  obtain ⟨-, -, -, hterms⟩ := hknown (.inr (.inr (List.mem_singleton.mpr rfl)))
  have hgenre := hterms " genre" (by decide) (by decide) (by decide)
  refine ⟨hgenre.eq_true ⟨rfl, rfl⟩, hunknown ?_ _ (by decide),
    hother _ "basic" (by decide) (by decide) ?_⟩
  · simp [ctx]
  · simp [ctx]

end Rule

end StructuredData
