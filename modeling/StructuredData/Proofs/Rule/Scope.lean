import StructuredData.Proofs.Text.Cut
import StructuredData.Rule.Match

/-!
# Rules for a post type

For a post type there are rules for single posts, for its archive and for the terms of taxonomies.
What they come to on a page is what they are for, but for one post type: of a rule for pages nothing
is read behind `page|all` (`Rule.applies_token`).
-/

namespace StructuredData.Rule

/-- The first parts of rules that are not about a post type. -/
def heads : List String :=
  ["basic-global", "basic-singulars", "basic-archives", "special-404", "special-search",
    "special-blog", "special-front", "special-date", "special-author", "special-woo-shop",
    "product-type"]

/-- Whether a text can be a part of a rule. -/
structure IsPart (n : String) : Prop where
  ne_empty : n ≠ ""
  not_mem : '|' ∉ n.toList
  strip_eq : Text.strip n = n

/-- What a rule for a post type can be for. -/
inductive Scope where
  | posts
  | archive
  | terms (taxonomy : String)
  deriving DecidableEq

namespace Scope

/-- What the rule for a post type is for on a page. -/
def shows (ctx : PageContext) (n : String) : Scope → Bool
  | posts => ctx.showsOne n
  | archive => ctx.showsArchive n
  | terms taxonomy => ctx.showsTermOf taxonomy

/-- The rule for a post type as it is written. -/
def token (n : String) : Scope → String
  | posts => n ++ "|all"
  | archive => n ++ "|all|archive"
  | terms taxonomy => n ++ "|all|taxarchive|" ++ taxonomy

/-- The parts of a rule behind `all`. -/
def selectors : Scope → List String
  | posts => []
  | archive => ["archive"]
  | terms taxonomy => "taxarchive" :: Text.cut '|' taxonomy

/-- Whether the taxonomy of a scope, if it has one, can be a part of a rule. -/
def IsWritten : Scope → Prop
  | terms taxonomy => IsPart taxonomy
  | _ => True

variable {n n' : String} {k k' : Scope}

/-- The token for a post type and a scope is cut into its name and the selectors. -/
theorem cut_token (h : '|' ∉ n.toList) : Text.cut '|' (k.token n) = n :: "all" :: k.selectors := by
  cases k with
  | posts =>
    have htoken : token n posts = n ++ String.singleton '|' ++ "all" := by
      rw [token, String.append_assoc]
      rfl
    rw [htoken, Text.cut_append h, Text.cut_of_not_mem (by decide)]
    rfl
  | archive =>
    have htoken : token n archive =
        n ++ String.singleton '|' ++ ("all" ++ String.singleton '|' ++ "archive") := by
      rw [token, String.append_assoc]
      rfl
    rw [htoken, Text.cut_append h, Text.cut_append (by decide), Text.cut_of_not_mem (by decide)]
    rfl
  | terms taxonomy =>
    have htoken : token n (terms taxonomy) = n ++ String.singleton '|' ++
        ("all" ++ String.singleton '|' ++ ("taxarchive" ++ String.singleton '|' ++ taxonomy)) := by
      rw [← String.toList_inj]
      simp [token]
    rw [htoken, Text.cut_append h, Text.cut_append (by decide), Text.cut_append (by decide)]
    rfl

/-- Rules of different post types or scopes are written differently. -/
theorem token_inj (h : '|' ∉ n.toList) (h' : '|' ∉ n'.toList) :
    k.token n = k'.token n' ↔ n = n' ∧ k = k' := by
  constructor
  · intro heq
    have hcut := congrArg (Text.cut '|') heq
    rw [cut_token h, cut_token h'] at hcut
    obtain ⟨rfl, hrest⟩ := List.cons.inj hcut
    refine ⟨rfl, ?_⟩
    -- what stands behind `all` tells the scopes apart; of one taxonomy the text itself is left
    have hsel : k.selectors = k'.selectors := (List.cons.inj hrest).2
    cases k <;> cases k' <;> simp_all [selectors, token]
  · rintro ⟨rfl, rfl⟩
    rfl

/-- There are no blanks around it. -/
theorem strip_token (hn : IsPart n) (hk : k.IsWritten) : Text.strip (k.token n) = k.token n := by
  cases k with
  | posts =>
    have htoken : token n posts = n ++ "|" ++ "all" := by
      rw [token, String.append_assoc]
      rfl
    rw [htoken]
    exact Text.strip_append hn.strip_eq (by decide) hn.ne_empty (by decide) _
  | archive =>
    have htoken : token n archive = n ++ "|all|" ++ "archive" := by
      rw [token, String.append_assoc]
      rfl
    rw [htoken]
    exact Text.strip_append hn.strip_eq (by decide) hn.ne_empty (by decide) _
  | terms taxonomy => exact Text.strip_append hn.strip_eq hk.strip_eq hn.ne_empty hk.ne_empty _

end Scope

open Scope

variable {n : String} {k : Scope} {ctx : PageContext}

/-- A rule that starts like none of the other kinds is about a post type, and what it says stands
behind the name. -/
theorem ofParts_eq_ofSelectors (hhead : n ∉ heads) (hpage : n ≠ "page") (selectors : List String) :
    ofParts (n :: selectors) = ofSelectors n selectors := by
  simp only [heads, List.mem_cons, List.not_mem_nil, or_false, not_or] at hhead
  unfold ofParts
  split <;> simp_all

/-- Behind `page|all` nothing is read. -/
theorem ofParts_all (hhead : n ∉ heads) (selectors : List String) :
    ofParts (n :: "all" :: selectors) =
      if n = "page" then onPost "page" else ofSelectors n ("all" :: selectors) := by
  by_cases hpage : n = "page"
  · subst hpage
    rfl
  · rw [if_neg hpage, ofParts_eq_ofSelectors hhead hpage]

/-- **What a rule for a post type comes to.**  It is the case where what it is for is shown, except
that all rules for the post type `page` are the case on single pages. -/
theorem applies_token (hn : IsPart n) (hhead : n ∉ heads) (hk : k.IsWritten)
    (hknown : isKnown ctx n = true) :
    applies ctx (.text (k.token n)) =
      .ok (if n = "page" then ctx.showsOne n else k.shows ctx n) := by
  rw [applies, ofToken, strip_token hn hk, cut_token hn.not_mem, ofParts_all hhead]
  by_cases hpage : n = "page"
  · rw [if_pos hpage, if_pos hpage, hpage]
    rfl
  · rw [if_neg hpage, if_neg hpage]
    cases k with
    | posts => simp [selectors, ofSelectors, holds, hknown, shows]
    | archive => simp [selectors, ofSelectors, holds, hknown, shows]
    | terms taxonomy =>
      have hcut : Text.cut '|' taxonomy = [taxonomy] := Text.cut_of_not_mem hk.not_mem
      simp [selectors, hcut, ofSelectors, hk.ne_empty, holds, hknown, shows]

end StructuredData.Rule
