import StructuredData.Proofs.Rule.Groups
import StructuredData.Proofs.Rule.Scope

/-!
# Choosing and matching

The rules that are offered for a post type are told by its records and the taxonomies, and on every
page of the site a rule that is offered comes to what it is offered for.  The exception are rules
for the archives of the post type `page`: they are offered where its label is not “Pages” or a
taxonomy belongs to it, and come to what `page|all` does (`RuleOptions.offered_agree`).
-/

namespace StructuredData.RuleOptions

open Rule

/-! ## The rules for a post type -/

variable {c : Consider} {s : Source} {t : PostType} {taxonomies : List Taxonomy} {n : String}

/-- Whether a choice narrowed to `c` has a rule for a post type with a label. -/
def IsMade (c : Consider) (s : Source) (t : PostType) (label : String) : Scope → Prop
  | .posts => c ≠ .archive
  | .archive => c ≠ .single ∧ groupKey label ≠ "pages"
  | .terms taxonomy =>
    c ≠ .single ∧ taxonomy ∉ hiddenTaxonomies ∧
      ∃ x ∈ s.taxonomies, x.name = .text taxonomy ∧ belongs t x = .ok true

/-- The rules that are made for a post type are those of its scopes, if the taxonomies are those
that are offered. -/
theorem makes_iff_isMade (hn : t.name = .text n) (htaxonomies : ∀ x, x ∈ taxonomies ↔
      x ∈ s.taxonomies ∧ ∃ m, x.name = .text m ∧ m ∉ hiddenTaxonomies) (label token : String) :
    Makes c taxonomies t label token ↔
      ∃ k : Scope, IsMade c s t label k ∧ k.token n = token := by
  have hname : t.name.toText = n := by
    rw [hn]
    rfl
  rw [Makes, hname]
  constructor
  · rintro (⟨hc, rfl⟩ | ⟨hc, hpages, rfl⟩ | ⟨hc, x, hx, hbelongs, rfl⟩)
    · exact ⟨.posts, hc, rfl⟩
    · exact ⟨.archive, ⟨hc, hpages⟩, rfl⟩
    · obtain ⟨hx, m, hm, hoffered⟩ := (htaxonomies x).mp hx
      refine ⟨.terms m, ⟨hc, hoffered, x, hx, hm, hbelongs⟩, ?_⟩
      rw [hm]
      rfl
  · rintro ⟨k, hmade, rfl⟩
    cases k with
    | posts => exact Or.inl ⟨hmade, rfl⟩
    | archive => exact Or.inr (Or.inl ⟨hmade.1, hmade.2, rfl⟩)
    | terms m =>
      obtain ⟨hc, hoffered, x, hx, hm, hbelongs⟩ := hmade
      refine Or.inr (Or.inr ⟨hc, x, (htaxonomies x).mpr ⟨hx, m, hm, hoffered⟩, hbelongs, ?_⟩)
      rw [hm]
      rfl

/-! ## Other rules -/

/-- Whether the first part of a rule is one of those that are no post types. -/
def HasHead (token : String) : Prop := ∃ head ∈ heads, ∃ rest, Text.cut '|' token = head :: rest

theorem hasHead_of_contains {rules : Fields} (h : ∀ e ∈ rules, ∃ head ∈ heads, e.1 = .text head)
    {token : String} (htoken : Assoc.contains (.text token) rules = true) : HasHead token := by
  obtain ⟨e, he, hkey⟩ := List.any_eq_true.mp htoken
  obtain ⟨head, hhead, hfirst⟩ := h e he
  have hbar : ∀ head ∈ heads, '|' ∉ head.toList := by decide
  rw [Scalar.text_beq_iff, hfirst] at hkey
  obtain rfl := Scalar.text.inj hkey
  exact ⟨head, hhead, [], Text.cut_of_not_mem (hbar head hhead)⟩

/-- A rule that is offered without being made for a post type starts like none of those. -/
theorem hasHead_of_fixedRules {products : Fields} (hproducts : productRules s = .ok products)
    {token : String} (h : Assoc.contains (.text token) (fixedRules c s products) = true) :
    HasHead token := by
  rcases contains_fixedRules_iff.mp h with hbasic | ⟨-, hspecial⟩ | hproduct
  · refine hasHead_of_contains ?_ hbasic
    cases c <;> simp [basic, heads]
  · refine hasHead_of_contains ?_ hspecial
    cases s.sells <;> simp [special, commonSpecial, Assoc.set, heads, Scalar.text_beq_iff]
  · obtain ⟨-, types, -, e, -, rfl⟩ := (contains_productRules_iff hproducts).mp hproduct
    have hbar : "product-type|" = "product-type" ++ String.singleton '|' := rfl
    refine ⟨"product-type", by decide, Text.cut '|' e.1.plainText, ?_⟩
    rw [hbar, Text.cut_append (by decide)]

/-! ## All rules -/

/-- Whether all names of post types and taxonomies can be parts of rules, and no post type is named
like a rule of another kind. -/
structure WellNamed (s : Source) : Prop where
  postTypes : ∀ t ∈ s.postTypes, ∃ n, t.name = .text n ∧ IsPart n ∧ n ∉ heads
  taxonomies : ∀ x ∈ s.taxonomies, ∃ m, x.name = .text m ∧ IsPart m

/-- A rule that is made for a post type can be written. -/
theorem isWritten_of_isMade {label : String} {k : Scope} (hs : WellNamed s)
    (h : IsMade c s t label k) : k.IsWritten := by
  cases k with
  | terms taxonomy =>
    obtain ⟨-, -, x, hx, hname, -⟩ := h
    obtain ⟨m, hm, hpart⟩ := hs.taxonomies x hx
    rw [hname] at hm
    cases hm
    exact hpart
  | posts => trivial
  | archive => trivial

/-- A post type is offered unless it is one of those that are hidden. -/
theorem isOffered_text_iff {hidden : List String} {m : String} :
    isOffered hidden (.text m) = .ok true ↔ m ∉ hidden := by
  show Except.ok (!hidden.any fun s => Scalar.text s == Scalar.text m) = .ok true ↔ _
  simp only [Except.ok.injEq, Bool.not_eq_true', List.any_eq_false, Scalar.text_beq_iff,
    Scalar.text.injEq]
  exact ⟨fun h hm => h m hm rfl, fun h s hs hm => h (hm ▸ hs)⟩

/-- The taxonomies that are offered are those that do not have one of the hidden names. -/
theorem mem_offered_iff (hs : WellNamed s) {taxonomies : List Taxonomy}
    (h : s.taxonomies.filterM (fun x => isOffered hiddenTaxonomies x.name) = .ok taxonomies)
    (x : Taxonomy) : x ∈ taxonomies ↔
      x ∈ s.taxonomies ∧ ∃ m, x.name = .text m ∧ m ∉ hiddenTaxonomies := by
  rw [mem_filterM_iff h]
  apply and_congr_right
  intro hx
  obtain ⟨m, hm, -⟩ := hs.taxonomies x hx
  rw [hm, isOffered_text_iff]
  constructor
  · intro hoffered
    exact ⟨m, rfl, hoffered⟩
  · rintro ⟨m', ⟨⟩, hoffered⟩
    exact hoffered

/-- The rules for a post type with a name of its own have no other head. -/
theorem not_hasHead_token {k : Scope} (hn : '|' ∉ n.toList) (hhead : n ∉ heads) :
    ¬ HasHead (k.token n) := by
  rintro ⟨head, hmem, rest, hcut⟩
  rw [Scope.cut_token hn] at hcut
  exact hhead ((List.cons.inj hcut).1 ▸ hmem)

/-- They are not the one for specifics. -/
theorem token_ne_specifics {k : Scope} (hn : '|' ∉ n.toList) : k.token n ≠ "specifics" := by
  intro h
  have hcut := congrArg (Text.cut '|') h
  rw [Scope.cut_token hn, Text.cut_of_not_mem (by decide)] at hcut
  cases (List.cons.inj hcut).2

/-- A rule with the name of a post type is made for this post type. -/
theorem makes_token_iff {label : String} {k : Scope} (hs : WellNamed s) (ht : t ∈ s.postTypes)
    (hn : '|' ∉ n.toList) (htaxonomies : ∀ x, x ∈ taxonomies ↔
      x ∈ s.taxonomies ∧ ∃ m, x.name = .text m ∧ m ∉ hiddenTaxonomies) :
    Makes c taxonomies t label (k.token n) ↔ t.name = .text n ∧ IsMade c s t label k := by
  obtain ⟨m, hm, hpart, -⟩ := hs.postTypes t ht
  rw [makes_iff_isMade hm htaxonomies, hm]
  constructor
  · rintro ⟨k', hmade, htoken⟩
    obtain ⟨rfl, rfl⟩ := (Scope.token_inj hpart.not_mem hn).mp htoken
    exact ⟨rfl, hmade⟩
  · rintro ⟨⟨⟩, hmade⟩
    exact ⟨k, hmade, rfl⟩

variable {gs : List (String × Group)}

/-- **Which rules are offered.**  A rule for a post type is offered if and only if it is made for
some record of the post type; only the group of one label gives way to the one for specifics. -/
theorem offers_iff (hs : WellNamed s) (hgs : groups s c = .ok gs) (hn : '|' ∉ n.toList)
    (hhead : n ∉ heads) (k : Scope) :
    Offers gs (k.token n) ↔ n ∉ hiddenPostTypes ∧ ∃ t ∈ s.postTypes, t.name = .text n ∧
      ∃ label, t.label = .text label ∧ groupKey label ≠ "specific-target" ∧
        IsMade c s t label k := by
  obtain ⟨products, postTypes, taxonomies, offered, hparts, hoffered⟩ := exists_of_groups hgs
  obtain rfl := Except.ok.inj ((groups_eq_assembled hparts hoffered).symm.trans hgs)
  have htaxonomies := mem_offered_iff hs hparts.taxonomies
  rw [offers_assembled_iff hoffered]
  constructor
  · rintro (hfixed | hspecifics | ⟨t, ht, label, hlabel, hkey, hmakes⟩)
    · exact absurd (hasHead_of_fixedRules hparts.products hfixed) (not_hasHead_token hn hhead)
    · exact absurd hspecifics (token_ne_specifics hn)
    · obtain ⟨ht, hvisible⟩ := (mem_filterM_iff hparts.postTypes t).mp ht
      obtain ⟨hname, hmade⟩ := (makes_token_iff hs ht hn htaxonomies).mp hmakes
      rw [hname, isOffered_text_iff] at hvisible
      exact ⟨hvisible, t, ht, hname, label, hlabel, hkey, hmade⟩
  · rintro ⟨hvisible, t, ht, hname, label, hlabel, hkey, hmade⟩
    -- a post type with this name that is not hidden has a group
    have hmem : t ∈ postTypes := by
      rw [mem_filterM_iff hparts.postTypes, hname, isOffered_text_iff]
      exact ⟨ht, hvisible⟩
    have hmakes := (makes_token_iff hs ht hn htaxonomies).mpr ⟨hname, hmade⟩
    exact Or.inr (Or.inr ⟨t, hmem, label, hlabel, hkey, hmakes⟩)

/-! ## What rules come to -/

/-- Whether the post types that rules may speak of in a context are those of a site. -/
def IsContextOf (s : Source) (ctx : PageContext) : Prop :=
  ∀ m, ctx.postTypes.contains (.text m) = true ↔ ∃ t ∈ s.postTypes, t.name = .text m

/-- Post types with names have a table. -/
theorem exists_postTypeTable (hs : WellNamed s) : ∃ table, s.postTypeTable = .ok table := by
  obtain ⟨pairs, hpairs⟩ : ∃ pairs : List (Scalar × PostType),
      s.postTypes.mapM (fun t => do return (← t.name.key, t)) = .ok pairs := by
    apply exists_mapM_eq_ok
    intro t ht
    obtain ⟨n, hn, -⟩ := hs.postTypes t ht
    refine ⟨(.text n, t), ?_⟩
    rw [hn]
    rfl
  refine ⟨Assoc.ofPairs pairs, ?_⟩
  rw [Source.postTypeTable, Source.byName, hpairs]
  rfl

/-- The table has the names of the post types. -/
theorem contains_postTypeTable_iff {table : List (Scalar × PostType)}
    (h : s.postTypeTable = .ok table) (m : String) :
    (table.map Prod.fst).contains (.text m) = true ↔ ∃ t ∈ s.postTypes, t.name = .text m := by
  obtain ⟨pairs, hpairs, h⟩ := exists_of_bind_eq_ok h
  cases h
  obtain ⟨hfrom, hto⟩ := mem_of_mapM_eq_ok hpairs
  have hkeys : (Assoc.keys (Assoc.ofPairs pairs)).contains (.text m) =
      Assoc.contains (.text m) pairs := by
    rw [← Assoc.contains_ofPairs, Bool.eq_iff_iff, List.contains_iff_exists_mem_beq,
      Assoc.contains, List.any_eq_true]
    simp [Assoc.keys]
  change (Assoc.keys (Assoc.ofPairs pairs)).contains (.text m) = true ↔ _
  rw [hkeys, Assoc.contains, List.any_eq_true]
  constructor
  · rintro ⟨e, he, hkey⟩
    obtain ⟨t, ht, hpair⟩ := hfrom e he
    obtain ⟨key, hname, hpair⟩ := exists_of_bind_eq_ok hpair
    cases hpair
    -- a name that is a key is a scalar, and this one is the text
    refine ⟨t, ht, ?_⟩
    obtain rfl : key = .text m := (Scalar.text_beq_iff _ _).mp hkey
    cases hcase : t.name with
    | scalar a =>
      rw [hcase] at hname
      cases hname
      rfl
    | list items => simp [hcase, Value.key] at hname
    | object fields => simp [hcase, Value.key] at hname
  · rintro ⟨t, ht, hname⟩
    obtain ⟨e, he, hpair⟩ := hto t ht
    rw [hname] at hpair
    cases hpair
    exact ⟨_, he, BEq.rfl⟩

/-- The context of a page of a site is one of the site. -/
theorem isContextOf_of_pageContext {page : Page} {ctx : PageContext}
    (h : s.pageContext page = .ok ctx) : IsContextOf s ctx := by
  obtain ⟨table, htable, hnames⟩ :
      ∃ table, s.postTypeTable = .ok table ∧ ctx.postTypes = table.map Prod.fst := by
    -- whatever is known of the post shown, the post types come last
    have hlast : ∀ (postTerms : Fields) (productType : Option Value),
        (s.postTypeTable >>= fun table => .ok
          { page := page, postTerms := postTerms, productType := productType.getD .null,
            postTypes := table.map Prod.fst }) = .ok ctx →
        ∃ table, s.postTypeTable = .ok table ∧ ctx.postTypes = table.map Prod.fst := by
      intro postTerms productType hctx
      obtain ⟨table, htable, hctx⟩ := exists_of_bind_eq_ok hctx
      cases hctx
      exact ⟨table, htable, rfl⟩
    rw [Source.pageContext] at h
    generalize (if page.isSingular = true then Value.ofInt? page.objectId else .null) = shown at h
    dsimp only at h
    split at h
    · obtain ⟨terms, -, h⟩ := exists_of_bind_eq_ok h
      split at h
      · obtain ⟨product, -, h⟩ := exists_of_bind_eq_ok h
        exact hlast _ _ h
      · exact hlast _ _ h
    · obtain ⟨names, -, h⟩ := exists_of_bind_eq_ok h
      obtain ⟨terms, -, h⟩ := exists_of_bind_eq_ok h
      split at h
      · obtain ⟨product, -, h⟩ := exists_of_bind_eq_ok h
        exact hlast _ _ h
      · exact hlast _ _ h
  intro m
  rw [hnames]
  exact contains_postTypeTable_iff htable m

/-- A post type of the site is known on all its pages. -/
theorem isKnown_of_mem {ctx : PageContext} (hctx : IsContextOf s ctx) (ht : t ∈ s.postTypes)
    (hn : t.name = .text n) : isKnown ctx n = true := by
  have hlisted : ctx.postTypes.contains (.text n) = true := (hctx n).mpr ⟨t, ht, hn⟩
  rw [isKnown, hlisted, Bool.or_true]

/-- **The rules that are offered and what they come to.**  A rule for a post type is offered if and
only if it is made for some record of the post type.  It comes to what it is for on all pages of the
site, unless the post type is `page`: all rules for this one come to what `page|all` does, which is
not what they are for where they are for an archive. -/
theorem offered_agree (hs : WellNamed s) (hgs : groups s c = .ok gs) (ht : t ∈ s.postTypes)
    (hn : t.name = .text n) (k : Scope) :
    (Offers gs (k.token n) ↔ n ∉ hiddenPostTypes ∧ ∃ t ∈ s.postTypes, t.name = .text n ∧
      ∃ label, t.label = .text label ∧ groupKey label ≠ "specific-target" ∧
        IsMade c s t label k) ∧
    (Offers gs (k.token n) →
      (∀ ctx, IsContextOf s ctx → Rule.applies ctx (.text (k.token n)) =
        .ok (if n = "page" then ctx.showsOne n else k.shows ctx n)) ∧
      ((∀ ctx, IsContextOf s ctx → Rule.applies ctx (.text (k.token n)) = .ok (k.shows ctx n)) ↔
        (n = "page" → k = .posts))) := by
  obtain ⟨m, hm, hpart, hhead⟩ := hs.postTypes t ht
  obtain rfl : m = n := by
    rw [hn] at hm
    cases hm
    rfl
  have hiff := offers_iff hs hgs hpart.not_mem hhead k
  refine ⟨hiff, fun hoffers => ?_⟩
  have hwritten : k.IsWritten := by
    obtain ⟨-, t', -, -, label, -, -, hmade⟩ := hiff.mp hoffers
    exact isWritten_of_isMade hs hmade
  have happlies : ∀ ctx, IsContextOf s ctx → Rule.applies ctx (.text (k.token m)) =
      .ok (if m = "page" then ctx.showsOne m else k.shows ctx m) := by
    intro ctx hctx
    exact applies_token hpart hhead hwritten (isKnown_of_mem hctx ht hn)
  refine ⟨happlies, ?_, ?_⟩
  · intro hagree hpage
    -- on a single page the rules for archives come apart from what they are for
    obtain ⟨table, htable⟩ := exists_postTypeTable hs
    let ctx : PageContext :=
      { page := { kind := .singular, postType := .text m }, postTypes := table.map Prod.fst }
    have hctx : IsContextOf s ctx := contains_postTypeTable_iff htable
    have hsame := Except.ok.inj ((happlies ctx hctx).symm.trans (hagree ctx hctx))
    rw [if_pos hpage] at hsame
    have hone : ctx.showsOne m = true := by
      simp [ctx, PageContext.showsOne, Page.isSingular, Value.isText]
    rw [hone] at hsame
    cases k with
    | posts => rfl
    | archive => cases hsame
    | terms taxonomy => cases hsame
  · intro hpage ctx hctx
    rw [happlies ctx hctx]
    by_cases hm : m = "page"
    · rw [if_pos hm, hpage hm]
      rfl
    · rw [if_neg hm]

/-- Pages that are not labelled “Pages” are offered with an archive, and the rule for it matches
single pages. -/
theorem offered_agree_of_page :
    let s : Source := { content := { postTypes := [{ name := "page", label := "Seiten" }] } }
    ∃ gs, groups s .everything = .ok gs ∧ Offers gs "page|all|archive" ∧
      ∀ ctx, IsContextOf s ctx →
        Rule.applies ctx "page|all|archive" = .ok (ctx.showsOne "page") := by
  intro s
  have hs : WellNamed s := by
    refine ⟨fun t ht => ?_, fun x hx => ?_⟩
    · rw [List.mem_singleton.mp ht]
      exact ⟨"page", rfl, ⟨by decide, by decide, by decide⟩, by decide⟩
    · cases hx
  have hlabel : groupKey "Seiten" = "seiten" := rfl
  obtain ⟨gs, hgs⟩ : ∃ gs, groups s .everything = .ok gs := ⟨_, rfl⟩
  obtain ⟨hoffers, happlies⟩ :=
    offered_agree hs hgs (List.mem_singleton.mpr rfl) (n := "page") rfl .archive
  have hoffered : Offers gs "page|all|archive" := by
    refine hoffers.mpr ⟨by decide, _, List.mem_singleton.mpr rfl, rfl, "Seiten", rfl, ?_, ?_, ?_⟩
    · rw [hlabel]
      decide
    · decide
    · rw [hlabel]
      decide
  exact ⟨gs, hgs, hoffered, fun ctx hctx => (happlies hoffered).1 ctx hctx⟩

end StructuredData.RuleOptions
