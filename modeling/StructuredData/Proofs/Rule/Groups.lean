import StructuredData.Proofs.Assoc
import StructuredData.Proofs.Fault
import StructuredData.Rule.Options

/-!
# The rules of a choice

A choice has rules that are there whatever post types there are, the one for specifics, and those
that the post types on offer make, unless a label puts them into the group that gives way to the one
for specifics (`RuleOptions.offers_assembled_iff`).
-/

namespace StructuredData.RuleOptions

/-- Whether a rule stands in the group with a key. -/
def OffersUnder (groups : List (String × Group)) (key token : String) : Prop :=
  ∃ g, groups.lookup key = some g ∧ Assoc.contains (.text token) g.rules = true

/-- Whether a rule stands in a group. -/
def Offers (groups : List (String × Group)) (token : String) : Prop :=
  ∃ key, OffersUnder groups key token

/-! ## Groups -/

section Groups

variable {groups : List (String × Group)} {key token : String}

/-- A group that is set offers its rules, and the others stay. -/
theorem offersUnder_set (key' : String) (g : Group) :
    OffersUnder (Assoc.set key' g groups) key token ↔
      if key = key' then Assoc.contains (.text token) g.rules = true
      else OffersUnder groups key token := by
  rw [OffersUnder, Assoc.lookup_set]
  by_cases h : key = key'
  · simp [h]
  · simp [h, OffersUnder]

/-- A group that is added leaves all rules where they are and brings its own. -/
theorem offersUnder_addGroup (e : String × Group) :
    OffersUnder (addGroup groups e) key token ↔
      OffersUnder groups key token ∨ key = e.1 ∧ Assoc.contains (.text token) e.2.rules = true := by
  unfold addGroup
  by_cases hempty : e.2.rules.isEmpty = true
  · rw [if_pos hempty]
    simp [List.isEmpty_iff.mp hempty, Assoc.contains]
  · rw [if_neg hempty]
    cases hg : groups.lookup e.1 with
    | none =>
      dsimp only
      rw [offersUnder_set]
      by_cases h : key = e.1
      · simp [h, OffersUnder, hg]
      · simp [h]
    | some g =>
      dsimp only
      rw [offersUnder_set]
      by_cases h : key = e.1
      · -- a rule that is not new stands in the group already
        have hunder : OffersUnder groups key token ↔
            Assoc.contains (.text token) g.rules = true := by
          simp [OffersUnder, h, hg]
        rw [if_pos h, hunder]
        simp only [h, true_and, Assoc.contains, List.any_append, List.any_filter, Bool.or_eq_true,
          List.any_eq_true, Bool.and_eq_true, Bool.not_eq_true', List.any_eq_false,
          Scalar.text_beq_iff]
        constructor
        · rintro (hold | ⟨e', he', -, hkey⟩)
          · exact Or.inl hold
          · exact Or.inr ⟨e', he', hkey⟩
        · rintro (hold | ⟨e', he', hkey⟩)
          · exact Or.inl hold
          · by_cases hin : ∃ e'' ∈ g.rules, e''.1 = .text token
            · exact Or.inl hin
            · refine Or.inr ⟨e', he', fun e'' he'' heq => hin ⟨e'', he'', ?_⟩, hkey⟩
              rw [hkey] at heq
              exact (Scalar.text_beq_iff _ _).mp heq
      · simp [h]

/-- Groups that are added offer their rules beside those that are there. -/
theorem offersUnder_foldl (new : List (String × Group)) :
    OffersUnder (new.foldl addGroup groups) key token ↔
      OffersUnder groups key token ∨
        ∃ e ∈ new, key = e.1 ∧ Assoc.contains (.text token) e.2.rules = true := by
  induction new generalizing groups with
  | nil => simp
  | cons e rest ih =>
    rw [List.foldl_cons, ih, offersUnder_addGroup, or_assoc]
    simp

/-- In groups with different keys a rule stands under the key of a group that has it. -/
theorem offersUnder_iff_of_nodup (hkeys : (Assoc.keys groups).Nodup) :
    OffersUnder groups key token ↔
      ∃ g, (key, g) ∈ groups ∧ Assoc.contains (.text token) g.rules = true := by
  unfold OffersUnder
  constructor
  · rintro ⟨g, hg, hrules⟩
    obtain ⟨key', hkey, hmem⟩ := Assoc.exists_mem_of_lookup hg
    obtain rfl : key = key' := by simpa using hkey
    exact ⟨g, hmem, hrules⟩
  · rintro ⟨g, hmem, hrules⟩
    exact ⟨g, Assoc.lookup_of_mem (fun k => by rw [beq_iff_eq, eq_comm]) hkeys hmem, hrules⟩

end Groups

variable {c : Consider} {s : Source} {t : PostType} {taxonomies : List Taxonomy}
  {products : Fields} {key token label : String}

/-! ## The rules that no post type makes -/

/-- The rules that are offered whatever post types there are, but for the one for specifics. -/
def fixedRules (c : Consider) (s : Source) (products : Fields) : Fields :=
  basic c ++ (if c = .single then [] else special s.sells) ++ products

/-- The groups that are there whatever post types there are, but for the one for specifics. -/
def fixedGroups (c : Consider) (s : Source) (products : Fields) : List (String × Group) :=
  [("basic", { label := "Basic", rules := basic c })] ++
    (if c = .single then []
      else [("special-pages", { label := "Special Pages", rules := special s.sells })]) ++
    (if products.isEmpty then []
      else [("product-types", { label := "Product Types", rules := products })])

/-- The fixed groups come in this order. -/
theorem keys_fixedGroups_sublist (c : Consider) (s : Source) (products : Fields) :
    (Assoc.keys (fixedGroups c s products)).Sublist
      ["basic", "special-pages", "product-types"] := by
  unfold fixedGroups
  split <;> split <;> simp [Assoc.keys]

/-- The rules of the fixed groups are the fixed ones. -/
theorem exists_mem_fixedGroups_iff :
    (∃ e ∈ fixedGroups c s products, Assoc.contains (.text token) e.2.rules = true) ↔
      Assoc.contains (.text token) (fixedRules c s products) = true := by
  unfold fixedGroups fixedRules
  by_cases hc : c = .single <;> by_cases hproducts : products = [] <;>
    simp [Assoc.contains, hc, hproducts]

/-- All of these rules are offered outside the group for specifics. -/
theorem exists_offersUnder_fixedGroups_iff :
    (∃ key, key ≠ "specific-target" ∧ OffersUnder (fixedGroups c s products) key token) ↔
      Assoc.contains (.text token) (fixedRules c s products) = true := by
  have hsub := keys_fixedGroups_sublist c s products
  rw [← exists_mem_fixedGroups_iff]
  constructor
  · rintro ⟨key, -, hoffers⟩
    obtain ⟨g, hmem, hrules⟩ := (offersUnder_iff_of_nodup (hsub.nodup (by decide))).mp hoffers
    exact ⟨(key, g), hmem, hrules⟩
  · rintro ⟨e, hmem, hrules⟩
    have hkey : e.1 ∈ ["basic", "special-pages", "product-types"] :=
      hsub.mem (List.mem_map_of_mem hmem)
    refine ⟨e.1, ?_, (offersUnder_iff_of_nodup (hsub.nodup (by decide))).mpr ⟨e.2, hmem, hrules⟩⟩
    intro hspecific
    rw [hspecific] at hkey
    exact absurd hkey (by decide)

/-- A fixed rule is a basic one, one for special pages unless these are left out, or one for
products. -/
theorem contains_fixedRules_iff :
    Assoc.contains (.text token) (fixedRules c s products) = true ↔
      Assoc.contains (.text token) (basic c) = true ∨
      (c ≠ .single ∧ Assoc.contains (.text token) (special s.sells) = true) ∨
      Assoc.contains (.text token) products = true := by
  unfold fixedRules
  by_cases hc : c = .single <;> simp [Assoc.contains, hc]

/-- Whether a rule is for a type of products that are sold. -/
def IsForProducts (s : Source) (token : String) : Prop :=
  s.sells = true ∧ ∃ types, s.productTypes = .ok types ∧
    ∃ e ∈ types, token = "product-type|" ++ e.1.plainText

/-- The rules for products are those for the kinds of them. -/
theorem contains_productRules_iff (h : productRules s = .ok products) :
    Assoc.contains (.text token) products = true ↔ IsForProducts s token := by
  unfold productRules at h
  unfold IsForProducts
  by_cases hsells : s.sells = true
  · rw [if_pos hsells] at h
    obtain ⟨types, htypes, h⟩ := exists_of_bind_eq_ok h
    cases h
    rw [Assoc.contains_ofPairs]
    simp [Assoc.contains, Scalar.text_beq_iff, hsells, htypes, @eq_comm _ token]
  · rw [if_neg hsells] at h
    cases h
    simp [Assoc.contains, hsells]

/-! ## The rules that a post type makes -/

/-- Whether a choice has a rule for a post type that is offered under a label, or for the terms of a
taxonomy that belongs to it. -/
def Makes (c : Consider) (taxonomies : List Taxonomy) (t : PostType) (label token : String) :
    Prop :=
  (c ≠ .archive ∧ t.name.toText ++ "|all" = token) ∨
  (c ≠ .single ∧ groupKey label ≠ "pages" ∧ t.name.toText ++ "|all|archive" = token) ∨
  (c ≠ .single ∧ ∃ x ∈ taxonomies, belongs t x = .ok true ∧
    t.name.toText ++ "|all|taxarchive|" ++ x.name.toText = token)

theorem labelText_eq_ok {v : Value} {label : String} (h : labelText v = .ok label) :
    v = .text label := by
  unfold labelText at h
  split at h
  · cases h
    rfl
  · cases h

/-- The rules for terms are those for the taxonomies that belong to the post type. -/
theorem contains_termRules {taxonomies : List Taxonomy} {rules : Fields}
    (h : termRules t taxonomies = .ok rules) (token : String) :
    Assoc.contains (.text token) rules = true ↔
      ∃ x ∈ taxonomies, belongs t x = .ok true ∧
        t.name.toText ++ "|all|taxarchive|" ++ x.name.toText = token := by
  induction taxonomies generalizing rules with
  | nil =>
    cases h
    simp [Assoc.contains]
  | cons x rest ih =>
    rw [termRules] at h
    obtain ⟨belonging, hbelongs, h⟩ := exists_of_bind_eq_ok h
    cases belonging with
    | true =>
      obtain ⟨label, -, h⟩ := exists_of_bind_eq_ok (x := labelText x.label) h
      obtain ⟨more, hmore, h⟩ := exists_of_bind_eq_ok (x := termRules t rest) h
      cases h
      have ih := ih hmore
      simp only [Assoc.contains, List.any_eq_true, Scalar.text_beq_iff] at ih ⊢
      simp [hbelongs, ih]
    | false =>
      obtain ⟨more, hmore, h⟩ := exists_of_bind_eq_ok (x := termRules t rest) h
      cases h
      simp [hbelongs, ih hmore]

/-- The group of a post type is told by its label and has the rules that are made for it. -/
theorem makes_of_postTypeGroup {g : Group} (h : postTypeGroup c taxonomies t = .ok (key, g)) :
    ∃ label, t.label = .text label ∧ key = groupKey label ∧
      ∀ token, Assoc.contains (.text token) g.rules = true ↔ Makes c taxonomies t label token := by
  rw [postTypeGroup] at h
  obtain ⟨label, hlabel, h⟩ := exists_of_bind_eq_ok h
  dsimp only at h
  by_cases hc : c = .single
  · -- nothing but the rule for posts
    rw [if_pos hc] at h
    obtain ⟨hkey, hg⟩ := Prod.mk.inj (Except.ok.inj h)
    refine ⟨label, labelText_eq_ok hlabel, hkey.symm, fun token => ?_⟩
    rw [← hg, Assoc.contains_ofPairs]
    simp [Makes, Assoc.contains, Scalar.text_beq_iff, hc]
  · rw [if_neg hc] at h
    obtain ⟨terms, hterms, h⟩ := exists_of_bind_eq_ok h
    obtain ⟨hkey, hg⟩ := Prod.mk.inj (Except.ok.inj h)
    refine ⟨label, labelText_eq_ok hlabel, hkey.symm, fun token => ?_⟩
    have hmakes : Makes c taxonomies t label token ↔
        (c ≠ .archive ∧ t.name.toText ++ "|all" = token) ∨
        (groupKey label ≠ "pages" ∧ t.name.toText ++ "|all|archive" = token) ∨
        Assoc.contains (.text token) terms = true := by
      simp [Makes, hc, contains_termRules hterms]
    rw [hmakes, ← hg, Assoc.contains_ofPairs]
    by_cases hall : c = .archive <;> by_cases hpages : groupKey label = "pages" <;>
      simp [Assoc.contains, Scalar.text_beq_iff, hall, hpages]

/-- A group that is made for all pages is made for those that a choice is narrowed to. -/
theorem exists_postTypeGroup {e : String × Group}
    (h : postTypeGroup .everything taxonomies t = .ok e) (c : Consider) :
    ∃ e', postTypeGroup c taxonomies t = .ok e' := by
  rw [postTypeGroup] at h
  obtain ⟨label, hlabel, h⟩ := exists_of_bind_eq_ok h
  rw [if_neg (by decide)] at h
  obtain ⟨terms, hterms, -⟩ := exists_of_bind_eq_ok h
  rw [postTypeGroup, hlabel]
  dsimp only [bind, Except.bind]
  split
  · exact ⟨_, rfl⟩
  · rw [hterms]
    exact ⟨_, rfl⟩

/-- What the groups of post types have is what their post types make. -/
theorem exists_offered_iff {postTypes : List PostType} {offered : List (String × Group)}
    (h : postTypes.mapM (postTypeGroup c taxonomies) = .ok offered) :
    (∃ e ∈ offered, e.1 ≠ "specific-target" ∧ Assoc.contains (.text token) e.2.rules = true) ↔
      ∃ t ∈ postTypes, ∃ label, t.label = .text label ∧ groupKey label ≠ "specific-target" ∧
        Makes c taxonomies t label token := by
  obtain ⟨hfrom, hto⟩ := mem_of_mapM_eq_ok h
  constructor
  · rintro ⟨e, he, hkey, hrules⟩
    obtain ⟨t, ht, hgroup⟩ := hfrom e he
    obtain ⟨label, hlabel, hlabelKey, hmakes⟩ := makes_of_postTypeGroup hgroup
    exact ⟨t, ht, label, hlabel, hlabelKey ▸ hkey, (hmakes token).mp hrules⟩
  · rintro ⟨t, ht, label, hlabel, hkey, hmade⟩
    obtain ⟨e, he, hgroup⟩ := hto t ht
    obtain ⟨label', hlabel', hlabelKey, hmakes⟩ := makes_of_postTypeGroup hgroup
    cases hlabel.symm.trans hlabel'
    exact ⟨e, he, hlabelKey ▸ hkey, (hmakes token).mpr hmade⟩

/-! ## Whole choices -/

/-- A choice put together of the rules for types of products and the groups of post types. -/
def assembled (c : Consider) (s : Source) (products : Fields) (offered : List (String × Group)) :
    List (String × Group) :=
  Assoc.set "specific-target"
    { label := "Specific Target",
      rules := [("specifics", "Specific Pages / Posts / Taxonomies, etc.")] }
    (offered.foldl addGroup (fixedGroups c s products))

/-- The parts of a choice that are the same however it is narrowed: the rules for types of products,
and the post types and taxonomies on offer. -/
structure Supplies (s : Source) (products : Fields) (postTypes : List PostType)
    (taxonomies : List Taxonomy) : Prop where
  products : productRules s = .ok products
  postTypes : s.postTypes.filterM (fun t => isOffered hiddenPostTypes t.name) = .ok postTypes
  taxonomies : s.taxonomies.filterM (fun x => isOffered hiddenTaxonomies x.name) = .ok taxonomies

/-- Groups are made of what the site supplies. -/
theorem exists_of_groups {gs : List (String × Group)} (h : groups s c = .ok gs) :
    ∃ products postTypes taxonomies offered, Supplies s products postTypes taxonomies ∧
      postTypes.mapM (postTypeGroup c taxonomies) = .ok offered := by
  rw [groups] at h
  obtain ⟨products, hproducts, h⟩ := exists_of_bind_eq_ok h
  dsimp only at h
  obtain ⟨postTypes, hpostTypes, h⟩ := exists_of_bind_eq_ok h
  obtain ⟨taxonomies, htaxonomies, h⟩ := exists_of_bind_eq_ok h
  obtain ⟨offered, hoffered, -⟩ := exists_of_bind_eq_ok h
  exact ⟨products, postTypes, taxonomies, offered, ⟨hproducts, hpostTypes, htaxonomies⟩, hoffered⟩

section Assembled

variable {postTypes : List PostType} {offered : List (String × Group)}

/-- What the site supplies makes the groups that are assembled of it. -/
theorem groups_eq_assembled (h : Supplies s products postTypes taxonomies)
    (hoffered : postTypes.mapM (postTypeGroup c taxonomies) = .ok offered) :
    groups s c = .ok (assembled c s products offered) := by
  rw [groups, h.products]
  dsimp only [bind, Except.bind]
  rw [h.postTypes, h.taxonomies]
  dsimp only
  rw [hoffered]
  rfl

/-- Whether a rule is one of those that are there in any case, the one for specifics, or one that
some post type on offer makes, whose group does not give way to the one for specifics. -/
def Comprises (c : Consider) (s : Source) (products : Fields) (postTypes : List PostType)
    (taxonomies : List Taxonomy) (token : String) : Prop :=
  Assoc.contains (.text token) (fixedRules c s products) = true ∨ token = "specifics" ∨
    ∃ t ∈ postTypes, ∃ label, t.label = .text label ∧ groupKey label ≠ "specific-target" ∧
      Makes c taxonomies t label token

/-- **The rules of a choice** are those that it comprises. -/
theorem offers_assembled_iff
    (hoffered : postTypes.mapM (postTypeGroup c taxonomies) = .ok offered) :
    Offers (assembled c s products offered) token ↔
      Comprises c s products postTypes taxonomies token := by
  -- in which group the rule stands
  have hunder : ∀ key, OffersUnder (assembled c s products offered) key token ↔
      if key = "specific-target" then token = "specifics"
      else OffersUnder (fixedGroups c s products) key token ∨
        ∃ e ∈ offered, key = e.1 ∧ Assoc.contains (.text token) e.2.rules = true := by
    intro key
    rw [assembled, offersUnder_set, offersUnder_foldl, Assoc.contains, List.any_cons,
      List.any_nil, Bool.or_false, Scalar.text_beq_iff, Scalar.text.injEq, @eq_comm _ "specifics"]
  rw [Comprises, ← exists_offersUnder_fixedGroups_iff, ← exists_offered_iff hoffered]
  constructor
  · rintro ⟨key, hoffers⟩
    rw [hunder] at hoffers
    by_cases hkey : key = "specific-target"
    · rw [if_pos hkey] at hoffers
      exact Or.inr (Or.inl hoffers)
    · rw [if_neg hkey] at hoffers
      rcases hoffers with hoffers | hoffers
      · exact Or.inl ⟨key, hkey, hoffers⟩
      · obtain ⟨e, he, rfl, hrules⟩ := hoffers
        exact Or.inr (Or.inr ⟨e, he, hkey, hrules⟩)
  · rintro (⟨key, hkey, hoffers⟩ | rfl | ⟨e, he, hkey, hrules⟩)
    · refine ⟨key, (hunder key).mpr ?_⟩
      rw [if_neg hkey]
      exact Or.inl hoffers
    · exact ⟨"specific-target", (hunder _).mpr (by rw [if_pos rfl])⟩
    · refine ⟨e.1, (hunder e.1).mpr ?_⟩
      rw [if_neg hkey]
      exact Or.inr ⟨e, he, rfl, hrules⟩

end Assembled

end StructuredData.RuleOptions
