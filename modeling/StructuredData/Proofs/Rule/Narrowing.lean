import StructuredData.Proofs.Rule.Groups

/-!
# Narrowing a choice

A choice of rules can be narrowed to single posts or to archives.  The two narrow choices together
have the rules of the whole one, and share none but those that are for all pages, for specific pages
or for types of products (`RuleOptions.narrowing_partitions`).
-/

namespace StructuredData.RuleOptions

variable {c : Consider} {s : Source} {t : PostType} {postTypes : List PostType}
  {taxonomies : List Taxonomy} {products : Fields} {token label : String}

/-! ## The parts of a choice -/

/-- What is made for everything is made for single posts or for archives. -/
theorem makes_everything_iff :
    Makes .everything taxonomies t label token ↔
      Makes .single taxonomies t label token ∨ Makes .archive taxonomies t label token := by
  simp [Makes]

/-- The basic rules for single posts and for archives are left out where only the others are asked
for. -/
theorem contains_basic_iff : Assoc.contains (.text token) (basic c) = true ↔
    token = "basic-global" ∨ (c ≠ .archive ∧ token = "basic-singulars") ∨
      (c ≠ .single ∧ token = "basic-archives") := by
  cases c <;> simp [basic, Assoc.contains, Scalar.text_beq_iff, @eq_comm _ token]

/-- The fixed rules for everything are those for single posts and for archives. -/
theorem contains_fixedRules_everything_iff :
    Assoc.contains (.text token) (fixedRules .everything s products) = true ↔
      Assoc.contains (.text token) (fixedRules .single s products) = true ∨
      Assoc.contains (.text token) (fixedRules .archive s products) = true := by
  simp only [contains_fixedRules_iff, contains_basic_iff]
  grind

/-! ## Bars -/

/-- How many bars there are in a rule. -/
def bars (token : String) : Nat := token.toList.count '|'

/-- The rules for special pages have no bars. -/
theorem bars_of_special {sells : Bool}
    (h : Assoc.contains (.text token) (special sells) = true) : bars token = 0 := by
  have hall : ∀ e ∈ special sells, ∃ head, e.1 = .text head ∧ bars head = 0 := by
    cases sells <;> simp [special, commonSpecial, Assoc.set, Scalar.text_beq_iff, bars]
  obtain ⟨e, he, hkey⟩ := List.any_eq_true.mp h
  obtain ⟨head, hhead, hbars⟩ := hall e he
  rw [Scalar.text_beq_iff, hhead] at hkey
  rwa [← Scalar.text.inj hkey]

/-- Rules for single posts have one bar, if the name of the post type has none. -/
theorem bars_of_makes_single (ht : '|' ∉ t.name.toText.toList)
    (h : Makes .single taxonomies t label token) : bars token = 1 := by
  have hname := List.count_eq_zero_of_not_mem ht
  rcases h with ⟨-, rfl⟩ | ⟨hne, -⟩ | ⟨hne, -⟩
  · simp [bars, hname]
  · exact absurd rfl hne
  · exact absurd rfl hne

/-- Rules for archives have more. -/
theorem bars_of_makes_archive (h : Makes .archive taxonomies t label token) : 1 < bars token := by
  rcases h with ⟨hne, -⟩ | ⟨-, -, rfl⟩ | ⟨-, x, -, -, rfl⟩
  · exact absurd rfl hne
  · simp [bars]
  · simp [bars]
    omega

/-! ## What narrow choices comprise -/

/-- A rule of the whole choice is one of a narrow choice. -/
theorem comprises_everything_iff :
    Comprises .everything s products postTypes taxonomies token ↔
      Comprises .single s products postTypes taxonomies token ∨
      Comprises .archive s products postTypes taxonomies token := by
  simp only [Comprises, contains_fixedRules_everything_iff, makes_everything_iff, and_or_left,
    exists_or]
  grind

/-- A rule of both narrow choices is for all pages, for specific pages or for types of products. -/
theorem comprises_single_and_archive_iff
    (hnames : ∀ t ∈ postTypes, '|' ∉ t.name.toText.toList) :
    Comprises .single s products postTypes taxonomies token ∧
        Comprises .archive s products postTypes taxonomies token ↔
      token = "basic-global" ∨ token = "specifics" ∨
        Assoc.contains (.text token) products = true := by
  rw [Comprises, Comprises, contains_fixedRules_iff, contains_fixedRules_iff, contains_basic_iff,
    contains_basic_iff]
  constructor
  · rintro ⟨hone, hmany⟩
    rcases hone with (hone | ⟨hne, -⟩ | hproduct) | rfl | ⟨t, ht, label, -, -, hmade⟩
    · rcases hone with rfl | ⟨-, rfl⟩ | ⟨hne, -⟩
      · exact Or.inl rfl
      · have hspecial : ¬ Assoc.contains (.text "basic-singulars") (special s.sells) = true := by
          cases s.sells <;> decide
        rcases hmany with (hmany | ⟨-, h⟩ | hproduct) | h | ⟨t, -, label, -, -, hmade⟩
        · exact absurd hmany (by decide)
        · exact absurd h hspecial
        · exact Or.inr (Or.inr hproduct)
        · exact absurd h (by decide)
        · exact absurd (bars_of_makes_archive hmade) (by decide)
      · exact absurd rfl hne
    · exact absurd rfl hne
    · exact Or.inr (Or.inr hproduct)
    · exact Or.inr (Or.inl rfl)
    · -- of the rules for archives only those for products may have a single bar
      have hbar := bars_of_makes_single (hnames t ht) hmade
      rcases hmany with (hmany | ⟨-, hspecial⟩ | hproduct) | rfl | ⟨t', -, label', -, -, hmade'⟩
      · rcases hmany with rfl | ⟨-, rfl⟩ | ⟨-, rfl⟩
        all_goals exact absurd hbar (by decide)
      · rw [bars_of_special hspecial] at hbar
        cases hbar
      · exact Or.inr (Or.inr hproduct)
      · exact Or.inr (Or.inl rfl)
      · have hmore := bars_of_makes_archive hmade'
        omega
  · rintro (rfl | rfl | hproduct)
    · exact ⟨Or.inl (Or.inl (Or.inl rfl)), Or.inl (Or.inl (Or.inl rfl))⟩
    · exact ⟨Or.inr (Or.inl rfl), Or.inr (Or.inl rfl)⟩
    · exact ⟨Or.inl (Or.inr (Or.inr hproduct)), Or.inl (Or.inr (Or.inr hproduct))⟩

/-! ## Choices of sites -/

/-- Whether the post types and taxonomies of a site are of the kinds that records of them have:
names and labels are texts, and what belongs to them is listed. -/
structure IsTyped (s : Source) : Prop where
  postTypes : ∀ t ∈ s.postTypes,
    (∃ n, t.name = .text n) ∧ (∃ l, t.label = .text l) ∧ ∃ items, t.taxonomies = .list items
  taxonomies : ∀ x ∈ s.taxonomies,
    (∃ n, x.name = .text n) ∧ (∃ l, x.label = .text l) ∧ ∃ items, x.objectTypes = .list items

theorem exists_belongs {x : Taxonomy} (ht : ∃ items, t.taxonomies = .list items)
    (hx : ∃ items, x.objectTypes = .list items) : ∃ b, belongs t x = .ok b := by
  obtain ⟨theirs, htheirs⟩ := ht
  obtain ⟨items, hitems⟩ := hx
  rw [belongs, htheirs, hitems]
  dsimp only [bind, Except.bind, Value.holds]
  split <;> exact ⟨_, rfl⟩

/-- Taxonomies with labels make rules. -/
theorem exists_termRules (hlabel : ∀ x ∈ taxonomies, ∃ l, x.label = .text l)
    (hbelongs : ∀ x ∈ taxonomies, ∃ b, belongs t x = .ok b) :
    ∃ rules, termRules t taxonomies = .ok rules := by
  induction taxonomies with
  | nil => exact ⟨_, rfl⟩
  | cons x rest ih =>
    obtain ⟨l, hl⟩ := hlabel x (by simp)
    obtain ⟨b, hb⟩ := hbelongs x (by simp)
    obtain ⟨more, hmore⟩ :=
      ih (fun x hx => hlabel x (by simp [hx])) fun x hx => hbelongs x (by simp [hx])
    rw [termRules, hb, hl, hmore]
    cases b <;> exact ⟨_, rfl⟩

/-- A site with records of the usual kinds has each choice. -/
theorem exists_groups (hs : IsTyped s) (c : Consider) : ∃ gs, groups s c = .ok gs := by
  obtain ⟨products, hproducts⟩ : ∃ products, productRules s = .ok products := by
    unfold productRules
    split
    · rename_i hsells
      have hknows : s.knowsProducts = true := (Bool.and_eq_true_iff.mp hsells).1
      rw [Source.productTypes, if_pos hknows]
      exact ⟨_, rfl⟩
    · exact ⟨_, rfl⟩
  obtain ⟨postTypes, hpostTypes⟩ : ∃ postTypes,
      s.postTypes.filterM (fun t => isOffered hiddenPostTypes t.name) = .ok postTypes := by
    apply exists_filterM_eq_ok
    intro t ht
    obtain ⟨⟨n, hn⟩, -⟩ := hs.postTypes t ht
    rw [hn]
    exact ⟨_, rfl⟩
  obtain ⟨taxonomies, htaxonomies⟩ : ∃ taxonomies,
      s.taxonomies.filterM (fun x => isOffered hiddenTaxonomies x.name) = .ok taxonomies := by
    apply exists_filterM_eq_ok
    intro x hx
    obtain ⟨⟨n, hn⟩, -⟩ := hs.taxonomies x hx
    rw [hn]
    exact ⟨_, rfl⟩
  obtain ⟨offered, hoffered⟩ : ∃ offered,
      postTypes.mapM (postTypeGroup c taxonomies) = .ok offered := by
    apply exists_mapM_eq_ok
    intro t ht
    obtain ⟨-, ⟨l, hl⟩, htheirs⟩ := hs.postTypes t ((mem_filterM_iff hpostTypes t).mp ht).1
    have hmem : ∀ x ∈ taxonomies, x ∈ s.taxonomies := fun x hx =>
      ((mem_filterM_iff htaxonomies x).mp hx).1
    obtain ⟨terms, hterms⟩ : ∃ terms, termRules t taxonomies = .ok terms := by
      apply exists_termRules
      · exact fun x hx => (hs.taxonomies x (hmem x hx)).2.1
      · exact fun x hx => exists_belongs htheirs (hs.taxonomies x (hmem x hx)).2.2
    obtain ⟨e, he⟩ : ∃ e, postTypeGroup .everything taxonomies t = .ok e := by
      rw [postTypeGroup, hl, hterms]
      exact ⟨_, rfl⟩
    exact exists_postTypeGroup he c
  exact ⟨_, groups_eq_assembled ⟨hproducts, hpostTypes, htaxonomies⟩ hoffered⟩

/-- A site that has the whole choice has each narrow one, of the same parts. -/
theorem exists_groups_of_everything {all : List (String × Group)}
    (h : groups s .everything = .ok all) :
    ∃ products postTypes taxonomies, Supplies s products postTypes taxonomies ∧
      ∀ c, ∃ gs, groups s c = .ok gs ∧
        ∀ token, Offers gs token ↔ Comprises c s products postTypes taxonomies token := by
  obtain ⟨products, postTypes, taxonomies, offered, hparts, hoffered⟩ := exists_of_groups h
  refine ⟨products, postTypes, taxonomies, hparts, fun c => ?_⟩
  obtain ⟨narrow, hnarrow⟩ : ∃ narrow,
      postTypes.mapM (postTypeGroup c taxonomies) = .ok narrow := by
    apply exists_mapM_eq_ok
    intro t ht
    obtain ⟨e, -, he⟩ := (mem_of_mapM_eq_ok hoffered).2 t ht
    exact exists_postTypeGroup he c
  exact ⟨_, groups_eq_assembled hparts hnarrow, fun token => offers_assembled_iff hnarrow⟩

/-- **Narrowing a choice parts its rules.**  If there are no bars in the names of post types, then
the choices that are narrowed to single posts and to archives have together the rules of the whole
choice, and they share just the rules for all pages, for specific pages and for the types of
products that are sold.  Sites with records of the usual kinds have all three choices. -/
theorem narrowing_partitions (hs : ∀ t ∈ s.postTypes, '|' ∉ t.name.toText.toList) :
    (IsTyped s → ∃ all, groups s .everything = .ok all) ∧
    ∀ all, groups s .everything = .ok all →
      ∃ singles archives, groups s .single = .ok singles ∧ groups s .archive = .ok archives ∧
        (∀ token, Offers all token ↔ Offers singles token ∨ Offers archives token) ∧
        ∀ token, Offers singles token ∧ Offers archives token ↔
          token = "basic-global" ∨ token = "specifics" ∨ IsForProducts s token := by
  refine ⟨fun htyped => exists_groups htyped _, fun all hall => ?_⟩
  obtain ⟨products, postTypes, taxonomies, hparts, hchoices⟩ := exists_groups_of_everything hall
  obtain ⟨all', hall', heverything⟩ := hchoices .everything
  obtain ⟨singles, hsingles, hsingle⟩ := hchoices .single
  obtain ⟨archives, harchives, harchive⟩ := hchoices .archive
  obtain rfl := Except.ok.inj (hall'.symm.trans hall)
  refine ⟨singles, archives, hsingles, harchives, fun token => ?_, fun token => ?_⟩
  · rw [heverything, hsingle, harchive, comprises_everything_iff]
  · have hnames : ∀ t ∈ postTypes, '|' ∉ t.name.toText.toList := fun t ht =>
      hs t ((mem_filterM_iff hparts.postTypes t).mp ht).1
    rw [hsingle, harchive, comprises_single_and_archive_iff hnames,
      contains_productRules_iff hparts.products]

/-- A post type named like the rules for products makes one of these for its posts, and shares a
group with another post type. -/
theorem narrowing_partitions_of_product_type :
    let s : Source := { content :=
      { postTypes := [{ name := "book", label := "Books" },
          { name := "product-type", label := "Books" }],
        taxonomies := [{ name := "genre", label := "Genres", objectTypes := .list ["book"] }],
        productTypes := [("all", "All")], sells := true } }
    (∀ t ∈ s.postTypes, '|' ∉ t.name.toText.toList) ∧ IsTyped s ∧
    ∃ all singles archives, groups s .everything = .ok all ∧
      groups s .single = .ok singles ∧ groups s .archive = .ok archives ∧
      (∀ token, Offers all token ↔ Offers singles token ∨ Offers archives token) ∧
      (∀ token, Offers singles token ∧ Offers archives token ↔
        token = "basic-global" ∨ token = "specifics" ∨ IsForProducts s token) ∧
      IsForProducts s "product-type|all" := by
  intro s
  have hnames : ∀ t ∈ s.postTypes, '|' ∉ t.name.toText.toList := by decide
  have htyped : IsTyped s := by
    refine ⟨fun t ht => ?_, fun x hx => ?_⟩
    · rcases List.mem_cons.mp ht with rfl | ht
      · exact ⟨⟨_, rfl⟩, ⟨_, rfl⟩, _, rfl⟩
      · rw [List.mem_singleton.mp ht]
        exact ⟨⟨_, rfl⟩, ⟨_, rfl⟩, _, rfl⟩
    · rw [List.mem_singleton.mp hx]
      exact ⟨⟨_, rfl⟩, ⟨_, rfl⟩, _, rfl⟩
  obtain ⟨hexists, hparts⟩ := narrowing_partitions hnames
  obtain ⟨all, hall⟩ := hexists htyped
  obtain ⟨singles, archives, hsingles, harchives, hunion, hshared⟩ := hparts all hall
  exact ⟨hnames, htyped, all, singles, archives, hall, hsingles, harchives, hunion, hshared,
    rfl, _, rfl, _, List.mem_singleton.mpr rfl, rfl⟩

end StructuredData.RuleOptions
