import StructuredData.Proofs.Facts.User
import StructuredData.Proofs.Schema.Links
import StructuredData.Proofs.Template.Reading

/-!
# One more reference among the facts

The facts for a page with one more schema on it are the same but for the reference to this schema.
So they are the same at all tokens that are read neither in this reference nor in all references
together.
-/

namespace StructuredData

/-- A source with other schemas stored for its records. -/
def Source.withStored (s : Source) (stored : List ((Owner × Int) × List Value)) : Source :=
  { s with content := { s.content with stored } }

/-- Whether a token is read neither in the reference under a slug nor in all references together. -/
def Template.PassesBy (slug token : String) : Prop :=
  Text.cut '.' token ≠ ["schemas"] ∧ ¬ ["schemas", slug] <+: Text.cut '.' token

instance (slug token : String) : Decidable (Template.PassesBy slug token) :=
  inferInstanceAs (Decidable (_ ∧ _))

open Template (PassesBy)

/-! ## References -/

/-- The references to more schemas are the same but for those under their slugs. -/
theorem Schema.get?_links_append [Slugifier] {ds more : List Schema} {links links' : Fields}
    (h : Schema.links ds = .ok links) (h' : Schema.links (ds ++ more) = .ok links') {key : String}
    (hkey : ∀ d ∈ more, d.slug ≠ .ok key) : links.get? key = links'.get? key := by
  obtain ⟨pairs', hpairs', hlinks'⟩ := exists_of_bind_eq_ok h'
  obtain ⟨pairs, added, hpairs, hadded, rfl⟩ := exists_of_mapM_append_eq_ok hpairs'
  have hlinks : Schema.links ds = .ok (Assoc.ofPairs pairs) := by
    rw [Schema.links, hpairs]
    rfl
  have hmore : Schema.links more = .ok (Assoc.ofPairs added) := by
    rw [Schema.links, hadded]
    rfl
  cases hlinks'
  obtain rfl := Except.ok.inj (hlinks.symm.trans h)
  have hnone : added.reverse.lookup (Scalar.text key) = none := by
    rw [← Assoc.lookup_ofPairs]
    exact get?_links_eq_none hmore hkey
  rw [Fields.get?, Fields.get?, Assoc.lookup_ofPairs, Assoc.lookup_ofPairs, List.reverse_append,
    List.lookup_append, hnone, Option.none_or]

namespace Facts

variable {s : Source} {page : Page} {ds ds' : List Schema} {v v' : Value} {slug : String}

/-- Whether facts are the same but for the reference under a slug. -/
structure SameButReference (slug : String) (v v' : Value) : Prop where
  sameBut : SameBut "schemas" v v'
  references : ∃ facts facts' links links' : Fields, v = .object facts ∧ v' = .object facts' ∧
    facts.get? "schemas" = some (.object links) ∧ facts'.get? "schemas" = some (.object links') ∧
    ∀ key : String, key ≠ slug → links.get? key = links'.get? key

/-- Such facts are the same at all tokens that pass the reference by. -/
theorem SameButReference.at_eq (h : SameButReference slug v v') {token : String}
    (htoken : PassesBy slug token) :
    v.at (Path.ofToken token) = v'.at (Path.ofToken token) := by
  by_cases hschemas : Template.ReadsIn "schemas" token
  · obtain ⟨facts, facts', links, links', rfl, rfl, hlinks, hlinks', hsame⟩ := h.references
    obtain ⟨hall, hone⟩ := htoken
    unfold Path.ofToken
    rw [Template.ReadsIn] at hschemas
    rcases hcut : Text.cut '.' token with _ | ⟨key, _ | ⟨name, rest⟩⟩
    · exact absurd hcut (Text.cut_ne_nil _ _)
    · rw [hcut] at hschemas hall
      cases hschemas
      exact absurd rfl hall
    · rw [hcut] at hschemas hone
      cases hschemas
      have hname : name ≠ slug := by
        rintro rfl
        exact hone ⟨rest, rfl⟩
      rw [List.map_cons, List.map_cons, Value.at_object, Value.at_object, hlinks, hlinks',
        Option.elim_some, Option.elim_some, Value.at_object, Value.at_object, hsame name hname]
  · exact h.sameBut.at_eq hschemas

/-- Facts that have no token that leads to the reference agree with such facts. -/
theorem SameButReference.agreeAt (h : SameButReference slug v v')
    (hfacts : ∀ t ∈ v.tokens, PassesBy slug t) : Value.AgreeAt (PassesBy slug) v v' where
  at_eq _ htoken := h.at_eq htoken
  closed _ _ _ hw t ht := hfacts t (Value.tokens_subset_of_texts (Value.texts_at hw) ht)

section Frame

variable (s : Source) (stored : List ((Owner × Int) × List Value)) (page : Page)

@[simp] theorem postOf_withStored : postOf (s.withStored stored) page = postOf s page := rfl

@[simp] theorem post_withStored (p : Post) : post (s.withStored stored) p = post s p := rfl

@[simp] theorem termOf_withStored : termOf (s.withStored stored) page = termOf s page := rfl

@[simp] theorem userById_withStored (id : Value) :
    userById (s.withStored stored) id = userById s id := rfl

@[simp] theorem trail_withStored :
    Trail.ofPage (s.withStored stored) page = Trail.ofPage s page := rfl

@[simp] theorem current_withStored (post : Option Post) (crumbs : List Crumb) :
    current (s.withStored stored) page post crumbs = current s page post crumbs := rfl

@[simp] theorem productOf_withStored (post : Option Post) :
    productOf (s.withStored stored) post = productOf s post := rfl

end Frame

/-- The facts before extenders see them are the same for all schemas but for the references. -/
theorem alike_plain_links [Slugifier] {stored : List ((Owner × Int) × List Value)}
    {links links' : Fields} (h : Schema.links ds = .ok links) (h' : Schema.links ds' = .ok links') :
    Alike (fun sheet sheet' => SameBut "schemas" sheet.facts sheet'.facts)
      (plain s page ds) (plain (s.withStored stored) page ds') := by
  unfold plain
  simp only [postOf_withStored, post_withStored, termOf_withStored, userById_withStored,
    trail_withStored, current_withStored, productOf_withStored, h, h']
  refine Alike.bind_same fun post => ?_
  cases post
  all_goals
    refine Alike.bind_same fun postFacts => ?_
    refine Alike.bind_same fun termFacts => ?_
    refine Alike.bind_same fun author => ?_
    refine Alike.bind_same fun user => ?_
    refine Alike.bind_same fun crumbs => ?_
    refine Alike.bind_same fun currentFacts => ?_
    -- here the two part
    refine Alike.bind (R := fun _ _ => True) (.ok trivial) fun links links' _ => ?_
    refine Alike.branch (p := s.sells = true) ?_ ?_
    all_goals
      refine Alike.bind_same fun product => .ok ?_
      exact sameBut_append [_, _, _, _, _, _] _ _ _

/-- **One more schema changes one reference.**  Without extenders the facts for a page with more
schemas, all of one slug, are the same but for the reference under this slug. -/
theorem sameButReference_of_collect [Slugifier] {stored : List ((Owner × Int) × List Value)}
    {more : List Schema} (hmore : ∀ d ∈ more, d.slug = .ok slug)
    (h : (plain s page ds >>= fun sheet => escapeBody sheet.facts) = .ok v)
    (h' : (plain (s.withStored stored) page (ds ++ more) >>= fun sheet => escapeBody sheet.facts) =
      .ok v') :
    SameButReference slug v v' := by
  obtain ⟨facts, links, hv, hlinks, hget⟩ := exists_links_of_collect h
  obtain ⟨facts', links', hv', hlinks', hget'⟩ := exists_links_of_collect h'
  refine ⟨?_, facts, facts', links, links', hv, hv', hget, hget', fun key hkey => ?_⟩
  · have halike : Alike (SameBut "schemas")
        (plain s page ds >>= fun sheet => escapeBody sheet.facts)
        (plain (s.withStored stored) page (ds ++ more) >>= fun sheet => escapeBody sheet.facts) :=
      (alike_plain_links hlinks hlinks').bind fun _ _ hsame => hsame.alike_escapeBody (by decide)
    rw [h, h'] at halike
    cases halike with
    | ok hsame => exact hsame
  · refine Schema.get?_links_append hlinks hlinks' fun d hd hslug => hkey ?_
    exact Except.ok.inj (hslug.symm.trans (hmore d hd))

end Facts

end StructuredData
