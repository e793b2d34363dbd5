import Mathlib.Data.List.Induction
import StructuredData.Content.Source
import StructuredData.Proofs.Assoc
import StructuredData.Proofs.Content.Records

/-!
# What is served for a record

A record is put into several tables: under its id stand what it describes, the terms of a post, and
the schemas that are stored for it.  Of several records with one id the last one is served with its
terms, but a record without schemas leaves those of an earlier one in their table
(`Content.served_of_run_read`).
-/

namespace StructuredData

namespace Content

/-! ## The last record -/

/-- Whether a record is of a kind and has an id. -/
def isOf (owner : Owner) (id : Int) (e : Int × Record) : Bool :=
  owner == e.2.entity.owner && id == e.1

/-- Whether a record is of a kind, has an id and is given with schemas. -/
def storesFor (owner : Owner) (id : Int) (e : Int × Record) : Bool :=
  isOf owner id e && !e.2.schemas.isEmpty

/-- The last of the records with a property. -/
def last? (p : Int × Record → Bool) (records : List (Int × Record)) : Option Record :=
  (records.reverse.find? p).map Prod.snd

section Last

variable {records : List (Int × Record)} {owner : Owner} {id : Int} {r : Record}

/-- What is found last is one of the records that pass. -/
theorem exists_of_last? {p : Int × Record → Bool} (h : last? p records = some r) :
    ∃ e ∈ records, p e = true ∧ e.2 = r := by
  obtain ⟨e, he, hr⟩ := Option.map_eq_some_iff.mp h
  exact ⟨e, List.mem_reverse.mp (List.mem_of_find?_eq_some he), List.find?_some he, hr⟩

/-- Nothing is found where no record passes. -/
theorem last?_eq_none {p : Int × Record → Bool} :
    last? p records = none ↔ ∀ e ∈ records, ¬p e = true := by
  simp [last?]

/-- A record stores schemas for an entity if it is one of it and comes with some. -/
theorem storesFor_iff {e : Int × Record} :
    storesFor owner id e = true ↔ isOf owner id e = true ∧ e.2.schemas ≠ [] := by
  simp [storesFor]

/-- The last record that is given with schemas is the last one if this is given with some. -/
theorem last?_storesFor_eq (hlast : last? (isOf owner id) records = some r)
    (hr : r.schemas ≠ []) : last? (storesFor owner id) records = some r := by
  obtain ⟨e, he, rfl⟩ := Option.map_eq_some_iff.mp hlast
  obtain ⟨hof, before, after, hsplit, hbefore⟩ := List.find?_eq_some_iff_append.mp he
  have hfound : records.reverse.find? (storesFor owner id) = some e :=
    List.find?_eq_some_iff_append.mpr ⟨storesFor_iff.mpr ⟨hof, hr⟩, before, after, hsplit,
      fun a ha => by
        have hnot : isOf owner id a = false := by simpa using hbefore a ha
        rw [storesFor, hnot]
        rfl⟩
  rw [last?, hfound]
  rfl

/-- The schemas that are stored are those of the last record just if this is given with some or
none is. -/
theorem last?_schemas_iff (owner : Owner) (id : Int) (records : List (Int × Record)) :
    ((last? (storesFor owner id) records).map Record.schemas).getD [] =
        ((last? (isOf owner id) records).map Record.schemas).getD [] ↔
      ((∃ e ∈ records, storesFor owner id e = true) →
        ∃ r, last? (isOf owner id) records = some r ∧ r.schemas ≠ []) := by
  constructor
  · rintro heq ⟨e, he, hstores⟩
    cases hfound : last? (storesFor owner id) records with
    | none => exact absurd hstores (last?_eq_none.mp hfound e he)
    | some found =>
      -- what is stored is not empty, so what it is equal to is not
      obtain ⟨_, -, hfor, rfl⟩ := exists_of_last? hfound
      have hne := (storesFor_iff.mp hfor).2
      rw [hfound] at heq
      cases hlast : last? (isOf owner id) records with
      | none => exact absurd (by simpa [hlast] using heq) hne
      | some r => exact ⟨r, rfl, fun hr => hne (by simpa [hlast, hr] using heq)⟩
  · intro h
    by_cases hany : ∃ e ∈ records, storesFor owner id e = true
    · obtain ⟨r, hlast, hr⟩ := h hany
      rw [hlast, last?_storesFor_eq hlast hr]
    · have hnone : last? (storesFor owner id) records = none :=
        last?_eq_none.mpr fun e he hstores => hany ⟨e, he, hstores⟩
      rw [hnone]
      cases hlast : last? (isOf owner id) records with
      | none => rfl
      | some r =>
        -- no record has schemas, and so neither has the last one
        obtain ⟨e, he, hof, rfl⟩ := exists_of_last? hlast
        have hempty : e.2.schemas = [] := by
          by_contra hne
          exact hany ⟨e, he, storesFor_iff.mpr ⟨hof, hne⟩⟩
        exact hempty.symm

end Last

/-! ## What stands under an id -/

/-- What stands in the table of a kind under an id. -/
def entity? (c : Content) : Owner → Int → Option Entity
  | .post, id => (c.posts.lookup id).map .post
  | .term, id => (c.terms.lookup id).map .term
  | .user, id => (c.users.lookup id).map .user

variable (c : Content) (id : Int) (r : Record)

/-- A record that is put gives its entity, and the others stay. -/
theorem entity?_put (owner : Owner) (n : Int) :
    (c.put id r).entity? owner n =
      if isOf owner n (id, r) then some r.entity else c.entity? owner n := by
  obtain ⟨entity, termIds, schemas⟩ := r
  cases entity <;> cases owner <;> by_cases hn : n = id <;>
    simp [put, putSchemas, entity?, isOf, Entity.owner, Assoc.lookup_set, hn]

/-- A post that is put gives its terms, and those of the others stay. -/
theorem lookup_postTerms_put (n : Int) :
    (c.put id r).postTerms.lookup n =
      if isOf .post n (id, r) then some r.termIds else c.postTerms.lookup n := by
  obtain ⟨entity, termIds, schemas⟩ := r
  cases entity <;> by_cases hn : n = id <;>
    simp [put, putSchemas, isOf, Entity.owner, Assoc.lookup_set, hn]

/-- A record that is put stores its schemas if it comes with some. -/
theorem stored_put :
    (c.put id r).stored =
      if r.schemas.isEmpty then c.stored
      else Assoc.set (r.entity.owner, id) r.schemas c.stored := by
  obtain ⟨entity, termIds, schemas⟩ := r
  cases entity <;> rfl

/-- What is stored for an entity is what the record stored that was put for it, else what was there.
-/
theorem lookup_stored_put (owner : Owner) (n : Int) :
    (c.put id r).stored.lookup (owner, n) =
      if storesFor owner n (id, r) then some r.schemas else c.stored.lookup (owner, n) := by
  rw [stored_put, storesFor]
  cases hempty : r.schemas.isEmpty with
  | true => simp
  | false =>
    rw [if_neg (by simp), Assoc.lookup_set]
    simp [isOf]

/-- What each record with a property changes is, after all of them, as the last one of these makes
it. -/
theorem view_putAll {β : Type} (view : Content → Option β) {p : Int × Record → Bool}
    {value : Record → β}
    (hstep : ∀ c id r, view (put c id r) = if p (id, r) then some (value r) else view c)
    (c : Content) (records : List (Int × Record)) :
    view (putAll c records) = ((last? p records).map value).or (view c) := by
  -- from the end: where the last record does not count, the ones before it decide
  induction records using List.reverseRecOn with
  | nil => rfl
  | append_singleton records e ih =>
    have hlast : putAll c (records ++ [e]) = (putAll c records).put e.1 e.2 := List.foldl_append
    rw [hlast, hstep, ih, last?, last?, List.reverse_append, List.reverse_singleton,
      List.singleton_append, List.find?_cons]
    cases p e <;> rfl

/-- What stands under an id in the content that is read. -/
theorem tables_of_run_read {data : Value} {c : Content} {log : Log}
    (hrun : Logged.run (Content.read data) = (.ok c, log)) :
    ∃ records, Record.ofData data = .ok records ∧ ∀ (owner : Owner) (id : Int),
      c.entity? owner id = (last? (isOf owner id) records).map Record.entity ∧
      c.postTerms.lookup id = (last? (isOf .post id) records).map Record.termIds ∧
      c.stored.lookup (owner, id) = (last? (storesFor owner id) records).map Record.schemas := by
  obtain ⟨records, site, currentUser, postTypes, taxonomies, products, productTypes, sells,
    hrecords, rfl⟩ := exists_of_run_read hrun
  let base : Content := { site, currentUser, postTypes, taxonomies }
  refine ⟨records, hrecords, fun owner id => ⟨?_, ?_, ?_⟩⟩
  · have h := view_putAll (fun c => c.entity? owner id)
      (fun c n r => entity?_put c n r owner id) base records
    have hbase : base.entity? owner id = none := by cases owner <;> rfl
    rw [hbase, Option.or_none] at h
    rw [← h]
    cases owner <;> rfl
  · have h := view_putAll (fun c => c.postTerms.lookup id)
      (fun c n r => lookup_postTerms_put c n r id) base records
    exact h.trans Option.or_none
  · have h := view_putAll (fun c => c.stored.lookup (owner, id))
      (fun c n r => lookup_stored_put c n r owner id) base records
    exact h.trans Option.or_none

end Content

/-! ## What is served -/

namespace Source

variable {s : Source} {key : Value} {id : Int}

/-- What a source gives for a key, by the kind of what is asked for. -/
def entity? (s : Source) : Owner → Value → Except Fault (Option Entity)
  | .post, key => (s.post? key).map (Option.map .post)
  | .term, key => (s.term? key).map (Option.map .term)
  | .user, key => (s.user? key).map (Option.map .user)

theorem find_of_asIntKey {α : Type} (table : List (Int × α))
    (hkey : key.asIntKey = .ok (some id)) : find table key = .ok (table.lookup id) := by
  rw [find, hkey]
  rfl

/-- An entity is found under a key that stands for its id. -/
theorem entity?_of_asIntKey (s : Source) (owner : Owner) (hkey : key.asIntKey = .ok (some id)) :
    s.entity? owner key = .ok (s.content.entity? owner id) := by
  cases owner <;> simp only [entity?, post?, term?, user?, find_of_asIntKey _ hkey] <;> rfl

/-- The terms of a post are found under a key that stands for its id. -/
theorem postTerms_of_asIntKey (s : Source) (hkey : key.asIntKey = .ok (some id))
    (taxonomy : Value) : s.postTerms key taxonomy =
      (Value.lookupKey ((s.content.postTerms.lookup id).getD []) taxonomy).map fun ids =>
        (ids.getD []).filterMap fun n => s.content.terms.lookup n := by
  rw [postTerms, find_of_asIntKey _ hkey]
  rfl

/-- What is stored for the entity that a page shows is served for the page. -/
theorem storedSchemas_of_ownerOf {page : Page} {owner : Owner} (hlists : s.lists = true)
    (howner : ownerOf page.kind = some owner) (hid : page.objectId = some id) :
    s.storedSchemas page = (s.content.stored.lookup (owner, id)).getD [] := by
  rw [storedSchemas, hlists, howner, hid]

end Source

namespace Content

/-- What is served for an id is what its last record describes, with the terms that are given there,
but the schemas are those of the last record that is given with some.  They are those of the last
record just if this is given with some or none is. -/
theorem served_of_run_read {data : Value} {c : Content} {log : Log}
    (hrun : Logged.run (Content.read data) = (.ok c, log)) :
    ∃ records, Record.ofData data = .ok records ∧
      ∀ (owner : Owner) (id : Int),
        let s : Source := { content := c }
        let last := last? (isOf owner id) records
        (∀ key : Value, key.asIntKey = .ok (some id) →
          s.entity? owner key = .ok (last.map Record.entity) ∧
          (owner = .post → ∀ taxonomy, s.postTerms key taxonomy =
            (Value.lookupKey ((last.map Record.termIds).getD []) taxonomy).map fun ids =>
              (ids.getD []).filterMap fun n => c.terms.lookup n)) ∧
        ∀ page : Page, Source.ownerOf page.kind = some owner → page.objectId = some id →
          s.storedSchemas page =
            ((last? (storesFor owner id) records).map Record.schemas).getD [] ∧
          (s.storedSchemas page = (last.map Record.schemas).getD [] ↔
            ((∃ e ∈ records, storesFor owner id e = true) →
              ∃ r, last = some r ∧ r.schemas ≠ [])) := by
  obtain ⟨records, hrecords, htables⟩ := tables_of_run_read hrun
  refine ⟨records, hrecords, fun owner id => ⟨fun key hkey => ⟨?_, ?_⟩, fun page howner hid => ?_⟩⟩
  · rw [Source.entity?_of_asIntKey _ owner hkey, (htables owner id).1]
  · rintro rfl taxonomy
    rw [Source.postTerms_of_asIntKey _ hkey, (htables .post id).2.1]
  · have hstored : Source.storedSchemas { content := c } page =
        ((last? (storesFor owner id) records).map Record.schemas).getD [] := by
      rw [Source.storedSchemas_of_ownerOf rfl howner hid, (htables owner id).2.2]
    exact ⟨hstored, hstored ▸ last?_schemas_iff owner id records⟩

/-- Two records of a post, of which only the first one is given with schemas. -/
def twoRecords : Value :=
  .object [("posts", .list [
    .object [("id", .int 10), ("title", "First"),
      ("schemas", .list [.object [("type", "Article")]])],
    .object [("id", "10"), ("title", "Second")]])]

/-- The last of them is served with the schemas of the first one. -/
theorem served_of_run_read_of_twoRecords :
    ∃ c log, Logged.run (Content.read twoRecords) = (.ok c, log) ∧
      Source.entity? { content := c } .post (.int 10) =
        .ok (some (.post { id := 10, title := "Second" })) ∧
      Source.storedSchemas { content := c } { kind := .singular, objectId := some 10 } =
        [.object [("type", "Article")]] := by
  obtain ⟨c, log, hrun⟩ : ∃ c log, Logged.run (Content.read twoRecords) = (.ok c, log) :=
    ⟨_, _, rfl⟩
  obtain ⟨records, hrecords, hserved⟩ := served_of_run_read hrun
  have hof : Record.ofData twoRecords = .ok [
      (10, { entity := .post { id := 10, title := "First" },
             schemas := [.object [("type", "Article")]] }),
      (10, { entity := .post { id := 10, title := "Second" } })] := rfl
  obtain rfl := Except.ok.inj (hrecords.symm.trans hof)
  obtain ⟨hentity, hschemas⟩ := hserved .post 10
  exact ⟨c, log, hrun, (hentity (.int 10) rfl).1, (hschemas _ rfl rfl).1⟩

end Content

end StructuredData
