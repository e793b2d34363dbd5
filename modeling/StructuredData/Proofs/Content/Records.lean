import StructuredData.Content.Basic
import StructuredData.Proofs.Run

/-!
# The records of the content

A record can be read by itself: what it describes, the terms of a post and the schemas given with
it.  Reading content comes to putting the records of the data into the tables one after the other
(`Content.exists_of_run_read`).
-/

namespace StructuredData

/-! ## Records by themselves -/

/-- What a record describes. -/
inductive Entity where
  | post (p : Post)
  | term (t : Term)
  | user (u : User)

/-- The kind of what a record describes. -/
def Entity.owner : Entity → Owner
  | post _ => .post
  | term _ => .term
  | user _ => .user

/-- A record by itself: what it describes, and what is given with it. -/
structure Record where
  entity : Entity
  /-- The ids of the terms of a post, by taxonomy. -/
  termIds : List (Scalar × List Int) := []
  schemas : List Value := []

/-- The key under which the records of a kind are stored. -/
def Owner.key : Owner → String
  | post => "posts"
  | term => "terms"
  | user => "users"

namespace Content

/-- The date that is read from what is stored for it. -/
def dateOf : Value → Option Moment
  | .moment t => some t
  | .text s => if s = "" then none else Moment.read s
  | _ => none

end Content

namespace Record

open Content

/-- The schemas given with a record, none if what is given does not count. -/
def readSchemas (v : Value) : Except Fault (List Value) := if v.truthy then v.items else .ok []

/-- What the entries of a record describe. -/
def readEntity (owner : Owner) (id : Int) (entries : Fields) : Except Fault Entity :=
  match owner with
  | .post =>
    (Post.ofEntries id (dateOf (given entries "date" .null))
      (dateOf (given entries "modified_date" .null)) entries).map .post
  | .term => (Term.ofEntries id entries).map .term
  | .user => (User.ofEntries id entries).map .user

/-- What is given for the terms of a record, null if it is of a kind that has none. -/
def termsGiven (owner : Owner) (entries : Fields) : Value :=
  if owner = .post then given entries "terms" .null else .null

/-- The entries of a record besides those for its terms. -/
def besidesTerms (owner : Owner) (entries : Fields) : Fields :=
  if owner = .post then Assoc.erase (.text "terms") entries else entries

/-- The record of a kind that a row describes, with its id. -/
def ofRow (owner : Owner) (raw : Value) : Except Fault (Int × Record) := do
  let (id, entries) ← takeId raw
  let termIds ← readTermIds (termsGiven owner entries)
  let entries := besidesTerms owner entries
  let schemas ← readSchemas (given entries "schemas" .null)
  let entity ← readEntity owner id (Assoc.erase (.text "schemas") entries)
  return (id, { entity, termIds, schemas })

/-- A row is a record of the parts that are read off it. -/
theorem ofRow_eq_ok {owner : Owner} {raw : Value} {id : Int} {entries : Fields}
    {termIds : List (Scalar × List Int)} {schemas : List Value} {entity : Entity}
    (hid : takeId raw = .ok (id, entries))
    (hterms : readTermIds (termsGiven owner entries) = .ok termIds)
    (hschemas : readSchemas (given (besidesTerms owner entries) "schemas" .null) = .ok schemas)
    (hentity : readEntity owner id
      (Assoc.erase (.text "schemas") (besidesTerms owner entries)) = .ok entity) :
    ofRow owner raw = .ok (id, { entity, termIds, schemas }) := by
  rw [ofRow, hid]
  show (do
    let termIds ← readTermIds (termsGiven owner entries)
    let schemas ← readSchemas (given (besidesTerms owner entries) "schemas" .null)
    let entity ← readEntity owner id
      (Assoc.erase (.text "schemas") (besidesTerms owner entries))
    return (id, ({ entity, termIds, schemas } : Record))) = _
  rw [hterms, hschemas, hentity]
  rfl

/-- The records of a kind that the parts of data describe, in the order in which they stand. -/
def ofParts (parts : Fields) (owner : Owner) : Except Fault (List (Int × Record)) := do
  (← ((given parts owner.key .null).orElse (.list [])).items).mapM (ofRow owner)

/-- The records that data describe, in the order in which they are stored. -/
def ofData (data : Value) : Except Fault (List (Int × Record)) := do
  let parts ← (data.orElse (.object [])).entries
  return (← ofParts parts .post) ++ (← ofParts parts .term) ++ (← ofParts parts .user)

end Record

namespace Content

/-- Puts the schemas given with a record into their table, if there are any. -/
def putSchemas (owner : Owner) (id : Int) (schemas : List Value) (c : Content) : Content :=
  { c with stored := if schemas.isEmpty then c.stored
                     else Assoc.set (owner, id) schemas c.stored }

/-- Puts a record under its id. -/
def put (c : Content) (id : Int) (r : Record) : Content :=
  match r.entity with
  | .post p =>
    let c := putSchemas .post id r.schemas
      { c with postTerms := Assoc.set id r.termIds c.postTerms }
    { c with posts := Assoc.set id p c.posts }
  | .term t =>
    let c := putSchemas .term id r.schemas c
    { c with terms := Assoc.set id t c.terms }
  | .user u =>
    let c := putSchemas .user id r.schemas c
    { c with users := Assoc.set id u c.users }

variable {c c' : Content} {owner : Owner}

/-- The date that is read is the same whatever is told. -/
theorem dateOf_of_canGive {v : Value} {date : Option Moment} (h : CanGive (readDate v) date) :
    date = dateOf v := by
  unfold readDate at h
  split at h
  · exact h.eq_of_pure
  · rename_i s
    rw [dateOf]
    split at h
    · rename_i hempty
      rw [if_pos hempty]
      exact h.eq_of_pure
    · rename_i hempty
      rw [if_neg hempty]
      split at h
      · rename_i t ht
        rw [ht]
        exact h.eq_of_pure
      · -- the text is told of, and there is no date
        rename_i hnone
        obtain ⟨-, -, h⟩ := h.exists_of_bind
        rw [hnone]
        exact h.eq_of_pure
  · rename_i hmoment htext
    rw [h.eq_of_pure]
    unfold dateOf
    split
    · exact absurd rfl (hmoment _)
    · exact absurd rfl (htext _)
    · rfl

/-- What counts and can be gone through has something in it. -/
theorem isEmpty_of_items {v : Value} (hv : v.truthy = true) {items : List Value}
    (h : v.items = .ok items) : items.isEmpty = false := by
  unfold Value.items at h
  split at h
  · obtain rfl := Except.ok.inj h
    simpa [Value.truthy] using hv
  · obtain rfl := Except.ok.inj h
    simpa [Value.truthy, Scalar.truthy] using hv
  · obtain rfl := Except.ok.inj h
    simpa [Value.truthy] using hv
  · cases h

/-- Keeping the schemas given with a record puts them into their table. -/
theorem exists_of_storeSchemas {id : Int} {v : Value} (h : storeSchemas owner id v c = .ok c') :
    ∃ schemas, Record.readSchemas v = .ok schemas ∧ c' = putSchemas owner id schemas c := by
  rw [storeSchemas] at h
  rw [Record.readSchemas]
  by_cases hv : v.truthy = true
  · rw [if_pos hv] at h ⊢
    obtain ⟨schemas, hschemas, h⟩ := exists_of_bind_eq_ok h
    refine ⟨schemas, hschemas, ?_⟩
    rw [putSchemas, isEmpty_of_items hv hschemas]
    exact (Except.ok.inj h).symm
  · rw [if_neg hv] at h ⊢
    exact ⟨[], rfl, (Except.ok.inj h).symm⟩

/-! ## One record -/

/-- Whether a step puts what a row of a kind describes by itself under its id. -/
def Adds (owner : Owner) (step : Content → Value → Logged Content) : Prop :=
  ∀ {c c' : Content} {raw : Value}, CanGive (step c raw) c' →
    ∃ id r, Record.ofRow owner raw = .ok (id, r) ∧ c' = c.put id r

theorem adds_addPost : Adds .post addPost := by
  intro c c' raw h
  obtain ⟨⟨id, entries⟩, hid, h⟩ := h.exists_of_bind
  obtain ⟨ids, hids, h⟩ := h.exists_of_bind
  obtain ⟨c₁, hc₁, h⟩ := h.exists_of_bind
  obtain ⟨date, hdate, h⟩ := h.exists_of_bind
  obtain ⟨modified, hmodified, h⟩ := h.exists_of_bind
  obtain ⟨p, hp, h⟩ := h.exists_of_bind
  obtain ⟨schemas, hschemas, hc₁⟩ := exists_of_storeSchemas hc₁.eq_of_lift
  have hp := hp.eq_of_lift
  rw [dateOf_of_canGive hdate, dateOf_of_canGive hmodified] at hp
  refine ⟨id, _, Record.ofRow_eq_ok hid.eq_of_lift hids.eq_of_lift hschemas
    (congrArg (Except.map Entity.post) hp), ?_⟩
  rw [h.eq_of_pure, hc₁]
  rfl

theorem adds_addTerm : Adds .term addTerm := by
  intro c c' raw h
  obtain ⟨⟨id, entries⟩, hid, h⟩ := h.exists_of_bind
  obtain ⟨c₁, hc₁, h⟩ := h.exists_of_bind
  obtain ⟨t, ht, h⟩ := h.exists_of_bind
  obtain ⟨schemas, hschemas, hc₁⟩ := exists_of_storeSchemas hc₁.eq_of_lift
  have hids : readTermIds (Record.termsGiven .term entries) = .ok [] := rfl
  refine ⟨id, _, Record.ofRow_eq_ok hid.eq_of_lift hids hschemas
    (congrArg (Except.map Entity.term) ht.eq_of_lift), ?_⟩
  rw [h.eq_of_pure, hc₁]
  rfl

theorem adds_addUser : Adds .user addUser := by
  intro c c' raw h
  obtain ⟨⟨id, entries⟩, hid, h⟩ := h.exists_of_bind
  obtain ⟨c₁, hc₁, h⟩ := h.exists_of_bind
  obtain ⟨u, hu, h⟩ := h.exists_of_bind
  obtain ⟨schemas, hschemas, hc₁⟩ := exists_of_storeSchemas hc₁.eq_of_lift
  have hids : readTermIds (Record.termsGiven .user entries) = .ok [] := rfl
  refine ⟨id, _, Record.ofRow_eq_ok hid.eq_of_lift hids hschemas
    (congrArg (Except.map Entity.user) hu.eq_of_lift), ?_⟩
  rw [h.eq_of_pure, hc₁]
  rfl

/-! ## All records -/

/-- Puts records under their ids one after the other. -/
def putAll (c : Content) (records : List (Int × Record)) : Content :=
  records.foldl (fun c e => c.put e.1 e.2) c

/-- Rows that are added one after the other are put under their ids. -/
theorem exists_of_foldlM {step : Content → Value → Logged Content}
    (hstep : Adds owner step) {rows : List Value} {c c' : Content}
    (h : CanGive (rows.foldlM step c) c') :
    ∃ records, rows.mapM (Record.ofRow owner) = .ok records ∧ c' = putAll c records := by
  induction rows generalizing c with
  | nil => exact ⟨[], rfl, h.eq_of_pure⟩
  | cons raw rest ih =>
    rw [List.foldlM_cons] at h
    obtain ⟨c₁, hc₁, h⟩ := h.exists_of_bind
    obtain ⟨id, r, hrow, rfl⟩ := hstep hc₁
    obtain ⟨records, hrecords, rfl⟩ := ih h
    refine ⟨(id, r) :: records, ?_, rfl⟩
    rw [List.mapM_cons, hrow, hrecords]
    rfl

/-- The same for all rows of a kind. -/
theorem exists_of_parts {step : Content → Value → Logged Content}
    (hstep : Adds owner step) {parts : Fields} {rows : List Value} {c c' : Content}
    (hrows : ((given parts owner.key .null).orElse (.list [])).items = .ok rows)
    (h : CanGive (rows.foldlM step c) c') :
    ∃ records, Record.ofParts parts owner = .ok records ∧ c' = putAll c records := by
  obtain ⟨records, hrecords, hc'⟩ := exists_of_foldlM hstep h
  refine ⟨records, ?_, hc'⟩
  rw [Record.ofParts, hrows]
  exact hrecords

/-- What is read from data are their records, put under their ids, and what has no table. -/
theorem exists_of_run_read {data : Value} {c : Content} {log : Log}
    (hrun : Logged.run (Content.read data) = (.ok c, log)) :
    ∃ records site currentUser postTypes taxonomies products productTypes sells,
      Record.ofData data = .ok records ∧
      c = { putAll { site, currentUser, postTypes, taxonomies } records with
            products, productTypes, sells } := by
  have hc : CanGive (Content.read data) c := ⟨#[], log, hrun⟩
  obtain ⟨parts, hparts, hc⟩ := hc.exists_of_bind
  obtain ⟨siteEntries, -, hc⟩ := hc.exists_of_bind
  obtain ⟨site, -, hc⟩ := hc.exists_of_bind
  obtain ⟨typeRows, -, hc⟩ := hc.exists_of_bind
  obtain ⟨postTypes, -, hc⟩ := hc.exists_of_bind
  obtain ⟨taxonomyRows, -, hc⟩ := hc.exists_of_bind
  obtain ⟨taxonomies, -, hc⟩ := hc.exists_of_bind
  obtain ⟨postRows, hpostRows, hc⟩ := hc.exists_of_bind
  obtain ⟨c₁, hposts, hc⟩ := hc.exists_of_bind
  obtain ⟨termRows, htermRows, hc⟩ := hc.exists_of_bind
  obtain ⟨c₂, hterms, hc⟩ := hc.exists_of_bind
  obtain ⟨userRows, huserRows, hc⟩ := hc.exists_of_bind
  obtain ⟨c₃, husers, hc⟩ := hc.exists_of_bind
  obtain ⟨productEntries, -, hc⟩ := hc.exists_of_bind
  obtain ⟨types, -, hc⟩ := hc.exists_of_bind
  obtain ⟨posts, hposts, hc₁⟩ := exists_of_parts adds_addPost hpostRows.eq_of_lift hposts
  obtain ⟨terms, hterms, hc₂⟩ := exists_of_parts adds_addTerm htermRows.eq_of_lift hterms
  obtain ⟨users, husers, hc₃⟩ := exists_of_parts adds_addUser huserRows.eq_of_lift husers
  refine ⟨posts ++ terms ++ users, site, given parts "current_user" .null, postTypes, taxonomies,
    productEntries, types,
    (parts.get? "products").isSome || (parts.get? "product_types").isSome, ?_, ?_⟩
  · rw [Record.ofData, hparts.eq_of_lift]
    show (do
      return (← Record.ofParts parts .post) ++ (← Record.ofParts parts .term)
        ++ (← Record.ofParts parts .user) : Except Fault _) = _
    rw [hposts, hterms, husers]
    rfl
  · rw [hc.eq_of_pure, hc₃, hc₂, hc₁]
    simp only [putAll, List.foldl_append]

end Content

end StructuredData
