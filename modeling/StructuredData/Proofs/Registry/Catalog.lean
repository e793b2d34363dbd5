import StructuredData.Proofs.Registry.Build
import StructuredData.Proofs.Registry.Session

/-!
# The catalog after registrations

While a registry is open, types are registered and extended in any order.  Its catalog has each name
where it was registered first, with the type that was registered last, and all extensions that were
added for it, in the order in which they were added (`Registry.catalog_of_requests`).
-/

namespace StructuredData

/-! ## What requests add -/

namespace Request

/-- The type that a request registers, under the key that its name is. -/
def registered : Request → Option (Scalar × SchemaType)
  | register name t => name.key.toOption.map fun key => (key, t)
  | _ => none

/-- The extension that a request adds, under the key that the name of its type is. -/
def extending : Request → Option (Scalar × FieldExtension)
  | extendFields name extension => name.key.toOption.map fun key => (key, extension)
  | _ => none

/-- The type that requests register last under a name. -/
def lastRegistered (name : Scalar) (qs : List Request) : Option SchemaType :=
  (qs.filterMap registered).reverse.lookup name

/-- The extensions that requests add for a name, in order. -/
def extensionsFor (name : Scalar) (qs : List Request) : List FieldExtension :=
  ((qs.filterMap extending).filter fun e => name == e.1).map Prod.snd

/-- Later requests add their extensions behind the earlier ones. -/
theorem extensionsFor_append (name : Scalar) (qs qs' : List Request) :
    extensionsFor name (qs ++ qs') = extensionsFor name qs ++ extensionsFor name qs' := by
  unfold extensionsFor
  rw [List.filterMap_append, List.filter_append, List.map_append]

/-- A single request adds its extension for the name that it has. -/
theorem extensionsFor_singleton (name : Scalar) (q : Request) :
    extensionsFor name [q] =
      match q.extending with
      | some e => if name == e.1 then [e.2] else []
      | none => [] := by
  unfold extensionsFor
  cases h : q.extending with
  | none => rw [List.filterMap_cons_none h]; rfl
  | some e =>
    rw [List.filterMap_cons_some h, List.filter_cons]
    dsimp only
    split <;> rfl

/-- The fields of a type, passed through the extensions that requests add for a name. -/
def extendedFields (name : Scalar) (qs : List Request) (t : SchemaType) :
    Except Fault (List Field) :=
  t.fields.map fun fields =>
    (extensionsFor name qs).foldl (fun fields extend => extend fields) fields

/-- A type that has fields to give has fields to extend. -/
theorem exists_extendedFields (name : Scalar) (qs : List Request) {t : SchemaType}
    (h : ∃ fields, t.fields = .ok fields) :
    ∃ fields, extendedFields name qs t = .ok fields := by
  obtain ⟨fields, hfields⟩ := h
  rw [extendedFields, hfields]
  exact ⟨_, rfl⟩

end Request

namespace Registry

variable [Slugifier] {r r' : Registry} {q : Request} {log log' : Log}

/-! ## One request -/

/-- A registration that is done leaves the registry that it is to leave, and one that is refused
leaves the registry as it was. -/
theorem next_of_attempt {a : Registration} (ha : q.attempt = some a) :
    r.next q = (runFrom (r.added q) #[]).1.toOption.getD r := by
  rw [next, Session.runFrom_perform_of_attempt ha]
  rcases runFrom (r.added q) #[] with ⟨f | r', log'⟩ <;> rfl

/-- Registering a type sets it under the key that its name is. -/
theorem next_register (hr : r.frozen = false) (name : Value) (t : SchemaType) :
    r.next (.register name t) =
      match name.key with
      | .ok key => { r with
          catalog := { r.catalog with types := Assoc.set key t r.catalog.types } }
      | .error _ => r := by
  rw [next_of_attempt rfl, added, register, Catalog.register, Catalog.checkOpen_of_open hr,
    lift_ok_bind]
  cases name.key with
  | error f => rfl
  | ok key =>
    rw [lift_ok_bind]
    -- what is told of a type that is replaced does not matter
    cases Assoc.contains key r.catalog.types <;> rfl

/-- Extending a type puts the extension behind those that are there under its key. -/
theorem next_extendFields (hr : r.frozen = false) (name : Value) (extension : FieldExtension) :
    r.next (.extendFields name extension) =
      match name.key with
      | .ok key => { r with
          catalog := { r.catalog with
            extensions := Assoc.set key ((r.catalog.extensions.lookup key).getD [] ++ [extension])
              r.catalog.extensions } }
      | .error _ => r := by
  rw [next_of_attempt rfl, added, extendFields, Catalog.extendFields,
    Catalog.checkOpen_of_open hr]
  cases name.key with
  | error f => rfl
  | ok key => rfl

/-- What extenders and vetoes are added to, and questions that leave the registry open are put to,
has the same catalog. -/
theorem catalog_next_of_other (hq : ¬ q.Closes) (hregister : ∀ name t, q ≠ .register name t)
    (hextend : ∀ name extension, q ≠ .extendFields name extension) :
    (r.next q).catalog = r.catalog := by
  cases ha : q.attempt with
  | none => rw [next_of_not_closes r ha hq]
  | some a =>
    rw [next_of_attempt ha]
    cases q with
    | register name t => exact absurd rfl (hregister name t)
    | extendFields name extension => exact absurd rfl (hextend name extension)
    | addExtender extender =>
      rw [added, addExtender]
      cases r.frozen <;> rfl
    | addVeto veto =>
      rw [added, addVeto]
      cases r.frozen <;> rfl
    | _ => cases ha

/-- **What a request does to the catalog** while it leaves the registry open: the type that it
registers is set, and the extension that it adds goes behind the others for the name. -/
theorem catalog_next (hr : r.frozen = false) (hq : ¬ q.Closes) :
    (r.next q).catalog.types = Assoc.setAll r.catalog.types q.registered.toList ∧
    ∀ name, ((r.next q).catalog.extensions.lookup name).getD [] =
      (r.catalog.extensions.lookup name).getD [] ++ Request.extensionsFor name [q] := by
  have hnone : q.extending = none → ∀ name, Request.extensionsFor name [q] = [] := by
    intro h name
    rw [Request.extensionsFor_singleton, h]
  cases q with
  | register name t =>
    rw [next_register hr, Request.registered]
    refine ⟨?_, fun name' => ?_⟩
    · cases name.key <;> rfl
    · rw [hnone rfl, List.append_nil]
      cases name.key <;> rfl
  | extendFields type extension =>
    rw [next_extendFields hr]
    refine ⟨?_, fun name => ?_⟩
    · cases type.key <;> rfl
    · cases hkey : type.key with
      | error f =>
        -- what cannot be a key extends nothing
        rw [hnone (by rw [Request.extending, hkey]; rfl), List.append_nil]
      | ok key =>
        have hextending : (Request.extendFields type extension).extending =
            some (key, extension) := by
          rw [Request.extending, hkey]
          rfl
        rw [Request.extensionsFor_singleton, hextending]
        dsimp only
        rw [Assoc.lookup_set]
        by_cases hname : (name == key) = true
        · rw [if_pos hname, if_pos hname, Assoc.lookup_congr hname]
          rfl
        · rw [if_neg hname, if_neg hname, List.append_nil]
  | _ =>
    rw [catalog_next_of_other hq (by simp) (by simp)]
    exact ⟨rfl, fun name => by rw [hnone rfl, List.append_nil]⟩

/-! ## All requests -/

/-- **What requests do to the catalog** one after the other, while they leave the registry open. -/
theorem catalog_foldl_next (hr : r.frozen = false) (qs : List Request)
    (hqs : ∀ q ∈ qs, ¬ q.Closes) :
    (qs.foldl next r).catalog.types =
      Assoc.setAll r.catalog.types (qs.filterMap Request.registered) ∧
    ∀ name, ((qs.foldl next r).catalog.extensions.lookup name).getD [] =
      (r.catalog.extensions.lookup name).getD [] ++ Request.extensionsFor name qs := by
  induction qs generalizing r with
  | nil => exact ⟨rfl, fun name => (List.append_nil _).symm⟩
  | cons q rest ih =>
    have hq : ¬ q.Closes := hqs q List.mem_cons_self
    obtain ⟨htypes, hextensions⟩ := catalog_next hr hq
    obtain ⟨ihtypes, ihextensions⟩ :=
      ih (frozen_next hr hq) fun p hp => hqs p (List.mem_cons_of_mem q hp)
    rw [List.foldl_cons]
    refine ⟨?_, fun name => ?_⟩
    · rw [ihtypes, htypes]
      cases hregistered : q.registered with
      | none => rw [List.filterMap_cons_none hregistered]; rfl
      | some e => rw [List.filterMap_cons_some hregistered]; rfl
    · rw [ihextensions name, hextensions name, List.append_assoc, ← Request.extensionsFor_append]
      rfl

/-! ## A new registry -/

section

variable {qs : List Request} (hqs : ∀ q ∈ qs, ¬ q.Closes)

include hqs

/-- The types of a new registry are those that requests register, put in one after the other. -/
theorem types_of_requests : (qs.foldl next {}).catalog.types =
    Assoc.ofPairs (qs.filterMap Request.registered) :=
  (catalog_foldl_next rfl qs hqs).1

/-- The names are those under which types are registered, each where it is first. -/
theorem names_of_requests : (qs.foldl next {}).catalog.names =
    (Assoc.keys (qs.filterMap Request.registered)).eraseDups := by
  rw [Catalog.names, types_of_requests hqs, Assoc.keys_ofPairs]

/-- Under a name is the type that is registered last. -/
theorem lookup_of_requests (name : Scalar) :
    (qs.foldl next {}).catalog.types.lookup name = Request.lastRegistered name qs := by
  rw [types_of_requests hqs, Assoc.lookup_ofPairs, Request.lastRegistered]

/-- The fields of a type under a name pass through all extensions that requests add for it. -/
theorem extended_of_requests (name : Scalar) (t : SchemaType) :
    (qs.foldl next {}).catalog.extended name t = Request.extendedFields name qs t := by
  rw [Catalog.extended, (catalog_foldl_next rfl qs hqs).2 name]
  rfl

/-- Each name has the type of a registration. -/
theorem exists_registered_of_mem_names {name : Scalar}
    (hname : name ∈ (qs.foldl next {}).catalog.names) :
    ∃ e ∈ qs.filterMap Request.registered, Request.lastRegistered name qs = some e.2 := by
  obtain ⟨e, he, rfl⟩ := List.mem_map.mp hname
  rw [types_of_requests hqs] at he
  obtain ⟨k, -, hmem⟩ := Assoc.exists_mem_of_mem_ofPairs he
  exact ⟨_, hmem, Assoc.lookup_of_mem_ofPairs he⟩

end

/-! ## Answers -/

/-- What is read off the types is read off the catalog as it is. -/
theorem answer_of_reads {α : Type} {act : Session α} {read : Catalog → Except Fault α}
    {reply : α → Reply} (hq : Session.perform q = act >>= fun a => pure (reply a))
    (hclosing : Session.Closing act) (hreads : Session.Reads act read) :
    r.answer q = (read r.catalog.freeze).map reply := by
  rw [answer, hq, hclosing.bind, runFrom_bind, hreads r.freeze #[] r.frozen_freeze]
  show _ = Except.map reply (read r.freeze.catalog)
  cases read r.freeze.catalog <;> rfl

/-- The names are answered as they stand in the catalog. -/
theorem answer_names : r.answer .names = .ok (.names r.catalog.names) :=
  answer_of_reads rfl Session.closing_names Session.reads_names

/-- A type is answered as it stands in the catalog. -/
theorem answer_type {name : Value} {key : Scalar} (hkey : name.key = .ok key) :
    r.answer (.type name) = .ok (.type (r.catalog.types.lookup key)) := by
  rw [answer_of_reads rfl (Session.closing_type? name) (Session.reads_type? name),
    Catalog.type?_of_key _ hkey]
  rfl

/-- The fields of a type are answered as the catalog extends them. -/
theorem answer_fields {name : Value} {key : Scalar} (hkey : name.key = .ok key) :
    r.answer (.fields name) =
      match r.catalog.types.lookup key with
      | some t => (r.catalog.extended key t).map .fields
      | none => .ok (.fields []) := by
  rw [answer_of_reads rfl (Session.closing_fields name) (Session.reads_fields name),
    Catalog.fields_of_key _ hkey]
  show Except.map _ (match r.catalog.types.lookup key with | some t => _ | none => _) = _
  cases r.catalog.types.lookup key <;> rfl

/-- All schemas are answered as the catalog makes them. -/
theorem answer_schemas_eq_ok_iff {ds : List Schema} :
    r.answer .schemas = .ok (.schemas ds) ↔
      List.Forall₂ (fun name d => ∃ t fields, r.catalog.types.lookup name = some t ∧
        r.catalog.extended name t = .ok fields ∧ t.schema fields = .ok d) r.catalog.names ds := by
  rw [answer_of_reads rfl Session.closing_schemas Session.reads_schemas]
  refine Iff.trans ?_ Catalog.all_eq_ok_iff
  show Except.map Reply.schemas r.catalog.freeze.all = _ ↔ r.catalog.freeze.all = _
  cases r.catalog.freeze.all <;> simp [Except.map]

/-- **The catalog has the first place, the last type and all extensions of each name.**  After any
requests that leave a new registry open, the names are those under which types were registered, each
where it was registered first.  Under a name is the type that was registered last, and its fields
have passed through all extensions that were added for the name, in the order in which they were
added, also those that came before the type.  All schemas are, in the order of the names, one for
each name: it has the name, the title and the rules of this type, these fields, and stores no
values.  There are such schemas unless a type has no title, no rules or no fields to give. -/
theorem catalog_of_requests (qs : List Request) (log : Log) (hqs : ∀ q ∈ qs, ¬ q.Closes) :
    ∃ replies r log', StateT.run (({} : Registry).handleAll qs) log = ((replies, r), log') ∧
      r.answer .names = .ok (.names (Assoc.keys (qs.filterMap Request.registered)).eraseDups) ∧
      (∀ (name : Value) (key : Scalar), name.key = .ok key →
        r.answer (.type name) = .ok (.type (Request.lastRegistered key qs)) ∧
        r.answer (.fields name) =
          match Request.lastRegistered key qs with
          | some t => (Request.extendedFields key qs t).map .fields
          | none => .ok (.fields [])) ∧
      (∀ ds, r.answer .schemas = .ok (.schemas ds) ↔
        List.Forall₂ (fun name d => ∃ t fields, Request.lastRegistered name qs = some t ∧
            Request.extendedFields name qs t = .ok fields ∧ d.type = t.name ∧
            t.title = .ok d.title ∧ t.showOn = .ok d.showOn ∧ d.notShowOn = t.notShowOn ∧
            d.fields = fields ∧ d.values = .null)
          (Assoc.keys (qs.filterMap Request.registered)).eraseDups ds) ∧
      ((∀ e ∈ qs.filterMap Request.registered, (∃ title, e.2.title = .ok title) ∧
          (∃ showOn, e.2.showOn = .ok showOn) ∧ ∃ fields, e.2.fields = .ok fields) →
        ∃ ds, r.answer .schemas = .ok (.schemas ds)) := by
  obtain ⟨log', hrun⟩ := exists_run_handleAll {} qs log
  have hall : ∀ ds, (qs.foldl next {}).answer .schemas = .ok (.schemas ds) ↔
      List.Forall₂ (fun name d => ∃ t fields, Request.lastRegistered name qs = some t ∧
          Request.extendedFields name qs t = .ok fields ∧ t.schema fields = .ok d)
        (Assoc.keys (qs.filterMap Request.registered)).eraseDups ds := by
    intro ds
    rw [answer_schemas_eq_ok_iff, names_of_requests hqs]
    simp only [lookup_of_requests hqs, extended_of_requests hqs]
  refine ⟨_, _, log', hrun, ?_, fun name key hkey => ⟨?_, ?_⟩, fun ds => ?_, fun hgiven => ?_⟩
  · rw [answer_names, names_of_requests hqs]
  · rw [answer_type hkey, lookup_of_requests hqs]
  · rw [answer_fields hkey, lookup_of_requests hqs]
    cases Request.lastRegistered key qs with
    | none => rfl
    | some t => exact congrArg (Except.map Reply.fields) (extended_of_requests hqs key t)
  · rw [hall]
    simp only [SchemaType.schema_eq_ok_iff]
  · -- each name has a schema
    simp only [hall]
    refine exists_forall₂ fun name hname => ?_
    obtain ⟨⟨k, t⟩, he, hlast⟩ :=
      exists_registered_of_mem_names hqs (names_of_requests hqs ▸ hname)
    obtain ⟨htitle, hshow, hfields⟩ := hgiven _ he
    obtain ⟨fields, hextended⟩ := Request.exists_extendedFields name qs hfields
    obtain ⟨d, hd⟩ := SchemaType.exists_schema htitle hshow fields
    exact ⟨d, t, fields, hlast, hextended, hd⟩

end Registry

section

attribute [local instance] Slugifier.ascii

/-- An event is extended, registered, replaced behind an offer, and extended again. -/
theorem Registry.catalog_of_requests_of_replaced :
    let first : SchemaType := { (default : SchemaType) with
      name := "Event", title := .ok "Occasion", showOn := .ok {} }
    let offer : SchemaType := { first with name := "Offer", title := .ok "Price" }
    let second : SchemaType := { first with
      title := .ok "Event"
      fields := .ok [{ id := "startDate" }, { id := "location" }, { id := "name" }] }
    let qs : List Request := [.extendFields "Event" List.reverse, .register "Event" first,
      .register "Offer" offer, .register "Event" second, .extendFields "Event" List.tail]
    (∀ q ∈ qs, ¬ q.Closes) ∧
    ∃ replies r log', StateT.run (({} : Registry).handleAll qs) #[] = ((replies, r), log') ∧
      r.answer .names = .ok (.names [.text "Event", .text "Offer"]) ∧
      r.answer (.type "Event") = .ok (.type second) ∧
      r.answer (.fields "Event") = .ok (.fields [{ id := "location" }, { id := "startDate" }]) ∧
      r.answer .schemas = .ok (.schemas [
        { title := "Event", type := "Event", showOn := {}, notShowOn := {},
          fields := [{ id := "location" }, { id := "startDate" }] },
        { title := "Price", type := "Offer", showOn := {}, notShowOn := {}, fields := [] }]) := by
  intro first offer second qs
  have hqs : ∀ q ∈ qs, ¬ q.Closes := by
    intro q hq hcloses
    cases hcloses <;> simp [qs] at hq
  obtain ⟨replies, r, log', hrun, hnames, htype, hall, -⟩ := catalog_of_requests qs #[] hqs
  obtain ⟨htype, hfields⟩ := htype "Event" (.text "Event") rfl
  refine ⟨hqs, replies, r, log', hrun, hnames.trans rfl, htype.trans rfl, hfields.trans rfl,
    (hall _).mpr (.cons ?_ (.cons ?_ .nil))⟩
  · exact ⟨second, _, rfl, rfl, rfl, rfl, rfl, rfl, rfl, rfl⟩
  · exact ⟨offer, _, rfl, rfl, rfl, rfl, rfl, rfl, rfl, rfl⟩

end

end StructuredData
