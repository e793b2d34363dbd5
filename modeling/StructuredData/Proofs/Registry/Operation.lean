import StructuredData.Proofs.Run
import StructuredData.Registry.Session

/-!
# Operations of a session

An operation that closes the registry before all else goes the same way from a registry that is
closed already (`Session.Closing`).  This is kept by whatever follows, so the nested operations have
it from those that they start with.  From a closed registry the operations that read the types give
what the catalog says (`Session.Reads`) and leave the registry as it is (`Session.Keeps`).
-/

namespace StructuredData

theorem Registry.freeze_of_frozen {r : Registry} (hr : r.frozen = true) : r.freeze = r := by
  obtain ⟨⟨types, extensions, frozen⟩, extenders, vetoes⟩ := r
  obtain rfl : frozen = true := hr
  rfl

namespace Session

variable {α β : Type} {act : Session α} {f : α → Session β}

theorem runFrom_registry (r : Registry) (log : Log) :
    runFrom registry (r, log) = (.ok r, r, log) := rfl

/-- What only gives notices leaves the registry as it is. -/
theorem runFrom_ofLogged (act : Logged α) (r : Registry) (log : Log) :
    runFrom (ofLogged act) (r, log) = ((runFrom act log).1, r, (runFrom act log).2) := rfl

/-! ## Closing -/

/-- Whether a computation closes the registry before it looks at it: it goes the same way from the
registry that is closed already. -/
def Closing (act : Session α) : Prop := ∀ r log, runFrom act (r, log) = runFrom act (r.freeze, log)

theorem closing_freeze : Closing freeze := fun _ _ => rfl

/-- What comes after a closing computation does not matter. -/
theorem Closing.bind (h : Closing act) : Closing (act >>= f) := by
  intro r log
  rw [runFrom_bind, runFrom_bind, h r log]

theorem closing_names : Closing names := closing_freeze.bind

theorem closing_type? (name : Value) : Closing (type? name) := closing_freeze.bind

/-- Fields are read by way of the type. -/
theorem closing_fields (name : Value) : Closing (fields name) := (closing_type? name).bind

/-- A schema is made by way of the type. -/
theorem closing_schema? (name : Value) : Closing (schema? name) := (closing_type? name).bind

/-- All schemas are made by way of the names. -/
theorem closing_schemas : Closing schemas := closing_names.bind

/-- The types are listed by way of the names. -/
theorem closing_listing : Closing listing := closing_names.bind

/-! ## Keeping the registry -/

/-- Whether a computation leaves registries of a kind as they are. -/
def Keeps (kind : Registry → Prop) (act : Session α) : Prop :=
  ∀ r log, kind r → (runFrom act (r, log)).2.1 = r

namespace Keeps

variable {kind : Registry → Prop}

theorem pure (a : α) : Keeps kind (pure a : Session α) := fun _ _ _ => rfl

theorem lift (e : Except Fault α) : Keeps kind (liftM e : Session α) := fun _ _ _ => rfl

theorem registry : Keeps kind registry := fun _ _ _ => rfl

theorem catalog : Keeps kind catalog := fun _ _ _ => rfl

theorem ofLogged (act : Logged α) : Keeps kind (ofLogged act) := fun _ _ _ => rfl

/-- A closed registry is closed again. -/
theorem freeze : Keeps (fun r => r.frozen = true) freeze := fun _ _ => Registry.freeze_of_frozen

/-- A sequence leaves alone what each of its parts does. -/
theorem bind (h : Keeps kind act) (hf : ∀ a, Keeps kind (f a)) : Keeps kind (act >>= f) := by
  intro r log hr
  have hfirst := h r log hr
  rw [runFrom_bind]
  rcases hrun : runFrom act (r, log) with ⟨e | a, r', log'⟩
  · rwa [hrun] at hfirst
  · rw [hrun] at hfirst
    obtain rfl : r' = r := hfirst
    exact hf a r' log' hr

end Keeps

/-! ## Reading -/

/-- Whether a computation on a closed registry gives what is read off the catalog, and does nothing
else. -/
def Reads (act : Session α) (read : Catalog → Except Fault α) : Prop :=
  ∀ r log, r.frozen = true → runFrom act (r, log) = (read r.catalog, r, log)

namespace Reads

variable {read : Catalog → Except Fault α} {next : α → Catalog → Except Fault β}

theorem pure (a : α) : Reads (pure a) fun _ => .ok a := fun _ _ _ => rfl

theorem lift (e : Except Fault α) : Reads (liftM e) fun _ => e := fun _ _ _ => rfl

theorem throw (e : Fault) : Reads (throw e : Session α) fun _ => .error e := fun _ _ _ => rfl

theorem catalog : Reads catalog .ok := fun _ _ _ => rfl

theorem freeze : Reads freeze fun _ => .ok () := fun r log hr => by
  show ((Except.ok () : Except Fault Unit), r.freeze, log) = _
  rw [Registry.freeze_of_frozen hr]

/-- A sequence reads what its parts read. -/
theorem bind (h : Reads act read) (hf : ∀ a, Reads (f a) (next a)) :
    Reads (act >>= f) fun c => read c >>= fun a => next a c := by
  intro r log hr
  show _ = (read r.catalog >>= fun a => next a r.catalog, r, log)
  rw [runFrom_bind, h r log hr]
  cases read r.catalog with
  | error e => rfl
  | ok a => exact hf a r log hr

/-- What comes after something that may be missing is read in either case. -/
theorem bindOption {γ : Type} {act : Session (Option γ)} {read : Catalog → Except Fault (Option γ)}
    {f : Option γ → Session β} {missing : Catalog → Except Fault β}
    {there : γ → Catalog → Except Fault β} (h : Reads act read) (hnone : Reads (f none) missing)
    (hsome : ∀ b, Reads (f (some b)) (there b)) :
    Reads (act >>= f) fun c => read c >>= fun b? => b?.elim (missing c) fun b => there b c := by
  refine h.bind fun b? => ?_
  cases b? with
  | none => exact hnone
  | some b => exact hsome b

/-- For each item of a list something is read. -/
theorem mapM {γ : Type} {g : γ → Session α} {each : γ → Catalog → Except Fault α}
    (h : ∀ b, Reads (g b) (each b)) (l : List γ) :
    Reads (l.mapM g) fun c => l.mapM fun b => each b c := by
  induction l with
  | nil => exact .pure []
  | cons b rest ih =>
    intro r log hr
    show _ = ((b :: rest).mapM fun b => each b r.catalog, r, log)
    rw [List.mapM_cons, List.mapM_cons]
    exact ((h b).bind fun a => ih.bind fun as => .pure (a :: as)) r log hr

theorem congr {read' : Catalog → Except Fault α} (h : Reads act read)
    (hread : ∀ c, read c = read' c) : Reads act read' := fun r log hr => by
  rw [h r log hr, hread]

end Reads

theorem reads_names : Reads names fun c => .ok c.names :=
  Reads.freeze.bind fun _ => Reads.catalog.bind fun c => .pure c.names

theorem reads_type? (name : Value) : Reads (type? name) fun c => c.type? name :=
  Reads.freeze.bind fun _ => Reads.catalog.bind fun c => .lift (c.type? name)

/-- The fields are those that the catalog has for the name. -/
theorem reads_fields (name : Value) : Reads (fields name) fun c => c.fields name := by
  have hextended (t : SchemaType) : Reads (do (← catalog).extended (← name.key) t)
      fun c => name.key >>= fun key => c.extended key t :=
    Reads.catalog.bind fun c => (Reads.lift name.key).bind fun key => .lift _
  refine .congr ((reads_type? name).bindOption (.pure []) hextended) fun c => ?_
  cases hkey : name.key with
  | error e => rw [Catalog.fields, Catalog.type?, Value.lookupKey, hkey]; rfl
  | ok key =>
    rw [c.type?_of_key hkey, c.fields_of_key hkey]
    cases c.types.lookup key <;> rfl

/-- The schema is that which the catalog makes for the name. -/
theorem reads_schema? (name : Value) : Reads (schema? name) fun c => c.schema? name := by
  have hschema (t : SchemaType) : Reads (do return some (← t.schema (← fields name)))
      fun c => c.fields name >>= fun fields => t.schema fields >>= fun d => .ok (some d) :=
    (reads_fields name).bind fun fields =>
      (Reads.lift (t.schema fields)).bind fun d => .pure (some d)
  refine .congr ((reads_type? name).bindOption (.pure none) hschema) fun c => ?_
  cases hkey : name.key with
  | error e => rw [Catalog.schema?, Catalog.type?, Value.lookupKey, hkey]; rfl
  | ok key =>
    rw [c.type?_of_key hkey, c.fields_of_key hkey, c.schema?_of_key hkey]
    cases hlookup : c.types.lookup key with
    | none => rfl
    | some t =>
      show (c.extended key t >>= fun fields => t.schema fields >>= fun d => .ok (some d)) =
        (c.extended key t >>= t.schema) >>= fun d => .ok (some d)
      cases c.extended key t <;> rfl

/-- All schemas are those of the catalog. -/
theorem reads_schemas : Reads schemas fun c => c.all :=
  reads_names.bind fun names =>
    (Reads.mapM (fun name => reads_schema? (.scalar name)) names).bind fun found =>
      .pure (found.filterMap id)

/-- The types are listed as in the catalog. -/
theorem reads_listing : Reads listing fun c => c.listing := by
  have hoffer (name : Scalar) (t : SchemaType) :
      Reads (do return Catalog.offer name t (← t.title) (← fields (.scalar name)))
        fun c => t.title >>= fun title => c.fields (.scalar name) >>= fun fields =>
          .ok (Catalog.offer name t title fields) :=
    (Reads.lift t.title).bind fun title => (reads_fields (.scalar name)).bind fun fields =>
      .pure (Catalog.offer name t title fields)
  refine .congr (reads_names.bind fun names => .mapM (fun name =>
    (reads_type? (.scalar name)).bindOption (.throw .notAnObject) (hoffer name)) names) fun c => ?_
  refine congrArg (fun each => List.mapM each c.names) (funext fun name => ?_)
  cases c.type? (.scalar name) with
  | error e => rfl
  | ok t? => cases t? <;> rfl

/-! ## The site and its pages -/

section

variable [Slugifier]

/-- Placeholders are made by way of all schemas, once those for taxonomies are there. -/
theorem closing_placeholders {s : Source} {terms : Fields}
    (h : Variables.ofTaxonomies s = .ok terms) : Closing (placeholders s) := by
  rw [placeholders, h, lift_ok_bind]
  exact closing_schemas.bind

/-- The placeholders are those for the catalog. -/
theorem reads_placeholders (s : Source) : Reads (placeholders s) fun c => Variables.list s c :=
  (Reads.lift (Variables.ofTaxonomies s)).bind fun terms => reads_schemas.bind fun ds =>
    .lift (Variables.sorted s terms ds)

/-- A document is made of a registry that has been closed. -/
theorem closing_document {settings : Settings} (h : settings.enabled = true) (s : Source)
    (page : Page) : Closing (document settings s page) := by
  rw [document, if_pos h]
  exact closing_freeze.bind

/-- From a closed registry a document is made as it would be outside of the session. -/
theorem runFrom_document {r : Registry} (hr : r.frozen = true) (settings : Settings) (s : Source)
    (page : Page) (log : Log) :
    runFrom (document settings s page) (r, log) =
      ((runFrom (Document.ofPage settings r s page) log).1, r,
        (runFrom (Document.ofPage settings r s page) log).2) := by
  rw [document]
  split
  · rw [runFrom_bind_of_ok (Reads.freeze r log hr), runFrom_bind_of_ok (runFrom_registry r log),
      runFrom_ofLogged]
  · rw [runFrom_bind_of_ok (runFrom_registry r log), runFrom_ofLogged]

/-- Where no documents are made, nothing is done. -/
theorem runFrom_document_of_disabled {settings : Settings} (h : ¬ settings.enabled = true)
    (s : Source) (page : Page) (r : Registry) (log : Log) :
    runFrom (document settings s page) (r, log) = (.ok none, r, log) := by
  have hpage : runFrom (Document.ofPage settings r s page) log = (.ok none, log) := by
    rw [Document.ofPage, if_neg h]
    rfl
  rw [document, if_neg h]
  dsimp only
  rw [runFrom_bind_of_ok (runFrom_registry r log), runFrom_ofLogged, hpage]

end

end Session

end StructuredData
