import StructuredData.Proofs.Document.Notices
import StructuredData.Proofs.Facts.Collect
import StructuredData.Proofs.Registry.Operation
import StructuredData.Proofs.Text.Slug

/-!
# Registries in use

Each request is answered by the registry alone, whatever has been told before.  A request that reads
the types closes the registry for good: from then on it stays as it is, registrations are refused,
and every question has the answer that it had then (`Registry.handleAll_closed`).  Up to then no
registration is refused, and without extenders the documents of pages do not depend on the pages
before them.
-/

namespace StructuredData

namespace Request

/-- What a request is going to add. -/
def attempt : Request → Option Registration
  | register name _ => some (.schemaType name.toText)
  | extendFields name _ => some (.fields name.toText)
  | addExtender _ => some .contextExtender
  | addVeto _ => some .visibilityVeto
  | _ => none

/-- Whether the name of the type that a request is about, if it names one to register or to extend,
can be a key, as each text can. -/
def HasKey : Request → Prop
  | register name _ | extendFields name _ => ∃ key, name.key = .ok key
  | _ => True

/-- The requests that close the registry: to close it, to read the types in any way, to list the
placeholders of a site whose taxonomies can be listed, and to make a document where documents are
made. -/
inductive Closes : Request → Prop where
  | freeze : Closes .freeze
  | names : Closes .names
  | type (name : Value) : Closes (.type name)
  | fields (name : Value) : Closes (.fields name)
  | schema (name : Value) : Closes (.schema name)
  | schemas : Closes .schemas
  | listing : Closes .listing
  | placeholders {s : Source} (h : ∃ terms, Variables.ofTaxonomies s = .ok terms) :
      Closes (.placeholders s)
  | document {settings : Settings} (h : settings.enabled = true) (s : Source) (page : Page) :
      Closes (.document settings s page)

end Request

/-! ## Registrations -/

namespace Registry

/-- The registry after a registration. -/
def added (r : Registry) : Request → Logged Registry
  | .register name t => r.register name t
  | .extendFields type extension => r.extendFields type extension
  | .addExtender extender => r.addExtender extender
  | .addVeto veto => r.addVeto veto
  | _ => return r

variable {r r' : Registry} {q : Request} {a : Registration} {log log' : Log}

/-- Where nothing may be registered any more, what is tried is refused. -/
theorem runFrom_added_of_frozen (hr : r.frozen = true) (ha : q.attempt = some a) (log : Log) :
    runFrom (r.added q) log = (.error (.frozen a), log) := by
  cases q with
  | register name t =>
    cases ha
    rw [added, register, Catalog.register, Catalog.checkOpen_of_frozen hr]
    rfl
  | extendFields name extension =>
    cases ha
    rw [added, extendFields, Catalog.extendFields, Catalog.checkOpen_of_frozen hr]
    rfl
  | addExtender extender =>
    cases ha
    rw [added, addExtender_of_frozen hr]
    rfl
  | addVeto veto =>
    cases ha
    rw [added, addVeto_of_frozen hr]
    rfl
  | _ => cases ha

/-- What is added to an open registry leaves it open. -/
theorem frozen_of_added (hr : r.frozen = false) (hadd : runFrom (r.added q) log = (.ok r', log')) :
    r'.frozen = false := by
  cases q with
  | register name t =>
    obtain ⟨c, log₁, hc, hadd⟩ := runFrom_bind_eq_ok hadd
    obtain ⟨-, -, hc⟩ := exists_of_runFrom_lift_bind hc
    obtain ⟨key, -, hc⟩ := exists_of_runFrom_lift_bind hc
    cases hadd
    dsimp only at hc
    split at hc
    · obtain ⟨-, log₂, -, hc⟩ := runFrom_bind_eq_ok hc
      cases hc
      exact hr
    · cases hc
      exact hr
  | extendFields name extension =>
    have hadd := congrArg Prod.fst hadd
    obtain ⟨c, hc, hadd⟩ := exists_of_bind_eq_ok (x := r.catalog.extendFields name extension) hadd
    obtain ⟨-, -, hc⟩ := exists_of_bind_eq_ok hc
    obtain ⟨key, -, hc⟩ := exists_of_bind_eq_ok hc
    cases hc
    cases hadd
    exact hr
  | addExtender extender =>
    rw [added, addExtender, if_neg (by simp [hr])] at hadd
    cases hadd
    exact hr
  | addVeto veto =>
    rw [added, addVeto, if_neg (by simp [hr])] at hadd
    cases hadd
    exact hr
  | _ =>
    cases hadd
    exact hr

/-- Nothing is refused by an open registry. -/
theorem exists_runFrom_added_of_open (hr : r.frozen = false) (hkey : q.HasKey) (log : Log) :
    ∃ r' log', runFrom (r.added q) log = (.ok r', log') := by
  cases q with
  | register name t =>
    obtain ⟨key, hkey⟩ := hkey
    rw [added, register, Catalog.register, Catalog.checkOpen_of_open hr, lift_ok_bind, hkey,
      lift_ok_bind]
    split <;> exact ⟨_, _, rfl⟩
  | extendFields name extension =>
    obtain ⟨key, hkey⟩ := hkey
    rw [added, extendFields, Catalog.extendFields, Catalog.checkOpen_of_open hr, hkey]
    exact ⟨_, _, rfl⟩
  | addExtender extender =>
    rw [added, addExtender, if_neg (by simp [hr])]
    exact ⟨_, _, rfl⟩
  | addVeto veto =>
    rw [added, addVeto, if_neg (by simp [hr])]
    exact ⟨_, _, rfl⟩
  | _ => exact ⟨_, _, rfl⟩

/-- A registration goes the same way whatever has been told before. -/
theorem unaware_added (r : Registry) (q : Request) : Unaware (log ++ ·) (r.added q) := by
  cases q with
  | register name t =>
    refine .bind (.bind (.lift _) fun _ => .bind (.lift _) fun key => ?_) fun _ => .pure _
    dsimp only
    split
    · exact .bind (Logged.unaware_tell _) fun _ => .pure _
    · exact .pure _
  | extendFields | addExtender | addVeto => exact .lift _
  | _ => exact .pure _

end Registry

/-! ## One request -/

namespace Session

variable {α β : Type} {act : Session α} {r : Registry} {q : Request} {a : Registration} {log : Log}

/-- The state in which more has been told before. -/
def behind (log : Log) (s : Registry × Log) : Registry × Log := (s.1, log ++ s.2)

theorem unaware_registry : Unaware (behind log) registry := fun _ => rfl

theorem unaware_ofLogged {act : Logged α} (h : Unaware (log ++ ·) act) :
    Unaware (behind log) (ofLogged act) := by
  intro s
  rw [behind, runFrom_ofLogged, h s.2]
  rfl

/-- What is read after the registry is closed does not depend on what has been told. -/
theorem unaware_of_closing {read : Catalog → Except Fault α} (hclosing : Closing act)
    (hreads : Reads act read) : Unaware (behind log) act := by
  intro s
  rw [behind, hclosing, hclosing s.1, hreads _ _ s.1.frozen_freeze, hreads _ _ s.1.frozen_freeze]
  rfl

/-- What only reads leaves a closed registry as it is. -/
theorem keeps_of_reads {read : Catalog → Except Fault α} (hreads : Reads act read) :
    Keeps (fun r => r.frozen = true) act := fun r log hr => by
  rw [hreads r log hr]

variable [Slugifier]

/-- A registration that is refused leaves the registry as it is. -/
theorem runFrom_perform_of_attempt (ha : q.attempt = some a) (r : Registry) (log : Log) :
    runFrom (perform q) (r, log) =
      match runFrom (r.added q) log with
      | (.ok r', log') => (.ok .done, r', log')
      | (.error f, log') => (.error f, r, log') := by
  have hadd : ∀ addition : Registry → Logged Registry,
      runFrom (add addition >>= fun _ => pure Reply.done) (r, log) =
        match runFrom (addition r) log with
        | (.ok r', log') => (.ok .done, r', log')
        | (.error f, log') => (.error f, r, log') := by
    intro addition
    rw [runFrom_bind, add, runFrom_bind_of_ok (runFrom_registry r log), runFrom_bind,
      runFrom_ofLogged]
    rcases runFrom (addition r) log with ⟨f | r', log'⟩ <;> rfl
  cases q with
  | register | extendFields | addExtender | addVeto => exact hadd _
  | _ => cases ha

/-- A request that closes the registry does so before all else. -/
theorem closing_perform (hq : q.Closes) : Closing (perform q) := by
  cases hq with
  | freeze => exact closing_freeze.bind
  | names => exact closing_names.bind
  | type name => exact (closing_type? name).bind
  | fields name => exact (closing_fields name).bind
  | schema name => exact (closing_schema? name).bind
  | schemas => exact closing_schemas.bind
  | listing => exact closing_listing.bind
  | placeholders h =>
    obtain ⟨terms, hterms⟩ := h
    exact (closing_placeholders hterms).bind
  | document h s page => exact (closing_document h s page).bind

/-- A request is answered, and changes the registry, in the same way whatever has been told
before. -/
theorem unaware_perform (q : Request) : Unaware (behind log) (perform q) := by
  have hread {α : Type} {act : Session α} {read : Catalog → Except Fault α} {reply : α → Reply}
      (hclosing : Closing act) (hreads : Reads act read) :
      Unaware (behind log) (act >>= fun a => pure (reply a)) :=
    (unaware_of_closing hclosing hreads).bind fun _ => .pure _
  have hadd {q : Request} {a : Registration} (ha : q.attempt = some a) :
      Unaware (behind log) (perform q) := by
    rintro ⟨r, log'⟩
    show runFrom (perform q) (r, log ++ log') = _
    rw [runFrom_perform_of_attempt ha, runFrom_perform_of_attempt ha,
      Registry.unaware_added r q log']
    rcases runFrom (r.added q) log' with ⟨f | r', log''⟩ <;> rfl
  cases q with
  | register | extendFields | addExtender | addVeto => exact hadd rfl
  | freeze => exact hread closing_freeze .freeze
  | isFrozen => exact unaware_registry.bind fun _ => .pure _
  | contains name =>
    exact (unaware_registry.bind fun _ => .pure _).bind fun _ =>
      (Unaware.lift _).bind fun _ => .pure _
  | names => exact hread closing_names reads_names
  | type name => exact hread (closing_type? name) (reads_type? name)
  | fields name => exact hread (closing_fields name) (reads_fields name)
  | schema name => exact hread (closing_schema? name) (reads_schema? name)
  | schemas => exact hread closing_schemas reads_schemas
  | listing => exact hread closing_listing reads_listing
  | placeholders s =>
    refine Unaware.bind (.bind (.lift _) fun terms => .bind ?_ fun ds => .lift _) fun _ => .pure _
    exact unaware_of_closing closing_schemas reads_schemas
  | document settings s page =>
    have hdocument : Unaware (behind log)
        (registry >>= fun r => ofLogged (Document.ofPage settings r s page)) :=
      unaware_registry.bind fun r => unaware_ofLogged (Document.unaware_ofPage settings r s page)
    refine Unaware.bind ?_ fun _ => .pure _
    rw [document]
    split
    · exact Unaware.bind (unaware_of_closing closing_freeze .freeze) fun _ => hdocument
    · exact hdocument
  | allows d ctx =>
    exact unaware_registry.bind fun r =>
      (unaware_ofLogged (Registry.unaware_allVetoes d ctx r.vetoes)).bind fun _ => .pure _
  | extendContext context page =>
    exact unaware_registry.bind fun r =>
      (unaware_ofLogged (Registry.unaware_applyExtenders page _ r.extenders)).bind fun _ => .pure _

/-- What neither adds anything nor closes the registry leaves it as it is. -/
theorem keeps_perform_of_not_closes {kind : Registry → Prop} (ha : q.attempt = none)
    (hq : ¬ q.Closes) : Keeps kind (perform q) := by
  cases q with
  | register | extendFields | addExtender | addVeto => cases ha
  | freeze => exact absurd .freeze hq
  | isFrozen => exact Keeps.registry.bind fun _ => .pure _
  | contains name => exact Keeps.catalog.bind fun _ => (Keeps.lift _).bind fun _ => .pure _
  | names => exact absurd .names hq
  | type name => exact absurd (.type name) hq
  | fields name => exact absurd (.fields name) hq
  | schema name => exact absurd (.schema name) hq
  | schemas => exact absurd .schemas hq
  | listing => exact absurd .listing hq
  | placeholders s =>
    -- the taxonomies cannot be listed, so the types are not read
    refine Keeps.bind ?_ fun _ => .pure _
    rw [placeholders]
    cases hterms : Variables.ofTaxonomies s with
    | error e => exact fun _ _ _ => rfl
    | ok terms => exact absurd (.placeholders ⟨terms, hterms⟩) hq
  | document settings s page =>
    have henabled : ¬ settings.enabled = true := fun h => hq (.document h s page)
    refine Keeps.bind ?_ fun _ => .pure _
    rw [document, if_neg henabled]
    exact Keeps.registry.bind fun r => .ofLogged _
  | allows d ctx =>
    exact Keeps.registry.bind fun r => (Keeps.ofLogged _).bind fun _ => .pure _
  | extendContext context page =>
    exact Keeps.registry.bind fun r => (Keeps.ofLogged _).bind fun _ => .pure _

/-- A closed registry stays as it is. -/
theorem keeps_perform (q : Request) : Keeps (fun r => r.frozen = true) (perform q) := by
  have hread {α : Type} {act : Session α} {read : Catalog → Except Fault α} {reply : α → Reply}
      (hreads : Reads act read) :
      Keeps (fun r => r.frozen = true) (act >>= fun a => pure (reply a)) :=
    (keeps_of_reads hreads).bind fun _ => .pure _
  by_cases hq : q.Closes
  · cases hq with
    | freeze => exact hread .freeze
    | names => exact hread reads_names
    | type name => exact hread (reads_type? name)
    | fields name => exact hread (reads_fields name)
    | schema name => exact hread (reads_schema? name)
    | schemas => exact hread reads_schemas
    | listing => exact hread reads_listing
    | placeholders => exact hread (reads_placeholders _)
    | document _ s page =>
      refine Keeps.bind (fun r log hr => ?_) fun _ => .pure _
      rw [runFrom_document hr]
  · cases ha : q.attempt with
    | none => exact keeps_perform_of_not_closes ha hq
    | some a =>
      -- the registration is refused
      intro r log hr
      rw [runFrom_perform_of_attempt ha, Registry.runFrom_added_of_frozen hr ha]

end Session

namespace Registry

variable [Slugifier] {r : Registry} {q : Request} {a : Registration}

/-- The answer to a request. -/
def answer (r : Registry) (q : Request) : Except Fault Reply :=
  (runFrom (Session.perform q) (r, #[])).1

/-- The registry after a request. -/
def next (r : Registry) (q : Request) : Registry := (runFrom (Session.perform q) (r, #[])).2.1

/-- What a request comes to does not depend on what has been told before. -/
theorem exists_run_handle (r : Registry) (q : Request) (log : Log) :
    ∃ log', StateT.run (r.handle q) log = ((r.answer q, r.next q), log') := by
  have hperform : runFrom (Session.perform q) (r, log) =
      (r.answer q, r.next q, log ++ (runFrom (Session.perform q) (r, #[])).2.2) :=
    Session.unaware_perform q (r, #[])
  refine ⟨log ++ (runFrom (Session.perform q) (r, #[])).2.2, ?_⟩
  show (match runFrom (Session.perform q) (r, log) with
    | (reply, r', log') => ((reply, r'), log')) = _
  rw [hperform]

/-- A request that closes the registry is answered by the closed one. -/
theorem answer_of_closes (r : Registry) (hq : q.Closes) : r.answer q = r.freeze.answer q := by
  rw [answer, answer, Session.closing_perform hq]

/-- A request that closes the registry changes nothing else. -/
theorem next_of_closes (r : Registry) (hq : q.Closes) : r.next q = r.freeze := by
  rw [next, Session.closing_perform hq]
  exact Session.keeps_perform q r.freeze #[] r.frozen_freeze

/-- What neither adds anything nor closes the registry changes nothing. -/
theorem next_of_not_closes (r : Registry) (ha : q.attempt = none) (hq : ¬ q.Closes) :
    r.next q = r := by
  have hkeeps : Session.Keeps (fun _ => True) (Session.perform q) :=
    Session.keeps_perform_of_not_closes ha hq
  exact hkeeps r #[] trivial

/-- A closed registry refuses each registration. -/
theorem answer_of_frozen (hr : r.frozen = true) (ha : q.attempt = some a) :
    r.answer q = .error (.frozen a) := by
  rw [answer, Session.runFrom_perform_of_attempt ha, runFrom_added_of_frozen hr ha]

theorem next_of_frozen (hr : r.frozen = true) (q : Request) : r.next q = r :=
  Session.keeps_perform q r #[] hr

/-- An open registry does each registration. -/
theorem answer_of_open (hr : r.frozen = false) (ha : q.attempt = some a) (hkey : q.HasKey) :
    r.answer q = .ok .done := by
  obtain ⟨r', log', hadd⟩ := exists_runFrom_added_of_open hr hkey #[]
  rw [answer, Session.runFrom_perform_of_attempt ha, hadd]

/-- An open registry stays open up to a request that closes it. -/
theorem frozen_next (hr : r.frozen = false) (hq : ¬ q.Closes) : (r.next q).frozen = false := by
  cases ha : q.attempt with
  | none =>
    rw [next_of_not_closes r ha hq]
    exact hr
  | some a =>
    rw [next, Session.runFrom_perform_of_attempt ha]
    rcases hadd : runFrom (r.added q) #[] with ⟨f | r', log'⟩
    · exact hr
    · exact frozen_of_added hr hadd

/-! ## Sessions -/

/-- The answers to requests that come one after the other. -/
def answers (r : Registry) : List Request → List (Except Fault Reply)
  | [] => []
  | q :: rest => r.answer q :: (r.next q).answers rest

theorem exists_run_handleAll (r : Registry) (qs : List Request) (log : Log) :
    ∃ log', StateT.run (r.handleAll qs) log = ((r.answers qs, qs.foldl next r), log') := by
  induction qs generalizing r log with
  | nil => exact ⟨log, rfl⟩
  | cons q rest ih =>
    obtain ⟨log₁, hfirst⟩ := exists_run_handle r q log
    obtain ⟨log₂, hrest⟩ := ih (r.next q) log₁
    refine ⟨log₂, ?_⟩
    rw [handleAll, StateT.run_bind, hfirst]
    show StateT.run (handleAll (r.next q) rest >>= _) log₁ = _
    rw [StateT.run_bind, hrest]
    rfl

theorem answers_append (r : Registry) (qs qs' : List Request) :
    r.answers (qs ++ qs') = r.answers qs ++ (qs.foldl next r).answers qs' := by
  induction qs generalizing r with
  | nil => rfl
  | cons q rest ih => exact congrArg (r.answer q :: ·) (ih (r.next q))

/-- A closed registry answers each request by itself. -/
theorem answers_of_frozen (hr : r.frozen = true) (qs : List Request) :
    r.answers qs = qs.map r.answer ∧ qs.foldl next r = r := by
  induction qs with
  | nil => exact ⟨rfl, rfl⟩
  | cons q rest ih =>
    rw [answers, List.foldl_cons, next_of_frozen hr, ih.1, ih.2]
    exact ⟨rfl, rfl⟩

theorem frozen_foldl_next (hr : r.frozen = false) {qs : List Request}
    (hqs : ∀ q ∈ qs, ¬ q.Closes) : (qs.foldl next r).frozen = false := by
  induction qs generalizing r with
  | nil => exact hr
  | cons q rest ih =>
    exact ih (frozen_next hr (hqs q (by simp))) fun q hq => hqs q (by simp [hq])

/-! ## Documents of pages -/

/-- The registry and the source after the documents of pages have been made one after the other. -/
def afterPages (r : Registry) (s : Source) : List (Settings × Page) → Registry × Source
  | [] => (r, s)
  | (settings, page) :: rest =>
    (r.next (.document settings s page)).afterPages (Document.sourceAfter settings r s page) rest

/-- Without extenders nothing is changed in the records. -/
theorem sourceAfter_eq_self (hr : r.extenders = []) (settings : Settings) (s : Source)
    (page : Page) : Document.sourceAfter settings r s page = s := by
  unfold Document.sourceAfter
  rcases hrun : Logged.run (Document.changes settings r s page) with ⟨f | changes, log⟩
  · rfl
  · have hnone : changes = [] := by
      change runFrom (Document.changes settings r s page) #[] = _ at hrun
      rw [Document.changes] at hrun
      split at hrun
      · obtain ⟨visible, log₁, -, hrun⟩ := runFrom_bind_eq_ok hrun
        split at hrun
        · cases hrun
          rfl
        · rw [Facts.extended_eq_plain hr] at hrun
          obtain ⟨sheet, hplain, hrun⟩ := exists_of_runFrom_lift_bind hrun
          cases hrun
          exact (Facts.exists_of_plain hplain).1
      · cases hrun
        rfl
    rw [hnone]
    rfl

/-- The document of a page is the same from a registry that is closed already. -/
theorem answer_freeze_document (r : Registry) (settings : Settings) (s : Source) (page : Page) :
    r.freeze.answer (.document settings s page) = r.answer (.document settings s page) := by
  by_cases henabled : settings.enabled = true
  · exact (answer_of_closes r (.document henabled s page)).symm
  · have hnone : ∀ r : Registry, r.answer (.document settings s page) = .ok (.document none) := by
      intro r
      rw [answer, Session.perform, runFrom_bind_of_ok
        (Session.runFrom_document_of_disabled henabled s page r #[])]
      rfl
    rw [hnone, hnone]

/-- Without documents the registry is not closed. -/
theorem next_document_of_disabled (r : Registry) {settings : Settings}
    (henabled : ¬ settings.enabled = true) (s : Source) (page : Page) :
    r.next (.document settings s page) = r := by
  refine next_of_not_closes r rfl ?_
  rintro ⟨⟩
  exact henabled ‹_›

/-- Without extenders the pages before leave the records alone, and do no more to the registry than
close it. -/
theorem afterPages_eq (hr : r.extenders = []) (s : Source) (pages : List (Settings × Page)) :
    r.afterPages s pages = (r, s) ∨ r.afterPages s pages = (r.freeze, s) := by
  have hfrozen : ∀ pages, r.freeze.afterPages s pages = (r.freeze, s) := by
    intro pages
    induction pages with
    | nil => rfl
    | cons e rest ih =>
      rw [afterPages, next_of_frozen (frozen_freeze r), sourceAfter_eq_self (r := r.freeze) hr, ih]
  induction pages with
  | nil => exact Or.inl rfl
  | cons e rest ih =>
    rw [afterPages, sourceAfter_eq_self hr]
    by_cases henabled : e.1.enabled = true
    · rw [next_of_closes r (.document henabled s e.2)]
      exact Or.inr (hfrozen rest)
    · rw [next_document_of_disabled r henabled]
      exact ih

/-- **A registry is closed for good, and not before it is read.**  After a request that closes it,
it stays as it is whatever is requested: each registration is refused, and every question has the
answer that it had right after that request.  Up to such a request every registration is done.
Without extenders the document of a page is the same from a closed registry and after any other
pages. -/
theorem handleAll_closed (r : Registry) :
    (∀ (earlier : List Request) (q : Request) (later : List Request) (log : Log),
      q.Closes → ∃ replies r' log₁ log₂,
        StateT.run (r.handleAll (earlier ++ [q])) log = ((replies, r'), log₁) ∧
        StateT.run (r.handleAll (earlier ++ q :: later)) log =
          ((replies ++ later.map r'.answer, r'), log₂) ∧
        r'.frozen = true ∧ ∀ p a, p.attempt = some a → r'.answer p = .error (.frozen a)) ∧
    (∀ (earlier : List Request) (q : Request) (a : Registration) (log : Log),
      r.frozen = false → (∀ p ∈ earlier, ¬ p.Closes) → q.attempt = some a → q.HasKey →
      ∃ replies r' log', StateT.run (r.handleAll (earlier ++ [q])) log =
        ((replies ++ [.ok .done], r'), log')) ∧
    (∀ (earlier : List (Settings × Page)) (settings : Settings) (s : Source) (page : Page),
      r.extenders = [] →
        r.freeze.answer (.document settings s page) = r.answer (.document settings s page) ∧
        (r.afterPages s earlier).1.answer (.document settings (r.afterPages s earlier).2 page) =
          r.answer (.document settings s page)) := by
  refine ⟨fun earlier q later log hq => ?_, fun earlier q a log hr hearlier ha hkey => ?_,
    fun earlier settings s page hr => ⟨answer_freeze_document r settings s page, ?_⟩⟩
  · -- the requests after the closing one are answered by the registry that it leaves
    have hfrozen : ((earlier ++ [q]).foldl next r).frozen = true := by
      rw [List.foldl_append, List.foldl_cons, List.foldl_nil, next_of_closes _ hq, frozen_freeze]
    obtain ⟨hanswers, hsame⟩ := answers_of_frozen hfrozen later
    obtain ⟨log₁, hfirst⟩ := exists_run_handleAll r (earlier ++ [q]) log
    obtain ⟨log₂, hall⟩ := exists_run_handleAll r (earlier ++ q :: later) log
    rw [List.append_cons, List.foldl_append, hsame, answers_append, hanswers,
      ← List.append_cons] at hall
    exact ⟨_, _, log₁, log₂, hfirst, hall, hfrozen, fun p a hp => answer_of_frozen hfrozen hp⟩
  · obtain ⟨log', hall⟩ := exists_run_handleAll r (earlier ++ [q]) log
    rw [answers_append, answers, answers,
      answer_of_open (frozen_foldl_next hr hearlier) ha hkey] at hall
    exact ⟨_, _, log', hall⟩
  · -- the pages before have closed the registry, or none of them was rendered
    rcases afterPages_eq hr s earlier with h | h
    · rw [h]
    · rw [h, answer_freeze_document]

end Registry

section

attribute [local instance] Slugifier.ascii

/-- A veto and an extension of a type that is not registered are added; then the names are read, and
neither another veto nor another type is taken any more. -/
theorem Registry.handleAll_closed_of_names :
    let r : Registry := {}
    let earlier : List Request := [.addVeto breadcrumbVeto]
    let extension : Request := .extendFields "Event" List.reverse
    let later : List Request := [.addVeto breadcrumbVeto, .register "Event" default, .names]
    (Request.names.Closes ∧ ∃ replies r' log₁ log₂,
      StateT.run (r.handleAll (earlier ++ [.names])) #[] = ((replies, r'), log₁) ∧
      StateT.run (r.handleAll (earlier ++ .names :: later)) #[] =
        ((replies ++ later.map r'.answer, r'), log₂) ∧
      r'.frozen = true ∧ ∀ p a, p.attempt = some a → r'.answer p = .error (.frozen a)) ∧
    (r.frozen = false ∧ (∀ p ∈ earlier, ¬ p.Closes) ∧
      extension.attempt = some (.fields "Event") ∧ extension.HasKey ∧ ∃ replies r' log',
        StateT.run (r.handleAll (earlier ++ [extension])) #[] =
          ((replies ++ [.ok .done], r'), log')) ∧
    (r.extenders = [] ∧
      r.freeze.answer (.document {} {} { kind := .blog }) =
        r.answer (.document {} {} { kind := .blog }) ∧
      (r.afterPages {} [({}, { kind := .search })]).1.answer
          (.document {} (r.afterPages {} [({}, { kind := .search })]).2 { kind := .blog }) =
        r.answer (.document {} {} { kind := .blog })) := by
  intro r earlier extension later
  obtain ⟨hclosed, hopen, hpages⟩ := handleAll_closed r
  have hearlier : ∀ p ∈ earlier, ¬ p.Closes := by
    intro p hp
    rw [List.mem_singleton.mp hp]
    exact nofun
  have hkey : extension.HasKey := ⟨.text "Event", rfl⟩
  exact ⟨⟨.names, hclosed earlier .names later #[] .names⟩,
    ⟨rfl, hearlier, rfl, hkey, hopen earlier extension _ #[] rfl hearlier rfl hkey⟩,
    rfl, hpages [({}, { kind := .search })] {} {} { kind := .blog } rfl⟩

end

end StructuredData
