import StructuredData.Proofs.Document.Notices
import StructuredData.Proofs.Text.Slug
import StructuredData.Registry.Extension

/-!
# Extensions that fail

An extender or a veto that fails leaves a notice and nothing else.  Without it a page has the same
document, or fails with the same fault, and the same is told but for the failure
(`Document.ofPage_keeping`).
-/

namespace StructuredData

/-! ## Extensions that always fail -/

/-- Whether an extender fails on a page before it has changed anything, whatever the facts are. -/
def ContextExtender.Fails (page : Page) (extender : ContextExtender) : Prop :=
  ∀ sheet, ∃ f, runFrom (extender page) sheet = (.error f, sheet)

/-- Whether a veto fails whatever schema it is asked about. -/
def Veto.Fails (ctx : PageContext) (veto : Veto) : Prop := ∀ d, ∃ f, veto d ctx = .error f

/-- Whether a notice says that an extension has failed. -/
def Notice.tellsFailure : Notice → Bool
  | extenderFailed | vetoFailed => true
  | _ => false

/-- The registry with only some of its extensions. -/
def Registry.keeping (r : Registry) (keepExtender : ContextExtender → Bool)
    (keepVeto : Veto → Bool) : Registry :=
  { r with extenders := r.extenders.filter keepExtender, vetoes := r.vetoes.filter keepVeto }

/-! ## Notices of failures put aside -/

/-- The notices that do not tell of a failure. -/
def Log.besidesFailures (log : Log) : Log := log.filter fun n => !n.tellsFailure

theorem Log.besidesFailures_append (log more : Log) :
    besidesFailures (log ++ more) = besidesFailures log ++ besidesFailures more := by
  simp [besidesFailures]

/-- What tells a failure is left out. -/
theorem Log.besidesFailures_push {n : Notice} (hn : n.tellsFailure = true) (log : Log) :
    besidesFailures (log.push n) = besidesFailures log := by
  simp [besidesFailures, hn]

namespace Logged

variable {α β : Type} {x y : Logged α}

/-- Whether two computations come to the same and tell the same but for failures, also behind
notices that are the same but for failures. -/
def SameButFailures (x y : Logged α) : Prop :=
  ∀ log log' : Log, log.besidesFailures = log'.besidesFailures →
    (runFrom x log).1 = (runFrom y log').1 ∧
      (runFrom x log).2.besidesFailures = (runFrom y log').2.besidesFailures

namespace SameButFailures

/-- A computation that does not look at the notices before it. -/
theorem of_unaware (h : ∀ log : Log, Unaware (log ++ ·) x) : SameButFailures x x := by
  intro log log' hlog
  rw [runFrom_of_unaware h log, runFrom_of_unaware h log']
  exact ⟨rfl, by rw [Log.besidesFailures_append, Log.besidesFailures_append, hlog]⟩

theorem pure (a : α) : SameButFailures (pure a) (pure a) := of_unaware fun _ => .pure a

theorem lift (e : Except Fault α) :
    SameButFailures (liftM e : Logged α) (liftM e : Logged α) :=
  of_unaware fun _ => .lift e

/-- Sequences of parts that are the same but for failures are so too. -/
theorem bind {f g : α → Logged β} (h : SameButFailures x y)
    (hfg : ∀ a, SameButFailures (f a) (g a)) : SameButFailures (x >>= f) (y >>= g) := by
  intro log log' hlog
  obtain ⟨hresult, hrest⟩ := h log log' hlog
  rw [runFrom_bind, runFrom_bind]
  rcases hx : runFrom x log with ⟨e | a, l⟩ <;> rcases hy : runFrom y log' with ⟨e' | a', l'⟩ <;>
    rw [hx, hy] at hresult hrest <;> cases hresult
  · exact ⟨rfl, hrest⟩
  · exact hfg a l l' hrest

/-- Telling of a failure makes no difference. -/
theorem tell_bind {n : Notice} (hn : n.tellsFailure = true) (h : SameButFailures x y) :
    SameButFailures (Logged.tell n >>= fun _ => x) y := by
  intro log log' hlog
  have htell : runFrom (Logged.tell n) log = (.ok (), log.push n) := rfl
  rw [runFrom_bind_of_ok htell]
  exact h _ _ ((Log.besidesFailures_push hn log).trans hlog)

/-- Filtering with tests that are the same but for failures keeps the same. -/
theorem filterLogged {test test' : α → Logged Bool}
    (h : ∀ a, SameButFailures (test a) (test' a)) (l : List α) :
    SameButFailures (filterLogged test l) (filterLogged test' l) := by
  induction l with
  | nil => exact .pure _
  | cons a rest ih => exact (h a).bind fun keep => ih.bind fun rest => .pure _

end SameButFailures

end Logged

open Logged

namespace Registry

variable {r : Registry} {page : Page} {keepExtender : ContextExtender → Bool}
  {keepVeto : Veto → Bool}

/-- **Vetoes that fail may be dropped**: none of them decides anything. -/
theorem sameButFailures_allVetoes (d : Schema) {ctx : PageContext} {vetoes : List Veto}
    (h : ∀ veto ∈ vetoes, keepVeto veto = false → veto.Fails ctx) :
    SameButFailures (allVetoes d ctx vetoes) (allVetoes d ctx (vetoes.filter keepVeto)) := by
  induction vetoes with
  | nil => exact .pure _
  | cons veto rest ih =>
    have hrest := ih fun veto hv => h veto (by simp [hv])
    cases hkeep : keepVeto veto with
    | true =>
      rw [List.filter_cons_of_pos hkeep, allVetoes, allVetoes]
      cases veto d ctx with
      | ok shown =>
        cases shown with
        | true => exact hrest
        | false => exact .pure _
      | error f => exact (SameButFailures.of_unaware fun _ => unaware_tell _).bind fun _ => hrest
    | false =>
      obtain ⟨f, hf⟩ := h veto (by simp) hkeep d
      rw [List.filter_cons_of_neg (by simp [hkeep]), allVetoes, hf]
      exact hrest.tell_bind rfl

/-- **Extenders that fail may be dropped**: each hands on the facts that it was given. -/
theorem sameButFailures_applyExtenders {extenders : List ContextExtender}
    (h : ∀ e ∈ extenders, keepExtender e = false → e.Fails page) (sheet : Sheet) :
    SameButFailures (applyExtenders page sheet extenders)
      (applyExtenders page sheet (extenders.filter keepExtender)) := by
  induction extenders generalizing sheet with
  | nil => exact .pure _
  | cons extender rest ih =>
    have hrest := ih fun e he => h e (by simp [he])
    cases hkeep : keepExtender extender with
    | true =>
      rw [List.filter_cons_of_pos hkeep, applyExtenders, applyExtenders]
      rcases StateT.run (ExceptT.run (extender page)) sheet with ⟨f | a, sheet⟩
      · exact (SameButFailures.of_unaware fun _ => unaware_tell _).bind fun _ => hrest sheet
      · exact hrest sheet
    | false =>
      obtain ⟨f, hf⟩ := h extender (by simp) hkeep sheet
      rw [List.filter_cons_of_neg (by simp [hkeep]), applyExtenders]
      rw [runFrom] at hf
      rw [hf]
      exact (hrest sheet).tell_bind rfl

end Registry

namespace Document

variable (settings : Settings) {r : Registry} {s : Source} {page : Page}
  {keepExtender : ContextExtender → Bool} {keepVeto : Veto → Bool}

/-- The same schemas are shown without vetoes that fail. -/
theorem sameButFailures_visibleSchemas
    (hvetoes : ∀ ctx, s.pageContext page = .ok ctx →
      ∀ veto ∈ r.vetoes, keepVeto veto = false → veto.Fails ctx) :
    SameButFailures (visibleSchemas settings r s page)
      (visibleSchemas settings (r.keeping keepExtender keepVeto) s page) := by
  rw [visibleSchemas, visibleSchemas]
  cases hctx : s.pageContext page with
  | error f => exact .lift _
  | ok ctx =>
    rw [lift_ok_bind, lift_ok_bind]
    refine .bind (.lift _) fun active => .filterLogged (fun d => .bind (.lift _) fun shown => ?_) _
    cases shown with
    | true => exact Registry.sameButFailures_allVetoes d (hvetoes ctx hctx)
    | false => exact .pure _

/-- The facts are the same without extenders that fail. -/
theorem sameButFailures_extended [Slugifier]
    (hextenders : ∀ e ∈ r.extenders, keepExtender e = false → e.Fails page) (ds : List Schema) :
    SameButFailures (Facts.extended s (some r) page ds)
      (Facts.extended s (some (r.keeping keepExtender keepVeto)) page ds) :=
  .bind (.lift _) fun sheet => Registry.sameButFailures_applyExtenders hextenders sheet

/-- The document of a page is the same without what fails. -/
theorem sameButFailures_ofPage [Slugifier]
    (hextenders : ∀ e ∈ r.extenders, keepExtender e = false → e.Fails page)
    (hvetoes : ∀ ctx, s.pageContext page = .ok ctx →
      ∀ veto ∈ r.vetoes, keepVeto veto = false → veto.Fails ctx) :
    SameButFailures (ofPage settings r s page)
      (ofPage settings (r.keeping keepExtender keepVeto) s page) := by
  rw [ofPage, ofPage]
  split
  · refine .bind (sameButFailures_visibleSchemas settings (r := r.freeze) hvetoes) fun visible => ?_
    split
    · exact .pure _
    · refine .bind ?_ fun context => .bind ?_ fun _ => .pure _
      · exact .bind (sameButFailures_extended (r := r.freeze) hextenders visible) fun _ => .lift _
      · exact .of_unaware fun _ => Expansion.unaware_toLogged (unaware_nodes _ _ _ _)
  · exact .pure _

/-- So are the changes to records that are made for it. -/
theorem sameButFailures_changes [Slugifier]
    (hextenders : ∀ e ∈ r.extenders, keepExtender e = false → e.Fails page)
    (hvetoes : ∀ ctx, s.pageContext page = .ok ctx →
      ∀ veto ∈ r.vetoes, keepVeto veto = false → veto.Fails ctx) :
    SameButFailures (changes settings r s page)
      (changes settings (r.keeping keepExtender keepVeto) s page) := by
  rw [changes, changes]
  split
  · refine .bind (sameButFailures_visibleSchemas settings (r := r.freeze) hvetoes) fun visible => ?_
    split
    · exact .pure _
    · exact .bind (sameButFailures_extended hextenders visible) fun _ => .pure _
  · exact .pure _

/-- **An extension that fails is as good as none.**  If all extenders that are dropped fail on a
page before they have changed anything, and all vetoes that are dropped fail, then the page comes to
the same: the same document, none with both registries, or the same fault.  The same is told, but
for the failures, and the records of the site are left the same. -/
theorem ofPage_keeping [Slugifier]
    (hextenders : ∀ e ∈ r.extenders, keepExtender e = false → e.Fails page)
    (hvetoes : ∀ ctx, s.pageContext page = .ok ctx →
      ∀ veto ∈ r.vetoes, keepVeto veto = false → veto.Fails ctx) :
    (Logged.run (ofPage settings (r.keeping keepExtender keepVeto) s page)).1 =
        (Logged.run (ofPage settings r s page)).1 ∧
      (Logged.run (ofPage settings (r.keeping keepExtender keepVeto) s page)).2.besidesFailures =
        (Logged.run (ofPage settings r s page)).2.besidesFailures ∧
      sourceAfter settings (r.keeping keepExtender keepVeto) s page =
        sourceAfter settings r s page := by
  obtain ⟨hresult, hlog⟩ :=
    sameButFailures_ofPage settings hextenders hvetoes #[] #[] rfl
  obtain ⟨hchanges, -⟩ :=
    sameButFailures_changes settings hextenders hvetoes #[] #[] rfl
  refine ⟨hresult.symm, hlog.symm, ?_⟩
  unfold sourceAfter
  rw [show (Logged.run (changes settings (r.keeping keepExtender keepVeto) s page)).1 =
    (Logged.run (changes settings r s page)).1 from hchanges.symm]

section

attribute [local instance] Slugifier.ascii

/-- Two extenders and a veto that fail, among others that change a title and hide a schema. -/
theorem ofPage_keeping_of_fail :
    let everywhere : Value := .object [("rules", .list ["basic-global"])]
    let webPage : Value := .object [("type", "WebPage"), ("show_on", everywhere),
      ("fields", .object [("name", "%site.title%")])]
    let webSite : Value := .object [("type", "WebSite"), ("show_on", everywhere)]
    let settings : Settings := { schemas := .list [webPage, webSite] }
    let page : Page := { kind := .blog, url := "https://example.com/" }
    let built := (Logged.run (Registry.build false [])).1.toOption.getD {}
    let r : Registry := { built with
      extenders := [.fail, .set ["site", "title"] "Fair", .append [] "!"],
      vetoes := [Veto.fail, Veto.hide { type := some "WebSite" }] }
    let keepExtender : ContextExtender → Bool := fun e =>
      (runFrom (e page) { facts := .object [] }).1.toOption.isSome
    let keepVeto : Veto → Bool := fun veto => (veto {} { page }).toOption.isSome
    let kept := r.keeping keepExtender keepVeto
    kept.extenders.length = 1 ∧ kept.vetoes.length = 1 ∧
      (Logged.run (ofPage settings r {} page)).1.map (Option.map Value.texts) =
        .ok (some ["https://schema.org", "WebPage", "Fair"]) ∧
      (Logged.run (ofPage settings r {} page)).2.size = 4 ∧
      (Logged.run (ofPage settings kept {} page)).1 = (Logged.run (ofPage settings r {} page)).1 ∧
      (Logged.run (ofPage settings kept {} page)).2.besidesFailures =
        (Logged.run (ofPage settings r {} page)).2.besidesFailures ∧
      sourceAfter settings kept {} page = sourceAfter settings r {} page := by
  intro everywhere webPage webSite settings page built r keepExtender keepVeto kept
  have hextenders : ∀ e ∈ r.extenders, keepExtender e = false → e.Fails page := by
    have hset : keepExtender (.set ["site", "title"] "Fair") = true := by decide +kernel
    rw [List.forall_mem_cons, List.forall_mem_cons, List.forall_mem_singleton, hset]
    exact ⟨fun _ sheet => ⟨_, rfl⟩, nofun, fun _ sheet => ⟨_, rfl⟩⟩
  have hvetoes : ∀ ctx, Source.pageContext {} page = .ok ctx →
      ∀ veto ∈ r.vetoes, keepVeto veto = false → veto.Fails ctx := by
    intro ctx _
    rw [List.forall_mem_cons, List.forall_mem_singleton]
    exact ⟨fun _ d => ⟨_, rfl⟩, nofun⟩
  exact ⟨by decide +kernel, by decide +kernel, by decide +kernel, by decide +kernel,
    ofPage_keeping settings hextenders hvetoes⟩

end

end Document

end StructuredData
