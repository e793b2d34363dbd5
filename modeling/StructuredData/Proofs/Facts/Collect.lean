import StructuredData.Facts.Collect
import StructuredData.Proofs.Assoc
import StructuredData.Proofs.Run

/-!
# The facts without extenders

Without extenders the facts for a page hold the references of its schemas and the trail of the page
as they are, and no notice is given.
-/

namespace StructuredData

/-- What is read under a text key after one is set. -/
theorem Fields.get?_set (key key' : String) (v : Value) (fields : Fields) :
    Fields.get? (Assoc.set (.text key') v fields) key =
      if key = key' then some v else fields.get? key := by
  rw [Fields.get?, Assoc.lookup_set]
  congr 1
  rw [Scalar.text_beq_iff, Scalar.text.injEq]
  exact propext eq_comm

namespace Facts

/-- The facts before extenders see them hold the references and the trail, and nothing has been
changed. -/
theorem exists_of_plain [Slugifier] {s : Source} {page : Page} {schemas : List Schema}
    {sheet : Sheet} (h : plain s page schemas = .ok sheet) :
    sheet.changes = [] ∧
    ∃ (facts links currentFacts : Fields) (post : Option Post) (crumbs : List Crumb),
      sheet.facts = .object facts ∧
      (Schema.links schemas = .ok links ∧ facts.get? "schemas" = some (.object links)) ∧
      Trail.ofPage s page = .ok crumbs ∧ current s page post crumbs = .ok currentFacts ∧
      facts.get? "current" = some (.object currentFacts) := by
  obtain ⟨post, -, h⟩ := exists_of_bind_eq_ok h
  cases post
  all_goals
    obtain ⟨postFacts, -, h⟩ := exists_of_bind_eq_ok h
    obtain ⟨termFacts, -, h⟩ := exists_of_bind_eq_ok h
    obtain ⟨author, -, h⟩ := exists_of_bind_eq_ok h
    obtain ⟨user, -, h⟩ := exists_of_bind_eq_ok h
    obtain ⟨crumbs, hcrumbs, h⟩ := exists_of_bind_eq_ok h
    obtain ⟨currentFacts, hcurrent, h⟩ := exists_of_bind_eq_ok h
    obtain ⟨links, hlinks, h⟩ := exists_of_bind_eq_ok h
    dsimp only at h
    split at h
    · obtain ⟨product, -, h⟩ := exists_of_bind_eq_ok h
      cases h
      exact ⟨rfl, _, links, currentFacts, _, crumbs, rfl, ⟨hlinks, rfl⟩, hcrumbs, hcurrent, rfl⟩
    · obtain ⟨product, -, h⟩ := exists_of_bind_eq_ok h
      cases h
      exact ⟨rfl, _, links, currentFacts, _, crumbs, rfl, ⟨hlinks, rfl⟩, hcrumbs, hcurrent, rfl⟩

/-- Escaping the body of the post leaves the other facts alone. -/
theorem get?_of_escapeBody {facts : Fields} {v : Value} (h : escapeBody (.object facts) = .ok v) :
    ∃ facts' : Fields, v = .object facts' ∧
      ∀ key : String, key ≠ "post" → facts'.get? key = facts.get? key := by
  simp only [escapeBody] at h
  split at h
  · obtain ⟨escaped, -, h⟩ := exists_of_bind_eq_ok h
    cases h
    refine ⟨_, rfl, fun key hkey => ?_⟩
    rw [Fields.get?_set, if_neg hkey]
  · cases h
    exact ⟨facts, rfl, fun _ _ => rfl⟩

/-- Without extenders the facts stay as they are. -/
theorem extended_eq_plain [Slugifier] {s : Source} {r : Registry} {page : Page}
    {schemas : List Schema} (hextenders : r.extenders = []) :
    extended s (some r) page schemas = liftM (plain s page schemas) := by
  show (liftM (plain s page schemas) >>= fun sheet => r.extendContext sheet page) = _
  have hsame : ∀ sheet, r.extendContext sheet page = pure sheet := by
    intro sheet
    rw [Registry.extendContext, hextenders, Registry.applyExtenders]
  cases plain s page schemas with
  | error f => rfl
  | ok sheet => exact hsame sheet

/-- Without extenders no notice is given, and none that was given matters. -/
theorem runFrom_collect [Slugifier] {s : Source} {r : Registry} {page : Page}
    {schemas : List Schema} (hextenders : r.extenders = []) (log : Log) :
    runFrom (collect s (some r) page schemas) log =
      (plain s page schemas >>= fun sheet => escapeBody sheet.facts, log) := by
  rw [collect, extended_eq_plain hextenders]
  cases plain s page schemas <;> rfl

/-- The same where there may be no registry at all. -/
theorem runFrom_collect_of_forall [Slugifier] {s : Source} {registry : Option Registry}
    {page : Page}
    {schemas : List Schema} (hextenders : ∀ r ∈ registry, r.extenders = []) (log : Log) :
    runFrom (collect s registry page schemas) log =
      (plain s page schemas >>= fun sheet => escapeBody sheet.facts, log) := by
  cases registry with
  | none =>
    unfold collect extended
    cases plain s page schemas <;> rfl
  | some r => exact runFrom_collect (hextenders r rfl) log

/-- **Without extenders the facts hold the references** of the schemas of the page. -/
theorem exists_links_of_collect [Slugifier] {s : Source} {page : Page} {schemas : List Schema}
    {v : Value} (h : (plain s page schemas >>= fun sheet => escapeBody sheet.facts) = .ok v) :
    ∃ facts links : Fields, v = .object facts ∧ Schema.links schemas = .ok links ∧
      facts.get? "schemas" = some (.object links) := by
  obtain ⟨sheet, hplain, hescape⟩ := exists_of_bind_eq_ok h
  obtain ⟨-, facts, links, _, _, _, hfacts, ⟨hlinks, hget⟩, -⟩ := exists_of_plain hplain
  rw [hfacts] at hescape
  obtain ⟨facts', rfl, hescaped⟩ := get?_of_escapeBody hescape
  exact ⟨facts', links, rfl, hlinks, (hescaped "schemas" (by decide)).trans hget⟩

end Facts

end StructuredData
