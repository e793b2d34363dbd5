import StructuredData.Proofs.Facts.Collect
import StructuredData.Proofs.Page.Trail
import StructuredData.Proofs.Text.Clean
import StructuredData.Proofs.Text.Slug
import StructuredData.Value.Route

/-!
# The trail among the facts

Without extenders the facts for a page hold the trail as list items with clean names.  No crumb of a
trail lacks a name, but a name that is made of tags and blanks only comes to nothing when it is
cleaned, and its item stays (`Facts.name_eq_empty_iff_of_collect`).
-/

namespace StructuredData

theorem Value.partAt_cons {fields : Fields} {key : String} {v : Value} {rest : Route}
    (h : fields.get? key = some v) :
    (object fields).partAt (.text key :: rest) = v.partAt rest := by
  have hpart : (object fields).part (.text key) = .ok v := by
    rw [Fields.get?] at h
    rw [part, h]
  rw [partAt, hpart]
  rfl

theorem Value.get?_of_partAt {fields : Fields} {key : String} {v : Value}
    (h : (object fields).partAt [.text key] = .ok v) : fields.get? key = some v := by
  obtain ⟨w, hw, h⟩ := exists_of_bind_eq_ok h
  cases h
  rw [part] at hw
  split at hw
  · rename_i hlookup
    cases hw
    exact hlookup
  · cases hw

namespace Facts

variable {s : Source} {page : Page} {schemas : List Schema} {v : Value}

/-- A crumb with a clean name. -/
def cleanCrumb (c : Crumb) : Crumb := { c with name := c.name.cleaned }

/-- **Without extenders the facts hold the trail** of the page. -/
theorem exists_trail_of_collect [Slugifier]
    (h : (plain s page schemas >>= fun sheet => escapeBody sheet.facts) = .ok v) :
    ∃ (facts currentFacts : Fields) (crumbs : List Crumb), v = .object facts ∧
      Trail.ofPage s page = .ok crumbs ∧ facts.get? "current" = some (.object currentFacts) ∧
      currentFacts.get? "breadcrumbs" = some (.list (Trail.listItems (crumbs.map cleanCrumb))) := by
  obtain ⟨sheet, hplain, hescape⟩ := exists_of_bind_eq_ok h
  obtain ⟨-, facts, _, currentFacts, post, crumbs, hfacts, -, hcrumbs, hcurrent, hget⟩ :=
    exists_of_plain hplain
  rw [hfacts] at hescape
  obtain ⟨facts', rfl, hescaped⟩ := get?_of_escapeBody hescape
  obtain ⟨title, -, hcurrent⟩ := exists_of_bind_eq_ok hcurrent
  cases hcurrent
  exact ⟨facts', _, crumbs, rfl, hcrumbs, (hescaped "current" (by decide)).trans hget, rfl⟩

/-- What a name is cleaned to is empty if and only if the name is made of tags and blanks only. -/
theorem cleanText_eq_empty_iff {name : Value} (h : name.truthy = true) :
    name.cleanText = "" ↔ Text.IsMarkup name.toText.toList := by
  have hnull : ¬ name.isNull = true := by
    rw [Value.isNull_iff]
    rintro rfl
    cases h
  rw [Value.cleanText, if_neg hnull, Text.clean_eq_empty_iff]

/-- **Which items of a trail have no name.**  If facts are collected for a page without extenders,
they hold one item for each crumb of the trail, in this order.  Each crumb has a name; that of the
item is empty if and only if the name of the crumb is made of tags and blanks only. -/
theorem name_eq_empty_iff_of_collect [Slugifier] {registry : Option Registry}
    (hextenders : ∀ r ∈ registry, r.extenders = []) {log : Log}
    (hrun : Logged.run (collect s registry page schemas) = (.ok v, log)) :
    ∃ crumbs items, Trail.ofPage s page = .ok crumbs ∧
      v.partAt ["current", "breadcrumbs"] = .ok (.list items) ∧
      List.Forall₂ (fun (e : Crumb × Nat) item => e.1.name.truthy = true ∧
        ∃ name, item.partAt ["item", "name"] = .ok (.text name) ∧
          (name = "" ↔ Text.IsMarkup e.1.name.toText.toList)) (crumbs.zipIdx 1) items := by
  have hplain := Prod.mk.inj ((runFrom_collect_of_forall hextenders #[]).symm.trans hrun)
  obtain ⟨facts, currentFacts, crumbs, rfl, hcrumbs, hcurrent, htrail⟩ :=
    exists_trail_of_collect hplain.1
  refine ⟨crumbs, Trail.listItems (crumbs.map cleanCrumb), hcrumbs, ?_, ?_⟩
  · rw [Value.partAt_cons hcurrent, Value.partAt_cons htrail, Value.partAt]
  · rw [Trail.listItems_map, List.forall₂_map_right_iff, List.forall₂_same]
    intro e he
    have hname := Trail.allNamed_ofPage hcrumbs e.1 (List.fst_mem_of_mem_zipIdx he)
    exact ⟨hname, e.1.name.cleanText, rfl, cleanText_eq_empty_iff hname⟩

section

attribute [local instance] Slugifier.ascii

/-- A post whose title is an image: its item has no name. -/
theorem name_eq_empty_iff_of_collect_of_image :
    let post : Post := { id := 3, title := "<img src='/rose.png'> ", url := "/rose/" }
    let s : Source := { content := { posts := [(3, post)] } }
    let page : Page := { kind := .singular, objectId := some 3, postType := "post" }
    ∃ v crumbs items, (Logged.run (collect s none page [])).1 = .ok v ∧
      Trail.ofPage s page = .ok crumbs ∧
      v.partAt ["current", "breadcrumbs"] = .ok (.list items) ∧
      List.Forall₂ (fun (e : Crumb × Nat) item => e.1.name.truthy = true ∧
        ∃ name, item.partAt ["item", "name"] = .ok (.text name) ∧
          (name = "" ↔ Text.IsMarkup e.1.name.toText.toList)) (crumbs.zipIdx 1) items ∧
      (crumbs.map fun c => c.name.cleanText) = ["Home", ""] := by
  intro post s page
  rcases hrun : Logged.run (collect s none page []) with ⟨f | v, log⟩
  · have hok : (Logged.run (collect s none page [])).1.isOk = true := by decide +kernel
    rw [hrun] at hok
    cases hok
  · obtain ⟨crumbs, items, hcrumbs, hitems, hall⟩ :=
      name_eq_empty_iff_of_collect (by simp) hrun
    have hnames : (Trail.ofPage s page).map (·.map fun c => c.name.cleanText) =
      .ok ["Home", ""] := by decide +kernel
    rw [hcrumbs] at hnames
    exact ⟨v, crumbs, items, rfl, hcrumbs, hitems, hall, Except.ok.inj hnames⟩

end

end Facts

end StructuredData
