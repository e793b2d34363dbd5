import StructuredData.Proofs.Document.Nodes

/-!
# Earlier notices

The notices given before are looked at by nothing, so the document of a page and the notices on the
way to it do not depend on them (`Document.unaware_ofPage`).
-/

namespace StructuredData

variable {log : Log}

/-! ## Expansions -/

/-- A pass that starts behind some notices. -/
def Pass.behind (log : Log) (p : Pass) : Pass := { p with log := log ++ p.log }

/-- Whatever is made of computations that do not look at the state so does not look at it either. -/
theorem compatible_unaware (change : Pass → Pass) : Compatible fun x _ => Unaware change x where
  pure := Unaware.pure
  throw := Unaware.throw
  bind := Unaware.bind

theorem Expansion.unaware_tell (n : Notice) : Unaware (Pass.behind log) (tell n) := by
  intro p
  rw [runFrom_tell, runFrom_tell, Pass.behind, Pass.behind, Array.append_push]

/-- Whether a step may be taken does not depend on what has been told. -/
theorem Expansion.unaware_takeStep (limits : Limits) :
    Unaware (Pass.behind log) (takeStep limits) := by
  intro p
  rw [runFrom_takeStep, runFrom_takeStep, show (p.behind log).steps = p.steps from rfl,
    show (p.behind log).exhausted = p.exhausted from rfl]
  by_cases hspent : limits.steps.allowance.any (· ≤ p.steps) = true
  · rw [if_pos hspent, if_pos hspent]
    by_cases htold : p.exhausted = true
    · rw [if_pos htold, if_pos htold]
    · rw [if_neg htold, if_neg htold]
      cases limits.steps.told with
      | ok n => simp [Pass.behind]
      | error f => rfl
  · rw [if_neg hspent, if_neg hspent]
    rfl

/-- Expanding a value does not depend on what has been told. -/
theorem Value.unaware_expand (v : Value) (limits : Limits) (context : Value) :
    Unaware (Pass.behind log) (v.expand limits context) :=
  (compatible_unaware _).expand (fun _ => Expansion.unaware_tell _)
    (fun _ => Expansion.unaware_tell _) (Expansion.unaware_takeStep limits) v

/-- The nodes of schemas do not depend on the notices given before. -/
theorem Document.unaware_nodes [Slugifier] (limits : Limits) (c : Catalog) (context : Value)
    (ds : List Schema) : Unaware (Pass.behind log) (nodes limits c context ds) :=
  compatible_nodes (compatible_unaware _) Expansion.unaware_tell limits context fun _ _ =>
    (compatible_unaware _).node Expansion.unaware_tell limits context fun _ _ e _ =>
      e.2.unaware_expand limits context

/-- The nodes of schemas are the same whatever has been told, and what is told on the way goes
behind it. -/
theorem Document.run_nodes_log [Slugifier] (limits : Limits) (c : Catalog) (context : Value)
    (ds : List Schema) (log : Log) :
    (runFrom (nodes limits c context ds) { log := log }).1 =
      (runFrom (nodes limits c context ds) {}).1 := by
  have hbehind : ({ log := log } : Pass) = Pass.behind log {} := by simp [Pass.behind]
  rw [hbehind, unaware_nodes limits c context ds {}]

/-! ## Documents -/

/-- What does not look at the notices before it gives its own ones behind them. -/
theorem Logged.runFrom_of_unaware {α : Type} {act : Logged α}
    (h : ∀ log : Log, Unaware (log ++ ·) act) (log : Log) :
    runFrom act log = ((Logged.run act).1, log ++ (Logged.run act).2) := by
  have hrun : Logged.run act = runFrom act #[] := rfl
  simpa [hrun] using h log #[]

/-- What is done with a new budget does not depend on the notices given so far. -/
theorem Expansion.unaware_toLogged {α : Type} {act : Expansion α}
    (h : Unaware (Pass.behind log) act) : Unaware (log ++ ·) act.toLogged := by
  intro l
  rw [Document.runFrom_toLogged, Document.runFrom_toLogged,
    show ({ log := log ++ l } : Pass) = Pass.behind log { log := l } from rfl, h { log := l }]
  rfl

theorem Logged.unaware_tell (n : Notice) : Unaware (log ++ ·) (tell n) :=
  fun _ => congrArg (Except.ok (), ·) (Array.append_push).symm

/-- Filtering does not depend on what has been told if the test does not. -/
theorem unaware_filterLogged {α : Type} {test : α → Logged Bool}
    (h : ∀ a, Unaware (log ++ ·) (test a)) (l : List α) :
    Unaware (log ++ ·) (filterLogged test l) := by
  induction l with
  | nil => exact .pure _
  | cons a rest ih => exact (h a).bind fun keep => ih.bind fun rest => .pure _

/-- Asking vetoes does not depend on what has been told. -/
theorem Registry.unaware_allVetoes (d : Schema) (ctx : PageContext) (vetoes : List Veto) :
    Unaware (log ++ ·) (allVetoes d ctx vetoes) := by
  induction vetoes with
  | nil => exact .pure _
  | cons veto rest ih =>
    rw [allVetoes]
    split
    · exact ih
    · exact .pure _
    · exact (Logged.unaware_tell _).bind fun _ => ih

/-- Applying extenders does not depend on what has been told. -/
theorem Registry.unaware_applyExtenders (page : Page) (sheet : Sheet)
    (extenders : List ContextExtender) :
    Unaware (log ++ ·) (applyExtenders page sheet extenders) := by
  induction extenders generalizing sheet with
  | nil => exact .pure _
  | cons extender rest ih =>
    rw [applyExtenders]
    split
    split
    · exact (Logged.unaware_tell _).bind fun _ => ih _
    · exact ih _

namespace Document

variable (settings : Settings) (r : Registry) (s : Source) (page : Page)

/-- Which schemas are shown does not depend on what has been told. -/
theorem unaware_visibleSchemas : Unaware (log ++ ·) (visibleSchemas settings r s page) := by
  refine .bind (.lift _) fun ctx => .bind (.lift _) fun active => ?_
  refine unaware_filterLogged (fun d => .bind (.lift _) fun visible => ?_) active
  cases visible with
  | true => exact Registry.unaware_allVetoes d ctx r.vetoes
  | false => exact .pure _

theorem unaware_extended [Slugifier] (ds : List Schema) :
    Unaware (log ++ ·) (Facts.extended s (some r) page ds) :=
  .bind (.lift _) fun sheet => Registry.unaware_applyExtenders page sheet r.extenders

/-- The facts of a page do not depend on what has been told. -/
theorem unaware_collect [Slugifier] (ds : List Schema) :
    Unaware (log ++ ·) (Facts.collect s (some r) page ds) :=
  .bind (unaware_extended r s page ds) fun _ => .lift _

/-- **The document of a page does not depend on the notices given before.** -/
theorem unaware_ofPage [Slugifier] : Unaware (log ++ ·) (ofPage settings r s page) := by
  rw [ofPage]
  split
  · refine .bind (unaware_visibleSchemas settings r.freeze s page) fun visible => ?_
    split
    · exact .pure _
    · refine .bind (unaware_collect r.freeze s page visible) fun context => ?_
      exact .bind (Expansion.unaware_toLogged (unaware_nodes _ _ _ _)) fun _ => .pure _
  · exact .pure _

end Document

end StructuredData
