import StructuredData.Content.Source

/-!
# Lines of ancestors

Posts and terms name their parents by id.  The line of ancestors follows these ids as far as there
are records; each record is used once, so that it ends also where parents form a circle.
-/

namespace StructuredData

theorem Assoc.length_erase_lt {α : Type} {n : Int} {a : α} {table : List (Int × α)}
    (h : table.lookup n = some a) : (Assoc.erase n table).length < table.length := by
  induction table with
  | nil => simp at h
  | cons e rest ih =>
    obtain ⟨k, b⟩ := e
    by_cases hk : n = k
    · subst hk
      have := List.length_filter_le (fun e : Int × α => !(n == e.1)) rest
      simp only [Assoc.erase, List.filter, beq_self_eq_true, Bool.not_true, List.length_cons]
      omega
    · have hk' : (n == k) = false := by simpa using hk
      simp only [List.lookup_cons, hk'] at h
      have := ih h
      simp only [Assoc.erase] at this
      simp only [Assoc.erase, List.filter, hk', Bool.not_false, List.length_cons]
      omega

namespace Lineage

/-- The ancestors of a record, the nearest first: the record that `parent` names among those that
`remain`, and then its ancestors among the others. -/
def ancestors {α : Type} (parentOf : α → Value) (remain : List (Int × α)) (parent : Value) :
    Except Fault (List α) :=
  if parent.truthy then
    match parent.asIntKey with
    | .error f => .error f
    | .ok none => .ok []
    | .ok (some n) =>
      match _h : remain.lookup n with
      | none => .ok []
      | some a => (ancestors parentOf (Assoc.erase n remain) (parentOf a)).map (a :: ·)
  else .ok []
termination_by remain.length
decreasing_by exact Assoc.length_erase_lt (by assumption)

/-- The line of ancestors of a post, the first one first. -/
def ofPost (s : Source) (p : Post) : Except Fault (List Post) :=
  (ancestors Post.parentId (Assoc.erase p.id s.content.posts) p.parentId).map List.reverse

/-- The line of ancestors of a term, the first one first. -/
def ofTerm (s : Source) (t : Term) : Except Fault (List Term) :=
  (ancestors Term.parentId (Assoc.erase t.id s.content.terms) t.parentId).map List.reverse

end Lineage

end StructuredData
