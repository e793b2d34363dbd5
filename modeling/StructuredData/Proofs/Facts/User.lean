import StructuredData.Document.Render
import StructuredData.Proofs.Facts.Collect
import StructuredData.Proofs.Template.Termination

/-!
# The user among the facts

Who is logged in is told under one name of the facts for a page and nowhere else.
-/

namespace StructuredData

/-- A source with another user logged in. -/
def Source.withUser (s : Source) (user : Value) : Source :=
  { s with content := { s.content with currentUser := user } }

/-- Whether a token is read in the facts under a name. -/
def Template.ReadsIn (space token : String) : Prop := (Text.cut '.' token).head? = some space

instance (space token : String) : Decidable (Template.ReadsIn space token) :=
  inferInstanceAs (Decidable (_ = _))

namespace Facts

variable {s : Source} {page : Page} {ds : List Schema} {space : String} {v v' : Value}

/-- Whether facts are the same but for those under a name. -/
def SameBut (space : String) (v v' : Value) : Prop :=
  ∃ facts facts' : Fields, v = .object facts ∧ v' = .object facts' ∧
    ∀ key : String, key ≠ space → facts.get? key = facts'.get? key

/-- Such facts are the same at all tokens that are not read under the name. -/
theorem SameBut.at_eq (h : SameBut space v v') {token : String}
    (htoken : ¬ Template.ReadsIn space token) :
    v.at (Path.ofToken token) = v'.at (Path.ofToken token) := by
  obtain ⟨facts, facts', rfl, rfl, hsame⟩ := h
  unfold Path.ofToken
  cases hcut : Text.cut '.' token with
  | nil => exact absurd hcut (Text.cut_ne_nil _ _)
  | cons key rest =>
    have hkey : key ≠ space := by
      rintro rfl
      exact htoken (by rw [Template.ReadsIn, hcut]; rfl)
    have hlookup : Value.lookupKey facts (.text key) = Value.lookupKey facts' (.text key) :=
      congrArg Except.ok (hsame key hkey)
    rw [List.map_cons, Value.at, Value.at, hlookup]

/-- Facts that have different entries under one name only are the same but for that. -/
theorem sameBut_append (before after : Fields) (a a' : Value) :
    SameBut space (.object (before ++ (.text space, a) :: after))
      (.object (before ++ (.text space, a') :: after)) := by
  refine ⟨_, _, rfl, rfl, fun key hkey => ?_⟩
  have hne : ¬ (Scalar.text key == Scalar.text space) = true := by
    rw [Scalar.text_beq_iff]
    exact fun h => hkey (Scalar.text.inj h).symm
  rw [Fields.get?, Fields.get?, List.lookup_append, List.lookup_append, Assoc.lookup_cons_ite,
    Assoc.lookup_cons_ite, if_neg hne, if_neg hne]

/-! ## What does not depend on the user -/

section Frame

variable (s : Source) (user : Value) (page : Page)

@[simp] theorem postOf_withUser : postOf (s.withUser user) page = postOf s page := rfl

@[simp] theorem post_withUser (p : Post) : post (s.withUser user) p = post s p := rfl

@[simp] theorem termOf_withUser : termOf (s.withUser user) page = termOf s page := rfl

@[simp] theorem userById_withUser (id : Value) : userById (s.withUser user) id = userById s id :=
    rfl

@[simp] theorem trail_withUser : Trail.ofPage (s.withUser user) page = Trail.ofPage s page := rfl

@[simp] theorem current_withUser (post : Option Post) (crumbs : List Crumb) :
    current (s.withUser user) page post crumbs = current s page post crumbs := rfl

@[simp] theorem productOf_withUser (post : Option Post) :
    productOf (s.withUser user) post = productOf s post := rfl

@[simp] theorem visibleSchemas_withUser (settings : Settings) (r : Registry) :
    Document.visibleSchemas settings r (s.withUser user) page =
      Document.visibleSchemas settings r s page := rfl

end Frame

/-! ## What does -/

/-- The facts before extenders see them are the same for all users but for those about the user, if
there are such facts. -/
theorem alike_plain [Slugifier] {user : Value} {a : Fields}
    (hfacts : userById s (s.withUser user).currentUser = .ok a) :
    Alike (fun sheet sheet' => SameBut "user" sheet.facts sheet'.facts)
      (plain (s.withUser .null) page ds) (plain (s.withUser user) page ds) := by
  have hnull : (s.withUser .null).currentUser = .null := ite_self _
  unfold plain
  simp only [postOf_withUser, post_withUser, termOf_withUser, userById_withUser,
    trail_withUser, current_withUser, productOf_withUser, hfacts, hnull]
  refine Alike.bind_same fun post => ?_
  cases post
  all_goals
    refine Alike.bind_same fun postFacts => ?_
    refine Alike.bind_same fun termFacts => ?_
    refine Alike.bind_same fun author => ?_
    -- here the two part
    refine Alike.bind (x := .ok []) (R := fun _ _ => True) (.ok trivial) fun none user _ => ?_
    refine Alike.bind_same fun crumbs => ?_
    refine Alike.bind_same fun currentFacts => ?_
    refine Alike.bind_same fun links => ?_
    refine Alike.branch (p := s.sells = true) ?_ ?_
    all_goals exact Alike.bind_same fun product => .ok (sameBut_append [_, _, _] _ _ _)

/-- Escaping the body of the post leaves such facts as they are. -/
theorem SameBut.alike_escapeBody (h : SameBut space v v') (hspace : "post" ≠ space) :
    Alike (SameBut space) (escapeBody v) (escapeBody v') := by
  obtain ⟨facts, facts', rfl, rfl, hsame⟩ := h
  have hpost : facts'.get? "post" = facts.get? "post" := (hsame "post" hspace).symm
  unfold escapeBody
  dsimp only
  rw [hpost]
  split
  · rename_i post hget
    refine Alike.bind_same fun escaped => .ok ⟨_, _, rfl, rfl, fun key hkey => ?_⟩
    rw [Fields.get?, Fields.get?, Assoc.lookup_set, Assoc.lookup_set]
    split
    · rfl
    · exact hsame key hkey
  · exact .ok ⟨_, _, rfl, rfl, hsame⟩

/-- **Who is logged in is told under one name.**  Without extenders the facts that are collected for
a page are the same for all users but for those under this name, and no notice depends on it. -/
theorem alike_collect [Slugifier] {r : Registry} (hextenders : r.extenders = []) {user : Value}
    {a : Fields}
    (hfacts : userById s (s.withUser user).currentUser = .ok a) (page : Page) (ds : List Schema)
    (log : Log) :
    (runFrom (collect (s.withUser .null) (some r) page ds) log).2 = log ∧
    (runFrom (collect (s.withUser user) (some r) page ds) log).2 = log ∧
    Alike (SameBut "user") (runFrom (collect (s.withUser .null) (some r) page ds) log).1
      (runFrom (collect (s.withUser user) (some r) page ds) log).1 := by
  rw [runFrom_collect hextenders, runFrom_collect hextenders]
  refine ⟨rfl, rfl, ?_⟩
  exact (alike_plain hfacts).bind fun sheet sheet' hsame => hsame.alike_escapeBody (by decide)

/-- What is made of the facts is the same for all users if it is made alike of facts that are the
same but for those about the user. -/
theorem runFrom_collect_bind [Slugifier] {r : Registry} (hextenders : r.extenders = [])
    {user : Value}
    {a : Fields} (hfacts : userById s (s.withUser user).currentUser = .ok a) {β : Type}
    {f : Value → Logged β} {log : Log}
    (hf : ∀ context context' log',
      runFrom (collect (s.withUser .null) (some r) page ds) log = (.ok context, log') →
      SameBut "user" context context' → f context = f context') :
    runFrom (collect (s.withUser .null) (some r) page ds >>= f) log =
      runFrom (collect (s.withUser user) (some r) page ds >>= f) log := by
  obtain ⟨hlog, hlog', halike⟩ := alike_collect hextenders hfacts page ds log
  rcases hrun : runFrom (collect (s.withUser .null) (some r) page ds) log with ⟨x, log₁⟩
  rcases hrun' : runFrom (collect (s.withUser user) (some r) page ds) log with ⟨y, log₂⟩
  rw [hrun] at hlog halike
  rw [hrun'] at hlog' halike
  obtain rfl : log₁ = log := hlog
  obtain rfl : log₂ = log₁ := hlog'
  dsimp only at halike
  cases halike with
  | error f => rw [runFrom_bind_of_error hrun, runFrom_bind_of_error hrun']
  | ok hsame =>
    have heq := hf _ _ _ hrun hsame
    rw [runFrom_bind_of_ok hrun, runFrom_bind_of_ok hrun', heq]

end Facts

end StructuredData
