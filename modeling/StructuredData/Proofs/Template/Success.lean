import StructuredData.Proofs.Template.Lookup
import StructuredData.Proofs.Template.Nesting
import StructuredData.Proofs.Template.Placeholder
import StructuredData.Proofs.Template.Sharing
import StructuredData.Proofs.Template.Termination

/-!
# Expansions that come to a result

An expansion fails in three ways only: an index in a token cannot be read, a whole number has too
many digits to be written, or it is to be told of a limit that cannot be told.  Where a context has
neither such indexes nor such numbers, every value with readable tokens comes to a result within any
limits that leave something to expand (`Value.succeeds_expand`); within other limits the context is
not looked at (`Value.expand_eq_of_spent`).  Limits that are whole numbers can always be told, so
there it is left to the indexes (`Value.at_fails_iff_meetsBadIndex`).
-/

namespace StructuredData

open Expansion

/-! ## Values that can be written -/

namespace Value

theorem isShort_list_iff {items : List Value} :
    (list items).isShort = true ↔ ∀ v ∈ items, v.isShort = true := by
  rw [isShort]
  induction items with
  | nil => simp [itemsShort]
  | cons v rest ih => rw [itemsShort, Bool.and_eq_true, ih, List.forall_mem_cons]

theorem isShort_object_iff {fields : Fields} :
    (object fields).isShort = true ↔
      ∀ e ∈ fields, e.1.isShort = true ∧ e.2.isShort = true := by
  rw [isShort]
  induction fields with
  | nil => simp [fieldsShort]
  | cons e rest ih =>
    rw [fieldsShort, Bool.and_eq_true, Bool.and_eq_true, ih, List.forall_mem_cons]

theorem isShort_text (s : String) : (text s).isShort = true := by
  simp [isShort, Scalar.isShort]

/-- What stands at a path of a value that can be written can be written. -/
theorem isShort_at {path : Path} {v w : Value} (hv : v.isShort = true) (h : v.at path = .ok w) :
    w.isShort = true := by
  refine at_induction (P := fun u => u.isShort = true) rfl ?_ ?_ hv h
  · exact fun items hitems u hu => isShort_list_iff.mp hitems u hu
  · exact fun fields hfields e he => (isShort_object_iff.mp hfields e he).2

/-- A value without numbers that are too long can stand in a text. -/
theorem exists_inline {v : Value} (hv : v.isShort = true) : ∃ s, v.inline = .ok s := by
  cases v with
  | scalar a =>
    cases a with
    | null => exact ⟨"", rfl⟩
    | _ => exact ⟨_, by rw [inline, written, if_pos hv]; simp⟩
  | list items => exact ⟨"", rfl⟩
  | object fields => exact ⟨"", rfl⟩

end Value

/-! ## Tokens that can be read -/

/-- Whether each segment of a token that is written like an index can be read as one. -/
def Path.Reads (token : String) : Prop :=
  ∀ segment ∈ Text.cut '.' token, (index? segment).isOk = true

instance : DecidablePred Path.Reads := fun token =>
  inferInstanceAs (Decidable (∀ segment ∈ Text.cut '.' token, (Path.index? segment).isOk = true))

/-- Something or null stands at the end of segments that can be read, whatever the value is. -/
theorem Value.exists_at_segments {segments : List String}
    (h : ∀ segment ∈ segments, (Path.index? segment).isOk = true) (v : Value) :
    ∃ w, v.at (segments.map .text) = .ok w := by
  rcases leads_or_meetsBadIndex_or_null segments v with ⟨w, hw⟩ | hmeets | hnull
  · exact ⟨w, at_of_leads hw⟩
  · obtain ⟨before, key, after, items, rfl, -, hbad⟩ := hmeets
    exact absurd hbad (Path.isOk_index?_iff.mp (h key (by simp)))
  · exact ⟨.null, hnull⟩

/-- A token that can be read leads to a value. -/
theorem Value.exists_at_of_reads {token : String} (h : Path.Reads token) (v : Value) :
    ∃ w, v.at (Path.ofToken token) = .ok w :=
  exists_at_segments h v

/-- Whether templates can be filled from a value: whole numbers in it can be written, and the tokens
of its texts can be read. -/
structure Value.IsReadable (v : Value) : Prop where
  isShort : v.isShort = true
  reads : ∀ t ∈ v.tokens, Path.Reads t

instance (v : Value) : Decidable v.IsReadable :=
  decidable_of_iff (v.isShort = true ∧ ∀ t ∈ v.tokens, Path.Reads t)
    ⟨fun h => ⟨h.1, h.2⟩, fun h => ⟨h.isShort, h.reads⟩⟩

/-! ## Going through texts and placeholders -/

theorem Expansion.succeeds_tell (n : Notice) : Succeeds (tell n) :=
  fun p => ⟨(), _, runFrom_tell n p, trivial⟩

/-- Values that can be written where another one can. -/
theorem Value.pointwise_isShort : Pointwise fun v w => v.isShort = true → w.isShort = true where
  scalar _ := id
  nil_list := id
  cons_list := by
    intro v w rest rest' hw hrest h
    simp only [isShort, itemsShort, Bool.and_eq_true] at hrest h ⊢
    exact ⟨hw h.1, hrest h.2⟩
  nil_object := id
  cons_object := by
    intro k v w rest rest' hw hrest h
    simp only [isShort, fieldsShort, Bool.and_eq_true] at hrest h ⊢
    exact ⟨⟨h.1.1, hw h.1.2⟩, hrest h.2⟩

/-- Going through the texts of a value comes to a result if it does at each of them; if all that is
put in their places can be written, then the result can be written where the value can. -/
theorem Value.yields_traverseTexts {f : String → Expansion Value} (v : Value)
    (h : ∀ s ∈ v.texts, Yields (fun w => w.isShort = true) (f s)) :
    Yields (fun w => v.isShort = true → w.isShort = true) (v.traverseTexts f) :=
  joins_yields.traverseTexts pointwise_isShort v fun s hs => (h s hs).mono fun _ hw _ => hw

namespace Template

variable {limits : Limits} {context : Value}

/-- A text is filled in if its tokens can be. -/
theorem succeeds_fill {f : String → Expansion String} (t : Template)
    (h : ∀ token ∈ t.tokens, Succeeds (f token)) : Succeeds (t.fill f) := by
  have hparts : Succeeds (fillFrom f t.parts) := by
    refine joins_yields.fillFrom (P := fun _ _ => True) (Q := fun _ _ => True) trivial t.parts
      (fun _ _ _ _ _ _ _ => trivial) fun p hp => h _ ?_
    exact List.mem_map.mpr ⟨p, hp, rfl⟩
  exact hparts.bind fun _ _ => .pure trivial

section Filling

variable {inside : String → String → Expansion Value} {t : Template}
  (hshort : context.isShort = true) (hreads : ∀ token ∈ t.tokens, Path.Reads token)
  (hinside : ∀ token v, t.Opens context token v → ∀ r ∈ v.texts,
    Yields (fun w => w.isShort = true) (inside token r))

include hshort hreads hinside

theorem succeeds_fillToken (hwhole : t.whole? = none) {token : String} (htoken : token ∈ t.tokens) :
    Succeeds (fillToken context inside token) := by
  obtain ⟨v, hv⟩ := Value.exists_at_of_reads (hreads token htoken) context
  have hvshort : v.isShort = true := Value.isShort_at hshort hv
  have hinline : ∀ w : Value, w.isShort = true →
      Succeeds (liftM w.inline : Expansion String) := by
    intro w hw
    obtain ⟨s, hs⟩ := Value.exists_inline hw
    exact .lift ⟨s, hs, trivial⟩
  rw [fillToken, hv, lift_ok_bind]
  split
  · rename_i r
    exact (hinside token _ (.part hwhole htoken hv) r (by simp [Value.texts_text])).bind hinline
  · exact hinline v hvshort

/-- A text with readable placeholders comes to a value that can be written, if the context and all
that is put into the text can be written. -/
theorem yields_fillTokens : Yields (fun w => w.isShort = true) (t.fillTokens context inside) := by
  unfold fillTokens
  cases hwhole : t.whole? with
  | some token =>
    obtain ⟨v, hv⟩ :=
      Value.exists_at_of_reads (hreads token (mem_tokens_of_whole? hwhole)) context
    dsimp only
    rw [hv, lift_ok_bind]
    by_cases hnull : v.isNull = true
    · rw [if_pos hnull]
      exact .pure (Value.isShort_text "")
    · rw [if_neg hnull]
      have hopens : t.Opens context token v := .whole hwhole hv (by simpa using hnull)
      exact (v.yields_traverseTexts (hinside token v hopens)).mono fun w hw =>
        hw (Value.isShort_at hshort hv)
  | none =>
    have hfill := succeeds_fill t fun token htoken =>
      succeeds_fillToken hshort hreads hinside hwhole htoken
    exact hfill.bind fun filled _ => .pure (Value.isShort_text filled)

end Filling

/-! ## Levels -/

/-- A level comes to a result if it can tell of the limits that it may hit. -/
theorem yields_expandLevel {inside : Option (String → String → Expansion Value)}
    {chain : List String} {s : String} (hstep : Succeeds (takeStep limits))
    (hdeep : inside = none → ∃ n, limits.depth.told = .ok n)
    (hfill : ∀ f, inside = some f → (∀ token ∈ (ofText s).tokens, token ∉ chain) →
      Yields (fun w => w.isShort = true) ((ofText s).fillTokens context f)) :
    Yields (fun w => w.isShort = true) (expandLevel limits context inside chain s) := by
  have hstay : Yields (fun w => w.isShort = true) (pure (.text s) : Expansion Value) :=
    .pure (Value.isShort_text s)
  unfold expandLevel
  by_cases hparts : (ofText s).parts.isEmpty = true
  · rw [if_pos hparts]
    exact hstay
  · rw [if_neg hparts]
    cases hfind : (ofText s).tokens.find? chain.contains with
    | some token => exact (succeeds_tell _).bind fun _ _ => hstay
    | none =>
      cases inside with
      | none =>
        obtain ⟨n, hn⟩ := hdeep rfl
        dsimp only
        rw [hn, lift_ok_bind]
        exact (succeeds_tell _).bind fun _ _ => hstay
      | some f =>
        refine hstep.bind fun taken _ => ?_
        cases taken with
        | false => exact hstay
        | true =>
          refine hfill f rfl fun token ht => ?_
          simpa using List.find?_eq_none.mp hfind token ht

/-- **A text comes to a value that can be written**, at each call in the course of the expansion of
a value with readable tokens: if there is no level left, then it can be told, or no token is left
to be expanded either. -/
theorem yields_expandText {v : Value} (hstep : Succeeds (takeStep limits))
    (hshort : context.isShort = true) (hreads : ∀ t ∈ v.tokensMet context, Path.Reads t)
    {depth : Nat} {chain : List String} {w : Value} (h : InCourse context none v chain w)
    (hdepth : (∃ n, limits.depth.told = .ok n) ∨
      (v.tokensMet context).toFinset.card ≤ depth + chain.length)
    {s : String} (hs : s ∈ w.texts) :
    Yields (fun u => u.isShort = true) (expandText limits context depth chain s) := by
  have hmet : ∀ t ∈ (ofText s).tokens, t ∈ v.tokensMet context := fun t ht =>
    h.tokens t (Value.mem_tokens.mpr ⟨s, hs, ht⟩)
  induction depth generalizing chain w s with
  | zero =>
    rw [expandText]
    rcases hdepth with htold | hcard
    · exact yields_expandLevel hstep (fun _ => htold) (fun f hf => by cases hf)
    · -- the chain has all the tokens that can be met, so the level makes no call
      have hall : ∀ t ∈ (ofText s).tokens, t ∈ chain := fun t ht =>
        h.mem_chain_of_card_le (by omega) (hmet t ht)
      rw [expandLevel_of_no_call hall none (some fun _ r => pure (.text r))]
      refine yields_expandLevel hstep (fun h => by cases h) ?_
      rintro f ⟨⟩ hfresh
      exact yields_fillTokens hshort (fun t ht => hreads t (hmet t ht))
        fun _ _ _ r _ => .pure (Value.isShort_text r)
  | succ depth ih =>
    rw [expandText]
    refine yields_expandLevel hstep (fun h => by cases h) ?_
    rintro f ⟨⟩ hfresh
    refine yields_fillTokens hshort (fun t ht => hreads t (hmet t ht)) fun token u hopens r hr => ?_
    have hnext := (h.text hs).step (.token hfresh (by simp) hopens)
    refine ih hnext (hdepth.imp_right fun hcard => ?_) hr fun t ht =>
      hnext.tokens t (Value.mem_tokens.mpr ⟨r, hr, ht⟩)
    rw [List.length_append, List.length_singleton]
    omega

end Template

/-! ## Limits -/

variable {limits : Limits} {context : Value}

/-- Whether limits leave nothing to expand. -/
def Limits.AreSpent (limits : Limits) : Prop :=
  limits.depth.allowance = some 0 ∨ limits.steps.allowance = some 0

/-- A limit that leaves room can be told, or is none. -/
theorem Limit.exists_told {l : Limit} (h : l.allowance ≠ some 0) :
    l.allowance = none ∨ ∃ n, l.told = .ok n := by
  cases htold : l.told with
  | ok n => exact Or.inr ⟨n, rfl⟩
  | error f =>
    rcases allowance_of_told_eq_error htold with hnone | hzero
    · exact Or.inl hnone
    · exact absurd hzero h

theorem Expansion.succeeds_takeStep
    (h : limits.steps.allowance = none ∨ ∃ n, limits.steps.told = .ok n) :
    Succeeds (takeStep limits) := by
  intro p
  rw [runFrom_takeStep]
  by_cases hspent : limits.steps.allowance.any (· ≤ p.steps) = true
  · rw [if_pos hspent]
    by_cases htold : p.exhausted = true
    · exact ⟨false, p, if_pos htold, trivial⟩
    · rw [if_neg htold]
      rcases h with hnone | ⟨n, hn⟩
      · simp [hnone] at hspent
      · exact ⟨false, _, by rw [hn], trivial⟩
  · exact ⟨true, _, if_neg hspent, trivial⟩

/-- A value with readable tokens comes to a result if each limit is never reached or can be told. -/
theorem Value.succeeds_expand_of_told
    (hdepth : limits.depth.allowance = none ∨ ∃ n, limits.depth.told = .ok n)
    (hsteps : limits.steps.allowance = none ∨ ∃ n, limits.steps.told = .ok n)
    (hcontext : context.IsReadable) {v : Value} (hv : ∀ t ∈ v.tokens, Path.Reads t) :
    Succeeds (v.expand limits context) := by
  have hreads : ∀ t ∈ v.tokensMet context, Path.Reads t := by
    intro t ht
    rcases List.mem_append.mp ht with ht | ht
    · exact hv t ht
    · exact hcontext.reads t ht
  have hlevels : (∃ n, limits.depth.told = .ok n) ∨
      (v.tokensMet context).toFinset.card ≤ v.levels limits context := by
    rcases hdepth with hnone | htold
    · right
      rw [levels, hnone]
      exact List.toFinset_card_le _
    · exact Or.inl htold
  refine (v.yields_traverseTexts fun s hs => ?_).mono fun _ _ => trivial
  exact Template.yields_expandText (succeeds_takeStep hsteps) hcontext.isShort hreads
    (InCourse.start context v none) hlevels hs

/-- **A value with readable tokens comes to a result** in a context from which templates can be
filled, within limits that leave something to expand. -/
theorem Value.succeeds_expand (hlimits : ¬ limits.AreSpent) (hcontext : context.IsReadable)
    {v : Value} (hv : ∀ t ∈ v.tokens, Path.Reads t) : Succeeds (v.expand limits context) := by
  obtain ⟨hdepth, hsteps⟩ := not_or.mp hlimits
  exact succeeds_expand_of_told (Limit.exists_told hdepth) (Limit.exists_told hsteps) hcontext hv

/-! ## Bad indexes -/

/-- Where no token has a bad index, each value comes to a result within any limits. -/
theorem Value.succeeds_expand_of_no_badIndex (depth steps : Int) {context v : Value}
    (hshort : context.isShort = true)
    (hkeys : ∀ token ∈ v.tokens ++ context.tokens, ∀ key ∈ Text.cut '.' token,
      ¬ Path.IsBadIndex key) :
    Succeeds (v.expand (.ofInts depth steps) context) := by
  have hreads : ∀ token ∈ v.tokens ++ context.tokens, Path.Reads token :=
    fun token ht key hkey => Path.isOk_index?_iff.mpr (hkeys token ht key hkey)
  have hcontext : context.IsReadable :=
    ⟨hshort, fun token ht => hreads token (List.mem_append_right _ ht)⟩
  exact succeeds_expand_of_told (Or.inr ⟨depth, rfl⟩) (Or.inr ⟨steps, rfl⟩) hcontext
    fun token ht => hreads token (List.mem_append_left _ ht)

/-- **When looking for what stands at the end of a path fails**: just if its keys lead to a list at
a bad index, that is, one of digits of which one is not decimal or that are too many; this is a bad
value.  Else there is what the path leads to, or null if it leads nowhere.  So in a context whose
whole numbers can be written every value comes to a result, within any limits, if no token has a
bad index between its dots. -/
theorem Value.at_fails_iff_meetsBadIndex :
    (∀ (v : Value) (keys : List String),
      ((∃ f, v.at (keys.map .text) = .error f) ↔ v.MeetsBadIndex keys) ∧
        (∀ f, v.at (keys.map .text) = .error f → f.category = .badValue) ∧
        (∀ w, v.Leads keys w → v.at (keys.map .text) = .ok w) ∧
        (¬ v.MeetsBadIndex keys → (∀ w, ¬ v.Leads keys w) → v.at (keys.map .text) = .ok .null)) ∧
      (∀ key, Path.IsBadIndex key ↔
        (key ≠ "" ∧ ∀ c ∈ key.toList, isDigitLike c = true) ∧
          ((∃ c ∈ key.toList, isDecimal c = false) ∨ 4300 < key.toList.length)) ∧
      ∀ (depth steps : Int) (context v : Value), context.isShort = true →
        (∀ token ∈ v.tokens ++ context.tokens, ∀ key ∈ Text.cut '.' token,
          ¬ Path.IsBadIndex key) →
        Succeeds (v.expand (.ofInts depth steps) context) := by
  refine ⟨fun v keys => ⟨⟨?_, ?_⟩, ?_, fun w => at_of_leads, ?_⟩, fun key => Path.isBadIndex_iff,
    fun depth steps context v => succeeds_expand_of_no_badIndex depth steps⟩
  · rintro ⟨f, hf⟩
    exact (exists_badInteger_of_at_eq_error hf).1
  · intro hbad
    obtain ⟨key, hat⟩ := at_of_meetsBadIndex hbad
    exact ⟨_, hat⟩
  · intro f hf
    obtain ⟨-, key, rfl⟩ := exists_badInteger_of_at_eq_error hf
    rfl
  · intro hbad hleads
    rcases leads_or_meetsBadIndex_or_null keys v with ⟨w, hw⟩ | hmeets | hnull
    · exact absurd hw (hleads w)
    · exact absurd hmeets hbad
    · exact hnull

/-- Of the digits that may be written in a key, a superscript makes a fault where a list is reached,
and a digit of another script is read. -/
theorem Value.at_fails_iff_meetsBadIndex_of_superscript :
    let context : Value := .object [("a", .list [.text "x", .text "%a.٠%, %b.c%"]), ("b", .int 7)]
    (∃ f, context.at (["a", "²", "c"].map .text) = .error f) ∧
      context.at (["a", "١"].map .text) = .ok (.text "%a.٠%, %b.c%") ∧
      context.isShort = true ∧
      (∀ token ∈ (text "%a.1%").tokens ++ context.tokens, ∀ key ∈ Text.cut '.' token,
        ¬ Path.IsBadIndex key) ∧
      Succeeds ((text "%a.1%").expand (.ofInts 2 5) context) := by
  intro context
  obtain ⟨hat, -, hexpand⟩ := at_fails_iff_meetsBadIndex
  have hbad : context.MeetsBadIndex ["a", "²", "c"] :=
    ⟨["a"], "²", ["c"], _, rfl, .step (.member rfl) (.refl _), by decide +kernel⟩
  have hleads : context.Leads ["a", "١"] (.text "%a.٠%, %b.c%") :=
    .step (.member rfl)
      (.step (.item (n := 1) (by decide +kernel) (by decide +kernel) rfl) (.refl _))
  have hshort : context.isShort = true := by decide +kernel
  have hkeys : ∀ token ∈ (text "%a.1%").tokens ++ context.tokens, ∀ key ∈ Text.cut '.' token,
      ¬ Path.IsBadIndex key := by decide +kernel
  exact ⟨(hat _ _).1.mpr hbad, (hat _ _).2.2.1 _ hleads, hshort, hkeys,
    hexpand 2 5 context _ hshort hkeys⟩

/-! ## Limits that leave nothing to expand -/

/-- Where no step is allowed, it does not matter what would be done after one. -/
theorem Expansion.takeStep_bind_of_spent {α : Type} (h : limits.steps.allowance = some 0)
    {f g : Bool → Expansion α} (hfg : f false = g false) :
    takeStep limits >>= f = takeStep limits >>= g := by
  have hrun : ∀ p, runFrom (takeStep limits >>= f) p = runFrom (takeStep limits >>= g) p := by
    intro p
    rw [runFrom_bind, runFrom_bind, runFrom_takeStep, if_pos (by simp [h])]
    by_cases htold : p.exhausted = true
    · rw [if_pos htold]
      dsimp only
      rw [hfg]
    · rw [if_neg htold]
      cases limits.steps.told with
      | ok n =>
        dsimp only
        rw [hfg]
      | error f => rfl
  exact funext hrun

/-- There is a level for a text with a placeholder if the limit on levels leaves one. -/
theorem Value.levels_ne_zero (h : limits.depth.allowance ≠ some 0) (context : Value) {v : Value}
    {s : String} (hs : s ∈ v.texts) (hparts : (Template.ofText s).parts ≠ []) :
    v.levels limits context ≠ 0 := by
  unfold levels
  cases ha : limits.depth.allowance with
  | some n =>
    intro hzero
    exact h (by rw [ha]; exact congrArg some hzero)
  | none =>
    obtain ⟨p, rest, hp⟩ := List.exists_cons_of_ne_nil hparts
    have htoken : String.ofList p.2 ∈ (Template.ofText s).tokens := by simp [Template.tokens, hp]
    have hmet : String.ofList p.2 ∈ v.tokens ++ context.tokens :=
      List.mem_append_left _ (mem_tokens.mpr ⟨s, hs, htoken⟩)
    have hpos : 0 < (v.tokens ++ context.tokens).length := List.length_pos_of_mem hmet
    rw [Option.getD_none]
    omega

/-- Where no more level is allowed, the context is not looked at. -/
theorem Template.expandLevel_none (context context' : Value) (chain : List String) (s : String) :
    expandLevel limits context none chain s = expandLevel limits context' none chain s := by
  unfold expandLevel
  by_cases hparts : (ofText s).parts.isEmpty = true
  · rw [if_pos hparts, if_pos hparts]
  · rw [if_neg hparts, if_neg hparts]
    cases (ofText s).tokens.find? chain.contains with
    | some token => rfl
    | none => rfl

/-- Nor is it where no step is allowed. -/
theorem Template.expandLevel_of_spent (h : limits.steps.allowance = some 0)
    (context context' : Value) (inside inside' : String → String → Expansion Value)
    (chain : List String) (s : String) :
    expandLevel limits context (some inside) chain s =
      expandLevel limits context' (some inside') chain s := by
  unfold expandLevel
  by_cases hparts : (ofText s).parts.isEmpty = true
  · rw [if_pos hparts, if_pos hparts]
  · rw [if_neg hparts, if_neg hparts]
    cases (ofText s).tokens.find? chain.contains with
    | some token => rfl
    | none => exact takeStep_bind_of_spent h rfl

/-- **Within limits that leave nothing to expand the context is not looked at.** -/
theorem Value.expand_eq_of_spent (h : limits.AreSpent) (v context context' : Value) :
    v.expand limits context = v.expand limits context' := by
  refine compatible_eq.traverseTexts v fun s hs => ?_
  by_cases hparts : (Template.ofText s).parts.isEmpty = true
  · rw [Template.expandText_of_isEmpty hparts, Template.expandText_of_isEmpty hparts]
  · by_cases hdepth : limits.depth.allowance = some 0
    · have hlevels : ∀ context, v.levels limits context = 0 := fun context => by
        rw [levels, hdepth, Option.getD_some]
      rw [hlevels, hlevels, Template.expandText, Template.expandText]
      exact Template.expandLevel_none context context' [] s
    · have hsteps : limits.steps.allowance = some 0 := h.resolve_left hdepth
      have hne : (Template.ofText s).parts ≠ [] := by simpa using hparts
      obtain ⟨n, hn⟩ := Nat.exists_eq_succ_of_ne_zero (levels_ne_zero hdepth context hs hne)
      obtain ⟨n', hn'⟩ := Nat.exists_eq_succ_of_ne_zero (levels_ne_zero hdepth context' hs hne)
      rw [hn, hn', Template.expandText, Template.expandText]
      exact Template.expandLevel_of_spent hsteps context context' _ _ [] s

end StructuredData
