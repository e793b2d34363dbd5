import StructuredData.Proofs.Template.Quiet
import StructuredData.Proofs.Template.Success

/-!
# Placeholders in a longer text

A text that is one placeholder is filled with a value, and a longer text with the texts of values.
The two ways agree: what is put into a longer text in the place of a placeholder is the text of what
the placeholder comes to alone (`Value.inline_eq_fill`).
-/

namespace StructuredData

open Expansion

variable {limits : Limits} {context : Value}

/-! ## Enough levels -/

/-- With a level for each token that can be met and is not in the chain, more levels change
nothing. -/
theorem Template.expandText_eq_of_card_le {v w : Value} {depth depth' : Nat}
    (hdepth : depth ≤ depth') {chain : List String} (h : InCourse context none v chain w)
    (hcard : (v.tokensMet context).toFinset.card ≤ depth + chain.length) {s : String}
    (hs : s ∈ w.texts) :
    expandText limits context depth chain s = expandText limits context depth' chain s := by
  induction depth generalizing depth' chain w s with
  | zero =>
    -- all tokens that can be met are in the chain, so no level is needed
    have hall : ∀ t ∈ (ofText s).tokens, t ∈ chain := fun t ht =>
      h.mem_chain_of_card_le (by omega) (h.tokens t (Value.mem_tokens.mpr ⟨s, hs, ht⟩))
    cases depth' with
    | zero => rfl
    | succ depth' => exact expandLevel_of_no_call hall none _
  | succ depth ih =>
    cases depth' with
    | zero => omega
    | succ depth' =>
      rw [expandText, expandText]
      refine compatible_eq.expandLevel (fun _ => rfl) rfl (fun _ _ => rfl) (by simp) ?_
      rintro f f' ⟨⟩ ⟨⟩ hfresh token u hopens r hr
      exact ih (by omega) ((h.text hs).step (.token hfresh (by simp) hopens))
        (by rw [List.length_append, List.length_singleton]; omega) hr

/-- A placeholder in a text has as many levels as it needs if it has those of the text. -/
theorem Value.expand_placeholder {s token : String} (htoken : token ∈ (Template.ofText s).tokens) :
    (text (Template.placeholder token)).expand limits context =
      Template.expandText limits context ((text s).levels limits context) []
        (Template.placeholder token) := by
  rw [expand_text]
  cases ha : limits.depth.allowance with
  | some n =>
    have hlevels : ∀ v : Value, v.levels limits context = n := fun v => by
      rw [levels, ha, Option.getD_some]
    rw [hlevels, hlevels]
  | none =>
    have hlevels : ∀ v : Value, v.levels limits context = (v.tokensMet context).length :=
      fun v => by rw [levels, ha, Option.getD_none, tokensMet]
    have hone := Template.isToken_of_mem_tokens htoken
    have hmet : (text (Template.placeholder token)).tokensMet context =
        token :: context.tokens := by
      rw [tokensMet, tokens_text, Template.tokens_placeholder hone]
      rfl
    have hpos : 0 < (text s).tokens.length := by
      rw [tokens_text]
      exact List.length_pos_of_mem htoken
    rw [hlevels, hlevels]
    refine Template.expandText_eq_of_card_le ?_ (InCourse.start context _ none)
      (List.toFinset_card_le _) (by simp [texts_text])
    rw [hmet, tokensMet, List.length_cons, List.length_append]
    omega

/-! ## What is put in the place of a placeholder -/

theorem Value.isNull_of_isContainer {v : Value} (h : v.isContainer = true) : v.isNull = false := by
  cases v with
  | scalar a => cases h
  | list items => rfl
  | object fields => rfl

/-- Nothing of a container is put into a longer text. -/
theorem Value.inline_of_isContainer {v : Value} (h : v.isContainer = true) : v.inline = .ok "" := by
  cases v with
  | scalar a => cases h
  | list items => rfl
  | object fields => rfl

section Filling

variable {inside : String → String → Expansion Value} {token : String}

/-- **Putting what a token leads to into a longer text** gives the text of what the placeholder of
the token is filled with alone. -/
theorem Template.alone_fillToken (htoken : IsToken token) {w : Value}
    (h : ((ofText (placeholder token)).fillTokens context inside).alone.1 = .ok w) :
    (fillToken context inside token).alone.1 = w.inline := by
  cases hv : context.at (Path.ofToken token) with
  | error f =>
    rw [fillTokens, whole?_placeholder htoken] at h
    dsimp only at h
    rw [hv, lift_error_bind] at h
    cases h
  | ok v =>
    rw [fillTokens_placeholder htoken hv] at h
    rw [fillToken, hv, lift_ok_bind]
    -- a container comes to a container, and nothing of it is put into a longer text
    have hcontainer : v.isContainer = true → w.inline = .ok "" := by
      intro hv
      rw [if_neg (by simp [Value.isNull_of_isContainer hv])] at h
      rcases hrun : (v.traverseTexts (inside token)).alone with ⟨r, q⟩
      rw [hrun] at h
      cases h
      exact Value.inline_of_isContainer (Value.gives_traverseTexts hv _ _ _ hrun)
    cases v with
    | scalar a =>
      cases a with
      | text r =>
        rcases hrun : (inside token r).alone with ⟨u, q⟩
        have hu : u = .ok w := by
          rw [if_neg (by simp [Value.isNull]), Value.traverseTexts, hrun] at h
          exact h
        rw [hu] at hrun
        dsimp only
        rw [alone, runFrom_bind_of_ok hrun, runFrom_lift]
      | _ =>
        cases h
        rfl
    | list items =>
      rw [hcontainer rfl]
      rfl
    | object fields =>
      rw [hcontainer rfl]
      rfl

end Filling

/-- A template that is one placeholder is filled with what the placeholder is filled with. -/
theorem Template.fill_placeholder {token : String} (h : IsToken token)
    (f : String → Except Fault String) : (ofText (placeholder token)).fill f = f token := by
  rw [ofText_placeholder h, fill, fillFrom, fillFrom, String.ofList_toList]
  cases hf : f token with
  | error e => rfl
  | ok here => simp [bind, Except.bind, pure, Except.pure]

/-! ## Texts that are expanded alone -/

@[simp] theorem Value.inline_text (s : String) : (text s).inline = .ok s := by
  rw [inline, written, if_pos (isShort_text s), toText_text]
  simp

theorem Template.fill_of_parts_eq_nil {s : String} (h : (ofText s).parts = [])
    (f : String → Except Fault String) : (ofText s).fill f = .ok s := by
  rw [fill, h, fillFrom, tail_of_parts_eq_nil h]
  simp [bind, Except.bind, pure, Except.pure]

/-- What a value comes to in a pass of its own, if it is not told there that the budget is spent. -/
structure Value.ComesAlone (v : Value) (limits : Limits) (context w : Value) : Prop where
  result : (v.expand limits context).alone.1 = .ok w
  quiet : ∀ n ∈ (v.expand limits context).alone.2.log, n.isOutOfSteps = false

/-- What holds of a text without placeholders, and of all that the placeholders of a text can be
filled with, holds of what the text comes to alone if a level is left for it. -/
theorem Template.of_alone_expandText {P : Value → Prop} {s : String} {left : Nat} {w : Value}
    (hresult : (expandText limits context (left + 1) [] s).alone.1 = .ok w)
    (hquiet : ∀ n ∈ (expandText limits context (left + 1) [] s).alone.2.log,
      n.isOutOfSteps = false) (hbare : (ofText s).parts = [] → P (.text s))
    (hfill : Quietly (fun n => n.isOutOfSteps = false) P ((ofText s).fillTokens context
      fun token r => expandText limits context left [token] r)) : P w := by
  have hlevel : Quietly (fun n => n.isOutOfSteps = false) P
      (expandText limits context (left + 1) [] s) := by
    refine quietly_expandLevel (by simp [Notice.isOutOfSteps]) (by simp) (fun h => by cases h)
      hbare ?_
    rintro f ⟨⟩
    exact hfill
  exact hlevel.of_run rfl (Prod.ext hresult rfl) hquiet

/-- What a placeholder comes to alone tells what is put in its place in a longer text. -/
theorem Value.ComesAlone.alone_fillToken {s token : String} {left : Nat} {w : Value}
    (h : (text (Template.placeholder token)).ComesAlone limits context w)
    (htoken : token ∈ (Template.ofText s).tokens)
    (hleft : (text s).levels limits context = left + 1) :
    (Template.fillToken context
      (fun token r => Template.expandText limits context left [token] r) token).alone.1 =
        w.inline := by
  have hone := Template.isToken_of_mem_tokens htoken
  obtain ⟨hresult, hquiet⟩ := h
  rw [expand_placeholder htoken, hleft] at hresult hquiet
  refine Template.of_alone_expandText (P := fun w => _ = w.inline) hresult hquiet
    (fun hparts => ?_) ?_
  · rw [Template.ofText_placeholder hone] at hparts
    cases hparts
  · refine Additive.quietly ?_ fun a ha => Template.alone_fillToken hone ha
    exact Template.additive_fillTokens
      (fun token r => Template.additive_expandText limits context left [token] r) _

/-- A longer text is filled with what is put in the places of its placeholders in passes of their
own. -/
theorem Template.quietly_fillTokens_of_alone {t : Template} (hwhole : t.whole? = none)
    {inside : String → String → Expansion Value} (hinside : ∀ token r, Additive (inside token r))
    {f : String → Except Fault String}
    (hf : ∀ token ∈ t.tokens, (fillToken context inside token).alone.1 = f token) :
    Quietly (fun n => n.isOutOfSteps = false) (fun v => v.inline = t.fill f)
      (t.fillTokens context inside) := by
  have hparts : Quietly (fun n => n.isOutOfSteps = false)
      (fun filled => fillFrom f t.parts = .ok filled)
      (fillFrom (fillToken context inside) t.parts) := by
    refine (joins_quietly _).fillFrom (P := fun token here => f token = .ok here)
      (Q := fun parts filled => fillFrom f parts = .ok filled) rfl _ ?_ ?_
    · intro p _ rest here more hhere hmore
      rw [fillFrom, hhere, hmore]
      rfl
    · intro p hp
      have htoken : String.ofList p.2 ∈ t.tokens := List.mem_map.mpr ⟨p, hp, rfl⟩
      refine Additive.quietly ?_ fun here hhere => ?_
      · exact additive_fillToken hinside _
      · rw [← hf _ htoken, hhere]
  have hfill : Quietly (fun n => n.isOutOfSteps = false) (fun filled => t.fill f = .ok filled)
      (t.fill (fillToken context inside)) := by
    refine (joins_quietly _).map hparts fun filled hfilled => ?_
    rw [fill, hfilled]
    rfl
  rw [fillTokens, hwhole]
  refine (joins_quietly _).map hfill fun filled hfilled => ?_
  rw [hfilled, Value.inline_text]

/-- **The two ways to fill placeholders agree.**  Let a level be left, and let it not be told that
the budget is spent where a text and each of its placeholders alone are expanded; cycles and too
deep a nesting may be told.  Then the text of what the text comes to is made of its gaps and of the
texts of what its placeholders come to. -/
theorem Value.inline_eq_fill (hdepth : limits.depth.allowance ≠ some 0) {s : String} {w : Value}
    (hs : (text s).ComesAlone limits context w) {alone : String → Value}
    (halone : ∀ token ∈ (Template.ofText s).tokens,
      (text (Template.placeholder token)).ComesAlone limits context (alone token)) :
    w.inline = (Template.ofText s).fill fun token => (alone token).inline := by
  obtain ⟨hresult, hquiet⟩ := hs
  cases hwhole : (Template.ofText s).whole? with
  | some token =>
    -- the text is its only placeholder, so both expansions are the same
    have htoken := Template.mem_tokens_of_whole? hwhole
    have hone := (halone token htoken).result
    obtain rfl := Template.eq_placeholder_of_whole? hwhole
    obtain rfl : w = alone token := Except.ok.inj (hresult.symm.trans hone)
    rw [Template.fill_placeholder (Template.isToken_of_mem_tokens htoken)]
  | none =>
    by_cases hparts : (Template.ofText s).parts = []
    · rw [expand_text, Template.expandText_of_isEmpty (by simpa using hparts)] at hresult
      cases hresult
      rw [inline_text, Template.fill_of_parts_eq_nil hparts]
    · obtain ⟨left, hleft⟩ := Nat.exists_eq_succ_of_ne_zero
        (levels_ne_zero hdepth context (v := text s) (by simp [texts_text]) hparts)
      rw [expand_text, hleft] at hresult hquiet
      refine Template.of_alone_expandText
        (P := fun w => w.inline = (Template.ofText s).fill fun token => (alone token).inline)
        hresult hquiet (fun h => absurd h hparts) ?_
      exact Template.quietly_fillTokens_of_alone hwhole
        (fun token r => Template.additive_expandText limits context left [token] r)
        fun token htoken => (halone token htoken).alone_fillToken htoken hleft

/-- A text with a cycle, null, a list and a number in the places of its placeholders. -/
theorem Value.inline_eq_fill_of_cycle :
    let context : Value := .object [("a", .text "x%a%"), ("n", .null), ("c", .list [.text "%a%"]),
      ("k", .int 7)]
    let s := "%a%, %n%%c%-%k%."
    let alone : String → Value := fun token =>
      if token = "a" then .text "x%a%" else if token = "n" then .text ""
      else if token = "c" then .list [.text "x%a%"] else .int 7
    ({} : Limits).depth.allowance ≠ some 0 ∧
      (text s).ComesAlone {} context (.text "x%a%, -7.") ∧
      (∀ token ∈ (Template.ofText s).tokens,
        (text (Template.placeholder token)).ComesAlone {} context (alone token)) ∧
      (text "x%a%, -7.").inline = (Template.ofText s).fill fun token => (alone token).inline := by
  intro context s alone
  have hs : (text s).ComesAlone {} context (.text "x%a%, -7.") := by
    unfold s
    exact ⟨by rfl, by decide +kernel⟩
  have htokens : (Template.ofText s).tokens = ["a", "n", "c", "k"] := by decide +kernel
  have halone : ∀ token ∈ (Template.ofText s).tokens,
      (text (Template.placeholder token)).ComesAlone {} context (alone token) := by
    rw [htokens]
    simp only [List.forall_mem_cons, List.not_mem_nil, false_implies, implies_true, and_true]
    exact ⟨⟨by rfl, by decide +kernel⟩, ⟨by rfl, by decide +kernel⟩, ⟨by rfl, by decide +kernel⟩,
      ⟨by rfl, by decide +kernel⟩⟩
  exact ⟨by decide, hs, halone, inline_eq_fill (by decide) hs halone⟩

end StructuredData
