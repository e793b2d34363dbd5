import StructuredData.Proofs.Json.Occurrence
import StructuredData.Proofs.Template.Placeholder
import StructuredData.Proofs.Template.Quiet
import StructuredData.Proofs.Template.Termination

/-!
# Expanding a value again

A text is balanced if no percent sign is left of it when its placeholders are deleted.  Where all
texts are balanced, an expansion that gives no warning has filled every placeholder and put no new
percent sign in its place, so there is nothing left to be expanded (`Value.expand_again`).
-/

namespace StructuredData

open Expansion

/-! ## Percent signs -/

/-- What is left of a text when its placeholders are deleted. -/
def Template.remainder (t : Template) : List Char := t.parts.flatMap Prod.fst ++ t.tail

/-- Whether no percent sign is left of the texts of a value when their placeholders are deleted. -/
def Value.IsBalanced (v : Value) : Prop := ∀ s ∈ v.texts, '%' ∉ (Template.ofText s).remainder

instance (v : Value) : Decidable v.IsBalanced :=
  inferInstanceAs (Decidable (∀ s ∈ v.texts, _))

/-- Whether there is no percent sign in the texts of a value. -/
def Value.IsFilled (v : Value) : Prop := ∀ s ∈ v.texts, '%' ∉ s.toList

instance (v : Value) : Decidable v.IsFilled := inferInstanceAs (Decidable (∀ s ∈ v.texts, _))

namespace Template

/-- A text without percent signs has no placeholders. -/
theorem parts_eq_nil_of_not_mem {s : String} (h : '%' ∉ s.toList) : (ofText s).parts = [] := by
  cases hparts : (ofText s).parts with
  | nil => rfl
  | cons p rest =>
    have hchars := toChars_ofText s
    rw [toChars, hparts, List.flatMap_cons] at hchars
    rw [← hchars] at h
    simp at h

/-- Of a text without placeholders everything is left. -/
theorem remainder_of_parts_eq_nil {s : String} (h : (ofText s).parts = []) :
    (ofText s).remainder = s.toList := by
  rw [remainder, h, List.flatMap_nil, List.nil_append, tail_of_parts_eq_nil h]

end Template

/-! ## The texts of scalars -/

/-- A word has no percent signs. -/
theorem not_mem_of_isWord {s : String} (h : Json.IsWord s) : '%' ∉ s.toList := by
  intro hmem
  have hword := List.all_eq_true.mp h '%' hmem
  exact absurd hword (by decide)

theorem Moment.not_mem_padded (width n : Nat) : '%' ∉ (padded width n).toList := by
  apply not_mem_of_isWord
  refine Json.isWord_ofList.mpr fun c hc => ?_
  exact (List.mem_append.mp hc).elim Json.isWordChar_of_mem_replicate
    Json.isWordChar_of_mem_toDigits

theorem Moment.not_mem_plainText (t : Moment) : '%' ∉ t.plainText.toList := by
  have hfraction : ∀ n, '%' ∉ (fractionText n).toList := by
    intro n
    unfold fractionText
    split
    · decide
    · simp [not_mem_padded]
  have hoffset : ∀ o, '%' ∉ (offsetText o).toList := by
    intro o
    unfold offsetText
    dsimp only
    split <;> split <;> simp [not_mem_padded, hfraction]
  unfold plainText textWith
  cases t.offset with
  | none => simp [not_mem_padded, hfraction]
  | some o => simp [not_mem_padded, hfraction, hoffset]

/-- In the text of a scalar there is no percent sign, unless it is a text itself. -/
theorem Scalar.not_mem_plainText {a : Scalar} (h : ∀ s, a ≠ .text s) :
    '%' ∉ a.plainText.toList := by
  cases a with
  | null => decide
  | bool b => cases b <;> decide
  | int n =>
    intro hmem
    exact absurd (Json.isWordChar_of_mem_int hmem) (by decide)
  | float x => exact not_mem_of_isWord (Json.isWord_floatText x)
  | text s => exact absurd rfl (h s)
  | moment t => exact t.not_mem_plainText

namespace Value

/-- A text is filled if there is no percent sign left. -/
theorem isFilled_text_iff {s : String} : (text s).IsFilled ↔ '%' ∉ s.toList := by
  simp [IsFilled, texts_text]

/-- Values without percent signs in their texts. -/
theorem pointwise_isFilled : Pointwise fun _ w => w.IsFilled where
  scalar := by
    intro a ha s hs
    cases a with
    | text t => exact absurd rfl (ha t)
    | _ => cases hs
  nil_list := by
    intro s hs
    cases hs
  cons_list := by
    intro _ w _ rest' hw hrest s hs
    rw [texts, textsOfItems, List.mem_append] at hs
    exact hs.elim (hw s) fun hs => hrest s (by rwa [texts])
  nil_object := by
    intro s hs
    cases hs
  cons_object := by
    intro _ _ w _ rest' hw hrest s hs
    rw [texts, textsOfFields, List.mem_append] at hs
    exact hs.elim (hw s) fun hs => hrest s (by rwa [texts])

/-- Only a text can bring percent signs into a longer text. -/
theorem not_mem_inline {v : Value} (hv : ∀ r, v = .text r → '%' ∉ r.toList) {s : String}
    (h : v.inline = .ok s) : '%' ∉ s.toList := by
  have hscalar : ∀ a : Scalar, (scalar a).written = .ok s → v = scalar a → '%' ∉ s.toList := by
    intro a hwritten hva
    unfold written at hwritten
    split at hwritten
    · have htext : a.plainText = s := Except.ok.inj hwritten
      by_cases ha : ∃ r, a = .text r
      · obtain ⟨r, rfl⟩ := ha
        exact htext ▸ hv r hva
      · exact htext ▸ Scalar.not_mem_plainText fun r hr => ha ⟨r, hr⟩
    · cases hwritten
  cases v with
  | scalar a =>
    cases a with
    | null =>
      cases h
      decide
    | _ => exact hscalar _ h rfl
  | list items =>
    cases h
    decide
  | object fields =>
    cases h
    decide

end Value

/-! ## Expansions that give no warning -/

namespace Template

variable {limits : Limits} {context : Value}

/-- Whether an expansion that gives no warning comes to something of a kind. -/
abbrev Calmly {α : Type} (P : α → Prop) (act : Expansion α) : Prop :=
  Quietly (fun n => n.isWarning = false) P act

section Filling

variable {inside : String → String → Expansion Value} {t : Template}
  (hinside : ∀ token v, t.Opens context token v → ∀ r ∈ v.texts,
    Calmly Value.IsFilled (inside token r))

include hinside

/-- What is filled in for a token leaves no percent sign, unless something is told. -/
theorem calmly_fillToken (hwhole : t.whole? = none) {token : String} (htoken : token ∈ t.tokens) :
    Calmly (fun s => '%' ∉ s.toList) (fillToken context inside token) := by
  unfold fillToken
  cases hv : context.at (Path.ofToken token) with
  | error f =>
    rw [lift_error_bind]
    exact .throw f
  | ok v =>
    rw [lift_ok_bind]
    split
    · rename_i r
      have hr := hinside token _ (.part hwhole htoken hv) r (by simp [Value.texts_text])
      refine hr.bind fun w => .lift fun s hs hw => Value.not_mem_inline ?_ hs
      rintro r rfl
      exact Value.isFilled_text_iff.mp hw
    · rename_i hne
      exact .lift fun s hs => Value.not_mem_inline (fun r hr => absurd hr (hne r)) hs

/-- A balanced text whose placeholders are filled has no percent sign left. -/
theorem calmly_fillTokens (hbalanced : '%' ∉ t.remainder) :
    Calmly Value.IsFilled (t.fillTokens context inside) := by
  unfold fillTokens
  cases hwhole : t.whole? with
  | some token =>
    dsimp only
    cases hv : context.at (Path.ofToken token) with
    | error f =>
      rw [lift_error_bind]
      exact .throw f
    | ok v =>
      rw [lift_ok_bind]
      by_cases hnull : v.isNull = true
      · rw [if_pos hnull]
        exact .pure (Value.isFilled_text_iff.mpr (by decide))
      · rw [if_neg hnull]
        have hopens : t.Opens context token v := .whole hwhole hv (by simpa using hnull)
        exact (joins_quietly _).traverseTexts Value.pointwise_isFilled v (hinside token v hopens)
  | none =>
    obtain ⟨hgaps, htail⟩ := List.mem_append.not.trans not_or |>.mp hbalanced
    have hparts : Calmly (fun s => '%' ∉ s.toList)
        (fillFrom (fillToken context inside) t.parts) := by
      refine (joins_quietly _).fillFrom (P := fun _ s => '%' ∉ s.toList)
        (Q := fun _ s => '%' ∉ s.toList) (by decide) t.parts ?_ fun p hp =>
          calmly_fillToken hinside hwhole (List.mem_map.mpr ⟨p, hp, rfl⟩)
      intro p hp rest here more hhere hmore
      have hgap : '%' ∉ p.1 := fun h => hgaps (List.mem_flatMap.mpr ⟨p, hp, h⟩)
      simp [hgap, hhere, hmore]
    refine Quietly.bind (hparts.bind fun filled => .pure fun hfilled => ?_) fun filled =>
      .pure Value.isFilled_text_iff.mpr
    simp [hfilled, htail]

end Filling

/-- So it is for a text all of whose tokens are filled in. -/
theorem calmly_expandLevel {inside : Option (String → String → Expansion Value)}
    {chain : List String} {s : String} (hs : '%' ∉ (ofText s).remainder)
    (hinside : ∀ f, inside = some f → ∀ token v, (ofText s).Opens context token v →
      ∀ r ∈ v.texts, Calmly Value.IsFilled (f token r)) :
    Calmly Value.IsFilled (expandLevel limits context inside chain s) := by
  refine quietly_expandLevel ?_ ?_ ?_ ?_ fun f hf => calmly_fillTokens (hinside f hf) hs
  · intro n hn
    cases hn
  · intro token _ hn
    cases hn
  · intro _ n hn
    cases hn
  · intro hparts
    rw [remainder_of_parts_eq_nil hparts] at hs
    exact Value.isFilled_text_iff.mpr hs

/-- **A balanced text has no percent sign left** when it has been expanded without a warning in a
balanced context, inside whatever chain and with whatever levels left. -/
theorem calmly_expandText (hcontext : context.IsBalanced) (depth : Nat) (chain : List String)
    {s : String} (hs : '%' ∉ (ofText s).remainder) :
    Calmly Value.IsFilled (expandText limits context depth chain s) := by
  induction depth generalizing chain s with
  | zero => exact calmly_expandLevel hs fun f hf => by cases hf
  | succ depth ih =>
    refine calmly_expandLevel hs ?_
    rintro f ⟨⟩ token v hopens r hr
    exact ih _ (hcontext r (hopens.texts_subset hr))

end Template

/-- A text without percent signs comes to itself in any context, and takes no step. -/
theorem Value.IsFilled.expand_eq {w : Value} (hw : w.IsFilled) (limits : Limits)
    (context : Value) (p : Pass) : runFrom (w.expand limits context) p = (.ok w, p) := by
  have hexpand : YieldsFrom (· = p) (· = w) (w.expand limits context) := by
    refine (joins_yieldsFrom _).traverseTexts pointwise_eq w fun s hs => ?_
    rw [Template.expandText_of_isEmpty (by simp [Template.parts_eq_nil_of_not_mem (hw s hs)])]
    exact .pure rfl
  obtain ⟨_, _, hrun, rfl, rfl⟩ := hexpand p rfl
  exact hrun

/-- **An expansion that gives no warning is complete, and expanding again changes nothing.**  If all
texts of a value and of the context are balanced and the value is expanded without a warning, then
there is no percent sign in the texts of the result; so within any limits and in any context it
comes to itself, with no step taken and no notice given. -/
theorem Value.expand_again {limits : Limits} {context v w : Value} {p q : Pass}
    (hv : v.IsBalanced) (hcontext : context.IsBalanced) (hp : p.exhausted = false)
    (hrun : runFrom (v.expand limits context) p = (.ok w, q))
    (hq : ∀ n ∈ q.log, n.isWarning = false) :
    (∀ s ∈ w.texts, '%' ∉ s.toList) ∧
      ∀ (limits' : Limits) (context' : Value) (p' : Pass),
        runFrom (w.expand limits' context') p' = (.ok w, p') := by
  have hexpand : Template.Calmly IsFilled (v.expand limits context) :=
    (joins_quietly _).traverseTexts pointwise_isFilled v fun s hs =>
      Template.calmly_expandText hcontext _ [] (hv s hs)
  have hw : w.IsFilled := hexpand.of_run hp hrun hq
  exact ⟨hw, fun limits' context' p' => hw.expand_eq limits' context' p'⟩

/-- A list of a longer text and of a placeholder that leads to a list, both filled over two
levels. -/
theorem Value.expand_again_of_list :
    let context : Value := .object [("a", .text "x%b%"), ("b", .int 3),
      ("c", .list [.text "%a%", .object [("k", .text "%b%")], .text "half"])]
    let v : Value := .list [.text "%a%-%d%-%b%", .text "%c%"]
    let w : Value := .list [.text "x3--3",
      .list [.text "x3", .object [("k", .int 3)], .text "half"]]
    v.IsBalanced ∧ context.IsBalanced ∧ ({} : Pass).exhausted = false ∧
      runFrom (v.expand {} context) {} = (.ok w, { steps := 6 }) ∧
      (∀ s ∈ w.texts, '%' ∉ s.toList) ∧
      ∀ (limits' : Limits) (context' : Value) (p' : Pass),
        runFrom (w.expand limits' context') p' = (.ok w, p') := by
  intro context v w
  have hv : v.IsBalanced := by decide +kernel
  have hcontext : context.IsBalanced := by decide +kernel
  have hrun : runFrom (v.expand {} context) {} = (.ok w, { steps := 6 }) := by rfl
  exact ⟨hv, hcontext, rfl, hrun, expand_again hv hcontext rfl hrun (by simp)⟩

end StructuredData
