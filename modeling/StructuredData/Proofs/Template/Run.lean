import StructuredData.Proofs.Run
import StructuredData.Proofs.Value.Texts
import StructuredData.Template.Expand

/-!
# Running expansions

What a text expands to is put together from the expansions of the texts to which its placeholders
lead, so a relation between expansions that is kept by sequencing is kept by filling placeholders
and by going through the texts of a value (`Compatible.traverseTexts`, `Compatible.fillTokens`,
`Compatible.expandLevel`).  What expansions come to can be said in the same way (`Joins`).
-/

namespace StructuredData

namespace Expansion

/-- The result of an expansion in a pass of its own, and that pass after it. -/
def alone {α : Type} (act : Expansion α) : Except Fault α × Pass := runFrom act {}

@[simp] theorem runFrom_tell (n : Notice) (p : Pass) :
    runFrom (tell n) p = (.ok (), { p with log := p.log.push n }) := rfl

/-- A step is taken while the budget allows it; the first one that it does not allow is told. -/
theorem runFrom_takeStep (limits : Limits) (p : Pass) :
    runFrom (takeStep limits) p =
      if limits.steps.allowance.any (· ≤ p.steps) then
        if p.exhausted then (.ok false, p)
        else match limits.steps.told with
          | .ok n => (.ok false, { p with exhausted := true, log := p.log.push (.outOfSteps n) })
          | .error f => (.error f, p)
      else (.ok true, { p with steps := p.steps + 1 }) := by
  unfold takeStep
  rw [runFrom_bind_of_ok (show runFrom get p = (.ok p, p) from rfl)]
  by_cases hs : limits.steps.allowance.any (· ≤ p.steps) = true
  · rw [if_pos hs, if_pos hs]
    by_cases he : p.exhausted = true
    · rw [if_pos he, if_pos he]
      rfl
    · rw [if_neg he, if_neg he]
      cases limits.steps.told <;> rfl
  · rw [if_neg hs, if_neg hs]
    rfl

end Expansion

/-! ## Relations that sequencing keeps -/

/-- A relation between expansions that holds of equal results and of equal faults, and is kept when
expansions are put one after the other. -/
structure Compatible (R : {α : Type} → Expansion α → Expansion α → Prop) : Prop where
  pure : ∀ {α : Type} (a : α), R (pure a : Expansion α) (pure a)
  throw : ∀ {α : Type} (f : Fault), R (throw f : Expansion α) (throw f)
  bind : ∀ {α β : Type} {x y : Expansion α} {f g : α → Expansion β},
    R x y → (∀ a, R (f a) (g a)) → R (x >>= f) (y >>= g)

namespace Compatible

variable {R : {α : Type} → Expansion α → Expansion α → Prop} (hR : Compatible R)

include hR

theorem lift {α : Type} (e : Except Fault α) : R (liftM e : Expansion α) (liftM e) := by
  cases e with
  | error f => exact hR.throw f
  | ok a => exact hR.pure a

/-- Going through the texts of a value keeps what is kept at each of them. -/
theorem traverseTexts {f g : String → Expansion Value} (v : Value)
    (h : ∀ s ∈ v.texts, R (f s) (g s)) : R (v.traverseTexts f) (v.traverseTexts g) := by
  induction v using Value.inductionOn with
  | scalar a =>
    cases a with
    | text s =>
      rw [Value.traverseTexts, Value.traverseTexts]
      exact h s (by simp [Value.texts_text])
    | _ => exact hR.pure _
  | list items ih =>
    have hitems : R (Value.traverseItems f items) (Value.traverseItems g items) := by
      induction items with
      | nil => exact hR.pure _
      | cons v rest ihrest =>
        rw [Value.traverseItems, Value.traverseItems]
        refine hR.bind (ih v (by simp) fun s hs => h s ?_) fun _ => hR.bind ?_ fun _ => hR.pure _
        · exact Value.mem_texts_list.mpr ⟨v, by simp, hs⟩
        · refine ihrest (fun w hw => ih w (by simp [hw])) fun s hs => h s ?_
          obtain ⟨w, hw, hsw⟩ := Value.mem_texts_list.mp hs
          exact Value.mem_texts_list.mpr ⟨w, by simp [hw], hsw⟩
    rw [Value.traverseTexts, Value.traverseTexts]
    exact hR.bind hitems fun _ => hR.pure _
  | object fields ih =>
    have hfields : R (Value.traverseFields f fields) (Value.traverseFields g fields) := by
      induction fields with
      | nil => exact hR.pure _
      | cons e rest ihrest =>
        rw [Value.traverseFields, Value.traverseFields]
        refine hR.bind (ih e (by simp) fun s hs => h s ?_) fun _ => hR.bind ?_ fun _ => hR.pure _
        · exact Value.mem_texts_object.mpr ⟨e, by simp, hs⟩
        · refine ihrest (fun w hw => ih w (by simp [hw])) fun s hs => h s ?_
          obtain ⟨w, hw, hsw⟩ := Value.mem_texts_object.mp hs
          exact Value.mem_texts_object.mpr ⟨w, by simp [hw], hsw⟩
    rw [Value.traverseTexts, Value.traverseTexts]
    exact hR.bind hfields fun _ => hR.pure _

/-- Filling the placeholders of parts of a text keeps what is kept at each of them. -/
theorem fillFrom {f g : String → Expansion String} (parts : List (List Char × List Char))
    (h : ∀ p ∈ parts, R (f (String.ofList p.2)) (g (String.ofList p.2))) :
    R (Template.fillFrom f parts) (Template.fillFrom g parts) := by
  induction parts with
  | nil => exact hR.pure _
  | cons p rest ih =>
    rw [Template.fillFrom, Template.fillFrom]
    exact hR.bind (h p (by simp)) fun _ =>
      hR.bind (ih fun q hq => h q (by simp [hq])) fun _ => hR.pure _

/-- Filling placeholders keeps what is kept at each of them. -/
theorem fill {f g : String → Expansion String} (t : Template)
    (h : ∀ token ∈ t.tokens, R (f token) (g token)) : R (t.fill f) (t.fill g) := by
  refine hR.bind (hR.fillFrom t.parts fun p hp => h _ ?_) fun _ => hR.pure _
  exact List.mem_map.mpr ⟨p, hp, rfl⟩

end Compatible

/-! ## Statements about results -/

/-- A way to say of expansions what they come to, such that it can be said of what is made of one
result, or of the results of two expansions one after the other. -/
structure Joins (W : {α : Type} → (α → Prop) → Expansion α → Prop) : Prop where
  pure : ∀ {α : Type} {P : α → Prop} {a : α}, P a → W P (pure a)
  map : ∀ {α β : Type} {P : α → Prop} {Q : β → Prop} {x : Expansion α} {g : α → β},
    W P x → (∀ a, P a → Q (g a)) → W Q (do let a ← x; return g a)
  map₂ : ∀ {α β γ : Type} {P : α → Prop} {Q : β → Prop} {R : γ → Prop} {x : Expansion α}
    {y : Expansion β} {g : α → β → γ},
    W P x → W Q y → (∀ a b, P a → Q b → R (g a b)) → W R (do let a ← x; let b ← y; return g a b)

theorem joins_yieldsFrom (kind : Pass → Prop) : Joins (YieldsFrom kind) where
  pure := .pure
  map hx hg := hx.bind fun a ha => .pure (hg a ha)
  map₂ hx hy hg := hx.bind fun a ha => hy.bind fun b hb => .pure (hg a b ha hb)

theorem joins_yields : Joins (Yields (σ := Pass)) where
  pure := .pure
  map hx hg := hx.bind fun a ha => .pure (hg a ha)
  map₂ hx hy hg := hx.bind fun a ha => hy.bind fun b hb => .pure (hg a b ha hb)

/-- A relation between values that holds of scalars that are no texts and themselves, and of
containers with the same keys if it holds of their parts. -/
structure Value.Pointwise (Q : Value → Value → Prop) : Prop where
  scalar : ∀ {a}, (∀ s, a ≠ .text s) → Q (scalar a) (scalar a)
  nil_list : Q (list []) (list [])
  cons_list : ∀ {v w rest rest'}, Q v w → Q (list rest) (list rest') →
    Q (list (v :: rest)) (list (w :: rest'))
  nil_object : Q (object []) (object [])
  cons_object : ∀ {k v w rest rest'}, Q v w → Q (object rest) (object rest') →
    Q (object ((k, v) :: rest)) (object ((k, w) :: rest'))

theorem Value.pointwise_eq : Pointwise fun v w => w = v where
  scalar _ := rfl
  nil_list := rfl
  cons_list := by
    rintro v w rest rest' rfl ⟨⟩
    rfl
  nil_object := rfl
  cons_object := by
    rintro k v w rest rest' rfl ⟨⟩
    rfl

/-- **Going through the texts of a value** comes to something that is related to it, if what each
text comes to is related to the text. -/
theorem Joins.traverseTexts {W : {α : Type} → (α → Prop) → Expansion α → Prop} (hW : Joins W)
    {Q : Value → Value → Prop} (hQ : Value.Pointwise Q) {f : String → Expansion Value} (v : Value)
    (h : ∀ s ∈ v.texts, W (Q (.text s)) (f s)) : W (Q v) (v.traverseTexts f) := by
  induction v using Value.inductionOn with
  | scalar a =>
    cases a with
    | text s => exact h s (by simp [Value.texts_text])
    | _ => exact hW.pure (hQ.scalar (by simp))
  | list items ih =>
    have hitems : W (fun items' => Q (.list items) (.list items'))
        (Value.traverseItems f items) := by
      induction items with
      | nil => exact hW.pure hQ.nil_list
      | cons v rest ihrest =>
        have hv := ih v (by simp) fun s hs => h s (Value.mem_texts_list.mpr ⟨v, by simp, hs⟩)
        have hrest := ihrest (fun w hw => ih w (by simp [hw])) fun s hs => by
          obtain ⟨w, hw, hsw⟩ := Value.mem_texts_list.mp hs
          exact h s (Value.mem_texts_list.mpr ⟨w, by simp [hw], hsw⟩)
        exact hW.map₂ hv hrest fun _ _ => hQ.cons_list
    exact hW.map hitems fun _ => id
  | object fields ih =>
    have hfields : W (fun fields' => Q (.object fields) (.object fields'))
        (Value.traverseFields f fields) := by
      induction fields with
      | nil => exact hW.pure hQ.nil_object
      | cons e rest ihrest =>
        have he := ih e (by simp) fun s hs => h s (Value.mem_texts_object.mpr ⟨e, by simp, hs⟩)
        have hrest := ihrest (fun e he => ih e (by simp [he])) fun s hs => by
          obtain ⟨e', he', hse⟩ := Value.mem_texts_object.mp hs
          exact h s (Value.mem_texts_object.mpr ⟨e', by simp [he'], hse⟩)
        exact hW.map₂ he hrest fun _ _ => hQ.cons_object
    exact hW.map hfields fun _ => id

/-- Going through a container gives a container. -/
theorem Value.gives_traverseTexts {f : String → Expansion Value} {v : Value}
    (h : v.isContainer = true) : Gives (fun w => w.isContainer = true) (v.traverseTexts f) := by
  cases v with
  | scalar a => cases h
  | list items =>
    rw [traverseTexts]
    exact Gives.bind fun _ => Gives.pure rfl
  | object fields =>
    rw [traverseTexts]
    exact Gives.bind fun _ => Gives.pure rfl

/-- Items are replaced one by one. -/
theorem Value.forall₂_of_canGive_items {f : String → Expansion Value} {items items' : List Value}
    (h : CanGive (traverseItems f items) items') :
    List.Forall₂ (fun v v' => CanGive (v.traverseTexts f) v') items items' := by
  induction items generalizing items' with
  | nil =>
    rw [traverseItems] at h
    rw [h.eq_of_pure]
    exact .nil
  | cons v rest ih =>
    rw [traverseItems] at h
    obtain ⟨v', hv, h⟩ := h.exists_of_bind
    obtain ⟨rest', hrest, h⟩ := h.exists_of_bind
    rw [h.eq_of_pure]
    exact .cons hv (ih hrest)

/-- The values of entries are replaced, their keys stay. -/
theorem Value.exists_of_canGive_fields_cons {f : String → Expansion Value} {k : Scalar} {v : Value}
    {rest fields : Fields} (h : CanGive (traverseFields f ((k, v) :: rest)) fields) :
    ∃ v' rest', CanGive (v.traverseTexts f) v' ∧ CanGive (traverseFields f rest) rest' ∧
      fields = (k, v') :: rest' := by
  rw [traverseFields] at h
  obtain ⟨v', hv, h⟩ := h.exists_of_bind
  obtain ⟨rest', hrest, h⟩ := h.exists_of_bind
  exact ⟨v', rest', hv, hrest, h.eq_of_pure⟩

/-- Going through a list comes to a list of what its items come to. -/
theorem Value.exists_of_canGive_list {f : String → Expansion Value} {items : List Value} {w : Value}
    (h : CanGive ((list items).traverseTexts f) w) :
    ∃ items', w = list items' ∧
      List.Forall₂ (fun v v' => CanGive (v.traverseTexts f) v') items items' := by
  rw [traverseTexts] at h
  obtain ⟨items', hitems, hw⟩ := h.exists_of_bind
  exact ⟨items', hw.eq_of_pure, forall₂_of_canGive_items hitems⟩

/-- Going through an object comes to an object of what its entries come to. -/
theorem Value.exists_of_canGive_object {f : String → Expansion Value} {fields : Fields} {w : Value}
    (h : CanGive ((object fields).traverseTexts f) w) :
    ∃ fields', w = object fields' ∧ CanGive (traverseFields f fields) fields' := by
  rw [traverseTexts] at h
  obtain ⟨fields', hfields, hw⟩ := h.exists_of_bind
  exact ⟨fields', hw.eq_of_pure, hfields⟩

/-- **Filling the placeholders of parts of a text** comes to something that is related to the parts,
if the relation is kept by putting a gap and what a placeholder comes to in front. -/
theorem Joins.fillFrom {W : {α : Type} → (α → Prop) → Expansion α → Prop} (hW : Joins W)
    {P : String → String → Prop} {Q : List (List Char × List Char) → String → Prop}
    (nil : Q [] "") {f : String → Expansion String} (parts : List (List Char × List Char))
    (cons : ∀ p ∈ parts, ∀ rest here more, P (String.ofList p.2) here → Q rest more →
      Q (p :: rest) (String.ofList p.1 ++ here ++ more))
    (h : ∀ p ∈ parts, W (P (String.ofList p.2)) (f (String.ofList p.2))) :
    W (Q parts) (Template.fillFrom f parts) := by
  induction parts with
  | nil => exact hW.pure nil
  | cons p rest ih =>
    have hrest := ih (fun q hq => cons q (by simp [hq])) fun q hq => h q (by simp [hq])
    exact hW.map₂ (h p (by simp)) hrest (cons p (by simp) rest)

/-! ## The levels of an expansion -/

namespace Template

/-- The values that are expanded in the place of the tokens of a text: the one to which its token
leads if it is one placeholder, else the texts to which its tokens lead. -/
inductive Opens (context : Value) (t : Template) : String → Value → Prop
  | whole {token : String} {v : Value} : t.whole? = some token →
      context.at (Path.ofToken token) = .ok v → v.isNull = false → Opens context t token v
  | part {token s : String} : t.whole? = none → token ∈ t.tokens →
      context.at (Path.ofToken token) = .ok (.text s) → Opens context t token (.text s)

end Template

namespace Compatible

variable {R : {α : Type} → Expansion α → Expansion α → Prop} (hR : Compatible R)
  {context : Value} {inside inside' : String → String → Expansion Value}

include hR

/-- What fills a placeholder in a longer text keeps what is kept at the text to which its token
leads. -/
theorem fillToken {token : String} (h : ∀ r, context.at (Path.ofToken token) = .ok (.text r) →
    R (inside token r) (inside' token r)) :
    R (Template.fillToken context inside token) (Template.fillToken context inside' token) := by
  unfold Template.fillToken
  cases hv : context.at (Path.ofToken token) with
  | error f =>
    rw [lift_error_bind, lift_error_bind]
    exact hR.throw f
  | ok v =>
    rw [lift_ok_bind, lift_ok_bind]
    split
    · rename_i r
      exact hR.bind (h r hv) fun _ => hR.lift _
    · exact hR.lift _

/-- What a text with placeholders expands to keeps what is kept at the texts that it opens. -/
theorem fillTokens (t : Template)
    (h : ∀ token v, t.Opens context token v → ∀ r ∈ v.texts, R (inside token r) (inside' token r)) :
    R (t.fillTokens context inside) (t.fillTokens context inside') := by
  unfold Template.fillTokens
  cases hw : t.whole? with
  | some token =>
    dsimp only
    cases hv : context.at (Path.ofToken token) with
    | error f =>
      rw [lift_error_bind, lift_error_bind]
      exact hR.throw f
    | ok v =>
      rw [lift_ok_bind, lift_ok_bind]
      by_cases hn : v.isNull = true
      · rw [if_pos hn, if_pos hn]
        exact hR.pure _
      · rw [if_neg hn, if_neg hn]
        exact hR.traverseTexts v fun r hr => h token v (.whole hw hv (by simpa using hn)) r hr
  | none =>
    refine hR.bind (hR.fill t fun token htoken => hR.fillToken fun r hr => ?_) fun _ => hR.pure _
    exact h token _ (.part hw htoken hr) r (by simp [Value.texts_text])

/-- A level keeps what is kept by its notices, by taking a step and at the texts that it opens. -/
theorem expandLevel {limits : Limits} {chain : List String} {s : String}
    {inside inside' : Option (String → String → Expansion Value)}
    (hcycle : ∀ token, R (Expansion.tell (.cycle token)) (Expansion.tell (.cycle token)))
    (hstep : R (Expansion.takeStep limits) (Expansion.takeStep limits))
    (hdeep : inside = none → ∀ n, R (Expansion.tell (.tooDeep n)) (Expansion.tell (.tooDeep n)))
    (hnone : inside = none ↔ inside' = none)
    (hinside : ∀ f f', inside = some f → inside' = some f' →
      (∀ token ∈ (Template.ofText s).tokens, token ∉ chain) →
      ∀ token v, (Template.ofText s).Opens context token v → ∀ r ∈ v.texts,
        R (f token r) (f' token r)) :
    R (Template.expandLevel limits context inside chain s)
      (Template.expandLevel limits context inside' chain s) := by
  unfold Template.expandLevel
  by_cases hparts : (Template.ofText s).parts.isEmpty = true
  · rw [if_pos hparts, if_pos hparts]
    exact hR.pure _
  · rw [if_neg hparts, if_neg hparts]
    cases hfind : (Template.ofText s).tokens.find? chain.contains with
    | some token => exact hR.bind (hcycle token) fun _ => hR.pure _
    | none =>
      have hfresh : ∀ token ∈ (Template.ofText s).tokens, token ∉ chain := by
        intro token ht
        simpa using List.find?_eq_none.mp hfind token ht
      match inside, inside' with
      | none, none =>
        exact hR.bind (hR.lift _) fun n => hR.bind (hdeep rfl n) fun _ => hR.pure _
      | none, some _ => exact absurd (hnone.mp rfl) (by simp)
      | some _, none => exact absurd (hnone.mpr rfl) (by simp)
      | some f, some f' =>
        refine hR.bind hstep fun taken => ?_
        cases taken with
        | true => exact hR.fillTokens _ (hinside f f' rfl rfl hfresh)
        | false => exact hR.pure _

/-- Expanding a text, inside whatever chain and with whatever levels left, keeps what is kept by the
notices of cycles and of too deep a nesting and by taking a step. -/
theorem expandText {limits : Limits}
    (hcycle : ∀ token, R (Expansion.tell (.cycle token)) (Expansion.tell (.cycle token)))
    (hdeep : ∀ n, R (Expansion.tell (.tooDeep n)) (Expansion.tell (.tooDeep n)))
    (hstep : R (Expansion.takeStep limits) (Expansion.takeStep limits)) (depth : Nat)
    (chain : List String) (s : String) :
    R (Template.expandText limits context depth chain s)
      (Template.expandText limits context depth chain s) := by
  induction depth generalizing chain s with
  | zero => exact hR.expandLevel hcycle hstep (fun _ => hdeep) Iff.rfl (fun _ _ h => by cases h)
  | succ depth ih =>
    refine hR.expandLevel hcycle hstep (fun _ => hdeep) Iff.rfl ?_
    rintro f _ ⟨⟩ ⟨⟩ _ token _ _ r _
    exact ih _ r

/-- So does expanding a value. -/
theorem expand {limits : Limits}
    (hcycle : ∀ token, R (Expansion.tell (.cycle token)) (Expansion.tell (.cycle token)))
    (hdeep : ∀ n, R (Expansion.tell (.tooDeep n)) (Expansion.tell (.tooDeep n)))
    (hstep : R (Expansion.takeStep limits) (Expansion.takeStep limits)) (v : Value) :
    R (v.expand limits context) (v.expand limits context) :=
  hR.traverseTexts v (f := Template.expandText limits context (v.levels limits context) [])
    (g := Template.expandText limits context (v.levels limits context) [])
    fun s _ => hR.expandText hcycle hdeep hstep _ [] s

end Compatible

end StructuredData
