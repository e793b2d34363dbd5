import StructuredData.Proofs.Template.Sharing

/-!
# Expansions that give no notice

What an expansion comes to can often only be said if it gives no warning, or at least does not tell
that the budget is spent.  Such statements are put together from those about the parts of the
expansion (`Expansion.Quietly`), up to the levels of texts inside each other.
-/

namespace StructuredData

namespace Expansion

variable {α β : Type} {tolerated : Notice → Prop} {P : α → Prop} {Q : β → Prop}

/-- **Whether an expansion that gives none but certain notices comes to something of a kind**, in
each pass in which it is not told that the budget is spent; the pass is then left like that. -/
def Quietly (tolerated : Notice → Prop) (P : α → Prop) (act : Expansion α) : Prop :=
  ∀ p : Pass, ∃ notices : Log, (runFrom act p).2.log = p.log ++ notices ∧
    (p.exhausted = false → (∀ n ∈ notices, tolerated n) →
      (runFrom act p).2.exhausted = false ∧ ∀ a, (runFrom act p).1 = .ok a → P a)

namespace Quietly

theorem pure {a : α} (h : P a) : Quietly tolerated P (pure a) := fun _ =>
  ⟨#[], Array.append_empty.symm, fun hp _ => ⟨hp, fun _ hb => Except.ok.inj hb ▸ h⟩⟩

theorem lift {e : Except Fault α} (h : ∀ a, e = .ok a → P a) :
    Quietly tolerated P (liftM e : Expansion α) := fun _ =>
  ⟨#[], Array.append_empty.symm, fun hp _ => ⟨hp, h⟩⟩

theorem throw (f : Fault) : Quietly tolerated P (throw f : Expansion α) := fun _ =>
  ⟨#[], Array.append_empty.symm, fun hp _ => ⟨hp, fun _ h => by cases h⟩⟩

/-- In a sequence the second part need not be quiet where the first one comes to something else. -/
theorem bind {x : Expansion α} {f : α → Expansion β} (hx : Quietly tolerated P x)
    (hf : ∀ a, Quietly tolerated (fun b => P a → Q b) (f a)) :
    Quietly tolerated Q (x >>= f) := by
  intro p
  obtain ⟨l, hl, hxp⟩ := hx p
  rcases hp : runFrom x p with ⟨e | a, r⟩
  · rw [hp] at hl hxp
    rw [runFrom_bind_of_error hp]
    refine ⟨l, hl, fun he hn => ⟨(hxp he hn).1, ?_⟩⟩
    intro b hb
    cases hb
  · rw [hp] at hl hxp
    obtain ⟨m, hm, hfr⟩ := hf a r
    rw [runFrom_bind_of_ok hp]
    refine ⟨l ++ m, by rw [hm, hl, Array.append_assoc], fun he hn => ?_⟩
    obtain ⟨hr, ha⟩ := hxp he fun n h => hn n (by simp [h])
    obtain ⟨hq, hb⟩ := hfr hr fun n h => hn n (by simp [h])
    exact ⟨hq, fun b hb' => hb b hb' (ha a rfl)⟩

/-- After a notice that is not tolerated nothing is to be shown. -/
theorem tell_bind {n : Notice} (h : ¬ tolerated n) {a : α} :
    Quietly tolerated P (do tell n; Pure.pure a) := by
  intro p
  refine ⟨#[n], Array.push_eq_append, fun _ hn => ?_⟩
  exact absurd (hn n (by simp)) h

/-- What is quiet with results of a kind is so with results of a wider kind. -/
theorem mono {P' : α → Prop} {act : Expansion α} (h : Quietly tolerated P act)
    (hP : ∀ a, P a → P' a) : Quietly tolerated P' act := by
  intro p
  obtain ⟨l, hl, hp⟩ := h p
  refine ⟨l, hl, fun he hn => ?_⟩
  obtain ⟨hq, ha⟩ := hp he hn
  exact ⟨hq, fun a hrun => hP a (ha a hrun)⟩

/-- What is said of an expansion holds of a run that gives none but such notices. -/
theorem of_run {act : Expansion α} (h : Quietly tolerated P act) {p q : Pass} {a : α}
    (hp : p.exhausted = false) (hrun : runFrom act p = (.ok a, q))
    (hq : ∀ n ∈ q.log, tolerated n) : P a := by
  obtain ⟨l, hl, hall⟩ := h p
  rw [hrun] at hl hall
  have hn : ∀ n ∈ l, tolerated n := by
    intro n hn
    apply hq
    rw [show q.log = p.log ++ l from hl]
    exact Array.mem_append_right _ hn
  exact (hall hp hn).2 a rfl

end Quietly

/-- Quiet computations can be joined. -/
theorem joins_quietly (tolerated : Notice → Prop) : Joins (Quietly tolerated) where
  pure := .pure
  map hx hg := hx.bind fun _ => .pure (hg _)
  map₂ hx hy hg := hx.bind fun _ => hy.bind fun _ => .pure fun hb ha => hg _ _ ha hb

/-- An expansion that does not depend on the steps taken before comes to what it comes to alone. -/
theorem Additive.quietly {act : Expansion α} (h : Additive act)
    (hP : ∀ a, act.alone.1 = .ok a → P a) :
    Quietly (fun n => n.isOutOfSteps = false) P act := by
  intro p
  obtain ⟨k, l, hl, hall⟩ := h p
  refine ⟨l, hl, fun he hn => ?_⟩
  have hsame := hall he hn p he (Nat.le_refl _)
  have halone := hall he hn {} rfl (Nat.zero_le _)
  refine ⟨by rw [hsame]; exact he, fun a ha => hP a ?_⟩
  rw [alone, halone]
  exact ha

/-- A step is taken, unless it is told that the budget is spent. -/
theorem quietly_takeStep {limits : Limits} (hspent : ∀ n, ¬ tolerated (.outOfSteps n)) :
    Quietly tolerated (· = true) (takeStep limits) := by
  intro p
  rw [runFrom_takeStep]
  by_cases hs : limits.steps.allowance.any (· ≤ p.steps) = true
  · rw [if_pos hs]
    by_cases he : p.exhausted = true
    · rw [if_pos he]
      exact ⟨#[], Array.append_empty.symm, fun h => absurd h (by simp [he])⟩
    · rw [if_neg he]
      cases limits.steps.told with
      | ok n =>
        exact ⟨#[.outOfSteps n], Array.push_eq_append, fun _ h => absurd (h _ (by simp)) (hspent n)⟩
      | error f =>
        refine ⟨#[], Array.append_empty.symm, fun h _ => ⟨h, ?_⟩⟩
        intro taken htaken
        cases htaken
  · rw [if_neg hs]
    exact ⟨#[], Array.append_empty.symm, fun h _ => ⟨h, fun _ ht => (Except.ok.inj ht).symm⟩⟩

end Expansion

open Expansion

namespace Template

variable {tolerated : Notice → Prop} {limits : Limits} {context : Value} {P : Value → Prop}

/-- **A level that gives none but certain notices** leaves a text without placeholders as it is and
fills the placeholders of any other. -/
theorem quietly_expandLevel {inside : Option (String → String → Expansion Value)}
    {chain : List String} {s : String} (hspent : ∀ n, ¬ tolerated (.outOfSteps n))
    (hcycle : ∀ token ∈ chain, ¬ tolerated (.cycle token))
    (hdeep : inside = none → ∀ n, ¬ tolerated (.tooDeep n))
    (hbare : (ofText s).parts = [] → P (.text s))
    (hfill : ∀ f, inside = some f → Quietly tolerated P ((ofText s).fillTokens context f)) :
    Quietly tolerated P (expandLevel limits context inside chain s) := by
  unfold expandLevel
  by_cases hparts : (ofText s).parts.isEmpty = true
  · rw [if_pos hparts]
    exact .pure (hbare (by simpa using hparts))
  · rw [if_neg hparts]
    cases hfind : (ofText s).tokens.find? chain.contains with
    | some token =>
      have hmem : token ∈ chain := by simpa using List.find?_some hfind
      exact .tell_bind (hcycle token hmem)
    | none =>
      cases inside with
      | none =>
        refine Quietly.bind (.lift fun n _ => trivial) fun n => ?_
        exact (Quietly.tell_bind (hdeep rfl n)).mono fun _ h _ => h
      | some f =>
        refine (quietly_takeStep hspent).bind fun taken => ?_
        cases taken with
        | true => exact (hfill f rfl).mono fun _ h _ => h
        -- a step that is not taken has been told of, so this is not reached
        | false => exact .pure fun h => by cases h

end Template

end StructuredData
