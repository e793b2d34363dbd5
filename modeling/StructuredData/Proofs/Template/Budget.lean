import Mathlib.Logic.Relation
import StructuredData.Proofs.Template.Nesting

/-!
# The budget of steps

While values are expanded, one of three things happens to a pass at a time: a step is counted, it is
told that the budget is spent, or another notice is given (`Pass.Move`).  What each of them keeps
holds after any run: the steps are within the budget, and it is told no more than once, when it is
spent, that it is (`Pass.WithinBudget`).  From then on values come to themselves.
-/

namespace StructuredData

open Expansion Relation

variable {limits : Limits} {p q : Pass}

/-- Whether the budget allows no more step in a pass. -/
def Pass.IsSpent (limits : Limits) (p : Pass) : Prop :=
  limits.steps.allowance.any (· ≤ p.steps) = true

/-- A whole number of steps is spent when as many have been taken. -/
theorem Pass.isSpent_ofInts_iff {depth steps : Int} :
    p.IsSpent (.ofInts depth steps) ↔ steps ≤ p.steps := by
  simp [IsSpent, Limit.allowance]

/-- **What happens to a pass at a time**: a step is taken that the budget allows, it is told for the
first time that the budget is spent, or a notice of something else is given. -/
inductive Pass.Move (limits : Limits) : Pass → Pass → Prop
  | step {p : Pass} : ¬ p.IsSpent limits → Move limits p { p with steps := p.steps + 1 }
  | spent {p : Pass} (n : Int) : p.IsSpent limits → p.exhausted = false →
      Move limits p { p with exhausted := true, log := p.log.push (.outOfSteps n) }
  | notice {p : Pass} {n : Notice} : n.isOutOfSteps = false →
      Move limits p { p with log := p.log.push n }

/-- What happens to a pass one after the other. -/
abbrev Pass.Moves (limits : Limits) : Pass → Pass → Prop := ReflTransGen (Move limits)

/-! ## Expansions are sequences of moves -/

/-- Whether an expansion does nothing to a pass but such moves. -/
def Expansion.MovesPass {α : Type} (limits : Limits) (act : Expansion α) : Prop :=
  ∀ p : Pass, p.Moves limits (runFrom act p).2

theorem compatible_movesPass (limits : Limits) : Compatible fun x _ => MovesPass limits x where
  pure _ := fun _ => .refl
  throw _ := fun _ => .refl
  bind := by
    intro α β x _ f _ hx hf p
    have hp := hx p
    rcases hrun : runFrom x p with ⟨e | a, r⟩
    · rw [hrun] at hp
      rw [runFrom_bind_of_error hrun]
      exact hp
    · rw [hrun] at hp
      rw [runFrom_bind_of_ok hrun]
      exact hp.trans (hf a r)

theorem movesPass_tell {n : Notice} (h : n.isOutOfSteps = false) : MovesPass limits (tell n) :=
  fun _ => .single (.notice h)

/-- A step moves a pass on within its limits. -/
theorem movesPass_takeStep (limits : Limits) : MovesPass limits (takeStep limits) := by
  intro p
  rw [runFrom_takeStep]
  by_cases hs : limits.steps.allowance.any (· ≤ p.steps) = true
  · rw [if_pos hs]
    -- it is told only if it has not been told before
    by_cases he : p.exhausted = true
    · rw [if_pos he]
    · rw [if_neg he]
      cases limits.steps.told with
      | ok n => exact .single (.spent n hs (by simpa using he))
      | error f => exact .refl
  · rw [if_neg hs]
    exact .single (.step hs)

/-- **Expanding a value moves the pass.** -/
theorem Value.movesPass_expand (v : Value) (limits : Limits) (context : Value) :
    MovesPass limits (v.expand limits context) :=
  (compatible_movesPass limits).expand (fun _ => movesPass_tell rfl) (fun _ => movesPass_tell rfl)
    (movesPass_takeStep limits) v

/-- So does expanding values one after the other, whether they fail or not. -/
theorem Value.moves_expandEach (limits : Limits) (context : Value) (vs : List Value) (p : Pass) :
    p.Moves limits (StateT.run (expandEach limits context vs) p).2 := by
  induction vs generalizing p with
  | nil => exact .refl
  | cons v rest ih =>
    rw [run_expandEach_cons]
    exact (v.movesPass_expand limits context p).trans (ih _)

/-! ## What moves keep -/

/-- Steps are never taken back. -/
theorem Pass.Moves.steps_le (h : p.Moves limits q) : p.steps ≤ q.steps := by
  have hmove : ∀ {q r : Pass}, Move limits q r → q.steps ≤ r.steps := by
    intro q r h
    cases h with
    | step => exact Nat.le_succ _
    | spent => exact Nat.le_refl _
    | notice => exact Nat.le_refl _
  induction h with
  | refl => exact Nat.le_refl _
  | tail _ hlast ih => exact Nat.le_trans ih (hmove hlast)

/-- **What holds of every pass**: the steps are within the budget, the notices that it is spent are
as many as the pass knows of, and where there is one it is spent. -/
structure Pass.WithinBudget (limits : Limits) (p : Pass) : Prop where
  steps_le : ∀ n, limits.steps.allowance = some n → p.steps ≤ n
  count_eq : p.log.countP Notice.isOutOfSteps = p.exhausted.toNat
  isSpent : p.exhausted = true → p.IsSpent limits

namespace Pass.WithinBudget

theorem start (limits : Limits) : WithinBudget limits {} where
  steps_le := by simp
  count_eq := rfl
  isSpent := by simp

/-- A move keeps what holds of every pass. -/
theorem move (h : p.WithinBudget limits) (hmove : Move limits p q) : q.WithinBudget limits := by
  cases hmove with
  | step hroom =>
    refine ⟨fun n hn => ?_, h.count_eq, fun he => absurd (h.isSpent he) hroom⟩
    have hlt : p.steps < n := by simpa [IsSpent, hn] using hroom
    exact hlt
  | spent n hspent hfirst =>
    refine ⟨h.steps_le, ?_, fun _ => hspent⟩
    have hcount := h.count_eq
    rw [hfirst] at hcount
    simp [Array.countP_push, hcount, Notice.isOutOfSteps]
  | notice hother =>
    refine ⟨h.steps_le, ?_, h.isSpent⟩
    simp [hother, h.count_eq]

/-- A pass that moves on stays within its budget. -/
theorem moves (h : p.WithinBudget limits) (hmoves : p.Moves limits q) : q.WithinBudget limits := by
  induction hmoves with
  | refl => exact h
  | tail _ hlast ih => exact ih.move hlast

/-- The pass knows of a notice that the budget is spent. -/
theorem exhausted_iff (h : p.WithinBudget limits) :
    p.exhausted = true ↔ ∃ n ∈ p.log, n.isOutOfSteps = true := by
  rw [← Array.countP_pos_iff, h.count_eq]
  cases p.exhausted <;> simp

end Pass.WithinBudget

/-! ## When the budget is spent -/

/-- Whether it has been told that the budget is spent, and it is. -/
def Pass.HasRunOut (limits : Limits) (p : Pass) : Prop :=
  p.exhausted = true ∧ p.IsSpent limits

/-- Where the budget has run out, a text outside all tokens stays as it is. -/
theorem Template.yieldsFrom_expandText_of_hasRunOut (htold : ∃ n, limits.depth.told = .ok n)
    (context : Value) (depth : Nat) (s : String) :
    YieldsFrom (Pass.HasRunOut limits) (· = .text s) (expandText limits context depth [] s) := by
  have hlevel : ∀ inside, YieldsFrom (Pass.HasRunOut limits) (· = .text s)
      (expandLevel limits context inside [] s) := by
    intro inside
    unfold expandLevel
    by_cases hparts : (ofText s).parts.isEmpty = true
    · rw [if_pos hparts]
      exact .pure rfl
    · have hfind : (ofText s).tokens.find? ([] : List String).contains = none := by simp
      rw [if_neg hparts, hfind]
      intro p hp
      cases inside with
      | none =>
        obtain ⟨n, hn⟩ := htold
        dsimp only
        rw [hn, lift_ok_bind, runFrom_bind_of_ok (runFrom_tell _ p)]
        exact ⟨_, _, rfl, hp, rfl⟩
      | some f =>
        -- no step is taken, and nothing is told a second time
        have hspent : limits.steps.allowance.any (· ≤ p.steps) = true := hp.2
        have hstep : runFrom (takeStep limits) p = (.ok false, p) := by
          rw [runFrom_takeStep, if_pos hspent, if_pos hp.1]
        dsimp only
        rw [runFrom_bind_of_ok hstep]
        exact ⟨_, _, rfl, hp, rfl⟩
  cases depth with
  | zero => exact hlevel _
  | succ depth => exact hlevel _

/-- Where the budget has run out, values come to themselves. -/
theorem Value.yieldsFrom_expand_of_hasRunOut (htold : ∃ n, limits.depth.told = .ok n)
    (context v : Value) :
    YieldsFrom (Pass.HasRunOut limits) (· = v) (v.expand limits context) :=
  (joins_yieldsFrom _).traverseTexts pointwise_eq v fun s _ =>
    Template.yieldsFrom_expandText_of_hasRunOut htold context _ s

/-- **The budget of steps.**  When values are expanded one after the other in one pass, each of them
moves the pass: steps are taken while the budget allows them and never taken back, their number
stays within the budget, and it is told no more than once, and only when it is spent, that it is.
Once it has been told, each further value comes to itself. -/
theorem Value.expandEach_within_budget (depth steps : Int) (context : Value) (vs : List Value)
    (v : Value) :
    let limits : Limits := .ofInts depth steps
    let p : Pass := (StateT.run (expandEach limits context vs) {}).2
    let q : Pass := (runFrom (v.expand limits context) p).2
    p.Moves limits q ∧ p.steps ≤ q.steps ∧ (q.steps : Int) ≤ max steps 0 ∧
      q.log.countP Notice.isOutOfSteps ≤ 1 ∧
      ((∃ n ∈ q.log, n.isOutOfSteps = true) → steps ≤ q.steps) ∧
      ((∃ n ∈ p.log, n.isOutOfSteps = true) → (runFrom (v.expand limits context) p).1 = .ok v) := by
  intro limits p q
  have hp : p.WithinBudget limits :=
    (Pass.WithinBudget.start limits).moves (moves_expandEach limits context vs {})
  have hmoves : p.Moves limits q := v.movesPass_expand limits context p
  have hq : q.WithinBudget limits := hp.moves hmoves
  refine ⟨hmoves, hmoves.steps_le, ?_, ?_, ?_, ?_⟩
  · have hle : q.steps ≤ steps.toNat := hq.steps_le steps.toNat rfl
    omega
  · rw [hq.count_eq]
    exact Bool.toNat_le _
  · intro htold
    exact Pass.isSpent_ofInts_iff.mp (hq.isSpent (hq.exhausted_iff.mpr htold))
  · intro htold
    have hout : p.HasRunOut limits :=
      ⟨hp.exhausted_iff.mpr htold, hp.isSpent (hp.exhausted_iff.mpr htold)⟩
    have hitself : YieldsFrom (Pass.HasRunOut limits) (· = v) (v.expand limits context) :=
      yieldsFrom_expand_of_hasRunOut ⟨depth, rfl⟩ context v
    obtain ⟨w, r, hrun, -, rfl⟩ := hitself p hout
    rw [hrun]

/-- A value after a list for which the budget is not enough. -/
theorem Value.expandEach_within_budget_of_spent :
    let context : Value := .object [("a", .text "x")]
    let vs : List Value := [.list [.text "%a%", .text "%a%"]]
    let p : Pass := (StateT.run (expandEach (.ofInts 10 1) context vs) {}).2
    (∃ n ∈ p.log, n.isOutOfSteps = true) ∧
      (runFrom ((text "-%a%").expand (.ofInts 10 1) context) p).1 = .ok (.text "-%a%") := by
  intro context vs p
  obtain ⟨-, -, -, -, -, hitself⟩ := expandEach_within_budget 10 1 context vs (text "-%a%")
  have htold : ∃ n ∈ p.log, n.isOutOfSteps = true := by decide +kernel
  exact ⟨htold, hitself htold⟩

end StructuredData
