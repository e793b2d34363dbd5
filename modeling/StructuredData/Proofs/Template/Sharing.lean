import Mathlib.Algebra.Ring.Nat
import StructuredData.Proofs.Template.Run

/-!
# Sharing a pass

The steps of a pass are counted over all that is expanded in it, but the count is only looked at to
see whether the budget is spent.  So until the budget is told to be spent, an expansion does the
same after other expansions as it does alone (`Expansion.Additive`): it has the same result, takes
as many steps and gives the same notices.
-/

namespace StructuredData

/-- Whether a notice says that the budget of steps is spent. -/
def Notice.isOutOfSteps : Notice → Bool
  | outOfSteps _ => true
  | _ => false

/-- The notice that the budget is spent is a warning. -/
theorem Notice.isOutOfSteps_of_isWarning {n : Notice} (h : n.isWarning = false) :
    n.isOutOfSteps = false := by
  cases n with
  | outOfSteps => cases h
  | _ => rfl

/-- A pass after some more steps and notices. -/
def Pass.after (p : Pass) (steps : Nat) (notices : Log) : Pass :=
  { p with steps := p.steps + steps, log := p.log ++ notices }

theorem Pass.after_after (p : Pass) (j k : Nat) (l m : Log) :
    (p.after j l).after k m = p.after (j + k) (l ++ m) := by
  simp [Pass.after, Nat.add_assoc, Array.append_assoc]

/-- A limit that cannot be told allows nothing, or is never reached. -/
theorem Limit.allowance_of_told_eq_error {l : Limit} {f : Fault} (h : l.told = .error f) :
    l.allowance = none ∨ l.allowance = some 0 := by
  cases l with
  | whole n => cases h
  | unfit => exact Or.inr rfl
  | real x =>
    have hx : Binary.ofFloat? x = none := by
      cases hb : Binary.ofFloat? x with
      | none => rfl
      | some b => simp [Limit.told, Value.truncate, hb] at h
    simp only [Limit.allowance, Meaning.ofFloat, hx]
    by_cases hn : x.isNaN = true
    · rw [if_pos hn]
      exact Or.inl rfl
    · rw [if_neg hn]
      cases decide (x.toBits.toNat / Nat.pow 2 63 = 1) <;> simp

namespace Expansion

variable {α : Type}

/-- **What an expansion does does not depend on the steps taken before**, as long as the budget is
not told to be spent: in every pass with no more steps taken it has the same result, takes as many
steps and gives the same notices. -/
def Additive (act : Expansion α) : Prop :=
  ∀ p : Pass, ∃ (k : Nat) (notices : Log), (runFrom act p).2.log = p.log ++ notices ∧
    (p.exhausted = false → (∀ n ∈ notices, n.isOutOfSteps = false) →
      ∀ q : Pass, q.exhausted = false → q.steps ≤ p.steps →
        runFrom act q = ((runFrom act p).1, q.after k notices))

theorem additive_tell (n : Notice) : Additive (tell n) := by
  intro p
  refine ⟨0, #[n], ?_, fun _ _ q _ _ => ?_⟩
  · rw [runFrom_tell, Array.push_eq_append]
  · rw [runFrom_tell, runFrom_tell, Pass.after, Nat.add_zero, Array.push_eq_append]

/-- A step adds one to the steps. -/
theorem additive_takeStep (limits : Limits) : Additive (takeStep limits) := by
  intro p
  by_cases hs : limits.steps.allowance.any (· ≤ p.steps) = true
  · by_cases he : p.exhausted = true
    · refine ⟨0, #[], ?_, fun h => absurd h (by simp [he])⟩
      rw [runFrom_takeStep, if_pos hs, if_pos he, Array.append_empty]
    · cases ht : limits.steps.told with
      | ok n =>
        refine ⟨0, #[.outOfSteps n], ?_, fun _ h => ?_⟩
        · rw [runFrom_takeStep, if_pos hs, if_neg he, ht]
          exact Array.push_eq_append
        · -- the notice says that the budget is spent, so there is nothing to be shown
          have hspent := h (.outOfSteps n) (by simp)
          cases hspent
      | error f =>
        -- such a limit allows no step at all, so it stops the other pass as well
        have hzero : limits.steps.allowance = some 0 := by
          rcases Limit.allowance_of_told_eq_error ht with h | h
          · simp [h] at hs
          · exact h
        refine ⟨0, #[], ?_, fun _ _ q hq _ => ?_⟩
        · rw [runFrom_takeStep, if_pos hs, if_neg he, ht, Array.append_empty]
        · rw [runFrom_takeStep, runFrom_takeStep, if_pos hs, if_neg he, ht,
            if_pos (by simp [hzero]), if_neg (by simp [hq]), Pass.after]
          simp
  · refine ⟨1, #[], ?_, fun _ _ q _ hqp => ?_⟩
    · rw [runFrom_takeStep, if_neg hs, Array.append_empty]
    · have hq : ¬ limits.steps.allowance.any (· ≤ q.steps) = true := by
        cases ha : limits.steps.allowance with
        | none => simp
        | some m =>
          simp only [ha, Option.any_some, decide_eq_true_eq] at hs ⊢
          omega
      rw [runFrom_takeStep, runFrom_takeStep, if_neg hs, if_neg hq, Pass.after, Array.append_empty]

/-- Sequences add what their parts do. -/
theorem Additive.bind {β : Type} {x : Expansion α} {f : α → Expansion β} (hx : Additive x)
    (hf : ∀ a, Additive (f a)) : Additive (x >>= f) := by
  intro p
  obtain ⟨j, l, hl, hxq⟩ := hx p
  rcases hp : runFrom x p with ⟨e | a, r⟩
  · rw [hp] at hl hxq
    refine ⟨j, l, ?_, fun he hn q hq hqp => ?_⟩
    · rw [runFrom_bind_of_error hp]
      exact hl
    · rw [runFrom_bind_of_error hp, runFrom_bind_of_error (hxq he hn q hq hqp)]
  · rw [hp] at hl hxq
    obtain ⟨k, m, hm, hfq⟩ := hf a r
    refine ⟨j + k, l ++ m, ?_, fun he hn q hq hqp => ?_⟩
    · rw [runFrom_bind_of_ok hp, hm, hl, Array.append_assoc]
    · have hnl : ∀ n ∈ l, n.isOutOfSteps = false := fun n h => hn n (by simp [h])
      have hnm : ∀ n ∈ m, n.isOutOfSteps = false := fun n h => hn n (by simp [h])
      -- in the pass itself the first part leaves what it is said to leave
      have hr : r = p.after j l := by
        have := (hxq he hnl p he (Nat.le_refl _)).symm.trans hp
        exact (Prod.mk.inj this).2.symm
      subst hr
      rw [runFrom_bind_of_ok (hxq he hnl q hq hqp), runFrom_bind_of_ok hp,
        hfq he hnm (q.after j l) hq (by simp [Pass.after]; omega), Pass.after_after]

/-- What is made of computations that add to what was done before adds to it. -/
theorem compatible_additive : Compatible fun x _ => Additive x where
  pure a := fun p => ⟨0, #[], by simp, fun _ _ q _ _ => by simp [Pass.after]⟩
  throw f := fun p => ⟨0, #[], by simp, fun _ _ q _ _ => by simp [Pass.after]⟩
  bind := Additive.bind

/-- An expansion that is not told that the budget is spent does in the course of a pass what it does
in a pass of its own. -/
theorem Additive.alone_eq {act : Expansion α} (h : Additive act) {p q : Pass} {r : Except Fault α}
    (hp : p.exhausted = false) (hrun : runFrom act p = (r, q))
    (hq : ∀ n ∈ q.log, n.isOutOfSteps = false) :
    ∃ k notices, q = p.after k notices ∧ act.alone = (r, Pass.after {} k notices) := by
  obtain ⟨k, notices, hlog, hall⟩ := h p
  rw [hrun] at hlog hall
  have hn : ∀ n ∈ notices, n.isOutOfSteps = false := by
    intro n hn
    refine hq n ?_
    rw [show q.log = p.log ++ notices from hlog]
    exact Array.mem_append_right _ hn
  refine ⟨k, notices, ?_, hall hp hn {} rfl (Nat.zero_le _)⟩
  have hsame := hall hp hn p hp (Nat.le_refl _)
  rw [hrun] at hsame
  exact (Prod.mk.inj hsame).2

/-- The notices given before stay in the log. -/
theorem Additive.mem_log {act : Expansion α} (h : Additive act) {p q : Pass} {r : Except Fault α}
    (hrun : runFrom act p = (r, q)) {n : Notice} (hn : n ∈ p.log) : n ∈ q.log := by
  obtain ⟨k, notices, hlog, -⟩ := h p
  rw [hrun] at hlog
  rw [show q.log = p.log ++ notices from hlog]
  exact Array.mem_append_left _ hn

end Expansion

open Expansion

namespace Template

variable {context : Value} {inside : String → String → Expansion Value}
  (h : ∀ token r, Additive (inside token r))

include h

/-- Filling placeholders with what is additive is additive. -/
theorem additive_fillTokens (t : Template) : Additive (t.fillTokens context inside) :=
  @Compatible.fillTokens _ compatible_additive context inside inside t
    fun token _ _ r _ => h token r

theorem additive_fillToken (token : String) : Additive (fillToken context inside token) :=
  @Compatible.fillToken _ compatible_additive context inside inside token fun r _ => h token r

end Template

/-- Expanding a text, inside whatever chain and with whatever levels left, is additive. -/
theorem Template.additive_expandText (limits : Limits) (context : Value) (depth : Nat)
    (chain : List String) (s : String) : Additive (expandText limits context depth chain s) :=
  compatible_additive.expandText (fun _ => additive_tell _) (fun _ => additive_tell _)
    (additive_takeStep limits) depth chain s

/-- Expanding a value adds to the steps and the notices that were there before. -/
theorem Value.additive_expand (v : Value) (limits : Limits) (context : Value) :
    Additive (v.expand limits context) :=
  compatible_additive.expand (fun _ => additive_tell _) (fun _ => additive_tell _)
    (additive_takeStep limits) v

/-! ## Several values in one pass -/

/-- What expanding values one after the other gives and leaves behind. -/
theorem Value.run_expandEach_cons (limits : Limits) (context v : Value) (rest : List Value)
    (p : Pass) :
    StateT.run (expandEach limits context (v :: rest)) p =
      let first := runFrom (v.expand limits context) p
      let more := StateT.run (expandEach limits context rest) first.2
      (first.1.map (·, first.2.steps) :: more.1, more.2) := rfl

/-- Values that are expanded one after the other in a pass that has begun: if the budget is not told
to be spent, the results, the steps and the notices are those of passes of their own. -/
theorem Value.run_expandEach (limits : Limits) (context : Value) (vs : List Value) (p : Pass) :
    ∃ notices : Log, (StateT.run (expandEach limits context vs) p).2.log = p.log ++ notices ∧
      (p.exhausted = false → (∀ n ∈ notices, n.isOutOfSteps = false) →
        (StateT.run (expandEach limits context vs) p).1.map (fun r => r.map Prod.fst) =
            vs.map (fun v => (v.expand limits context).alone.1) ∧
          (StateT.run (expandEach limits context vs) p).2.steps =
            p.steps + (vs.map fun v => (v.expand limits context).alone.2.steps).sum ∧
          notices.toList = vs.flatMap fun v => (v.expand limits context).alone.2.log.toList) := by
  induction vs generalizing p with
  | nil => exact ⟨#[], Array.append_empty.symm, fun _ _ => ⟨rfl, rfl, rfl⟩⟩
  | cons v rest ih =>
    obtain ⟨k, l, hl, hv⟩ := v.additive_expand limits context p
    obtain ⟨m, hm, hrest⟩ := ih (runFrom (v.expand limits context) p).2
    rw [run_expandEach_cons]
    refine ⟨l ++ m, by rw [hm, hl, Array.append_assoc], fun hp hn => ?_⟩
    have hnl : ∀ n ∈ l, n.isOutOfSteps = false := fun n h => hn n (by simp [h])
    have hnm : ∀ n ∈ m, n.isOutOfSteps = false := fun n h => hn n (by simp [h])
    -- the first value leaves the pass as it was, but for its steps and notices
    have halone : (v.expand limits context).alone =
        ((runFrom (v.expand limits context) p).1, Pass.after {} k l) :=
      hv hp hnl {} rfl (Nat.zero_le _)
    have hafter : (runFrom (v.expand limits context) p).2 = p.after k l := by
      rw [hv hp hnl p hp (Nat.le_refl _)]
    obtain ⟨hresults, hsteps, hnotices⟩ := hrest (by rw [hafter]; exact hp) hnm
    refine ⟨?_, ?_, ?_⟩
    · rw [List.map_cons, List.map_cons, hresults, halone]
      cases (runFrom (v.expand limits context) p).1 <;> rfl
    · rw [List.map_cons, List.sum_cons, hsteps, hafter, halone]
      simp [Pass.after, Nat.add_assoc]
    · rw [List.flatMap_cons, ← hnotices, halone]
      simp [Pass.after]

/-- **Sharing a pass is invisible until the budget runs out.**  If the budget is not told to be
spent while values are expanded in one pass, each result is the one of a pass of its own, the steps
are the sum of the steps of those passes, and the notices are their notices one after the other. -/
theorem Value.expandEach_eq_alone (limits : Limits) (context : Value) (vs : List Value)
    (h : ∀ n ∈ (StateT.run (expandEach limits context vs) {}).2.log, n.isOutOfSteps = false) :
    (StateT.run (expandEach limits context vs) {}).1.map (fun r => r.map Prod.fst) =
        vs.map (fun v => (v.expand limits context).alone.1) ∧
      (StateT.run (expandEach limits context vs) {}).2.steps =
        (vs.map fun v => (v.expand limits context).alone.2.steps).sum ∧
      (StateT.run (expandEach limits context vs) {}).2.log.toList =
        vs.flatMap fun v => (v.expand limits context).alone.2.log.toList := by
  obtain ⟨notices, hlog, hall⟩ := run_expandEach limits context vs {}
  rw [Array.empty_append] at hlog
  obtain ⟨hresults, hsteps, hnotices⟩ := hall rfl (by rwa [← hlog])
  refine ⟨hresults, ?_, ?_⟩
  · rw [hsteps, Nat.zero_add]
  · rw [hlog, hnotices]

/-- Two values that share the steps of a token, one of them with a cycle. -/
theorem Value.expandEach_eq_alone_of_cycle :
    let context : Value := .object [("a", .text "x%b%"), ("b", .text "y"), ("c", .text "%c%")]
    let vs : List Value := [.text "%a%", .list [.text "%b%", .text "%c%"]]
    (∀ n ∈ (StateT.run (expandEach {} context vs) {}).2.log, n.isOutOfSteps = false) ∧
      (StateT.run (expandEach {} context vs) {}).2.log.toList =
        vs.flatMap fun v => (v.expand {} context).alone.2.log.toList := by
  intro context vs
  have h : ∀ n ∈ (StateT.run (expandEach {} context vs) {}).2.log, n.isOutOfSteps = false := by
    decide +kernel
  exact ⟨h, (Value.expandEach_eq_alone {} context vs h).2.2⟩

end StructuredData
