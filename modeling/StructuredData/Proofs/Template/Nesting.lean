import StructuredData.Proofs.Template.Sharing

/-!
# Expanding inside fewer tokens

An expansion that gives no notice of a cycle, of too deep a nesting or of a spent budget does not
depend on the chain of tokens it is inside of, nor on how many levels and steps are left: inside
fewer tokens and within wider limits it does the same (`Template.follows_expandText`).
-/

namespace StructuredData

/-- The kinds of limits for which it can be told that they are exceeded. -/
def Limits.CanBeTold (limits : Limits) : Prop :=
  (∃ n, limits.depth.told = .ok n) ∧ ∃ n, limits.steps.told = .ok n

/-- The limits that two whole numbers give. -/
abbrev Limits.ofInts (depth steps : Int) : Limits :=
  { depth := .whole depth, steps := .whole steps }

theorem Limits.canBeTold_ofInts (depth steps : Int) : (ofInts depth steps).CanBeTold :=
  ⟨⟨depth, rfl⟩, ⟨steps, rfl⟩⟩

namespace Expansion

variable {α β : Type}

/-- **One expansion follows another**: where the other one gives none but certain notices, it does
the same, in each pass in which it is not told that the budget is spent. -/
def Follows (tolerated : Notice → Prop) (x y : Expansion α) : Prop :=
  ∀ p : Pass, ∃ notices : Log, (runFrom x p).2.log = p.log ++ notices ∧
    (p.exhausted = false → (∀ n ∈ notices, tolerated n) →
      (runFrom x p).2.exhausted = false ∧ runFrom y p = runFrom x p)

variable {tolerated : Notice → Prop}

/-- Sequences follow each other if their parts do. -/
theorem Follows.bind {x y : Expansion α} {f g : α → Expansion β} (hx : Follows tolerated x y)
    (hf : ∀ a, Follows tolerated (f a) (g a)) : Follows tolerated (x >>= f) (y >>= g) := by
  intro p
  obtain ⟨l, hl, hxy⟩ := hx p
  rcases hp : runFrom x p with ⟨e | a, r⟩
  · rw [hp] at hl hxy
    refine ⟨l, ?_, fun he hn => ?_⟩
    · rw [runFrom_bind_of_error hp]
      exact hl
    · obtain ⟨hr, hy⟩ := hxy he hn
      rw [runFrom_bind_of_error hp, runFrom_bind_of_error hy]
      exact ⟨hr, rfl⟩
  · rw [hp] at hl hxy
    obtain ⟨m, hm, hfg⟩ := hf a r
    refine ⟨l ++ m, ?_, fun he hn => ?_⟩
    · rw [runFrom_bind_of_ok hp, hm, hl, Array.append_assoc]
    · obtain ⟨hr, hy⟩ := hxy he fun n h => hn n (by simp [h])
      rw [runFrom_bind_of_ok hp, runFrom_bind_of_ok hy]
      exact hfg hr fun n h => hn n (by simp [h])

/-- What is made of computations that follow each other does so, too. -/
theorem compatible_follows (tolerated : Notice → Prop) :
    Compatible (Follows tolerated) where
  pure _ := fun _ => ⟨#[], Array.append_empty.symm, fun h _ => ⟨h, rfl⟩⟩
  throw _ := fun _ => ⟨#[], Array.append_empty.symm, fun h _ => ⟨h, rfl⟩⟩
  bind := Follows.bind

/-- A notice that is not tolerated need not be given by what follows. -/
theorem Follows.of_tell {n : Notice} (h : ¬ tolerated n) (f : Unit → Expansion α)
    (y : Expansion α) (hf : ∀ p : Pass, (runFrom (f ()) p).2.log = p.log) :
    Follows tolerated (tell n >>= f) y := by
  intro p
  refine ⟨#[n], ?_, fun _ hn => absurd (hn n (by simp)) h⟩
  rw [runFrom_bind_of_ok (runFrom_tell n p), hf, Array.push_eq_append]

theorem Follows.tell (n : Notice) : Follows tolerated (tell n) (tell n) := fun _ =>
  ⟨#[n], Array.push_eq_append, fun he _ => ⟨he, rfl⟩⟩

/-- A step that one budget allows is followed by one that a budget allows that is no smaller. -/
theorem follows_takeStep {limits limits' : Limits} (htold : ∃ n, limits.steps.told = .ok n)
    (hsteps : ∀ k, limits'.steps.allowance.any (· ≤ k) = true →
      limits.steps.allowance.any (· ≤ k) = true)
    (hspent : ∀ n, ¬ tolerated (.outOfSteps n)) :
    Follows tolerated (takeStep limits) (takeStep limits') := by
  intro p
  obtain ⟨n, hn⟩ := htold
  by_cases hs : limits.steps.allowance.any (· ≤ p.steps) = true
  · by_cases he : p.exhausted = true
    · refine ⟨#[], ?_, fun h => absurd h (by simp [he])⟩
      rw [runFrom_takeStep, if_pos hs, if_pos he, Array.append_empty]
    · refine ⟨#[.outOfSteps n], ?_, fun _ h => absurd (h _ (by simp)) (hspent n)⟩
      rw [runFrom_takeStep, if_pos hs, if_neg he, hn]
      exact Array.push_eq_append
  · refine ⟨#[], ?_, fun he _ => ?_⟩
    · rw [runFrom_takeStep, if_neg hs, Array.append_empty]
    · rw [runFrom_takeStep, runFrom_takeStep, if_neg hs, if_neg fun h => hs (hsteps _ h)]
      exact ⟨he, rfl⟩

end Expansion

open Expansion

namespace Template

variable {tolerated : Notice → Prop} {limits limits' : Limits} {context : Value}

/-- A level is followed by one inside fewer tokens that goes on wherever it goes on itself. -/
theorem follows_expandLevel (htold : limits.CanBeTold)
    (hsteps : ∀ k, limits'.steps.allowance.any (· ≤ k) = true →
      limits.steps.allowance.any (· ≤ k) = true)
    (hspent : ∀ n, ¬ tolerated (.outOfSteps n)) (hdeep : ∀ n, ¬ tolerated (.tooDeep n))
    {chain chain' : List String} (hchain : chain' ⊆ chain)
    (hcycle : ∀ token, tolerated (.cycle token) → chain ⊆ chain')
    {inside inside' : Option (String → String → Expansion Value)}
    (hinside : ∀ f, inside = some f →
      ∃ f', inside' = some f' ∧ ∀ token r, Follows tolerated (f token r) (f' token r))
    (s : String) :
    Follows tolerated (expandLevel limits context inside chain s)
      (expandLevel limits' context inside' chain' s) := by
  have hR := compatible_follows tolerated
  unfold expandLevel
  by_cases hparts : (ofText s).parts.isEmpty = true
  · rw [if_pos hparts, if_pos hparts]
    exact hR.pure _
  · rw [if_neg hparts, if_neg hparts]
    cases hfind : (ofText s).tokens.find? chain.contains with
    | some token =>
      -- where a cycle is tolerated the chains have the same tokens, else nothing is to be shown
      by_cases htol : tolerated (.cycle token)
      · have hsame : chain'.contains = chain.contains := by
          funext t
          rw [Bool.eq_iff_iff, List.contains_iff_mem, List.contains_iff_mem]
          exact ⟨fun h => hchain h, fun h => hcycle token htol h⟩
        rw [hsame, hfind]
        exact hR.bind (Follows.tell _) fun _ => hR.pure _
      · exact Follows.of_tell htol _ _ fun _ => rfl
    | none =>
      have hfind' : (ofText s).tokens.find? chain'.contains = none := by
        rw [List.find?_eq_none] at hfind ⊢
        intro t ht hc
        exact hfind t ht (List.contains_iff_mem.mpr (hchain (List.contains_iff_mem.mp hc)))
      rw [hfind']
      cases inside with
      | none =>
        obtain ⟨n, hn⟩ := htold.1
        dsimp only
        rw [hn, lift_ok_bind]
        exact Follows.of_tell (hdeep n) _ _ fun _ => rfl
      | some f =>
        obtain ⟨f', rfl, hf⟩ := hinside f rfl
        refine hR.bind (follows_takeStep htold.2 hsteps hspent) fun taken => ?_
        cases taken with
        | true => exact hR.fillTokens _ fun token _ _ r _ => hf token r
        | false => exact hR.pure _

/-- **A longer chain does not change an expansion that gives no notice**, nor do narrower limits: an
expansion is followed by one inside fewer tokens, with more levels left and more steps to take.
Where cycles are tolerated, the tokens have to be the same. -/
theorem follows_expandText (htold : limits.CanBeTold)
    (hsteps : ∀ k, limits'.steps.allowance.any (· ≤ k) = true →
      limits.steps.allowance.any (· ≤ k) = true)
    (hspent : ∀ n, ¬ tolerated (.outOfSteps n)) (hdeep : ∀ n, ¬ tolerated (.tooDeep n))
    {depth depth' : Nat} (hdepth : depth ≤ depth') {chain chain' : List String}
    (hchain : chain' ⊆ chain) (hcycle : ∀ token, tolerated (.cycle token) → chain ⊆ chain')
    (s : String) :
    Follows tolerated (expandText limits context depth chain s)
      (expandText limits' context depth' chain' s) := by
  induction depth generalizing depth' chain chain' s with
  | zero =>
    cases depth' with
    | zero =>
      exact follows_expandLevel htold hsteps hspent hdeep hchain hcycle (fun _ h => by cases h) s
    | succ depth' =>
      exact follows_expandLevel htold hsteps hspent hdeep hchain hcycle (fun _ h => by cases h) s
  | succ depth ih =>
    cases depth' with
    | zero => omega
    | succ depth' =>
      refine follows_expandLevel htold hsteps hspent hdeep hchain hcycle ?_ s
      rintro f ⟨⟩
      refine ⟨_, rfl, fun token r => ih (by omega) ?_ ?_ r⟩
      · exact List.append_subset.mpr ⟨List.subset_append_of_subset_left _ hchain,
          List.subset_append_right _ _⟩
      · intro t ht
        exact List.append_subset.mpr ⟨List.subset_append_of_subset_left _ (hcycle t ht),
          List.subset_append_right _ _⟩

end Template

end StructuredData
