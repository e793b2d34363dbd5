import Mathlib.Data.Finset.Dedup
import Mathlib.Data.Finset.Card
import Mathlib.Logic.Relation
import StructuredData.Proofs.Assoc
import StructuredData.Proofs.Template.Run

/-!
# Expansion ends

The calls in which the expansion of a value consists go from a container to its parts and from a
text to what its tokens lead to, which may be any part of the context.  What makes them end is that
no token is expanded inside itself: the tokens of a chain are distinct and occur in the texts of the
value or of the context (`InCourse`), so a chain can only get as long as there are such tokens, and
between two of its tokens the values get smaller.  No limit is needed for that.
-/

namespace StructuredData

open Expansion Relation

/-- The tokens that can be met while a value is expanded. -/
def Value.tokensMet (v context : Value) : List String := v.tokens ++ context.tokens

/-! ## Tokens of parts -/

/-- The tokens in a value are those of its texts. -/
theorem Value.mem_tokens {v : Value} {t : String} :
    t ∈ v.tokens ↔ ∃ s ∈ v.texts, t ∈ (Template.ofText s).tokens := by
  rw [Value.tokens, List.mem_flatMap]

@[simp] theorem Value.tokens_text (s : String) : (text s).tokens = (Template.ofText s).tokens := by
  simp [tokens, texts_text]

theorem Value.tokens_subset_of_texts {v w : Value} (h : v.texts ⊆ w.texts) :
    v.tokens ⊆ w.tokens := by
  intro t ht
  obtain ⟨s, hs, hts⟩ := Value.mem_tokens.mp ht
  exact Value.mem_tokens.mpr ⟨s, h hs, hts⟩

theorem Value.tokens_item {items : List Value} {v : Value} (h : v ∈ items) :
    v.tokens ⊆ (Value.list items).tokens :=
  Value.tokens_subset_of_texts fun _ hs => Value.mem_texts_list.mpr ⟨v, h, hs⟩

theorem Value.tokens_entry {fields : Fields} {e : Scalar × Value} (h : e ∈ fields) :
    e.2.tokens ⊆ (Value.object fields).tokens :=
  Value.tokens_subset_of_texts fun _ hs => Value.mem_texts_object.mpr ⟨e, h, hs⟩

/-- What a mapping holds under a value is held by one of its entries. -/
theorem Value.exists_mem_of_lookupKey {α : Type} {m : List (Scalar × α)} {key : Value} {a : α}
    (h : Value.lookupKey m key = .ok (some a)) : ∃ e ∈ m, e.2 = a := by
  unfold Value.lookupKey at h
  cases hk : key.key with
  | error f =>
    rw [hk] at h
    cases h
  | ok k =>
    rw [hk] at h
    obtain ⟨k', -, hm⟩ := Assoc.exists_mem_of_lookup (Except.ok.inj h)
    exact ⟨_, hm, rfl⟩

/-- What stands at a path is null or a part of the value: what holds of null and of the value, and
of the parts of each container of which it holds, holds of it. -/
theorem Value.at_induction {P : Value → Prop} (null : P .null)
    (item : ∀ items, P (.list items) → ∀ v ∈ items, P v)
    (entry : ∀ fields, P (.object fields) → ∀ e ∈ fields, P e.2)
    {path : Path} {v w : Value} (hv : P v) (h : v.at path = .ok w) : P w := by
  have of_null : (Except.ok Value.null : Except Fault Value) = .ok w → P w := by
    rintro ⟨⟩
    exact null
  induction path generalizing v with
  | nil =>
    rw [Value.at] at h
    cases h
    exact hv
  | cons key rest ih =>
    cases v with
    | scalar a => exact of_null h
    | list items =>
      cases key with
      | scalar k =>
        cases k with
        | text segment =>
          rw [Value.at] at h
          cases hi : Path.index? segment with
          | error f => rw [hi] at h; cases h
          | ok n? =>
            rw [hi] at h
            cases n? with
            | none => exact of_null h
            | some n =>
              dsimp only [bind, Except.bind] at h
              cases hn : items[n]? with
              | none =>
                rw [hn] at h
                exact of_null h
              | some u =>
                rw [hn] at h
                exact ih (item items hv u (List.mem_of_getElem? hn)) h
        | _ => cases h
      | _ => cases h
    | object fields =>
      rw [Value.at] at h
      cases hl : Value.lookupKey fields key with
      | error f => rw [hl] at h; cases h
      | ok u? =>
        rw [hl] at h
        cases u? with
        | none => exact of_null h
        | some u =>
          obtain ⟨e, he, rfl⟩ := Value.exists_mem_of_lookupKey hl
          exact ih (entry fields hv e he) h

/-- The texts of what stands at a path are among those of the value. -/
theorem Value.texts_at {path : Path} {v w : Value} (h : v.at path = .ok w) : w.texts ⊆ v.texts := by
  refine Value.at_induction (P := fun w => w.texts ⊆ v.texts) ?_ ?_ ?_ (List.Subset.refl _) h
  · exact List.nil_subset _
  · exact fun items hitems u hu s hs => hitems (Value.mem_texts_list.mpr ⟨u, hu, hs⟩)
  · exact fun fields hfields e he s hs => hfields (Value.mem_texts_object.mpr ⟨e, he, hs⟩)

/-! ## Calls -/

/-- The calls that the expansion of a value inside a chain of tokens makes: of the parts of a
container, and of what a text opens.  A text opens nothing if one of its tokens is in the chain, or
if the chain has reached its bound. -/
inductive Calls (context : Value) (bound : Option Nat) :
    List String × Value → List String × Value → Prop
  | item {chain : List String} {items : List Value} {v : Value} : v ∈ items →
      Calls context bound (chain, .list items) (chain, v)
  | entry {chain : List String} {fields : Fields} {e : Scalar × Value} : e ∈ fields →
      Calls context bound (chain, .object fields) (chain, e.2)
  | token {chain : List String} {s token : String} {v : Value} :
      (∀ t ∈ (Template.ofText s).tokens, t ∉ chain) → (∀ n, bound = some n → chain.length < n) →
      (Template.ofText s).Opens context token v →
      Calls context bound (chain, .text s) (chain ++ [token], v)

/-- The calls made in the course of the expansion of a value, itself among them. -/
abbrev Reached (context : Value) (bound : Option Nat) (v : Value) (chain : List String)
    (w : Value) : Prop :=
  ReflTransGen (Calls context bound) ([], v) (chain, w)

/-- **What holds of every call in the course of the expansion of a value**: the tokens of the chain
are distinct and can be met, their number is within the bound, and so are those of the value. -/
structure InCourse (context : Value) (bound : Option Nat) (v : Value) (chain : List String)
    (w : Value) : Prop where
  nodup : chain.Nodup
  met : ∀ t ∈ chain, t ∈ v.tokensMet context
  length_le : ∀ n, bound = some n → chain.length ≤ n
  tokens : ∀ t ∈ w.tokens, t ∈ v.tokensMet context

namespace Template

/-- The token that a text is belongs to it. -/
theorem mem_tokens_of_whole? {t : Template} {token : String} (h : t.whole? = some token) :
    token ∈ t.tokens := by
  unfold whole? at h
  split at h
  · rename_i run hparts _
    cases h
    simp [tokens, hparts]
  · cases h

/-- A text opens values for tokens of its own. -/
theorem Opens.mem_tokens {context : Value} {t : Template} {token : String} {v : Value}
    (h : t.Opens context token v) : token ∈ t.tokens := by
  cases h with
  | part _ htoken => exact htoken
  | whole hw => exact mem_tokens_of_whole? hw

/-- The values that a text opens are parts of the context. -/
theorem Opens.texts_subset {context : Value} {t : Template} {token : String} {v : Value}
    (h : t.Opens context token v) : v.texts ⊆ context.texts := by
  cases h with
  | whole _ hv => exact Value.texts_at hv
  | part _ _ hv => exact Value.texts_at hv

/-- What a token opens has no tokens but those in the context. -/
theorem Opens.tokens_subset {context : Value} {t : Template} {token : String} {v : Value}
    (h : t.Opens context token v) : v.tokens ⊆ context.tokens :=
  Value.tokens_subset_of_texts h.texts_subset

end Template

namespace InCourse

variable {context v w w' : Value} {bound : Option Nat} {chain chain' : List String}

theorem start (context v : Value) (bound : Option Nat) : InCourse context bound v [] v where
  nodup := List.nodup_nil
  met := by simp
  length_le := by simp
  tokens := fun t ht => List.mem_append_left _ ht

/-- What holds of a value holds of its texts. -/
theorem text (h : InCourse context bound v chain w) {s : String} (hs : s ∈ w.texts) :
    InCourse context bound v chain (.text s) :=
  { h with tokens := fun t ht => h.tokens t (Value.tokens_subset_of_texts (by
      simpa [Value.texts_text] using hs) ht) }

/-- A call keeps what holds of every call. -/
theorem step (h : InCourse context bound v chain w)
    (hcall : Calls context bound (chain, w) (chain', w')) :
    InCourse context bound v chain' w' := by
  cases hcall with
  | item hw' => exact { h with tokens := fun t ht => h.tokens t (Value.tokens_item hw' ht) }
  | entry he => exact { h with tokens := fun t ht => h.tokens t (Value.tokens_entry he ht) }
  | @token _ s token _ hfresh hroom hopens =>
    -- no token of the text is in the chain, so the one that is put there is new
    have htoken : token ∈ (Template.ofText s).tokens := hopens.mem_tokens
    refine ⟨?_, ?_, ?_, ?_⟩
    · rw [List.nodup_append]
      refine ⟨h.nodup, List.nodup_singleton _, fun a ha b hb hab => ?_⟩
      rw [List.mem_singleton.mp hb] at hab
      exact hfresh token htoken (hab ▸ ha)
    · intro t ht
      rcases List.mem_append.mp ht with ht | ht
      · exact h.met t ht
      · rw [List.mem_singleton.mp ht]
        exact h.tokens token (Value.mem_tokens.mpr ⟨s, by simp [Value.texts_text], htoken⟩)
    · intro n hn
      have := hroom n hn
      rw [List.length_append, List.length_singleton]
      omega
    · exact fun t ht => List.mem_append_right _ (hopens.tokens_subset ht)

/-- It holds of every call in the course of an expansion. -/
theorem of_reached (h : Reached context bound v chain w) : InCourse context bound v chain w := by
  have hrun : ∀ c, ReflTransGen (Calls context bound) ([], v) c →
      InCourse context bound v c.1 c.2 := by
    intro c hc
    induction hc with
    | refl => exact start context v bound
    | tail _ hcall ih => exact ih.step hcall
  exact hrun _ h

/-- Distinct tokens that can be met are no more than there are. -/
theorem length_le_card (h : InCourse context bound v chain w) :
    chain.length ≤ (v.tokensMet context).toFinset.card := by
  rw [← List.toFinset_card_of_nodup h.nodup]
  exact Finset.card_le_card fun t ht => List.mem_toFinset.mpr (h.met t (List.mem_toFinset.mp ht))

/-- A chain with as many tokens as can be met has all of them. -/
theorem mem_chain_of_card_le (h : InCourse context bound v chain w)
    (hlength : (v.tokensMet context).toFinset.card ≤ chain.length) {t : String}
    (ht : t ∈ v.tokensMet context) : t ∈ chain := by
  have hsub : chain.toFinset ⊆ (v.tokensMet context).toFinset := fun t ht =>
    List.mem_toFinset.mpr (h.met t (List.mem_toFinset.mp ht))
  have heq := Finset.eq_of_subset_of_card_le hsub
    (by rw [List.toFinset_card_of_nodup h.nodup]; exact hlength)
  rw [← List.mem_toFinset, heq]
  exact List.mem_toFinset.mpr ht

end InCourse

/-! ## Nested calls end -/

/-- **There is no endless sequence of nested calls**, whether there is a bound or not: a token makes
the chain longer, and parts of containers are smaller than these. -/
theorem InCourse.acc {context v w : Value} {bound : Option Nat} {chain : List String}
    (h : InCourse context bound v chain w) :
    Acc (fun c c' => Calls context bound c' c) (chain, w) := by
  -- outside the tokens that are left for the chain, inside the size of the value
  induction hleft : (v.tokensMet context).toFinset.card - chain.length
    using Nat.strong_induction_on generalizing chain w with
  | _ left ih =>
    induction w using Value.inductionOn with
    | scalar a =>
      refine ⟨_, fun c hcall => ?_⟩
      cases hcall with
      | token hfresh hroom hopens =>
        have hnext := h.step (.token hfresh hroom hopens)
        have hcard := hnext.length_le_card
        rw [List.length_append, List.length_singleton] at hcard
        exact ih _ (by simp only [List.length_append, List.length_singleton]; omega) hnext rfl
    | list items ihw =>
      refine ⟨_, fun c hcall => ?_⟩
      cases hcall with
      | item hw => exact ihw _ hw (h.step (.item hw))
    | object fields ihw =>
      refine ⟨_, fun c hcall => ?_⟩
      cases hcall with
      | entry he => exact ihw _ he (h.step (.entry he))

/-! ## The recursion without a count of levels -/

/-- The texts of a value that is reached are reached. -/
theorem Reached.texts {context v : Value} {bound : Option Nat} {chain : List String} {w : Value}
    (h : Reached context bound v chain w) {s : String} (hs : s ∈ w.texts) :
    Reached context bound v chain (.text s) := by
  induction w using Value.inductionOn with
  | scalar a =>
    cases a with
    | text r =>
      rw [Value.texts_text, List.mem_singleton] at hs
      rwa [hs]
    | _ => cases hs
  | list items ih =>
    obtain ⟨w, hw, hsw⟩ := Value.mem_texts_list.mp hs
    exact ih w hw (h.tail (.item hw)) hsw
  | object fields ih =>
    obtain ⟨e, he, hse⟩ := Value.mem_texts_object.mp hs
    exact ih e he (h.tail (.entry he)) hse

/-- **The recursion itself**, as an equation for the calls in the course of the expansion of a
value: a text is expanded by a level that calls the same function with a longer chain, if the chain
is within the limit.  There is no count of levels in it that would make it end. -/
def Recurs (limits : Limits) (context v : Value)
    (f : List String → String → Expansion Value) : Prop :=
  ∀ chain s, Reached context limits.depth.allowance v chain (.text s) →
    f chain s = Template.expandLevel limits context
      (if limits.depth.allowance.all (chain.length < ·) then
        some fun token r => f (chain ++ [token]) r
      else none) chain s

theorem compatible_eq : Compatible fun x y => x = y where
  pure _ := rfl
  throw _ := rfl
  bind := by
    rintro α β x _ f g rfl h
    rw [funext h]

/-- A level that has no token, or one that is in the chain, makes no call. -/
theorem Template.expandLevel_of_no_call {limits : Limits} {context : Value} {chain : List String}
    {s : String} (h : ∀ t ∈ (ofText s).tokens, t ∈ chain)
    (inside inside' : Option (String → String → Expansion Value)) :
    expandLevel limits context inside chain s = expandLevel limits context inside' chain s := by
  unfold expandLevel
  by_cases hparts : (ofText s).parts.isEmpty = true
  · rw [if_pos hparts, if_pos hparts]
  · rw [if_neg hparts, if_neg hparts]
    cases hfind : (ofText s).tokens.find? chain.contains with
    | some token => rfl
    | none =>
      -- a text with a placeholder has a token, and this is in the chain
      obtain ⟨p, rest, hp⟩ : ∃ p rest, (ofText s).parts = p :: rest := by
        cases hp : (ofText s).parts with
        | nil => simp [hp] at hparts
        | cons p rest => exact ⟨p, rest, rfl⟩
      have hmem : String.ofList p.2 ∈ (ofText s).tokens := by simp [tokens, hp]
      have := List.find?_eq_none.mp hfind _ hmem
      simp [h _ hmem] at this

/-- The equation leaves no choice: its solutions agree on the calls that are made. -/
theorem Recurs.unique {limits : Limits} {context v : Value}
    {f g : List String → String → Expansion Value} (hf : Recurs limits context v f)
    (hg : Recurs limits context v g) {chain : List String} {w : Value}
    (h : Reached context limits.depth.allowance v chain w) {s : String} (hs : s ∈ w.texts) :
    f chain s = g chain s := by
  have key : ∀ c, Acc (fun c c' => Calls context limits.depth.allowance c' c) c →
      Reached context limits.depth.allowance v c.1 c.2 → ∀ s ∈ c.2.texts, f c.1 s = g c.1 s := by
    intro c hc
    -- the calls that a call makes come before it, whatever their values are
    induction hc with
    | intro c _ ih =>
      obtain ⟨chain, w⟩ := c
      intro hreached s hs
      cases w with
      | scalar a =>
        cases a with
        | text r =>
          rw [Value.texts_text, List.mem_singleton] at hs
          subst hs
          rw [hf chain s hreached, hg chain s hreached]
          refine compatible_eq.expandLevel (fun _ => rfl) rfl (fun _ _ => rfl) ?_ ?_
          · split <;> simp
          · intro f' g' hf' hg' hfresh token u hopens r hr
            by_cases hroom : limits.depth.allowance.all (chain.length < ·) = true
            · rw [if_pos hroom] at hf' hg'
              cases hf'
              cases hg'
              have hlt : ∀ n, limits.depth.allowance = some n → chain.length < n := by
                intro n hn
                simpa [hn] using hroom
              have hcall := Calls.token hfresh hlt hopens
              exact ih _ hcall (hreached.tail hcall) r hr
            · rw [if_neg hroom] at hf'
              cases hf'
        | _ => cases hs
      | list items =>
        obtain ⟨w, hw, hsw⟩ := Value.mem_texts_list.mp hs
        exact ih _ (.item hw) (hreached.tail (.item hw)) s hsw
      | object fields =>
        obtain ⟨e, he, hse⟩ := Value.mem_texts_object.mp hs
        exact ih _ (.entry he) (hreached.tail (.entry he)) s hse
  exact key _ (InCourse.of_reached h).acc h s hs

/-- Expansion with a count of levels solves the equation: the count is never spent before the limit,
and without a limit not before the tokens are. -/
theorem recurs_expandText (limits : Limits) (context v : Value) :
    Recurs limits context v fun chain s =>
      Template.expandText limits context (v.levels limits context - chain.length) chain s := by
  intro chain s hreached
  have hcourse := InCourse.of_reached hreached
  show Template.expandText limits context (v.levels limits context - chain.length) chain s = _
  cases hleft : v.levels limits context - chain.length with
  | zero =>
    rw [Template.expandText]
    cases ha : limits.depth.allowance with
    | some n =>
      have hlevels : v.levels limits context = n := by simp [Value.levels, ha]
      rw [if_neg (by simp; omega)]
    | none =>
      have hlevels : v.levels limits context = (v.tokensMet context).length := by
        simp [Value.levels, ha, Value.tokensMet]
      -- the chain has all the tokens that can be met, so no call is left to be made
      have hcard := (v.tokensMet context).toFinset_card_le
      exact Template.expandLevel_of_no_call
        (fun t ht => hcourse.mem_chain_of_card_le (by omega) (hcourse.tokens t
          (Value.mem_tokens.mpr ⟨s, by simp [Value.texts_text], ht⟩))) _ _
  | succ left =>
    have hroom : limits.depth.allowance.all (chain.length < ·) = true := by
      cases ha : limits.depth.allowance with
      | none => rfl
      | some n =>
        have hlevels : v.levels limits context = n := by simp [Value.levels, ha]
        simp
        omega
    rw [Template.expandText, if_pos hroom]
    have hnext : ∀ token, v.levels limits context - (chain ++ [token]).length = left := by
      intro token
      rw [List.length_append, List.length_singleton]
      omega
    simp only [hnext]

/-! ## The limit on levels -/

/-- An expansion that does not tell that placeholders are nested too deep. -/
def Expansion.NeverTooDeep {α : Type} (act : Expansion α) : Prop :=
  ∀ (p : Pass) (n : Int), Notice.tooDeep n ∈ (runFrom act p).2.log → Notice.tooDeep n ∈ p.log

theorem compatible_neverTooDeep : Compatible fun x _ => NeverTooDeep x where
  pure _ := fun _ _ h => h
  throw _ := fun _ _ h => h
  bind := by
    intro α β x _ f _ hx hf p n h
    rcases hp : runFrom x p with ⟨e | a, q⟩
    · rw [runFrom_bind_of_error hp] at h
      exact hx p n (by rw [hp]; exact h)
    · rw [runFrom_bind_of_ok hp] at h
      exact hx p n (by rw [hp]; exact hf a q n h)

/-- Taking a step does not tell that the depth is spent. -/
theorem neverTooDeep_takeStep (limits : Limits) : NeverTooDeep (takeStep limits) := by
  intro p n h
  rw [runFrom_takeStep] at h
  split at h
  · split at h
    · exact h
    · split at h
      · simpa using h
      · exact h
  · exact h

/-- With a level for each token that can be met and is not in the chain, the levels are enough. -/
theorem Template.neverTooDeep_expandText (limits : Limits) {context v : Value} {depth : Nat}
    {chain : List String} {w : Value} (h : InCourse context none v chain w)
    (hdepth : (v.tokensMet context).toFinset.card ≤ depth + chain.length) {s : String}
    (hs : s ∈ w.texts) : NeverTooDeep (expandText limits context depth chain s) := by
  have htells : ∀ token, NeverTooDeep (tell (.cycle token)) := by
    intro token p n hn
    simpa using hn
  induction depth generalizing chain w s with
  | zero =>
    have hall : ∀ t ∈ (ofText s).tokens, t ∈ chain := fun t ht =>
      h.mem_chain_of_card_le (by omega) (h.tokens t (Value.mem_tokens.mpr ⟨s, hs, ht⟩))
    -- the level makes no call, so it is as good as one with levels left
    rw [expandText, expandLevel_of_no_call hall none (some fun _ r => pure (.text r))]
    refine compatible_neverTooDeep.expandLevel htells (neverTooDeep_takeStep limits)
      (fun h => by cases h) Iff.rfl ?_
    rintro f _ ⟨⟩ _ _ token u _ r _
    exact compatible_neverTooDeep.pure _
  | succ depth ih =>
    refine compatible_neverTooDeep.expandLevel htells (neverTooDeep_takeStep limits)
      (fun h => by cases h) Iff.rfl ?_
    rintro f _ ⟨⟩ _ hfresh token u hopens r hr
    exact ih ((h.text hs).step (.token hfresh (by simp) hopens))
      (by rw [List.length_append, List.length_singleton]; omega) hr

/-- **Expansion ends on every context**, cyclic ones included, and needs no limit for that.  In all
calls made in its course the tokens of the chain are distinct, occur in the value or the context,
and are no more than the limit allows; there is no endless sequence of nested calls, with a limit or
without; the recursion, taken as an equation that counts no levels, has a solution, and what its
solutions give is the expansion; and if the limit is no less than the number of distinct tokens in
the value and the context, it is never told to be exceeded. -/
theorem Value.expand_terminates (limits : Limits) (context v : Value) :
    (∀ chain w, Reached context limits.depth.allowance v chain w →
      chain.Nodup ∧ (∀ t ∈ chain, t ∈ v.tokens ∨ t ∈ context.tokens) ∧
        ∀ n, limits.depth.allowance = some n → chain.length ≤ n) ∧
    (∀ bound, Acc (fun c c' => Calls context bound c' c) ([], v)) ∧
    (∃ f, Recurs limits context v f) ∧
    (∀ f, Recurs limits context v f → v.traverseTexts (f []) = v.expand limits context) ∧
    ((∀ n, limits.depth.allowance = some n → (v.tokens ++ context.tokens).toFinset.card ≤ n) →
      ∀ (p : Pass) (n : Int), .tooDeep n ∈ (runFrom (v.expand limits context) p).2.log →
        .tooDeep n ∈ p.log) := by
  refine ⟨fun chain w h => ?_, fun bound => (InCourse.start context v bound).acc,
    ⟨_, recurs_expandText limits context v⟩, fun f hf => ?_, fun hcard => ?_⟩
  · have hcourse := InCourse.of_reached h
    exact ⟨hcourse.nodup, fun t ht => List.mem_append.mp (hcourse.met t ht), hcourse.length_le⟩
  · exact compatible_eq.traverseTexts v fun s hs =>
      hf.unique (recurs_expandText limits context v) ReflTransGen.refl hs
  · have hlevels : (v.tokensMet context).toFinset.card ≤ v.levels limits context := by
      unfold Value.levels
      cases ha : limits.depth.allowance with
      | some n => exact hcard n ha
      | none => exact List.toFinset_card_le _
    exact compatible_neverTooDeep.traverseTexts (g := fun _ => pure .null) v fun s hs =>
      Template.neverTooDeep_expandText limits (InCourse.start context v none) (by simpa) hs

end StructuredData
