import StructuredData.Document.Render
import StructuredData.Proofs.Template.Termination

/-!
# What an expansion reads

The expansion of a value reads of its context what stands at the tokens of the value, at the tokens
in that, and so on.  Where two contexts are the same at all these tokens, it comes to the same, and
so do nodes and documents (`Document.nodes_congr`).
-/

namespace StructuredData

/-- Whether contexts are the same at the tokens of a kind, and such tokens lead to such tokens
only. -/
structure Value.AgreeAt (kind : String → Prop) (context context' : Value) : Prop where
  at_eq : ∀ token, kind token →
    context.at (Path.ofToken token) = context'.at (Path.ofToken token)
  closed : ∀ token v, kind token → context.at (Path.ofToken token) = .ok v → ∀ t ∈ v.tokens, kind t

variable {kind : String → Prop} {limits : Limits} {context context' : Value}

namespace Template

/-- Filling placeholders reads nothing but what stands at their tokens. -/
theorem fillTokens_congr {t : Template}
    (h : ∀ token ∈ t.tokens, context.at (Path.ofToken token) = context'.at (Path.ofToken token))
    (inside : String → String → Expansion Value) :
    t.fillTokens context inside = t.fillTokens context' inside := by
  unfold fillTokens
  cases hw : t.whole? with
  | some token =>
    dsimp only
    rw [h token (mem_tokens_of_whole? hw)]
  | none =>
    refine compatible_eq.bind (compatible_eq.fill t fun token htoken => ?_) fun _ => rfl
    rw [fillToken, fillToken, h token htoken]

/-- A text comes to the same in contexts that agree at its tokens. -/
theorem expandLevel_congr {s : String}
    (h : ∀ token ∈ (ofText s).tokens,
      context.at (Path.ofToken token) = context'.at (Path.ofToken token))
    (inside : Option (String → String → Expansion Value)) (chain : List String) :
    expandLevel limits context inside chain s = expandLevel limits context' inside chain s := by
  unfold expandLevel
  simp only [fillTokens_congr h]

/-- **A text comes to the same in both contexts**: at each level the same is read, and what is read
there is a value of the next level. -/
theorem expandText_congr (h : Value.AgreeAt kind context context') (depth : Nat)
    (chain : List String) {s : String} (hs : ∀ token ∈ (ofText s).tokens, kind token) :
    expandText limits context depth chain s = expandText limits context' depth chain s := by
  induction depth generalizing chain s with
  | zero => exact expandLevel_congr (fun token ht => h.at_eq token (hs token ht)) _ _
  | succ depth ih =>
    -- first the same level in both contexts, then the levels inside
    rw [expandText, expandText,
      ← expandLevel_congr (fun token ht => h.at_eq token (hs token ht))]
    refine compatible_eq.expandLevel (fun _ => rfl) rfl (fun _ _ => rfl) (by simp) ?_
    rintro f f' ⟨⟩ ⟨⟩ _ token v hopens r hr
    -- the texts that are opened stand at a token of the kind
    have hkind : kind token := hs token hopens.mem_tokens
    refine ih _ fun t ht => ?_
    have ht : t ∈ v.tokens := Value.mem_tokens.mpr ⟨r, hr, ht⟩
    cases hopens with
    | whole _ hv _ => exact h.closed token v hkind hv t ht
    | part _ _ hv => exact h.closed token _ hkind hv t ht

end Template

/-- A value comes to the same in both contexts, given a limit on the levels: else their number would
depend on the whole context. -/
theorem Value.expand_congr (h : AgreeAt kind context context')
    (hlimits : limits.depth.allowance ≠ none) {v : Value} (hv : ∀ t ∈ v.tokens, kind t) :
    v.expand limits context = v.expand limits context' := by
  have hlevels : v.levels limits context = v.levels limits context' := by
    unfold levels
    cases ha : limits.depth.allowance with
    | none => exact absurd ha hlimits
    | some n => rfl
  rw [expand, expand, hlevels]
  exact compatible_eq.traverseTexts v fun s hs => Template.expandText_congr h _ _ fun t ht =>
    hv t (mem_tokens.mpr ⟨s, hs, ht⟩)

/-- So do entries whose tokens are of the kind. -/
theorem expandFields_congr (h : Value.AgreeAt kind context context')
    (hlimits : limits.depth.allowance ≠ none) {fields : Fields}
    (hfields : ∀ t ∈ (Value.object fields).tokens, kind t) :
    expandFields limits context fields = expandFields limits context' fields := by
  induction fields with
  | nil => rfl
  | cons e rest ih =>
    have hrest : ∀ t ∈ (Value.object rest).tokens, kind t := by
      intro t ht
      obtain ⟨s, hs, hts⟩ := Value.mem_tokens.mp ht
      obtain ⟨e', he', hs⟩ := Value.mem_texts_object.mp hs
      exact hfields t (Value.tokens_entry (List.mem_cons_of_mem _ he')
        (Value.mem_tokens.mpr ⟨s, hs, hts⟩))
    rw [expandFields, expandFields, ih hrest,
      Value.expand_congr h hlimits fun t ht => hfields t (Value.tokens_entry (by simp) ht)]

/-- Whether all tokens in the values of a schema are of a kind. -/
def Schema.Mentions [Slugifier] (kind : String → Prop) (d : Schema) : Prop :=
  ∀ values, d.fieldValues = .ok values → ∀ t ∈ (Value.object values).tokens, kind t

instance [Slugifier] (kind : String → Prop) [DecidablePred kind] (d : Schema) :
    Decidable (d.Mentions kind) :=
  inferInstanceAs (Decidable (∀ values, d.fieldValues = .ok values → _))

/-- So does the node of a schema that mentions no others. -/
theorem Schema.node_congr [Slugifier] (h : Value.AgreeAt kind context context')
    (hlimits : limits.depth.allowance ≠ none) {d : Schema} (hd : d.Mentions kind) :
    d.node limits context = d.node limits context' := by
  rw [node, node]
  cases hvalues : d.fieldValues with
  | error f => rw [lift_error_bind, lift_error_bind]
  | ok values =>
    rw [lift_ok_bind, lift_ok_bind, expandFields_congr h hlimits (hd values hvalues)]

/-- **Schemas have the same nodes in both contexts** if their values have tokens of the kind
only. -/
theorem Document.nodes_congr [Slugifier] (h : Value.AgreeAt kind context context')
    (hlimits : limits.depth.allowance ≠ none) (c : Catalog) {ds : List Schema}
    (hds : ∀ d ∈ ds, d.Mentions kind) :
    nodes limits c context ds = nodes limits c context' ds := by
  induction ds with
  | nil => rfl
  | cons d rest ih =>
    rw [nodes, nodes, Schema.node_congr h hlimits (hds d (by simp)),
      ih fun d hd => hds d (by simp [hd])]

/-! ## Without a limit on levels -/

/-- What is reached in the course of an expansion in one context is reached in the other one, and
has tokens of the kind only. -/
theorem Value.AgreeAt.reached (h : AgreeAt kind context context') {bound : Option Nat} {v : Value}
    (hv : ∀ t ∈ v.tokens, kind t) {chain : List String} {w : Value}
    (hreached : Reached context bound v chain w) :
    Reached context' bound v chain w ∧ ∀ t ∈ w.tokens, kind t := by
  have hrun : ∀ c, Relation.ReflTransGen (Calls context bound) ([], v) c →
      Reached context' bound v c.1 c.2 ∧ ∀ t ∈ c.2.tokens, kind t := by
    intro c hc
    induction hc with
    | refl => exact ⟨.refl, hv⟩
    | tail _ hcall ih =>
      obtain ⟨hthere, hkind⟩ := ih
      cases hcall with
      | item hw => exact ⟨hthere.tail (.item hw), fun t ht => hkind t (tokens_item hw ht)⟩
      | entry he => exact ⟨hthere.tail (.entry he), fun t ht => hkind t (tokens_entry he ht)⟩
      | @token _ s token w hfresh hroom hopens =>
        have htoken : kind token := hkind token
          (mem_tokens.mpr ⟨s, by simp [texts_text], hopens.mem_tokens⟩)
        have heq := h.at_eq token htoken
        cases hopens with
        | whole hwhole hw hnull =>
          exact ⟨hthere.tail (.token hfresh hroom (.whole hwhole (heq ▸ hw) hnull)),
            h.closed token _ htoken hw⟩
        | part hwhole hmem hw =>
          exact ⟨hthere.tail (.token hfresh hroom (.part hwhole hmem (heq ▸ hw))),
            h.closed token _ htoken hw⟩
  exact hrun _ hreached

/-- **A value comes to the same in both contexts**, with a limit on the levels or without: what it
comes to in one context solves the equation for the other one. -/
theorem Value.expand_eq_of_agreeAt (h : AgreeAt kind context context') {v : Value}
    (hv : ∀ t ∈ v.tokens, kind t) : v.expand limits context = v.expand limits context' := by
  have hrecurs : Recurs limits context v fun chain s =>
      Template.expandText limits context' (v.levels limits context' - chain.length) chain s := by
    intro chain s hreached
    obtain ⟨hthere, hkind⟩ := h.reached hv hreached
    refine (recurs_expandText limits context' v chain s hthere).trans ?_
    refine (Template.expandLevel_congr (fun token ht => h.at_eq token (hkind token ?_)) _ _).symm
    exact mem_tokens.mpr ⟨s, by simp [texts_text], ht⟩
  exact compatible_eq.traverseTexts v fun s hs =>
    (recurs_expandText limits context v).unique hrecurs Relation.ReflTransGen.refl hs

end StructuredData
