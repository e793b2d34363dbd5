import StructuredData.Proofs.Template.Run
import StructuredData.Proofs.Text.Cut

/-!
# Texts that are one placeholder

A token between two percent signs is read as one placeholder, and the path that a token names is
found by cutting it at its dots.
-/

namespace StructuredData

/-- The path of a token that names a member of a namespace. -/
theorem Path.ofToken_member {space name : String} (hspace : '.' ∉ space.toList)
    (hname : '.' ∉ name.toList) :
    Path.ofToken (space ++ "." ++ name) = [.text space, .text name] := by
  have hcut : Text.cut '.' (space ++ "." ++ name) = space :: Text.cut '.' name :=
    Text.cut_append hspace name
  rw [Path.ofToken, hcut, Text.cut_of_not_mem hname]
  rfl

/-- The first key of a path into an object is looked up in it. -/
theorem Value.at_object (key : String) (rest : Path) (fields : Fields) :
    (object fields).at (text key :: rest) = (fields.get? key).elim (.ok null) (·.at rest) := by
  have hkey : lookupKey fields (text key) = .ok (fields.get? key) := rfl
  rw [Value.at, hkey]
  cases fields.get? key <;> rfl

/-- What is found at the place of a member of a namespace is the member, if there is one. -/
theorem Value.at_member {context members : Fields} {space : String}
    (hcontext : context.get? space = some (.object members)) (name : String) :
    (Value.object context).at [.text space, .text name] =
      .ok ((members.get? name).getD .null) := by
  rw [Value.at_object, hcontext, Option.elim_some, Value.at_object]
  cases members.get? name with
  | none => rfl
  | some member => rw [Option.elim_some, Value.at, Option.getD_some]

namespace Template

open Expansion

/-- Whether a text can stand between the percent signs of a placeholder. -/
def IsToken (s : String) : Prop := s ≠ "" ∧ ∀ c ∈ s.toList, c ≠ '%' ∧ isBlank c = false

/-- Whether a text can be a token is told by its characters. -/
theorem isToken_of_all {s : String} (hne : s ≠ "")
    (h : (s.toList.all fun c => c != '%' && !isBlank c) = true) : IsToken s :=
  ⟨hne, fun c hc => by simpa using List.all_eq_true.mp h c hc⟩

/-- The text that is the placeholder of a token and nothing else. -/
def placeholder (token : String) : String := "%" ++ token ++ "%"

/-- The characters of a token that has been begun are read up to the next percent sign. -/
theorem scanFrom_token (gap run cs rest : List Char)
    (h : ∀ c ∈ cs, c ≠ '%' ∧ isBlank c = false) (hne : run.reverse ++ cs ≠ []) :
    scanFrom gap (some run) (cs ++ '%' :: rest) =
      ⟨(gap.reverse, run.reverse ++ cs) :: (scanFrom [] none rest).parts,
        (scanFrom [] none rest).tail⟩ := by
  induction cs generalizing run with
  | nil =>
    have hrun : run.isEmpty = false := by simpa using hne
    rw [List.nil_append, scanFrom, List.append_nil]
    simp [hrun]
  | cons c cs ih =>
    obtain ⟨hpercent, hblank⟩ := h c (by simp)
    rw [List.cons_append, scanFrom]
    simp only [hpercent, if_false, hblank, Bool.false_eq_true]
    rw [ih (c :: run) (fun d hd => h d (by simp [hd])) (by simp), List.reverse_cons,
      List.append_assoc, List.singleton_append]

/-- A placeholder is read as one. -/
theorem ofText_placeholder {token : String} (h : IsToken token) :
    ofText (placeholder token) = ⟨[([], token.toList)], []⟩ := by
  have hne : token.toList ≠ [] := fun hn => h.1 (String.toList_eq_nil_iff.mp hn)
  have hchars : (placeholder token).toList = '%' :: (token.toList ++ ['%']) := by
    simp [placeholder]
  have hscan := scanFrom_token [] [] token.toList [] h.2 (by simpa using h.1)
  rw [ofText, hchars, scanFrom, if_pos rfl, hscan]
  rfl

theorem tokens_placeholder {token : String} (h : IsToken token) :
    (ofText (placeholder token)).tokens = [token] := by
  rw [ofText_placeholder h]
  simp [tokens]

theorem whole?_placeholder {token : String} (h : IsToken token) :
    (ofText (placeholder token)).whole? = some token := by
  rw [ofText_placeholder h]
  simp [whole?]

/-- What a placeholder is filled with outside all others: the value to which its token leads,
expanded inside the token. -/
theorem fillTokens_placeholder {token : String} (h : IsToken token) {context v : Value}
    (hv : context.at (Path.ofToken token) = .ok v) (inside : String → String → Expansion Value) :
    (ofText (placeholder token)).fillTokens context inside =
      if v.isNull then pure (.text "") else v.traverseTexts (inside token) := by
  rw [fillTokens, whole?_placeholder h]
  dsimp only
  rw [hv, lift_ok_bind]

/-- The level of a placeholder outside all others: there is no cycle to be met. -/
theorem expandLevel_placeholder {limits : Limits} {context : Value} {token : String}
    (h : IsToken token) (inside : Option (String → String → Expansion Value)) :
    expandLevel limits context inside [] (placeholder token) =
      match inside with
      | none => do
        tell (.tooDeep (← limits.depth.told))
        return .text (placeholder token)
      | some inside => do
        if ← takeStep limits then (ofText (placeholder token)).fillTokens context inside
        else return .text (placeholder token) := by
  have hparts : (ofText (placeholder token)).parts.isEmpty = false := by
    rw [ofText_placeholder h]
    rfl
  unfold expandLevel
  rw [if_neg (by simp [hparts]), tokens_placeholder h]
  cases inside <;> rfl

/-- **The expansion of a placeholder that gives no warning** takes a step and fills the placeholder,
or comes upon a limit that cannot be told. -/
theorem run_placeholder {limits : Limits} {context : Value} {token : String} (h : IsToken token)
    {depth : Nat} {p q : Pass} {r : Except Fault Value} (hp : p.exhausted = false)
    (hrun : runFrom (expandText limits context depth [] (placeholder token)) p = (r, q))
    (hq : ∀ n ∈ q.log, n.isWarning = false) :
    (∃ f, r = .error f ∧ (limits.depth.told = .error f ∨ limits.steps.told = .error f)) ∨
      ∃ left, depth = left + 1 ∧
        runFrom ((ofText (placeholder token)).fillTokens context fun token s =>
          expandText limits context left [token] s) { p with steps := p.steps + 1 } =
            (r, q) := by
  cases depth with
  | zero =>
    -- without a level left a warning is given, if the limit can be told
    rw [expandText, expandLevel_placeholder h] at hrun
    dsimp only at hrun
    cases htold : limits.depth.told with
    | error f =>
      rw [htold, lift_error_bind, runFrom_throw] at hrun
      cases hrun
      exact Or.inl ⟨f, rfl, Or.inl rfl⟩
    | ok n =>
      rw [htold, lift_ok_bind, runFrom_bind_of_ok (runFrom_tell _ p), runFrom_pure] at hrun
      cases hrun
      exact absurd (hq (.tooDeep n) (by simp)) (by simp [Notice.isWarning, Notice.level])
  | succ left =>
    rw [expandText, expandLevel_placeholder h] at hrun
    dsimp only at hrun
    have hstep := runFrom_takeStep limits p
    by_cases hs : limits.steps.allowance.any (· ≤ p.steps) = true
    · rw [if_pos hs, if_neg (by simp [hp])] at hstep
      cases htold : limits.steps.told with
      | error f =>
        rw [htold] at hstep
        rw [runFrom_bind_of_error hstep] at hrun
        cases hrun
        exact Or.inl ⟨f, rfl, Or.inr rfl⟩
      | ok n =>
        rw [htold] at hstep
        rw [runFrom_bind_of_ok hstep] at hrun
        cases hrun
        exact absurd (hq (.outOfSteps n) (by simp)) (by simp [Notice.isWarning, Notice.level])
    · rw [if_neg hs] at hstep
      rw [runFrom_bind_of_ok hstep] at hrun
      exact Or.inr ⟨left, rfl, hrun⟩

/-- What a placeholder can come to: itself, where a limit is reached, or what is made of the value
to which its token leads. -/
theorem eq_or_exists_of_canGive_placeholder {limits : Limits} {context : Value} {token : String}
    (h : IsToken token) {depth : Nat} {v w : Value} (hv : context.at (Path.ofToken token) = .ok v)
    (hnull : v.isNull = false)
    (hgive : CanGive (expandText limits context depth [] (placeholder token)) w) :
    w = .text (placeholder token) ∨
      ∃ left, CanGive (v.traverseTexts (expandText limits context left [token])) w := by
  cases depth with
  | zero =>
    rw [expandText, expandLevel_placeholder h] at hgive
    obtain ⟨_, -, hgive⟩ := hgive.exists_of_bind
    obtain ⟨_, -, hgive⟩ := hgive.exists_of_bind
    exact Or.inl hgive.eq_of_pure
  | succ left =>
    rw [expandText, expandLevel_placeholder h] at hgive
    obtain ⟨taken, -, hgive⟩ := hgive.exists_of_bind
    cases taken with
    | true =>
      rw [if_pos rfl, fillTokens_placeholder h hv, if_neg (by simp [hnull])] at hgive
      exact Or.inr ⟨left, hgive⟩
    | false => exact Or.inl hgive.eq_of_pure

/-! ## The tokens of a text -/

/-- What is read as a token is not empty and has neither blanks nor percent signs. -/
theorem isToken_of_mem_scanFrom (gap : List Char) (token : Option (List Char)) (cs : List Char)
    (htoken : ∀ run, token = some run → ∀ c ∈ run, c ≠ '%' ∧ isBlank c = false) :
    ∀ p ∈ (scanFrom gap token cs).parts, p.2 ≠ [] ∧ ∀ c ∈ p.2, c ≠ '%' ∧ isBlank c = false := by
  induction cs generalizing gap token with
  | nil => cases token <;> simp [scanFrom]
  | cons c rest ih =>
    have hnone : ∀ gap, ∀ p ∈ (scanFrom gap none rest).parts,
        p.2 ≠ [] ∧ ∀ c ∈ p.2, c ≠ '%' ∧ isBlank c = false :=
      fun gap => ih gap none (by simp)
    have hopened : ∀ gap, ∀ p ∈ (scanFrom gap (some []) rest).parts,
        p.2 ≠ [] ∧ ∀ c ∈ p.2, c ≠ '%' ∧ isBlank c = false :=
      fun gap => ih gap (some []) (by simp)
    cases token with
    | none =>
      rw [scanFrom]
      split
      · exact hopened gap
      · exact hnone _
    | some run =>
      have hrun := htoken run rfl
      rw [scanFrom]
      split
      · split
        · exact hopened _
        · -- the token ends here, and the text goes on behind it
          rename_i hne
          intro p hp
          rcases List.mem_cons.mp hp with rfl | hp
          · exact ⟨by simpa using hne, fun c hc => hrun c (List.mem_reverse.mp hc)⟩
          · exact hnone [] p hp
      · split
        · exact hnone _
        · rename_i hpercent hblank
          refine ih gap (some (c :: run)) ?_
          rintro _ ⟨⟩ d hd
          rcases List.mem_cons.mp hd with rfl | hd
          · exact ⟨hpercent, by simpa using hblank⟩
          · exact hrun d hd

/-- The tokens of a text can stand between the percent signs of a placeholder. -/
theorem isToken_of_mem_tokens {s token : String} (h : token ∈ (ofText s).tokens) :
    IsToken token := by
  obtain ⟨p, hp, rfl⟩ := List.mem_map.mp h
  obtain ⟨hne, hchars⟩ := isToken_of_mem_scanFrom [] none s.toList (by simp) p hp
  refine ⟨fun hempty => hne ?_, by rwa [String.toList_ofList]⟩
  simpa using congrArg String.toList hempty

/-- A text that is one placeholder is the placeholder of its token. -/
theorem eq_placeholder_of_whole? {s token : String} (h : (ofText s).whole? = some token) :
    s = placeholder token := by
  have hchars := toChars_ofText s
  unfold whole? at h
  split at h
  · rename_i run hparts htail
    cases h
    rw [toChars, hparts, htail] at hchars
    apply String.toList_inj.mp
    simp [placeholder, ← hchars]
  · cases h

/-! ## Other texts -/

/-- A text without placeholders is what stands after the last one. -/
theorem tail_of_parts_eq_nil {s : String} (h : (ofText s).parts = []) :
    (ofText s).tail = s.toList := by
  have hchars := toChars_ofText s
  rwa [toChars, h, List.flatMap_nil, List.nil_append] at hchars

/-- A text that is one placeholder ends in a percent sign. -/
theorem getLast?_of_whole? {s token : String} (h : (ofText s).whole? = some token) :
    s.toList.getLast? = some '%' := by
  have hchars : s.toList = '%' :: token.toList ++ ['%'] := by
    rw [eq_placeholder_of_whole? h]
    simp [placeholder]
  rw [hchars, List.getLast?_append]
  rfl

/-- A text without placeholders comes to itself. -/
theorem expandText_of_isEmpty {limits : Limits} {context : Value} {depth : Nat}
    {chain : List String} {s : String} (h : (ofText s).parts.isEmpty = true) :
    expandText limits context depth chain s = pure (.text s) := by
  have hlevel : ∀ inside, expandLevel limits context inside chain s = pure (.text s) := by
    intro inside
    unfold expandLevel
    rw [if_pos h]
  cases depth with
  | zero => exact hlevel _
  | succ depth => exact hlevel _

/-- A text that is not one placeholder comes to a text. -/
theorem gives_expandText {limits : Limits} {context : Value} {depth : Nat} {chain : List String}
    {s : String} (h : (ofText s).whole? = none) :
    Gives (fun v => ∃ t, v = .text t) (expandText limits context depth chain s) := by
  have hlevel : ∀ inside, Gives (fun v => ∃ t, v = .text t)
      (expandLevel limits context inside chain s) := by
    intro inside
    unfold expandLevel
    by_cases hparts : (ofText s).parts.isEmpty = true
    · rw [if_pos hparts]
      exact Gives.pure ⟨s, rfl⟩
    · rw [if_neg hparts]
      cases (ofText s).tokens.find? chain.contains with
      | some token => exact Gives.bind fun _ => Gives.pure ⟨s, rfl⟩
      | none =>
        cases inside with
        | none => exact Gives.bind fun _ => Gives.bind fun _ => Gives.pure ⟨s, rfl⟩
        | some inside =>
          refine Gives.bind fun taken => ?_
          cases taken with
          | true =>
            rw [if_pos rfl, fillTokens, h]
            exact Gives.bind fun filled => Gives.pure ⟨filled, rfl⟩
          | false => exact Gives.pure ⟨s, rfl⟩
  cases depth with
  | zero => exact hlevel _
  | succ depth => exact hlevel _

end Template

theorem Value.expand_text (limits : Limits) (context : Value) (s : String) :
    (text s).expand limits context =
      Template.expandText limits context ((text s).levels limits context) [] s := by
  rw [expand, traverseTexts]

end StructuredData
