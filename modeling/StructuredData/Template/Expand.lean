import StructuredData.Notice
import StructuredData.Template.Basic
import StructuredData.Template.Limit
import StructuredData.Template.Path
import StructuredData.Value.Texts

/-!
# Expanding templates

A placeholder is filled with the value at its path in a context, and that value is expanded in its
turn.  A token met inside its own expansion leaves the text as it is, so expansion ends on every
context; a limit on nesting and a budget of steps keep it short.
-/

namespace StructuredData

/-- The state of a pass over several values. -/
structure Pass where
  /-- The texts expanded so far. -/
  steps : Nat := 0
  /-- Whether it has been told that the budget is spent. -/
  exhausted : Bool := false
  log : Log := #[]

/-- A computation in the course of a pass. -/
abbrev Expansion (α : Type) := ExceptT Fault (StateM Pass) α

namespace Expansion

/-- Gives a notice. -/
def tell (n : Notice) : Expansion Unit := modify fun p => { p with log := p.log.push n }

/-- Counts a step if the budget allows it, and tells once if it does not. -/
def takeStep (limits : Limits) : Expansion Bool := do
  let pass ← get
  if limits.steps.allowance.any (· ≤ pass.steps) then
    unless pass.exhausted do
      tell (.outOfSteps (← limits.steps.told))
      modify fun p => { p with exhausted := true }
    return false
  else
    modify fun p => { p with steps := p.steps + 1 }
    return true

end Expansion

/-- What a value is inside a longer text: nothing for null and containers. -/
def Value.inline : Value → Except Fault String
  | .null | .list _ | .object _ => .ok ""
  | .scalar a => (Value.scalar a).written

namespace Template

open Expansion

/-- What fills one placeholder inside a longer text; `inside` expands the text to which its token
leads. -/
def fillToken (context : Value) (inside : String → String → Expansion Value) (token : String) :
    Expansion String := do
  match ← context.at (Path.ofToken token) with
  | .text r => do
    let v ← inside token r
    v.inline
  | v => v.inline

/-- What a text with placeholders expands to: if it is one placeholder, the value to which its token
leads, else a text.  `inside` expands the texts to which a token leads. -/
def fillTokens (context : Value) (inside : String → String → Expansion Value) (t : Template) :
    Expansion Value :=
  match t.whole? with
  | some token => do
    let v ← context.at (Path.ofToken token)
    if v.isNull then return .text ""
    else v.traverseTexts (inside token)
  | none => do
    let filled ← t.fill (fillToken context inside)
    return .text filled

/-- Expands a text inside the expansion of the tokens of a chain.  `inside` expands the texts to
which a token leads; there is none where no more level is allowed. -/
def expandLevel (limits : Limits) (context : Value)
    (inside : Option (String → String → Expansion Value)) (chain : List String) (s : String) :
    Expansion Value :=
  let t := ofText s
  if t.parts.isEmpty then return .text s
  else match t.tokens.find? chain.contains, inside with
    | some token, _ => do
      tell (.cycle token)
      return .text s
    | none, none => do
      tell (.tooDeep (← limits.depth.told))
      return .text s
    | none, some inside => do
      if ← takeStep limits then t.fillTokens context inside
      else return .text s

/-- Expands a text inside the expansion of the tokens of a chain, `depth` more levels being
allowed. -/
def expandText (limits : Limits) (context : Value) :
    (depth : Nat) → (chain : List String) → (s : String) → Expansion Value
  | 0, chain, s => expandLevel limits context none chain s
  | depth + 1, chain, s =>
    expandLevel limits context
      (some fun token r => expandText limits context depth (chain ++ [token]) r) chain s

end Template

/-- The tokens in the texts of a value. -/
def Value.tokens (v : Value) : List String := v.texts.flatMap fun s => (Template.ofText s).tokens

/-- The levels to which a value is expanded.  Without a limit there are as many as there are tokens
to be met, of which none is expanded inside itself. -/
def Value.levels (v : Value) (limits : Limits) (context : Value) : Nat :=
  limits.depth.allowance.getD (v.tokens ++ context.tokens).length

/-- Expands the texts of a value. -/
def Value.expand (v : Value) (limits : Limits) (context : Value) : Expansion Value :=
  v.traverseTexts (Template.expandText limits context (v.levels limits context) [])

/-- Expands values one after the other in one pass; each result comes with the steps taken so far,
and a value that fails leaves the others to be expanded. -/
def Value.expandEach (limits : Limits) (context : Value) :
    List Value → StateM Pass (List (Except Fault (Value × Nat)))
  | [] => return []
  | v :: rest => do
    let result ← ExceptT.run (v.expand limits context)
    let steps := (← get).steps
    let more ← Value.expandEach limits context rest
    return result.map (·, steps) :: more

end StructuredData
