import Mathlib.Data.List.Infix
import StructuredData.Document.Script
import StructuredData.Proofs.Json.Tokens

/-!
# Closing tags in JSON texts

Escaping the slash of each closing tag is done on the finished text and not on the texts in it.
This leaves no closing tag (`Document.not_infix_escapeClosing`), and it changes nothing in what the
text denotes, whatever the text is (`Document.tokens?_escapeClosing`): outside of quotes there is no
such tag in a text that can be read, inside quotes an escaped slash is a slash, and where an escape
sequence would be taken apart there is none.
-/

namespace StructuredData.Document

open Json

variable {cs rest : List Char} {c : Char}

/-! ## The escaped text -/

/-- Nothing but a bracket is escaped. -/
theorem escapeClosing_cons (h : c ≠ '<') : escapeClosing (c :: cs) = c :: escapeClosing cs := by
  rw [escapeClosing]
  intro _ hc _
  exact h hc

/-- A bracket is left alone where no slash follows. -/
theorem escapeClosing_open (h : cs.head? ≠ some '/') :
    escapeClosing ('<' :: cs) = '<' :: escapeClosing cs := by
  rw [escapeClosing]
  rintro rest _ rfl
  exact h rfl

/-- The first character stays. -/
theorem exists_escapeClosing_cons (c : Char) (cs : List Char) :
    ∃ rest, escapeClosing (c :: cs) = c :: rest := by
  unfold escapeClosing
  split
  · rename_i h
    cases h
    exact ⟨_, rfl⟩
  · rename_i h
    cases h
    exact ⟨_, rfl⟩
  · contradiction

@[simp] theorem head?_escapeClosing (cs : List Char) : (escapeClosing cs).head? = cs.head? := by
  cases cs with
  | nil => rfl
  | cons c cs =>
    obtain ⟨rest, h⟩ := exists_escapeClosing_cons c cs
    rw [h, List.head?_cons, List.head?_cons]

/-- An escape sequence by number does not come of escaping a tag. -/
theorem exists_of_escapeClosing_eq (h : escapeClosing cs = '\\' :: 'u' :: rest) :
    ∃ more, cs = '\\' :: 'u' :: more := by
  have hhead : cs.head? = some '\\' := by rw [← head?_escapeClosing, h]; rfl
  obtain ⟨cs, rfl⟩ := List.head?_eq_some_iff.mp hhead
  rw [escapeClosing_cons (by decide)] at h
  have hhead : cs.head? = some 'u' := by rw [← head?_escapeClosing, (List.cons.inj h).2]; rfl
  obtain ⟨more, rfl⟩ := List.head?_eq_some_iff.mp hhead
  exact ⟨more, rfl⟩

/-- **No closing tag is left.** -/
theorem not_infix_escapeClosing (cs : List Char) : ¬ ['<', '/'] <:+: escapeClosing cs := by
  induction cs using escapeClosing.induct with
  | case1 rest ih =>
    rw [escapeClosing]
    simpa [List.infix_cons_iff, List.cons_prefix_cons] using ih
  | case2 c rest hc ih =>
    have hcons : escapeClosing (c :: rest) = c :: escapeClosing rest := by
      rw [escapeClosing]
      exact hc
    rw [hcons, List.infix_cons_iff, not_or]
    refine ⟨fun hleads => ?_, ih⟩
    obtain ⟨rfl, more, hmore⟩ := List.cons_prefix_cons.mp hleads
    -- the slash would be the first character of the rest
    have hhead : rest.head? = some '/' := by
      rw [← head?_escapeClosing, ← hmore]
      rfl
    obtain ⟨rest', rfl⟩ := List.head?_eq_some_iff.mp hhead
    exact hc rest' rfl rfl
  | case3 => simp [escapeClosing]

/-- Up to the first tag nothing is changed. -/
theorem escapeClosing_of_not_mem_take {n : Nat} (h : '<' ∉ cs.take n) :
    escapeClosing cs = cs.take n ++ escapeClosing (cs.drop n) := by
  induction n generalizing cs with
  | zero => rfl
  | succ n ih =>
    cases cs with
    | nil => rfl
    | cons c cs =>
      simp only [List.take_succ_cons, List.mem_cons, not_or] at h
      rw [escapeClosing_cons (Ne.symm h.1), ih h.2]
      rfl

/-- A tag that opens among the first characters does so in the escaped text as well. -/
theorem mem_take_escapeClosing {n : Nat} (h : '<' ∈ cs.take n) :
    '<' ∈ (escapeClosing cs).take n := by
  induction n generalizing cs with
  | zero => simp at h
  | succ n ih =>
    cases cs with
    | nil => simp at h
    | cons c cs =>
      by_cases hc : c = '<'
      · obtain ⟨rest, hrest⟩ := exists_escapeClosing_cons c cs
        rw [hrest, hc]
        simp
      · rw [escapeClosing_cons hc, List.take_succ_cons]
        rw [List.take_succ_cons] at h
        exact List.mem_cons_of_mem _ (ih ((List.mem_cons.mp h).resolve_left (Ne.symm hc)))

/-! ## What the escaped text denotes -/

/-- Whether a text does not start with four hexadecimal digits. -/
def NoUnit (cs : List Char) : Prop :=
  ∀ a b c d more, cs = a :: b :: c :: d :: more → unit? a b c d = none

theorem noUnit_of_mem_take (h : '<' ∈ cs.take 4) : NoUnit cs := by
  rintro a b c d more rfl
  have hnone : hexValue? '<' = none := by decide
  simp only [List.take_succ_cons, List.take_zero, List.mem_cons, List.not_mem_nil, or_false] at h
  rcases h with rfl | rfl | rfl | rfl
  all_goals simp [unit?, hnone]

/-- Four digits are not taken apart: either they are there before and after, or neither time. -/
theorem digits_or_noUnit (cs : List Char) :
    (∃ a b c d more, cs = a :: b :: c :: d :: more ∧
      escapeClosing cs = a :: b :: c :: d :: escapeClosing more) ∨
    NoUnit cs ∧ NoUnit (escapeClosing cs) := by
  by_cases h : '<' ∈ cs.take 4
  · exact Or.inr ⟨noUnit_of_mem_take h, noUnit_of_mem_take (mem_take_escapeClosing h)⟩
  · have hsame := escapeClosing_of_not_mem_take h
    match cs, hsame with
    | a :: b :: c :: d :: more, hsame => exact Or.inl ⟨a, b, c, d, more, rfl, hsame⟩
    | [], hsame | [_], hsame | [_, _], hsame | [_, _, _], hsame =>
      have hshort : ∀ {l : List Char}, l.length < 4 → NoUnit l := by
        rintro l hl a b c d more rfl
        simp at hl
        omega
      refine Or.inr ⟨hshort (by simp), ?_⟩
      rw [hsame]
      exact hshort (by simp [escapeClosing])

variable {word : List Char → Option Scalar} {read : List Char}

/-- Of a pair of units the second one may be missing, but it may not be without its digits. -/
theorem tokens?_of_no_low_unit {a b c d : Char} {high : Nat} (hhigh : unit? a b c d = some high)
    (hrange : 0xD800 ≤ high ∧ high < 0xE000) (h : NoUnit rest) :
    tokens? word (.quoted read)
      ('\\' :: 'u' :: a :: b :: c :: d :: '\\' :: 'u' :: rest) = none := by
  rw [tokens?, hhigh, Option.bind_eq_bind, Option.bind_some, if_pos hrange]
  split
  · rename_i heq
    cases heq
    rw [h _ _ _ _ _ rfl]
    rfl
  · rename_i heq
    exact tokens?_of_no_unit h

/-- A unit of a pair without another one behind it stands for no character. -/
theorem tokens?_of_no_low {a b c d : Char} {high : Nat} (hhigh : unit? a b c d = some high)
    (hrange : 0xD800 ≤ high ∧ high < 0xE000) (h : ∀ more, rest ≠ '\\' :: 'u' :: more) :
    tokens? word (.quoted read) ('\\' :: 'u' :: a :: b :: c :: d :: rest) =
      tokens? word (.quoted ('\uFFFD' :: read)) rest := by
  rw [tokens?, hhigh, Option.bind_eq_bind, Option.bind_some, if_pos hrange]
  split
  · exact absurd rfl (h _)
  · rfl

/-- Whether escaping closing tags changes nothing in what texts below a length denote. -/
def KeepsBelow (word : List Char → Option Scalar) (n : Nat) : Prop :=
  ∀ (mode : Mode) (cs : List Char), cs.length < n →
    tokens? word mode (escapeClosing cs) = tokens? word mode cs

namespace KeepsBelow

variable {n : Nat} (h : KeepsBelow word n)

include h

/-- Between texts a character is read the same. -/
theorem bare (hn : rest.length < n) (c : Char) :
    tokens? word (.bare read) (escapeClosing (c :: rest)) =
      tokens? word (.bare read) (c :: rest) := by
  by_cases hc : c = '<'
  · -- outside of quotes nothing can be read where a tag opens
    subst hc
    obtain ⟨more, hmore⟩ := exists_escapeClosing_cons '<' rest
    rw [hmore]
    rfl
  · rw [escapeClosing_cons hc]
    simp only [tokens?_bare, head?_escapeClosing, fun mode => h mode rest hn]

/-- Behind a unit of a pair a second unit is read if it is there, with its digits or without. -/
theorem pair (hn : rest.length < n) {a b c d : Char} {high : Nat}
    (hhigh : unit? a b c d = some high) (hrange : 0xD800 ≤ high ∧ high < 0xE000) :
    tokens? word (.quoted read) ('\\' :: 'u' :: a :: b :: c :: d :: escapeClosing rest) =
      tokens? word (.quoted read) ('\\' :: 'u' :: a :: b :: c :: d :: rest) := by
  by_cases hlow : ∃ more, rest = '\\' :: 'u' :: more
  · obtain ⟨more, rfl⟩ := hlow
    rw [escapeClosing_cons (by decide), escapeClosing_cons (by decide)]
    rcases digits_or_noUnit more with ⟨e, f, g, i, more, rfl, hmore⟩ | ⟨hmore, hmore'⟩
    · have hless : more.length < n := by
        simp only [List.length_cons] at hn
        omega
      rw [hmore, tokens?, tokens?, hhigh]
      simp only [Option.bind_eq_bind, Option.bind_some, if_pos hrange,
        fun mode => h mode more hless]
    · rw [tokens?_of_no_low_unit hhigh hrange hmore, tokens?_of_no_low_unit hhigh hrange hmore']
  · have hlow' : ∀ more, escapeClosing rest ≠ '\\' :: 'u' :: more := fun more heq =>
      hlow (exists_of_escapeClosing_eq heq)
    rw [tokens?_of_no_low hhigh hrange hlow',
      tokens?_of_no_low hhigh hrange fun more heq => hlow ⟨more, heq⟩, h _ _ hn]

/-- In a text the escape of a code unit is read the same. -/
theorem unit (hn : rest.length < n) :
    tokens? word (.quoted read) (escapeClosing ('\\' :: 'u' :: rest)) =
      tokens? word (.quoted read) ('\\' :: 'u' :: rest) := by
  rw [escapeClosing_cons (by decide), escapeClosing_cons (by decide)]
  rcases digits_or_noUnit rest with ⟨a, b, c, d, more, rfl, hmore⟩ | ⟨hnone, hnone'⟩
  · have hless : more.length < n := by
      simp only [List.length_cons] at hn
      omega
    rw [hmore]
    cases hhigh : unit? a b c d with
    | none =>
      rw [tokens?, tokens?, hhigh]
      rfl
    | some high =>
      by_cases hrange : 0xD800 ≤ high ∧ high < 0xE000
      · exact h.pair hless hhigh hrange
      · rw [tokens?_unit hhigh hrange, tokens?_unit hhigh hrange, h _ _ hless]
  · rw [tokens?_of_no_unit hnone, tokens?_of_no_unit hnone']

/-- In a text any other escape is read the same. -/
theorem escape (hn : rest.length < n) (hu : c ≠ 'u') :
    tokens? word (.quoted read) (escapeClosing ('\\' :: c :: rest)) =
      tokens? word (.quoted read) ('\\' :: c :: rest) := by
  rw [escapeClosing_cons (by decide)]
  by_cases hc : c = '<'
  · subst hc
    obtain ⟨more, hmore⟩ := exists_escapeClosing_cons '<' rest
    rw [hmore, tokens?_escape hu, tokens?_escape hu]
    rfl
  · rw [escapeClosing_cons hc, tokens?_escape hu, tokens?_escape hu]
    simp only [fun mode => h mode rest hn]

/-- In a text a plain character is read the same. -/
theorem plain (hn : rest.length < n) (hquote : c ≠ '"') (hslash : c ≠ '\\') :
    tokens? word (.quoted read) (escapeClosing (c :: rest)) =
      tokens? word (.quoted read) (c :: rest) := by
  by_cases hopen : c = '<' ∧ rest.head? = some '/'
  · -- the slash is read from its escape sequence
    obtain ⟨rfl, hhead⟩ := hopen
    obtain ⟨rest, rfl⟩ := List.head?_eq_some_iff.mp hhead
    have hrest := h (.quoted ('<' :: read)) ('/' :: rest) hn
    rw [escapeClosing_cons (by decide), tokens?_plain (by decide) (by decide),
      if_neg (by decide)] at hrest
    rw [escapeClosing, tokens?_plain (by decide) (by decide), if_neg (by decide),
      tokens?_escape (by decide), tokens?_plain (by decide) (by decide), if_neg (by decide),
      ← hrest]
    rfl
  · have hcons : escapeClosing (c :: rest) = c :: escapeClosing rest := by
      by_cases hc : c = '<'
      · subst hc
        exact escapeClosing_open fun hhead => hopen ⟨rfl, hhead⟩
      · exact escapeClosing_cons hc
    rw [hcons, tokens?_plain hquote hslash, tokens?_plain hquote hslash, h _ _ hn]

/-- A text in quotes is read one character or one escape sequence at a time. -/
theorem quoted (hn : rest.length < n) (c : Char) :
    tokens? word (.quoted read) (escapeClosing (c :: rest)) =
      tokens? word (.quoted read) (c :: rest) := by
  by_cases hquote : c = '"'
  · subst hquote
    rw [escapeClosing_cons (by decide), tokens?_closed, tokens?_closed, h _ _ hn]
  · by_cases hslash : c = '\\'
    · subst hslash
      cases rest with
      | nil => rfl
      | cons d rest =>
        have hless : rest.length < n := Nat.lt_of_succ_lt hn
        by_cases hu : d = 'u'
        · subst hu
          exact h.unit hless
        · exact h.escape hless hu
    · exact h.plain hn hquote hslash

end KeepsBelow

/-- **Escaping closing tags changes nothing in what a text denotes.** -/
theorem tokens?_escapeClosing (mode : Mode) (cs : List Char) :
    tokens? word mode (escapeClosing cs) = tokens? word mode cs := by
  have hall : ∀ n, KeepsBelow word n := by
    intro n
    induction n with
    | zero =>
      intro _ cs hcs
      exact absurd hcs (Nat.not_lt_zero _)
    | succ n ih =>
      intro mode cs hcs
      cases cs with
      | nil => rfl
      | cons c rest =>
        cases mode with
        | bare read => exact ih.bare (Nat.lt_of_succ_lt_succ hcs) c
        | quoted read => exact ih.quoted (Nat.lt_of_succ_lt_succ hcs) c
  exact hall _ mode cs (Nat.lt_succ_self _)

end StructuredData.Document
