import Mathlib.Data.List.TakeWhile
import StructuredData.Json.Printer
import StructuredData.Json.Reader

/-!
# Reading the parts of a JSON text

What the reader makes of a text that has been written: of each character of a quoted text, of a
quoted text, of a bare word, and of the blanks between tokens.
-/

namespace StructuredData.Json

variable {word : List Char → Option Scalar} {read rest : List Char}

/-! ## Characters by number -/

theorem hexValue?_hexDigit : ∀ n < 16, hexValue? (hexDigit n) = some n := by
  decide

/-- The four digits of a unit denote it. -/
theorem unit?_hexDigits {n : Nat} (h : n < 0x10000) :
    unit? (hexDigit (n / 4096 % 16)) (hexDigit (n / 256 % 16)) (hexDigit (n / 16 % 16))
      (hexDigit (n % 16)) = some n := by
  have hread : ∀ k, hexValue? (hexDigit (k % 16)) = some (k % 16) := fun k =>
    hexValue?_hexDigit _ (Nat.mod_lt k (by decide))
  simp only [unit?, hread, Option.bind_eq_bind, Option.bind_some, Option.pure_def,
    Option.some.injEq]
  omega

/-! ## Inside a quoted text -/

/-- A quotation mark closes it. -/
theorem tokens?_closed : tokens? word (.quoted read) ('"' :: rest) =
    (tokens? word (.bare []) rest).map (Token.text (String.ofList read.reverse) :: ·) := by
  show (tokens? word (.bare []) rest).bind _ = _
  cases tokens? word (.bare []) rest <;> rfl

/-- Behind a backslash stands one of a few letters and marks, but for units by number. -/
theorem tokens?_escape {c : Char} (h : c ≠ 'u') :
    tokens? word (.quoted read) ('\\' :: c :: rest) =
      (unescaped? c).bind fun d => tokens? word (.quoted (d :: read)) rest := by
  rw [tokens?]
  · rfl
  · intro _ _ _ _ _ hu _
    exact h hu

/-- All other characters stand for themselves, but for control characters. -/
theorem tokens?_plain {c : Char} (hquote : c ≠ '"') (hslash : c ≠ '\\') :
    tokens? word (.quoted read) (c :: rest) =
      if c.toNat < 0x20 then none else tokens? word (.quoted (c :: read)) rest := by
  rw [tokens?]
  · exact hquote
  · intro _ _ _ _ _ h _
    exact hslash h
  · intro _ _ h _
    exact hslash h

/-- Behind a backslash and the letter for it stands the number of a unit. -/
theorem tokens?_number (a b c d : Char) :
    tokens? word (.quoted read) ('\\' :: 'u' :: a :: b :: c :: d :: rest) =
      (unit? a b c d).bind fun high =>
        if 0xD800 ≤ high ∧ high < 0xE000 then
          match rest with
          | '\\' :: 'u' :: e :: f :: g :: h :: rest =>
            (unit? e f g h).bind fun low =>
              if high < 0xDC00 ∧ 0xDC00 ≤ low ∧ low < 0xE000 then
                tokens? word (.quoted (pairChar high low :: read)) rest
              else tokens? word (.quoted ('\uFFFD' :: '\uFFFD' :: read)) rest
          | rest => tokens? word (.quoted ('\uFFFD' :: read)) rest
        else tokens? word (.quoted (Char.ofNat high :: read)) rest := by
  rw [tokens?]
  rfl

/-- A unit outside the range of pairs stands for the character with its number. -/
theorem tokens?_unit {a b c d : Char} {n : Nat} (hn : unit? a b c d = some n)
    (hpair : ¬ (0xD800 ≤ n ∧ n < 0xE000)) :
    tokens? word (.quoted read) ('\\' :: 'u' :: a :: b :: c :: d :: rest) =
      tokens? word (.quoted (Char.ofNat n :: read)) rest := by
  rw [tokens?_number, hn, Option.bind_some, if_neg hpair]

/-- Two units of a pair stand for one character. -/
theorem tokens?_pair {a b c d e f g h : Char} {high low : Nat}
    (hhigh : unit? a b c d = some high) (hlow : unit? e f g h = some low)
    (hhigh' : 0xD800 ≤ high ∧ high < 0xDC00) (hlow' : 0xDC00 ≤ low ∧ low < 0xE000) :
    tokens? word (.quoted read)
      ('\\' :: 'u' :: a :: b :: c :: d :: '\\' :: 'u' :: e :: f :: g :: h :: rest) =
      tokens? word (.quoted (pairChar high low :: read)) rest := by
  rw [tokens?_number, hhigh, Option.bind_some, if_pos (by omega)]
  show ((unit? e f g h).bind _) = _
  rw [hlow, Option.bind_some, if_pos ⟨hhigh'.2, hlow'⟩]

/-- Where four digits are missing behind the letter for a unit, there is no reading. -/
theorem tokens?_of_no_unit (h : ∀ a b c d more, rest = a :: b :: c :: d :: more →
    unit? a b c d = none) : tokens? word (.quoted read) ('\\' :: 'u' :: rest) = none := by
  match rest, h with
  | a :: b :: c :: d :: more, h => rw [tokens?_number, h a b c d more rfl]; rfl
  | [], _ | [_], _ | [_, _], _ | [_, _, _], _ => rfl

/-- A character outside the range of pairs is read back from its number. -/
theorem tokens?_escapedUnit {c : Char} (h : c.toNat < 0x10000) :
    tokens? word (.quoted read) (escapedUnit c.toNat ++ rest) =
      tokens? word (.quoted (c :: read)) rest := by
  have hvalid : c.toNat < 0xD800 ∨ 0xDFFF < c.toNat ∧ c.toNat < 0x110000 := c.valid
  have hread : tokens? word (.quoted read) (escapedUnit c.toNat ++ rest) =
      tokens? word (.quoted (Char.ofNat c.toNat :: read)) rest :=
    tokens?_unit (unit?_hexDigits h) (by omega)
  rwa [Char.ofNat_toNat] at hread

/-- An escaped character is read as itself. -/
theorem tokens?_escapedCode (c : Char) :
    tokens? word (.quoted read) (escapedCode c.toNat ++ rest) =
      tokens? word (.quoted (c :: read)) rest := by
  have hvalid : c.toNat < 0xD800 ∨ 0xDFFF < c.toNat ∧ c.toNat < 0x110000 := c.valid
  unfold escapedCode
  split
  · rename_i h
    exact tokens?_escapedUnit h
  · have hchar : pairChar (0xD800 + (c.toNat - 0x10000) / 1024)
        (0xDC00 + (c.toNat - 0x10000) % 1024) = c := by
      rw [pairChar, show 0x10000 + (0xD800 + (c.toNat - 0x10000) / 1024 - 0xD800) * 1024 +
        (0xDC00 + (c.toNat - 0x10000) % 1024 - 0xDC00) = c.toNat by omega, Char.ofNat_toNat]
    have hread : tokens? word (.quoted read) (escapedUnit (0xD800 + (c.toNat - 0x10000) / 1024) ++
        escapedUnit (0xDC00 + (c.toNat - 0x10000) % 1024) ++ rest) =
        tokens? word (.quoted (pairChar (0xD800 + (c.toNat - 0x10000) / 1024)
          (0xDC00 + (c.toNat - 0x10000) % 1024) :: read)) rest :=
      tokens?_pair (unit?_hexDigits (by omega)) (unit?_hexDigits (by omega)) (by omega) (by omega)
    rwa [hchar] at hread

/-- Each character is read back from what is written for it. -/
theorem tokens?_escapedChar (ascii : Bool) (c : Char) :
    tokens? word (.quoted read) (escapedChar ascii c ++ rest) =
      tokens? word (.quoted (c :: read)) rest := by
  unfold escapedChar
  -- a branch for each form in which a character is written
  repeat' split
  all_goals first
    | (rename_i h; subst h; exact tokens?_escape (by decide))
    | skip
  · exact tokens?_escapedUnit (by omega)
  · exact tokens?_escapedCode c
  · rename_i hcontrol _
    rw [List.singleton_append, tokens?_plain ‹_› ‹_›, if_neg hcontrol]

/-- Escaped characters are read as themselves. -/
theorem tokens?_flatMap_escapedChar (ascii : Bool) (cs : List Char) :
    tokens? word (.quoted read) (cs.flatMap (escapedChar ascii) ++ rest) =
      tokens? word (.quoted (cs.reverse ++ read)) rest := by
  induction cs generalizing read with
  | nil => rfl
  | cons c cs ih =>
    rw [List.flatMap_cons, List.append_assoc, tokens?_escapedChar, ih, List.reverse_cons,
      List.append_assoc, List.singleton_append]

/-! ## Between tokens -/

theorem tokens?_bare (c : Char) :
    tokens? word (.bare read) (c :: rest) =
      if isWordChar c then
        if (rest.head?.map isWordChar).getD false then tokens? word (.bare (c :: read)) rest
        else (word (c :: read).reverse).bind fun a =>
          (tokens? word (.bare []) rest).bind fun more => some (.scalar a :: more)
      else if c = '"' then tokens? word (.quoted []) rest
      else if isGap c then tokens? word (.bare []) rest
      else
        (mark? c).bind fun t => (tokens? word (.bare []) rest).bind fun more => some (t :: more) :=
  rfl

/-- A quotation mark opens a text. -/
theorem tokens?_opened :
    tokens? word (.bare read) ('"' :: rest) = tokens? word (.quoted []) rest := by
  rw [tokens?_bare, if_neg (by decide), if_pos rfl]

/-- A quoted text is one token. -/
theorem tokens?_textChars (ascii : Bool) (s : String) :
    tokens? word (.bare read) (textChars ascii s ++ rest) =
      (tokens? word (.bare []) rest).map (Token.text s :: ·) := by
  have hchars : textChars ascii s ++ rest =
      '"' :: (s.toList.flatMap (escapedChar ascii) ++ '"' :: rest) := by
    simp [textChars]
  rw [hchars, tokens?_opened, tokens?_flatMap_escapedChar, tokens?_closed, List.append_nil,
    List.reverse_reverse, String.ofList_toList]

/-- Brackets and marks are tokens by themselves. -/
theorem tokens?_mark {c : Char} {t : Token} (hc : mark? c = some t) :
    tokens? word (.bare read) (c :: rest) = (tokens? word (.bare []) rest).map (t :: ·) := by
  have hother : isWordChar c = false ∧ c ≠ '"' ∧ isGap c = false := by
    unfold mark? at hc
    split at hc
    case h_7 => cases hc
    all_goals decide
  rw [tokens?_bare, if_neg (by simp [hother.1]), if_neg hother.2.1, if_neg (by simp [hother.2.2]),
    hc]
  cases tokens? word (.bare []) rest <;> rfl

/-- Blanks between tokens are no tokens. -/
theorem tokens?_gap {gap : List Char} (hgap : ∀ c ∈ gap, isGap c = true) :
    tokens? word (.bare []) (gap ++ rest) = tokens? word (.bare []) rest := by
  induction gap with
  | nil => rfl
  | cons c gap ih =>
    have hc := hgap c (by simp)
    have hother : isWordChar c = false ∧ c ≠ '"' := by
      simp only [isGap, Bool.or_eq_true, decide_eq_true_eq] at hc
      rcases hc with ((rfl | rfl) | rfl) | rfl <;> decide
    rw [List.cons_append, tokens?_bare, if_neg (by simp [hother.1]), if_neg hother.2, if_pos hc]
    exact ih fun d hd => hgap d (by simp [hd])

/-- Whether a bare word ends where a text goes on. -/
def EndsWord (rest : List Char) : Prop := (rest.head?.map isWordChar).getD false = false

theorem endsWord_nil : EndsWord [] := rfl

theorem endsWord_cons {c : Char} (h : isWordChar c = false) : EndsWord (c :: rest) := h

/-- A bare word is one token, up to where it ends. -/
theorem tokens?_word (cs : List Char) {a : Scalar} (hne : cs ≠ [])
    (hcs : ∀ c ∈ cs, isWordChar c = true) (hword : word (read.reverse ++ cs) = some a)
    (hrest : EndsWord rest) :
    tokens? word (.bare read) (cs ++ rest) =
      (tokens? word (.bare []) rest).map (Token.scalar a :: ·) := by
  induction cs generalizing read with
  | nil => exact absurd rfl hne
  | cons c cs ih =>
    have hc := hcs c (by simp)
    rw [List.cons_append, tokens?_bare, if_pos hc]
    cases cs with
    | nil =>
      rw [if_neg (by rw [List.nil_append]; exact Bool.eq_false_iff.mp hrest), List.reverse_cons,
        hword, List.nil_append]
      cases tokens? word (.bare []) rest <;> rfl
    | cons d cs =>
      rw [if_pos (by simpa using hcs d (by simp))]
      exact ih (by simp) (fun e he => hcs e (by simp [he])) (by simpa using hword)

/-! ## Bare words -/

/-- The digits of a whole number denote it. -/
theorem digits?_toDigits (n : Nat) : digits? (Nat.toDigits 10 n) = some n := by
  have hdigits : (Nat.toDigits 10 n).all Char.isDigit = true :=
    List.all_eq_true.mpr fun c hc => Nat.isDigit_of_mem_toDigits (by decide) (by decide) hc
  have hne : (Nat.toDigits 10 n).isEmpty = false := by
    rw [List.isEmpty_eq_false_iff]
    exact Nat.toDigits_ne_nil
  unfold digits?
  rw [hdigits, hne]
  exact congrArg some (Nat.ofDigitChars_toDigits (by decide) (by decide))

/-- The first digit of a number that is not zero is no zero. -/
theorem exists_toDigits_eq_cons {n : Nat} (hn : 0 < n) :
    ∃ c cs, Nat.toDigits 10 n = c :: cs ∧ c ≠ '0' := by
  induction n using Nat.strongRecOn with
  | ind n ih =>
    rw [Nat.toDigits_eq_if (by decide)]
    split
    · have hdigit : ∀ k < 10, 0 < k → k.digitChar ≠ '0' := by decide
      exact ⟨_, [], rfl, hdigit n ‹_› hn⟩
    · obtain ⟨c, cs, hcs, hc⟩ := ih (n / 10) (by omega) (by omega)
      exact ⟨c, cs ++ [(n % 10).digitChar], by rw [hcs]; rfl, hc⟩

theorem isLead_toDigits (n : Nat) : isLead (Nat.toDigits 10 n) = true := by
  rcases Nat.eq_zero_or_pos n with rfl | hn
  · decide
  · obtain ⟨c, cs, hcs, hc⟩ := exists_toDigits_eq_cons hn
    simp [hcs, isLead, hc]

/-- A whole number is read back from its digits, if they are not too many. -/
theorem unsigned?_toDigits (negative : Bool) {n : Nat}
    (hlength : (Nat.toDigits 10 n).length ≤ digitLimit) :
    unsigned? negative (Nat.toDigits 10 n) = some (.int (if negative then -(n : Int) else n)) := by
  have hdigits : ∀ c ∈ Nat.toDigits 10 n, c.isDigit = true := fun c hc =>
    Nat.isDigit_of_mem_toDigits (by decide) (by decide) hc
  have hnumber : ∀ c ∈ Nat.toDigits 10 n, c ≠ 'e' ∧ c ≠ 'E' ∧ c ≠ '.' := by
    intro c hc
    refine ⟨?_, ?_, ?_⟩ <;> rintro rfl <;> exact absurd (hdigits _ hc) (by decide)
  have hbody : (Nat.toDigits 10 n).takeWhile (fun c => !(decide (c = 'e') || decide (c = 'E'))) =
      Nat.toDigits 10 n := by
    rw [List.takeWhile_eq_self_iff]
    intro c hc
    simp [hnumber c hc]
  have hwhole : (Nat.toDigits 10 n).takeWhile (fun c => decide (c ≠ '.')) = Nat.toDigits 10 n := by
    rw [List.takeWhile_eq_self_iff]
    intro c hc
    simp [hnumber c hc]
  unfold unsigned?
  dsimp only
  rw [hbody, hwhole, isLead_toDigits, if_neg (by simp), if_pos (List.all_eq_true.mpr hdigits),
    if_pos hlength, digits?_toDigits]
  rfl

/-- A word with a digit is no name. -/
theorem lookup_named_of_digit {cs : List Char} {c : Char} (hc : c ∈ cs)
    (hdigit : c.isDigit = true) :
    named.lookup (String.ofList cs) = none := by
  have hnames : (named.all fun e => e.1.toList.all fun d => !d.isDigit) = true := by decide
  rw [List.lookup_eq_none_iff]
  intro e he
  have hne : String.ofList cs ≠ e.1 := by
    intro heq
    have hmem : c ∈ e.1.toList := by rwa [← heq, String.toList_ofList]
    have hfalse := List.all_eq_true.mp (List.all_eq_true.mp hnames e he) c hmem
    rw [hdigit] at hfalse
    cases hfalse
  simpa using hne

/-- The text of a whole number: its digits, behind a sign if it is negative. -/
theorem toList_toString_int (n : Int) :
    (toString n).toList = (if n < 0 then ['-'] else []) ++ Nat.toDigits 10 n.natAbs := by
  cases n with
  | ofNat m => exact String.toList_ofList
  | negSucc m =>
    rw [if_pos (Int.negSucc_lt_zero m)]
    show ("-" ++ String.ofList (Nat.toDigits 10 (m + 1))).toList = _
    rw [String.toList_append]
    exact congrArg _ String.toList_ofList

theorem isWordChar_of_mem_toDigits {n : Nat} {c : Char} (hc : c ∈ Nat.toDigits 10 n) :
    isWordChar c = true := by
  have hdigit := Nat.isDigit_of_mem_toDigits (by decide) (by decide) hc
  simp [isWordChar, Char.isAlphanum, hdigit]

/-- The text of a whole number is a bare word. -/
theorem isWordChar_of_mem_int {n : Int} {c : Char} (hc : c ∈ (toString n).toList) :
    isWordChar c = true := by
  rw [toList_toString_int] at hc
  rcases List.mem_append.mp hc with hc | hc
  · split at hc
    · rw [List.mem_singleton.mp hc]
      decide
    · cases hc
  · exact isWordChar_of_mem_toDigits hc

/-- A whole number is read back from its text. -/
theorem word?_int {n : Int} (hlength : (Nat.toDigits 10 n.natAbs).length ≤ digitLimit) :
    word? (toString n).toList = some (.int n) := by
  have hdigit : ∀ {c}, c ∈ Nat.toDigits 10 n.natAbs → c.isDigit = true := fun hc =>
    Nat.isDigit_of_mem_toDigits (by decide) (by decide) hc
  have hhead := List.head_mem (Nat.toDigits_ne_nil (n := n.natAbs) (b := 10))
  rw [toList_toString_int]
  unfold word?
  rw [lookup_named_of_digit (List.mem_append_right _ hhead) (hdigit hhead)]
  by_cases hn : n < 0
  · rw [if_pos hn, List.singleton_append]
    show unsigned? true _ = _
    rw [unsigned?_toDigits true hlength, if_pos rfl, show -(n.natAbs : Int) = n by omega]
  · rw [if_neg hn, List.nil_append]
    have hsign : '-' ∉ Nat.toDigits 10 n.natAbs := fun h => absurd (hdigit h) (by decide)
    split
    · cases ‹none = some _›
    · rename_i cs _ hcs
      rw [hcs] at hsign
      exact absurd (by simp) hsign
    · rw [unsigned?_toDigits false hlength, if_neg (by decide), show (n.natAbs : Int) = n by omega]

end StructuredData.Json
