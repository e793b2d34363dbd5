import StructuredData.Proofs.Assoc
import StructuredData.Proofs.Rule.PostType
import StructuredData.Proofs.Text.Digit

/-!
# The grammar of specifics

A specific names its kind and an id, and one for a post with a term may name a taxonomy, in which
dashes are dashes: what has been cut at them is joined again.  So each written specific matches on
the pages that show what has been written (`Specific.applies_written`).
-/

namespace StructuredData

/-! ## Cutting and joining -/

/-- What is cut is put together again by the separator. -/
theorem Text.intercalate_cutFrom (sep : Char) (part cs : List Char) :
    [sep].intercalate (cutFrom sep part cs) = part.reverse ++ cs := by
  induction cs generalizing part with
  | nil => rw [cutFrom, List.intercalate_singleton, List.append_nil]
  | cons c rest ih =>
    have hne : cutFrom sep [] rest ≠ [] := by
      intro hnil
      have hlength := length_cutFrom sep [] rest
      rw [hnil] at hlength
      cases hlength
    rw [cutFrom]
    split
    · rename_i hc
      rw [List.intercalate_cons_of_ne_nil hne, ih, hc]
      simp
    · rw [ih, List.reverse_cons, List.append_assoc, List.singleton_append]

/-- The pieces of a text joined again are the text, whatever separators it has. -/
theorem Text.intercalate_cut (sep : Char) (s : String) :
    (String.singleton sep).intercalate (cut sep s) = s := by
  have hpieces : (cut sep s).map String.toList = cutFrom sep [] s.toList := by
    simp [cut, Function.comp_def]
  rw [← String.toList_inj, String.toList_intercalate, hpieces, String.toList_singleton,
    intercalate_cutFrom, List.reverse_nil, List.nil_append]

/-! ## Looking for an id -/

/-- A whole number is one without a fraction. -/
theorem Meaning.whole?_eq_some_iff {m : Meaning} {n : Int} :
    m.whole? = some n ↔ m = .number n 0 := by
  cases m with
  | number p k => cases k <;> simp [whole?]
  | _ => simp [whole?]

namespace Value

/-- Whether a value is a list with a number among its items. -/
def Lists (v : Value) (n : Int) : Prop := ∃ items, v = .list items ∧ ∃ w ∈ items, w.asInt? = some n

/-- What is equal to a whole number denotes it. -/
theorem equals_int_iff {n : Int} {w : Value} : (int n).equals w = true ↔ w.asInt? = some n := by
  have hnumber : (int n).isNoNumber = false := rfl
  rw [equals, hnumber, Bool.not_false, Bool.true_and, same.eq_def]
  cases w with
  | scalar a =>
    rw [asInt?, Meaning.whole?_eq_some_iff]
    exact (Scalar.beq_iff _ _).trans eq_comm
  | list items => simp [asInt?]
  | object fields => simp [asInt?]

/-- Looking a number up in a list decides whether it is listed. -/
theorem decides_holds {v : Value} (h : ∃ items, v = .list items) (n : Int) :
    Decides (v.holds (.int n)) (v.Lists n) := by
  obtain ⟨items, rfl⟩ := h
  refine ⟨_, rfl, ?_⟩
  rw [memberOf, List.any_eq_true]
  simp only [equals_int_iff, Lists, list.injEq, exists_eq_left']

end Value

/-- Looking through a list comes to an answer if each check does. -/
theorem decides_anyM {α : Type} {f : α → Except Fault Bool} {P : α → Prop} {l : List α}
    (h : ∀ a ∈ l, Decides (f a) (P a)) : Decides (l.anyM f) (∃ a ∈ l, P a) := by
  induction l with
  | nil => exact ⟨false, rfl, by simp⟩
  | cons a rest ih =>
    obtain ⟨b, hb, hiff⟩ := h a (by simp)
    obtain ⟨c, hc, hrest⟩ := ih fun a' ha' => h a' (by simp [ha'])
    rw [List.anyM, hb]
    cases b with
    | true => exact ⟨true, rfl, by simp [hiff.mp rfl]⟩
    | false =>
      refine ⟨c, hc, ?_⟩
      rw [hrest, List.exists_mem_cons_iff, ← hiff]
      simp

namespace PageContext

variable {ctx : PageContext}

/-- Whether the terms of the post shown are listed under their taxonomies. -/
def ListsTerms (ctx : PageContext) : Prop := ∀ e ∈ ctx.postTerms, ∃ ids, e.2 = .list ids

/-- Asking for a term of a taxonomy decides whether it is listed there. -/
theorem decides_hasTerm_text (h : ctx.ListsTerms) (n : Int) (taxonomy : String) :
    Decides (ctx.hasTerm (.int n) (.text taxonomy))
      (∃ ids, Fields.get? ctx.postTerms taxonomy = some ids ∧ ids.Lists n) := by
  have hkey : Value.lookupKey ctx.postTerms (.text taxonomy) =
      .ok (Fields.get? ctx.postTerms taxonomy) := rfl
  have hin : ctx.hasTerm (.int n) (.text taxonomy) =
      ctx.hasTermIn (.int n) (.text taxonomy) := rfl
  rw [hin, hasTermIn, hkey]
  cases hids : Fields.get? ctx.postTerms taxonomy with
  | none => exact ⟨false, rfl, by simp⟩
  | some ids =>
    obtain ⟨k, -, hmem⟩ := Assoc.exists_mem_of_lookup hids
    obtain ⟨b, hb, hiff⟩ := Value.decides_holds (h _ hmem) n
    exact ⟨b, hb, by simpa using hiff⟩

/-- Asking for a term of any taxonomy decides whether it is listed under one. -/
theorem decides_hasTerm_null (h : ctx.ListsTerms) (n : Int) :
    Decides (ctx.hasTerm (.int n) .null) (∃ e ∈ ctx.postTerms, e.2.Lists n) :=
  decides_anyM fun e he => Value.decides_holds (h e he) n

end PageContext

namespace Specific

/-! ## What written specifics name -/

variable {kind : String} {n : Nat}

/-- A specific is read off the text behind its kind, without the blanks at its end. -/
theorem ofToken_append (hdash : '-' ∉ kind.toList) (hstrip : Text.strip kind = kind)
    (behind : String) :
    ofToken (kind ++ "-" ++ behind) = ofParts (kind :: Text.cut '-' (Text.stripEnd behind)) := by
  show ofParts (Text.cut '-' (Text.strip (kind ++ String.singleton '-' ++ behind))) = _
  rw [Text.strip_append_singleton (by decide) hstrip, Text.cut_append hdash]

theorem not_mem_toString (n : Nat) : '-' ∉ (toString n).toList := fun h =>
  absurd (isDigit_of_mem_toString h) (by decide)

theorem stripEnd_toString (n : Nat) : Text.stripEnd (toString n) = toString n := by
  have hdigits : (toString n).toList.rdropWhile isBlank = (toString n).toList := by
    rw [List.rdropWhile_eq_self_iff]
    intro hne
    have hdigit := isDigit_of_mem_toString (List.getLast_mem hne)
    have hlike : isDigitLike ((toString n).toList.getLast hne) = true :=
      isDigitLike_of_isDecimal (by rw [isDecimal, decimalValue?_of_isDigit hdigit]; rfl)
    rw [Bool.not_eq_true]
    exact (plain_of_isDigitLike hlike).1
  rw [Text.stripEnd, hdigits, String.ofList_toList]

/-- A kind and a number are the parts of the token that they make. -/
theorem ofToken_number (hdash : '-' ∉ kind.toList) (hstrip : Text.strip kind = kind) (n : Nat) :
    ofToken (kind ++ "-" ++ toString n) = ofParts [kind, toString n] := by
  rw [ofToken_append hdash hstrip, stripEnd_toString, Text.cut_of_not_mem (not_mem_toString n)]

theorem ofToken_number_append (hdash : '-' ∉ kind.toList) (hstrip : Text.strip kind = kind)
    (n : Nat) (more : String) :
    ofToken (kind ++ "-" ++ toString n ++ "-" ++ more) =
      ofParts (kind :: toString n :: Text.cut '-' (Text.stripEnd more)) := by
  have hassoc : kind ++ "-" ++ toString n ++ "-" ++ more =
      kind ++ "-" ++ (toString n ++ String.singleton '-' ++ more) := by
    simp only [String.append_assoc]
    rfl
  rw [hassoc, ofToken_append hdash hstrip, Text.stripEnd_append_singleton (by decide),
    Text.cut_append (not_mem_toString n)]

/-- With an id that is not too long the kind says what is named. -/
theorem ofParts_number (h : (toString n).length ≤ digitLimit) (rest : List String) :
    ofParts (kind :: toString n :: rest) =
      if kind = "post" ∨ kind = "page" ∨ kind = "product" then post n
      else if kind = "tax" then ofTermParts n rest
      else nothing := by
  rw [ofParts, readInteger_toString h]

section Written

variable (h : (toString n).length ≤ digitLimit)

include h

/-- A number behind a kind of posts is that of the post. -/
theorem ofToken_post (hkind : kind ∈ ["post", "page", "product"]) :
    ofToken (kind ++ "-" ++ toString n) = post n := by
  have hplain : ∀ kind ∈ ["post", "page", "product"],
      '-' ∉ kind.toList ∧ Text.strip kind = kind := by
    decide
  obtain ⟨hdash, hstrip⟩ := hplain kind hkind
  rw [ofToken_number hdash hstrip, ofParts_number h, if_pos (by simpa using hkind)]

/-- A number behind the mark of terms is that of the term. -/
theorem ofToken_term : ofToken ("tax-" ++ toString n) = term n := by
  have hkind : "tax-" = "tax" ++ "-" := by decide
  rw [hkind, ofToken_number (by decide) (by decide), ofParts_number h]
  rfl

/-- With a mark for single posts it is that of a term that they have. -/
theorem ofToken_single : ofToken ("tax-" ++ toString n ++ "-single") = postWithTerm n none := by
  have hsingle : "tax-" ++ toString n ++ "-single" =
      "tax" ++ "-" ++ toString n ++ "-" ++ "single" := by
    rw [← String.toList_inj]
    simp
  have hcut : Text.cut '-' (Text.stripEnd "single") = ["single"] := by decide
  rw [hsingle, ofToken_number_append (by decide) (by decide), hcut, ofParts_number h]
  rfl

/-- Behind `single` all that follows is the taxonomy, with its dashes. -/
theorem ofToken_single_append {taxonomy : String} (hne : taxonomy ≠ "")
    (hend : Text.stripEnd taxonomy = taxonomy) :
    ofToken ("tax-" ++ toString n ++ "-single-" ++ taxonomy) = postWithTerm n (some taxonomy) := by
  have hsingle : "tax-" ++ toString n ++ "-single-" ++ taxonomy =
      "tax" ++ "-" ++ toString n ++ "-" ++ ("single" ++ String.singleton '-' ++ taxonomy) := by
    rw [← String.toList_inj]
    simp
  have hcut : Text.cut '-' (Text.stripEnd ("single" ++ String.singleton '-' ++ taxonomy)) =
      "single" :: Text.cut '-' taxonomy := by
    rw [Text.stripEnd_append_singleton (by decide), hend, Text.cut_append (by decide)]
  have hjoined : "-".intercalate (Text.cut '-' taxonomy) = taxonomy :=
    Text.intercalate_cut '-' taxonomy
  rw [hsingle, ofToken_number_append (by decide) (by decide), hcut, ofParts_number h,
    if_neg (by decide), if_pos rfl, ofTermParts, hjoined, if_neg hne]

end Written

/-! ## Where they match -/

/-- A post with a term is looked for on pages of single posts only. -/
theorem decides_postWithTerm {ctx : PageContext} {id : Int} {taxonomy : Option String} {p : Prop}
    (h : Decides (ctx.hasTerm (.int id) (.ofText? taxonomy)) p) :
    Decides (holds ctx (postWithTerm id taxonomy)) (ctx.page.kind = .singular ∧ p) := by
  have hsingular : ctx.page.isSingular = true ↔ ctx.page.kind = .singular := by
    simp [Page.isSingular]
  rw [holds, ← hsingular]
  split
  · rename_i hpage
    obtain ⟨b, hb, hiff⟩ := h
    exact ⟨b, hb, by rw [hiff, hpage]; simp⟩
  · rename_i hpage
    exact ⟨false, rfl, by simp [hpage]⟩

/-- **Specifics mean what has been written.**  On a page whose post has its terms in lists, with an
id of at most as many digits as are read, a specific for a term of a taxonomy, whatever dashes its
name has, matches just on the page of a post with the term in this taxonomy, one without a taxonomy
on that of a post with the term in any, one for the term alone on the archive with this id, and one
for a post, page or product on the page of the post with this id. -/
theorem applies_written (ctx : PageContext) (hterms : ctx.ListsTerms) (n : Nat)
    (hn : (toString n).length ≤ digitLimit) :
    (∀ taxonomy : String, taxonomy ≠ "" → Text.stripEnd taxonomy = taxonomy →
      Decides (applies ctx (.text ("tax-" ++ toString n ++ "-single-" ++ taxonomy)))
        (ctx.page.kind = .singular ∧
          ∃ ids, Fields.get? ctx.postTerms taxonomy = some ids ∧ ids.Lists n)) ∧
    Decides (applies ctx (.text ("tax-" ++ toString n ++ "-single")))
      (ctx.page.kind = .singular ∧ ∃ e ∈ ctx.postTerms, e.2.Lists n) ∧
    Decides (applies ctx (.text ("tax-" ++ toString n)))
      (ctx.page.kind = .termArchive ∧ ctx.page.objectId = some (n : Int)) ∧
    ∀ kind ∈ ["post", "page", "product"],
      Decides (applies ctx (.text (kind ++ "-" ++ toString n)))
        (ctx.page.kind = .singular ∧ ctx.page.objectId = some (n : Int)) := by
  refine ⟨fun taxonomy hne hend => ?_, ?_, ?_, fun kind hkind => ?_⟩
  · rw [applies, ofToken_single_append hn hne hend]
    exact decides_postWithTerm (ctx.decides_hasTerm_text hterms n taxonomy)
  · rw [applies, ofToken_single hn]
    exact decides_postWithTerm (ctx.decides_hasTerm_null hterms n)
  · rw [applies, ofToken_term hn]
    exact ⟨_, rfl, by simp⟩
  · rw [applies, ofToken_post hn hkind]
    exact ⟨_, rfl, by simp [Page.isSingular]⟩

/-- A taxonomy with dashes at its ends and two in a row, of which no part is a taxonomy. -/
theorem applies_written_of_genre :
    let ctx : PageContext :=
      { page := { kind := .singular, objectId := some 42 },
        postTerms := [("-book--genre-", .list [.int 7, .int 11])] }
    applies ctx (.text "tax-11-single--book--genre-") = .ok true ∧
      applies ctx (.text "tax-11-single--book") = .ok false ∧
      applies ctx (.text "tax-11-single") = .ok true ∧ applies ctx (.text "tax-11") = .ok false ∧
      applies ctx (.text "product-11") = .ok false ∧ applies ctx (.text "page-42") = .ok true := by
  intro ctx
  have hterms : ctx.ListsTerms := by
    intro e he
    rw [List.mem_singleton.mp he]
    exact ⟨_, rfl⟩
  have hlists : (Value.list [.int 7, .int 11]).Lists 11 := ⟨_, rfl, .int 11, by simp, rfl⟩
  obtain ⟨htaxonomy, hany, hterm, hpost⟩ := applies_written ctx hterms 11 (by decide)
  obtain ⟨-, -, -, hpage⟩ := applies_written ctx hterms 42 (by decide)
  refine ⟨(htaxonomy "-book--genre-" (by decide) (by decide)).eq_true ⟨rfl, _, rfl, hlists⟩,
    (htaxonomy "-book" (by decide) (by decide)).eq_false ?_,
    hany.eq_true ⟨rfl, _, List.mem_singleton.mpr rfl, hlists⟩, hterm.eq_false nofun,
    (hpost "product" (by decide)).eq_false ?_, (hpage "page" (by decide)).eq_true ⟨rfl, rfl⟩⟩
  · rintro ⟨-, ids, hids, -⟩
    cases hids
  · rintro ⟨-, hid⟩
    cases hid

end Specific

end StructuredData
