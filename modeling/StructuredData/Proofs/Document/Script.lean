import StructuredData.Proofs.Json.ClosingTag
import StructuredData.Proofs.Json.Occurrence

/-!
# Documents in script elements

What is printed of a document is read back as the document, and the only closing tag of its script
element is the last one (`Document.read_json`).  Of the marks with which the text of a script
element can change how it is read, closing tags are escaped and comments are not: one opens in the
element exactly if it does in a text that the document holds (`Document.script_marks`).
-/

namespace StructuredData

/-- What JSON can hold can be written. -/
theorem Json.IsJson.checkWritable {v : Value} (h : Json.IsJson v) : v.checkWritable = .ok () := by
  induction h with
  | null | bool | text => rfl
  | int hlength => exact if_pos hlength
  | list _ ih => exact Value.checkWritable_list_iff.mpr ih
  | object hkeys _ _ ih =>
    refine Value.checkWritable_object_iff.mpr fun e he => ⟨?_, ih e he⟩
    obtain ⟨s, hs⟩ := hkeys e he
    rw [hs]
    rfl

namespace Document

variable {p cs : List Char} {debug : Bool} {v : Value} {text markup : String}

/-! ## Occurrences in an escaped text -/

theorem prefix_escapeClosing (cs : List Char) (hp : ∀ c ∈ p, Json.IsPlain c) :
    p <+: escapeClosing cs ↔ p <+: cs := by
  induction cs using escapeClosing.induct generalizing p with
  | case1 rest ih =>
    rw [escapeClosing]
    rcases p with _ | ⟨c, _ | ⟨d, p⟩⟩
    · simp
    · simp [List.cons_prefix_cons]
    · have hd : Json.IsPlain d := hp d (by simp)
      simp [List.cons_prefix_cons, hd.2.2.2.1, hd.2.2.2.2]
  | case2 c rest hc ih =>
    have hcons : escapeClosing (c :: rest) = c :: escapeClosing rest := by
      rw [escapeClosing]
      exact hc
    rw [hcons]
    cases p with
    | nil => simp
    | cons d p =>
      rw [List.cons_prefix_cons, List.cons_prefix_cons, ih fun e he => hp e (by simp [he])]
  | case3 => rfl

/-- What starts with an angle bracket and is written as it is stays where it is. -/
theorem infix_escapeClosing (hp : ∀ c ∈ '<' :: p, Json.IsPlain c) :
    '<' :: p <:+: escapeClosing cs ↔ '<' :: p <:+: cs := by
  induction cs using escapeClosing.induct with
  | case1 rest ih =>
    have hleads := prefix_escapeClosing ('<' :: '/' :: rest) hp
    rw [escapeClosing] at hleads ⊢
    rw [List.infix_cons_iff, hleads, infix_cons_of_ne (by decide), infix_cons_of_ne (by decide),
      ih, List.infix_cons_iff, infix_cons_of_ne (by decide)]
  | case2 c rest hc ih =>
    have hcons : escapeClosing (c :: rest) = c :: escapeClosing rest := by
      rw [escapeClosing]
      exact hc
    have hleads := prefix_escapeClosing (c :: rest) hp
    rw [hcons] at hleads ⊢
    rw [List.infix_cons_iff, hleads, ih, List.infix_cons_iff]
  | case3 => rfl

/-! ## The text of a document -/

theorem json_eq_ok (debug : Bool) (hv : v.checkWritable = .ok ()) (hgiven : v.truthy = true) :
    json debug v =
      .ok (some (String.ofList (escapeClosing (Json.valueChars (layout debug) 0 v)))) := by
  rw [json, if_pos hgiven, hv]
  rfl

/-- What is printed of a document is its text with each closing tag escaped. -/
theorem json_eq_some (h : json debug v = .ok (some text)) :
    v.checkWritable = .ok () ∧
      text.toList = escapeClosing (Json.valueChars (layout debug) 0 v) := by
  unfold json at h
  split at h
  · obtain ⟨_, hv, h⟩ := exists_of_bind_eq_ok h
    cases h
    exact ⟨hv, String.toList_ofList⟩
  · cases h

theorem script_eq_some (h : script debug v = .ok (some markup)) :
    ∃ text, json debug v = .ok (some text) ∧ markup = openTag ++ text ++ "</script>" := by
  obtain ⟨text?, htext, h⟩ := exists_of_bind_eq_ok h
  cases text? with
  | none => cases h
  | some text =>
    cases h
    exact ⟨text, htext, rfl⟩

/-! ## Closing tags -/

theorem not_infix_of_json (h : json debug v = .ok (some text)) : ¬ ['<', '/'] <:+: text.toList := by
  rw [(json_eq_some h).2]
  exact not_infix_escapeClosing _

/-- A closing tag behind what has none, with no further tag behind it, is the only one. -/
theorem eq_append_tag_iff {rest before after : List Char} (hcs : ¬ ['<', '/'] <:+: cs)
    (hrest : '<' ∉ rest) :
    cs ++ '<' :: '/' :: rest = before ++ '<' :: '/' :: after ↔ before = cs ∧ after = rest := by
  constructor
  · intro h
    rcases List.append_eq_append_iff.mp h with ⟨more, hbefore, hmore⟩ | ⟨more, hbefore, hmore⟩
    · match more with
      | [] => exact ⟨by rw [hbefore, List.append_nil], by simpa using hmore.symm⟩
      | c :: more =>
        have htail : '/' :: rest = more ++ '<' :: '/' :: after := (List.cons.inj hmore).2
        have hmem : '<' ∈ '/' :: rest := by simp [htail]
        exact absurd ((List.mem_cons.mp hmem).resolve_left (by decide)) hrest
    · match more with
      | [] => exact ⟨by rw [hbefore, List.append_nil], by simpa using hmore⟩
      | [_] => simp at hmore
      | c :: d :: more =>
        simp only [List.cons_append, List.cons.injEq] at hmore
        obtain ⟨rfl, rfl, -⟩ := hmore
        exact absurd ⟨before, more, by rw [hbefore]; simp⟩ hcs
  · rintro ⟨rfl, rfl⟩
    rfl

/-- Nothing in front of the last tag of a script element closes it. -/
theorem not_infix_openTag_append (h : ¬ ['<', '/'] <:+: cs) :
    ¬ ['<', '/'] <:+: openTag.toList ++ cs := by
  have hlast : openTag.toList = openTag.toList.dropLast ++ ['>'] := by decide
  have hopen : openTag.toList ++ cs = openTag.toList.dropLast ++ '>' :: cs :=
    calc openTag.toList ++ cs
        = (openTag.toList.dropLast ++ ['>']) ++ cs := congrArg (· ++ cs) hlast
      _ = openTag.toList.dropLast ++ '>' :: cs := List.append_assoc _ _ _
  rw [hopen, infix_append_cons (by decide), not_or]
  exact ⟨by decide, h⟩

/-- **Printing loses nothing and never closes the script element.** -/
theorem read_json (debug : Bool) {v : Value} (hv : Json.IsJson v) (hgiven : v.truthy = true) :
    ∃ text markup, json debug v = .ok (some text) ∧ script debug v = .ok (some markup) ∧
      Json.read text = some v ∧
      ¬ ['<', '/'] <:+: text.toList ∧
      markup = openTag ++ text ++ "</script>" ∧
      ∀ before after, markup.toList = before ++ '<' :: '/' :: after ↔
        before = (openTag ++ text).toList ∧ after = "script>".toList := by
  have hjson := json_eq_ok debug hv.checkWritable hgiven
  refine ⟨_, _, hjson, by rw [script, hjson]; rfl, ?_, not_infix_of_json hjson, rfl, ?_⟩
  · rw [Json.read, Json.readWith, String.toList_ofList, tokens?_escapeClosing]
    exact Json.readWith_valueChars (layout debug) hv
  · intro before after
    rw [String.toList_append]
    refine eq_append_tag_iff ?_ (by decide)
    rw [String.toList_append]
    exact not_infix_openTag_append (not_infix_of_json hjson)

/-- A document with a closing tag behind a backslash, with a control character, an empty object and
a number. -/
theorem read_json_of_closing_tag :
    let doc : Value := .object [
      (.text "a</b", .list [.text "\\</script>\n", .int (-12), .object []]), (.text "c", .null)]
    Json.IsJson doc ∧ doc.truthy = true ∧
    ∃ text markup, json true doc = .ok (some text) ∧ script true doc = .ok (some markup) ∧
      Json.read text = some doc ∧
      ¬ ['<', '/'] <:+: text.toList ∧
      markup = openTag ++ text ++ "</script>" ∧
      ∀ before after, markup.toList = before ++ '<' :: '/' :: after ↔
        before = (openTag ++ text).toList ∧ after = "script>".toList := by
  intro doc
  have hitems : Json.IsJson (.list [.text "\\</script>\n", .int (-12), .object []]) := by
    refine .list (List.forall_mem_cons.mpr
      ⟨.text _, List.forall_mem_cons.mpr ⟨.int (by decide), ?_⟩⟩)
    have hobject : Json.IsJson (.object []) := .object (by simp) List.nodup_nil (by simp)
    simpa using hobject
  have hdoc : Json.IsJson doc :=
    .object (by simp) (by simp [Assoc.keys]) (by simpa using ⟨hitems, Json.IsJson.null⟩)
  exact ⟨hdoc, rfl, read_json true hdoc rfl⟩

/-! ## Comments -/

/-- **The script element of a document is closed by nothing in it, and a comment opens in it exactly
if one does in a text that the document holds.** -/
theorem script_marks (h : script debug v = .ok (some markup)) :
    ∃ text, json debug v = .ok (some text) ∧ markup = openTag ++ text ++ "</script>" ∧
      ¬ ['<', '/'] <:+: text.toList ∧
      (['<', '!', '-', '-'] <:+: text.toList ↔
        ∃ s, v.Holds s ∧ ['<', '!', '-', '-'] <:+: s.toList) := by
  obtain ⟨text, hjson, hmarkup⟩ := script_eq_some h
  obtain ⟨hv, htext⟩ := json_eq_some hjson
  refine ⟨text, hjson, hmarkup, not_infix_of_json hjson, ?_⟩
  have hp : ∀ c ∈ ['<', '!', '-', '-'], Json.IsPlain c := by simp [Json.IsPlain]
  have hshows := Json.showsIn hp (layout debug) hv 0 []
  rw [List.append_nil] at hshows
  rw [htext, infix_escapeClosing hp, hshows]
  simp

/-- A comment opens in the script element of a document that holds one, as the key of an object in a
list. -/
theorem script_marks_of_key :
    let doc : Value := .object [(.text "</b>", .list [.object [(.text "a<!--", .int 5)]])]
    let markup := openTag ++ "\x7b\"<\\/b>\":[\x7b\"a<!--\":5\x7d]\x7d" ++ "</script>"
    script false doc = .ok (some markup) ∧
    ∃ text, json false doc = .ok (some text) ∧ markup = openTag ++ text ++ "</script>" ∧
      ¬ ['<', '/'] <:+: text.toList ∧
      (['<', '!', '-', '-'] <:+: text.toList ↔
        ∃ s, doc.Holds s ∧ ['<', '!', '-', '-'] <:+: s.toList) := by
  intro doc markup
  have h : script false doc = .ok (some markup) := by cbv
  exact ⟨h, script_marks h⟩

/-- A document can open a comment, and a script in it, in its own element. -/
theorem opens_comment_of_document :
    ¬ ∀ (debug : Bool) (v : Value) (text : String),
      script debug v = .ok (some (openTag ++ text ++ "</script>")) →
        ¬ ['<', '/'] <:+: text.toList ∧ ¬ ['<', '!', '-', '-'] <:+: text.toList := by
  intro h
  refine (h false (.object [(.text "name", .text "<!--<script ")])
    "\x7b\"name\":\"<!--<script \"\x7d" (by cbv)).2 ?_
  decide

end Document

end StructuredData
