import StructuredData.Proofs.Assoc
import StructuredData.Proofs.Json.Tokens

/-!
# Reading back what has been written

A value whose keys are distinct texts and whose numbers are whole is read back from its JSON text,
whatever the layout (`Json.readWith_valueChars`).  The text is first cut into the tokens of the
value, which do not depend on the layout, and these are then put together again.
-/

namespace StructuredData.Json

/-- Whether a value is one that JSON can hold as it is: its keys are distinct texts, and its numbers
are whole and have no more digits than a number may be written with. -/
inductive IsJson : Value → Prop
  | null : IsJson .null
  | bool (b : Bool) : IsJson (.bool b)
  | int {n : Int} (hlength : (Nat.toDigits 10 n.natAbs).length ≤ digitLimit) : IsJson (.int n)
  | text (s : String) : IsJson (.text s)
  | list {items : List Value} (hitems : ∀ v ∈ items, IsJson v) : IsJson (.list items)
  | object {fields : Fields} (hkeys : ∀ e ∈ fields, ∃ s, e.1 = .text s)
      (hdistinct : (Assoc.keys fields).Nodup) (hvalues : ∀ e ∈ fields, IsJson e.2) :
      IsJson (.object fields)

/-! ## The tokens of a value -/

/-- The token that a scalar is. -/
def scalarToken : Scalar → Token
  | .text s => .text s
  | a => .scalar a

mutual

/-- The tokens of a value. -/
def valueTokens : Value → List Token
  | .list [] => [.openList, .closeList]
  | .list (v :: rest) => .openList :: (valueTokens v ++ itemTokens rest ++ [.closeList])
  | .object [] => [.openObject, .closeObject]
  | .object ((k, v) :: rest) =>
    .openObject :: scalarToken k :: .colon ::
      (valueTokens v ++ fieldTokens rest ++ [.closeObject])
  | .scalar a => [scalarToken a]

/-- The tokens of the items of a list after its first one. -/
def itemTokens : List Value → List Token
  | [] => []
  | v :: rest => .comma :: (valueTokens v ++ itemTokens rest)

/-- The tokens of the entries of an object after its first one. -/
def fieldTokens : List (Scalar × Value) → List Token
  | [] => []
  | (k, v) :: rest =>
    .comma :: scalarToken k :: .colon :: (valueTokens v ++ fieldTokens rest)

end

variable {layout : Layout} {level : Nat} {v : Value} {rest : List Char}

/-- A line break is a gap. -/
theorem isGap_of_mem_lineBreak {c : Char} (h : c ∈ lineBreak layout level) : isGap c = true := by
  unfold lineBreak at h
  split at h
  · rcases List.mem_cons.mp h with rfl | h
    · rfl
    · rw [List.eq_of_mem_replicate h]
      rfl
  · cases h

/-- A bare word ends at a line break, and at what follows if there is none. -/
theorem endsWord_lineBreak (h : EndsWord rest) : EndsWord (lineBreak layout level ++ rest) := by
  unfold lineBreak
  split
  · exact endsWord_cons rfl
  · exact h

/-- What parts two entries is read as a comma. -/
theorem tokens?_entryMark {word : List Char → Option Scalar} :
    tokens? word (.bare []) (entryMark layout level ++ rest) =
      (tokens? word (.bare []) rest).map (Token.comma :: ·) := by
  rw [entryMark, List.cons_append, tokens?_mark rfl, tokens?_gap]
  intro c hc
  split at hc
  · rw [List.mem_singleton.mp hc]
    rfl
  · exact isGap_of_mem_lineBreak hc

/-- What stands behind a key is read as a colon. -/
theorem tokens?_keyMark {word : List Char → Option Scalar} :
    tokens? word (.bare []) (keyMark layout ++ rest) =
      (tokens? word (.bare []) rest).map (Token.colon :: ·) := by
  unfold keyMark
  split
  · rw [List.cons_append, tokens?_mark rfl, tokens?_gap (List.forall_mem_singleton.mpr rfl)]
  · rw [List.cons_append, tokens?_mark rfl, List.nil_append]

/-- Behind a word the items of a list end it. -/
theorem endsWord_itemChars (items : List Value) (h : EndsWord rest) :
    EndsWord (itemChars layout level items ++ rest) := by
  cases items with
  | nil => exact h
  | cons v items => exact endsWord_cons rfl

/-- Behind a word the entries of an object end it. -/
theorem endsWord_fieldChars (fields : Fields) (h : EndsWord rest) :
    EndsWord (fieldChars layout level fields ++ rest) := by
  cases fields with
  | nil => exact h
  | cons e fields => exact endsWord_cons rfl

/-- Whether the text of a value is cut into its tokens, whatever follows. -/
def IsCut (layout : Layout) (v : Value) : Prop :=
  ∀ level rest, EndsWord rest →
    tokens? word? (.bare []) (valueChars layout level v ++ rest) =
      (tokens? word? (.bare []) rest).map (valueTokens v ++ ·)

/-- The further items of a list are cut into their tokens. -/
theorem tokens?_itemChars {items : List Value} (hitems : ∀ v ∈ items, IsCut layout v)
    (hrest : EndsWord rest) :
    tokens? word? (.bare []) (itemChars layout level items ++ rest) =
      (tokens? word? (.bare []) rest).map (itemTokens items ++ ·) := by
  induction items with
  | nil =>
    rw [itemChars, itemTokens, List.nil_append]
    exact Option.map_id'.symm
  | cons v items ih =>
    rw [itemChars, List.append_assoc, List.append_assoc, tokens?_entryMark,
      hitems v (by simp) _ _ (endsWord_itemChars items hrest),
      ih fun w hw => hitems w (by simp [hw])]
    simp [itemTokens, Function.comp_def]

/-- The further entries of an object are cut into their tokens. -/
theorem tokens?_fieldChars {fields : Fields} (hkeys : ∀ e ∈ fields, ∃ s, e.1 = .text s)
    (hfields : ∀ e ∈ fields, IsCut layout e.2) (hrest : EndsWord rest) :
    tokens? word? (.bare []) (fieldChars layout level fields ++ rest) =
      (tokens? word? (.bare []) rest).map (fieldTokens fields ++ ·) := by
  induction fields with
  | nil =>
    rw [fieldChars, fieldTokens, List.nil_append]
    exact Option.map_id'.symm
  | cons e fields ih =>
    obtain ⟨k, v⟩ := e
    obtain ⟨s, rfl⟩ : ∃ s, k = .text s := hkeys (k, v) (by simp)
    rw [fieldChars]
    simp only [List.append_assoc]
    rw [tokens?_entryMark, keyChars, tokens?_textChars, tokens?_keyMark,
      hfields (.text s, v) (by simp) _ _ (endsWord_fieldChars fields hrest),
      ih (fun e he => hkeys e (by simp [he])) fun e he => hfields e (by simp [he])]
    simp [fieldTokens, scalarToken, Function.comp_def]

/-- **The text of a value is cut into its tokens.** -/
theorem isCut_of_isJson (layout : Layout) (h : IsJson v) : IsCut layout v := by
  induction h with
  | null =>
    intro level rest hrest
    exact tokens?_word "null".toList (by decide) (List.all_eq_true.mp rfl) rfl hrest
  | bool b =>
    intro level rest hrest
    cases b with
    | true => exact tokens?_word "true".toList (by decide) (List.all_eq_true.mp rfl) rfl hrest
    | false => exact tokens?_word "false".toList (by decide) (List.all_eq_true.mp rfl) rfl hrest
  | @int n hlength =>
    intro level rest hrest
    have hne : (toString n).toList ≠ [] := by
      rw [toList_toString_int]
      exact List.append_ne_nil_of_right_ne_nil _ Nat.toDigits_ne_nil
    exact tokens?_word _ hne (fun c => isWordChar_of_mem_int) (word?_int hlength) hrest
  | text s =>
    intro level rest _
    exact tokens?_textChars layout.ascii s
  | @list items _ ih =>
    intro level rest hrest
    cases items with
    | nil =>
      show tokens? word? (.bare []) ('[' :: ']' :: rest) = _
      rw [tokens?_mark rfl, tokens?_mark rfl]
      simp [valueTokens, Function.comp_def]
    | cons w items =>
      have hclose : EndsWord (lineBreak layout level ++ ([']'] ++ rest)) :=
        endsWord_lineBreak (endsWord_cons rfl)
      rw [valueChars, List.cons_append]
      simp only [List.append_assoc]
      rw [tokens?_mark rfl, tokens?_gap fun c => isGap_of_mem_lineBreak,
        ih w (by simp) _ _ (endsWord_itemChars items hclose),
        tokens?_itemChars (fun u hu => ih u (by simp [hu])) hclose,
        tokens?_gap fun c => isGap_of_mem_lineBreak, List.singleton_append, tokens?_mark rfl]
      simp [valueTokens, Function.comp_def]
  | @object fields hkeys _ _ ih =>
    intro level rest hrest
    cases fields with
    | nil =>
      show tokens? word? (.bare []) ('\x7b' :: '\x7d' :: rest) = _
      rw [tokens?_mark rfl, tokens?_mark rfl]
      simp [valueTokens, Function.comp_def]
    | cons e fields =>
      obtain ⟨k, w⟩ := e
      obtain ⟨s, rfl⟩ : ∃ s, k = .text s := hkeys (k, w) (by simp)
      have hclose : EndsWord (lineBreak layout level ++ (['\x7d'] ++ rest)) :=
        endsWord_lineBreak (endsWord_cons rfl)
      rw [valueChars, List.cons_append]
      simp only [List.append_assoc]
      rw [tokens?_mark rfl, tokens?_gap fun c => isGap_of_mem_lineBreak, keyChars,
        tokens?_textChars, tokens?_keyMark,
        ih (.text s, w) (by simp) _ _ (endsWord_fieldChars fields hclose),
        tokens?_fieldChars (fun e he => hkeys e (by simp [he])) (fun e he => ih e (by simp [he]))
          hclose,
        tokens?_gap fun c => isGap_of_mem_lineBreak, List.singleton_append, tokens?_mark rfl]
      simp [valueTokens, scalarToken, Function.comp_def]

/-! ## Putting tokens together -/

variable {stack : List Frame} {done : List Value} {doneFields : Fields} {ts : List Token}

/-- An item of a list is not mistaken for the key of an entry. -/
theorem give_comma_list (h : ∀ k more, ts ≠ .text k :: .colon :: more) :
    give v (.list done :: stack) (.comma :: ts) =
      readValue false (.list (v :: done) :: stack) ts := by
  rw [give]
  intro k more
  exact h k more

theorem give_comma_object (k : String) (key : String) :
    give v (.object doneFields key :: stack) (.comma :: .text k :: .colon :: ts) =
      readValue false (.object ((.text key, v) :: doneFields) k :: stack) ts := by
  rw [give]

/-- What comes behind the tokens of a value in a list is no colon. -/
theorem valueTokens_append_ne (w : Value) (items : List Value) (more : List Token) (k : String)
    (ts' : List Token) :
    valueTokens w ++ (itemTokens items ++ .closeList :: more) ≠ .text k :: .colon :: ts' := by
  match w, items with
  | .scalar (.text s), [] | .scalar (.text s), _ :: _ =>
    simp [valueTokens, scalarToken, itemTokens]
  | .scalar .null, _ | .scalar (.bool _), _ | .scalar (.int _), _ | .scalar (.float _), _
  | .scalar (.moment _), _ | .list [], _ | .list (_ :: _), _ | .object [], _
  | .object (_ :: _), _ =>
    simp [valueTokens, scalarToken]

/-- Whether a value is put together from its tokens, whatever is open around it. -/
def IsRead (v : Value) : Prop :=
  ∀ fresh stack ts, readValue fresh stack (valueTokens v ++ ts) = give v stack ts

/-- The further items of a list are read one after the other. -/
theorem give_itemTokens {items : List Value} (hitems : ∀ v ∈ items, IsRead v) :
    give v (.list done :: stack) (itemTokens items ++ .closeList :: ts) =
      give (.list (done.reverse ++ v :: items)) stack ts := by
  induction items generalizing v done with
  | nil =>
    rw [itemTokens, List.nil_append, give]
    simp
  | cons w items ih =>
    rw [itemTokens, List.cons_append, List.append_assoc,
      give_comma_list (valueTokens_append_ne w items ts), hitems w (by simp),
      ih fun u hu => hitems u (by simp [hu])]
    simp

/-- The further entries of an object are read one after the other. -/
theorem give_fieldTokens {fields : Fields} (key : String)
    (hkeys : ∀ e ∈ fields, ∃ s, e.1 = .text s) (hfields : ∀ e ∈ fields, IsRead e.2) :
    give v (.object doneFields key :: stack) (fieldTokens fields ++ .closeObject :: ts) =
      give (.object (Assoc.ofPairs (doneFields.reverse ++ (.text key, v) :: fields))) stack ts := by
  induction fields generalizing v doneFields key with
  | nil =>
    rw [fieldTokens, List.nil_append, give]
    simp
  | cons e fields ih =>
    obtain ⟨k, w⟩ := e
    obtain ⟨s, rfl⟩ : ∃ s, k = .text s := hkeys (k, w) (by simp)
    rw [fieldTokens, scalarToken, List.cons_append, List.cons_append, List.cons_append,
      List.append_assoc, give_comma_object, hfields (.text s, w) (by simp),
      ih s (fun e he => hkeys e (by simp [he])) fun e he => hfields e (by simp [he])]
    simp

/-- **A value is put together from its tokens.** -/
theorem isRead_of_isJson (h : IsJson v) : IsRead v := by
  induction h with
  | null | bool | int | text =>
    intro fresh stack ts
    simp only [valueTokens, scalarToken, List.singleton_append]
    rw [readValue]
  | @list items _ ih =>
    intro fresh stack ts
    cases items with
    | nil =>
      simp only [valueTokens, List.cons_append, List.nil_append]
      rw [readValue, readValue]
    | cons w items =>
      simp only [valueTokens, List.cons_append, List.append_assoc, List.nil_append]
      rw [readValue, ih w (by simp), give_itemTokens fun u hu => ih u (by simp [hu])]
      simp
  | @object fields hkeys hdistinct _ ih =>
    intro fresh stack ts
    have hmap : Assoc.ofPairs fields = fields := by
      refine Assoc.ofPairs_of_pairwise (hdistinct.imp_of_mem fun hk _ hne => ?_)
      obtain ⟨e, he, rfl⟩ := List.mem_map.mp hk
      obtain ⟨s, hs⟩ := hkeys e he
      rw [BEq.comm, hs, ← Bool.not_eq_true, Scalar.text_beq_iff]
      rw [hs] at hne
      exact hne.symm
    cases fields with
    | nil =>
      simp only [valueTokens, List.cons_append, List.nil_append]
      rw [readValue]
    | cons e fields =>
      obtain ⟨k, w⟩ := e
      obtain ⟨s, rfl⟩ : ∃ s, k = .text s := hkeys (k, w) (by simp)
      simp only [valueTokens, scalarToken, List.cons_append, List.append_assoc, List.nil_append]
      rw [readValue, ih (.text s, w) (by simp),
        give_fieldTokens s (fun e he => hkeys e (by simp [he])) fun e he => ih e (by simp [he])]
      simp [hmap]

/-- **Reading undoes writing**: a value is read back from its JSON text in any layout. -/
theorem readWith_valueChars (layout : Layout) (h : IsJson v) :
    (tokens? word? (.bare []) (valueChars layout 0 v)).bind (readValue false []) = some v := by
  have hcut := isCut_of_isJson layout h 0 [] endsWord_nil
  rw [List.append_nil] at hcut
  have hread := isRead_of_isJson h false [] []
  rw [List.append_nil] at hread
  rw [hcut, tokens?]
  simp [hread, give]

end StructuredData.Json
