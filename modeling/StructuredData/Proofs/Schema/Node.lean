import StructuredData.Proofs.Fault
import StructuredData.Proofs.Template.Sharing
import StructuredData.Proofs.Value.Prune
import StructuredData.Schema.Node

/-!
# From values to a node

The values of a schema are expanded one after the other, so until the budget is told to be spent
each of them comes to what it comes to alone.  On the way to the node lists are made of some of
them, the types are put first, and what is empty is cut.
-/

namespace StructuredData

open Expansion

variable {limits : Limits} {context : Value} {p q : Pass}

/-- **What a value comes to alone**, all the notices given on the way being in a log. -/
def Value.ComesTo (limits : Limits) (context : Value) (log : Log) (v w : Value) : Prop :=
  ∃ r : Pass, (v.expand limits context).alone = (.ok w, r) ∧ ∀ n ∈ r.log, n ∈ log

/-! ## The values of an object -/

/-- Expanding the values of an object keeps what is kept at each of them. -/
theorem Compatible.expandFields {R : {α : Type} → Expansion α → Expansion α → Prop}
    (hR : Compatible R) (limits' : Limits) (context' : Value) {fields : Fields}
    (h : ∀ e ∈ fields, R (e.2.expand limits context) (e.2.expand limits' context')) :
    R (expandFields limits context fields) (expandFields limits' context' fields) := by
  induction fields with
  | nil => exact hR.pure []
  | cons e rest ih =>
    rw [StructuredData.expandFields, StructuredData.expandFields]
    exact hR.bind (h e (by simp)) fun _ =>
      hR.bind (ih fun e he => h e (by simp [he])) fun _ => hR.pure _

/-- So does making a node of the values of a schema. -/
theorem Compatible.node [Slugifier] {R : {α : Type} → Expansion α → Expansion α → Prop}
    (hR : Compatible R)
    (htell : ∀ n, R (tell n) (tell n)) (limits' : Limits) (context' : Value) {d : Schema}
    (h : ∀ values, d.fieldValues = .ok values →
      ∀ e ∈ values, R (e.2.expand limits context) (e.2.expand limits' context')) :
    R (d.node limits context) (d.node limits' context') := by
  rw [Schema.node, Schema.node]
  cases hvalues : d.fieldValues with
  | error f => exact hR.throw f
  | ok values =>
    rw [lift_ok_bind, lift_ok_bind]
    refine hR.bind (hR.expandFields limits' context' (h values hvalues)) fun expanded => ?_
    refine hR.bind (hR.lift _) fun entries => ?_
    refine hR.bind (hR.lift _) fun empty => ?_
    dsimp only
    by_cases hempty : empty.isEmpty = true
    · rw [if_pos hempty]
      exact hR.pure _
    · rw [if_neg hempty]
      exact hR.bind (htell _) fun _ => hR.pure _

/-- Expanding entries adds to the steps that were taken before. -/
theorem additive_expandFields (limits : Limits) (context : Value) (fields : Fields) :
    Additive (expandFields limits context fields) :=
  compatible_additive.expandFields limits context fun e _ =>
    e.2.additive_expand limits context

/-- Each value of an object comes to what it comes to alone, under the same key. -/
theorem forall₂_of_run_expandFields {fields expanded : Fields} (hp : p.exhausted = false)
    (hrun : runFrom (expandFields limits context fields) p = (.ok expanded, q))
    (hq : ∀ n ∈ q.log, n.isOutOfSteps = false) :
    List.Forall₂ (fun e e' => e'.1 = e.1 ∧ Value.ComesTo limits context q.log e.2 e'.2)
      fields expanded := by
  induction fields generalizing p expanded with
  | nil =>
    cases hrun
    exact .nil
  | cons e rest ih =>
    rw [expandFields] at hrun
    obtain ⟨w, r, hw, hrun⟩ := runFrom_bind_eq_ok hrun
    obtain ⟨rest', q', hrest, hrun⟩ := runFrom_bind_eq_ok hrun
    cases hrun
    have hlog : ∀ n ∈ r.log, n ∈ q.log := fun n hn =>
      (additive_expandFields limits context rest).mem_log hrest hn
    obtain ⟨k, notices, hr, halone⟩ :=
      (e.2.additive_expand limits context).alone_eq hp hw fun n hn => hq n (hlog n hn)
    refine .cons ⟨rfl, _, halone, fun n hn => hlog n ?_⟩ (ih ?_ hrest)
    · rw [hr]
      simpa [Pass.after] using Or.inr hn
    · rw [hr]
      exact hp

/-- Each value of an object comes to something under the same key, whatever has been told. -/
theorem forall₂_of_canGive_expandFields {fields expanded : Fields}
    (h : CanGive (expandFields limits context fields) expanded) :
    List.Forall₂ (fun e e' => e'.1 = e.1 ∧ CanGive (e.2.expand limits context) e'.2)
      fields expanded := by
  induction fields generalizing expanded with
  | nil =>
    rw [expandFields] at h
    rw [h.eq_of_pure]
    exact .nil
  | cons e rest ih =>
    rw [expandFields] at h
    obtain ⟨w, hw, h⟩ := h.exists_of_bind
    obtain ⟨rest', hrest, h⟩ := h.exists_of_bind
    rw [h.eq_of_pure]
    exact .cons ⟨rfl, hw⟩ (ih hrest)

section Forall₂

variable {R : Value → Value → Prop} {fields expanded : Fields}
  (h : List.Forall₂ (fun e e' => e'.1 = e.1 ∧ R e.2 e'.2) fields expanded)

include h

/-- An entry of the one object comes from an entry of the other one with the same key. -/
theorem exists_mem_of_forall₂ {e' : Scalar × Value} (he : e' ∈ expanded) :
    ∃ v, (e'.1, v) ∈ fields ∧ R v e'.2 := by
  obtain ⟨⟨k, v⟩, hv, hk, hR⟩ := exists_mem_left_of_forall₂ h he
  exact ⟨v, by rwa [hk], hR⟩

/-- What is read under a key of the one object is related to what is read in the other one. -/
theorem rel_lookup_of_forall₂ (k : Scalar) :
    Option.Rel R (fields.lookup k) (expanded.lookup k) := by
  induction h with
  | nil => exact .none
  | @cons e e' _ _ hhead _ ih =>
    rw [Assoc.lookup_cons_ite, Assoc.lookup_cons_ite, hhead.1]
    by_cases hk : (k == e.1) = true
    · rw [if_pos hk, if_pos hk]
      exact .some hhead.2
    · rw [if_neg hk, if_neg hk]
      exact ih

/-- What stands under a key has its counterpart under the same key. -/
theorem exists_lookup_of_forall₂ {k : Scalar} {v : Value} (hv : fields.lookup k = some v) :
    ∃ w, expanded.lookup k = some w ∧ R v w := by
  have hrel := rel_lookup_of_forall₂ h k
  rw [hv] at hrel
  cases hw : expanded.lookup k with
  | none =>
    rw [hw] at hrel
    cases hrel
  | some w =>
    rw [hw] at hrel
    cases hrel with
    | some hR => exact ⟨w, rfl, hR⟩

theorem exists_lookup_of_forall₂_right {k : Scalar} {w : Value}
    (hw : expanded.lookup k = some w) : ∃ v, fields.lookup k = some v ∧ R v w := by
  have hrel := rel_lookup_of_forall₂ h k
  rw [hw] at hrel
  cases hv : fields.lookup k with
  | none =>
    rw [hv] at hrel
    cases hrel
  | some v =>
    rw [hv] at hrel
    cases hrel with
    | some hR => exact ⟨v, rfl, hR⟩

/-- Counterparts have the same keys. -/
theorem keys_eq_of_forall₂ : Assoc.keys expanded = Assoc.keys fields := by
  induction h with
  | nil => rfl
  | cons hhead _ ih => exact congrArg₂ List.cons hhead.1 ih

end Forall₂

/-! ## Repeated values -/

/-- The values of an object as a list; other values stay. -/
def Value.listed : Value → Value
  | object entries => list (Assoc.values entries)
  | v => v

/-- A list of a list is not made. -/
theorem Value.listed_listed (v : Value) : v.listed.listed = v.listed := by
  cases v <;> rfl

/-- A list is not what an object is pruned to. -/
theorem Value.listed_of_prune_listed {v : Value} (h : v.listed.prune = v.prune) : v.listed = v := by
  cases v with
  | object entries => simp [listed, prune] at h
  | _ => rfl

/-- A value as it is put into a node: if it is repeated, a list is made of it. -/
def Value.listedIf (repeated : Bool) (v : Value) : Value := if repeated then v.listed else v

@[simp] theorem Value.listedIf_scalar (repeated : Bool) (a : Scalar) :
    (scalar a).listedIf repeated = scalar a := by
  cases repeated <;> rfl

@[simp] theorem Value.listedIf_listedIf (a b : Bool) (v : Value) :
    (v.listedIf a).listedIf b = v.listedIf (a || b) := by
  cases a with
  | false => rfl
  | true =>
    cases b with
    | false => rfl
    | true => exact v.listed_listed

/-- If making a list of a value does not show in what is pruned, none is made. -/
theorem Value.listedIf_of_prune_listedIf {v : Value} {repeated : Bool}
    (h : (v.listedIf repeated).prune = v.prune) : v.listedIf repeated = v := by
  cases repeated with
  | false => rfl
  | true => exact listed_of_prune_listed h

/-- Each entry was there before, perhaps not as a list. -/
theorem mem_of_mem_listValues {key : Scalar} {fields : Fields} {e : Scalar × Value}
    (h : e ∈ listValues key fields) : ∃ v, (e.1, v) ∈ fields ∧ (e.2 = v ∨ e.2 = v.listed) := by
  unfold listValues at h
  split at h
  · rename_i entries hl
    rcases Assoc.mem_of_mem_set hl h with he | ⟨ha, hb⟩
    · exact ⟨e.2, he, Or.inl rfl⟩
    · exact ⟨.object entries, hb, Or.inr ha⟩
  · exact ⟨e.2, h, Or.inl rfl⟩

/-- Making lists of values leaves the keys alone. -/
theorem keys_listValues (key : Scalar) (fields : Fields) :
    Assoc.keys (listValues key fields) = Assoc.keys fields := by
  unfold listValues
  split
  · rename_i entries hl
    exact Assoc.keys_set_of_lookup hl
  · rfl

/-- A list is made of what is read under the one key. -/
theorem lookup_listValues (key k : Scalar) (fields : Fields) :
    (listValues key fields).lookup k = (fields.lookup k).map (Value.listedIf (k == key)) := by
  unfold listValues
  by_cases hk : (k == key) = true
  · rw [hk, Assoc.lookup_congr hk fields]
    split
    · rename_i entries hl
      rw [Assoc.lookup_set, if_pos hk, hl]
      rfl
    · rename_i hno
      rw [Assoc.lookup_congr hk fields]
      cases hl : fields.lookup key with
      | none => rfl
      | some v =>
        cases v with
        | object entries => exact absurd hl (hno entries)
        | _ => rfl
  · rw [Bool.eq_false_iff.mpr hk]
    have hid : Value.listedIf false = id := rfl
    rw [hid, Option.map_id_fun, id_eq]
    split
    · rw [Assoc.lookup_set, if_neg hk]
    · rfl

namespace Schema

variable {d : Schema}

/-- What is kept when a list is made of the values under a key is kept when lists are made of all
repeated values. -/
theorem flattenFields_induction {P : Fields → Prop} {fields fields' : Fields}
    (hstep : ∀ key acc, P acc → P (listValues key acc)) (hfields : P fields)
    (h : d.flattenFields fields = .ok fields') : P fields' := by
  have hfold : ∀ (specs : List Field) (acc : Fields), P acc →
      specs.foldlM (fun acc f => f.id.key.map fun key => listValues key acc) acc = .ok fields' →
      P fields' := by
    intro specs
    induction specs with
    | nil =>
      intro acc hacc h
      cases h
      exact hacc
    | cons f specs ih =>
      intro acc hacc h
      rw [List.foldlM_cons] at h
      obtain ⟨acc', hacc', h⟩ := exists_of_bind_eq_ok h
      obtain ⟨key, -, rfl⟩ := exists_of_map_eq_ok hacc'
      exact ih _ (hstep key acc hacc) h
  exact hfold _ _ (hstep "sameAs" fields hfields) h

/-- So it is for all fields that are repeated. -/
theorem mem_of_mem_flattenFields {fields fields' : Fields}
    (h : d.flattenFields fields = .ok fields') {e : Scalar × Value} (he : e ∈ fields') :
    ∃ v, (e.1, v) ∈ fields ∧ (e.2 = v ∨ e.2 = v.listed) := by
  refine flattenFields_induction (P := fun acc => ∀ e ∈ acc, ∃ v, (e.1, v) ∈ fields ∧
    (e.2 = v ∨ e.2 = v.listed)) ?_ (fun e he => ⟨e.2, he, Or.inl rfl⟩) h e he
  intro key acc hacc e he
  obtain ⟨w, hw, he⟩ := mem_of_mem_listValues he
  obtain ⟨v, hv, hwv⟩ := hacc _ hw
  refine ⟨v, hv, ?_⟩
  dsimp only at hwv
  rcases hwv with rfl | rfl
  · exact he
  · rw [Value.listed_listed, or_self] at he
    exact Or.inr he

theorem keys_flattenFields {fields fields' : Fields} (h : d.flattenFields fields = .ok fields') :
    Assoc.keys fields' = Assoc.keys fields :=
  flattenFields_induction (P := fun acc => Assoc.keys acc = Assoc.keys fields)
    (fun key acc hacc => (keys_listValues key acc).trans hacc) rfl h

/-- Whether the values under a key may be repeated, so that a list is made of them. -/
def repeats (d : Schema) (key : String) : Bool :=
  Scalar.text key == "sameAs" ||
    (d.fields.filter fun f => f.cloneable.truthy && f.flatten.truthy).any fun f =>
      f.id.key.toOption.any (Scalar.text key == ·)

/-- A list is made of what is read under a key that may be repeated, and of nothing else. -/
theorem get?_flattenFields {fields fields' : Fields} (h : d.flattenFields fields = .ok fields')
    (key : String) : fields'.get? key = (fields.get? key).map (Value.listedIf (d.repeats key)) := by
  have hfold : ∀ (specs : List Field) (acc : Fields),
      specs.foldlM (fun acc f => f.id.key.map fun key => listValues key acc) acc = .ok fields' →
      fields'.get? key = (acc.get? key).map
        (Value.listedIf (specs.any fun f => f.id.key.toOption.any (Scalar.text key == ·))) := by
    intro specs
    induction specs with
    | nil =>
      intro acc h
      cases h
      exact Option.map_id'.symm
    | cons f specs ih =>
      intro acc h
      rw [List.foldlM_cons] at h
      obtain ⟨acc', hacc', h⟩ := exists_of_bind_eq_ok h
      obtain ⟨k, hk, rfl⟩ := exists_of_map_eq_ok hacc'
      -- a list that is made of a list is the same list
      rw [ih _ h, Fields.get?, lookup_listValues, Option.map_map, List.any_cons, hk]
      congr 1
      funext v
      exact Value.listedIf_listedIf _ _ v
  rw [hfold _ _ h, Fields.get?, lookup_listValues, Option.map_map]
  congr 1
  funext v
  exact Value.listedIf_listedIf _ _ v

/-! ## The entries of a node -/

/-- What a node has besides its type was expanded. -/
theorem mem_of_mem_nodeFields {expanded fields : Fields} (h : d.nodeFields expanded = .ok fields)
    {e : Scalar × Value} (he : e ∈ fields) (htype : e.1 ≠ .text "@type") :
    ∃ v, (e.1, v) ∈ expanded ∧ (e.2 = v ∨ e.2 = v.listed) := by
  obtain ⟨flat, hflat, h⟩ := exists_of_bind_eq_ok h
  cases h
  rcases List.mem_cons.mp he with rfl | he
  · exact absurd rfl htype
  · exact mem_of_mem_flattenFields hflat (List.mem_filter.mp he).1

/-- What a node has under a key that is not internal was expanded there. -/
theorem get?_nodeFields {expanded fields : Fields} (h : d.nodeFields expanded = .ok fields)
    {key : String} (hkey : key ∉ internalKeys) :
    fields.get? key = (expanded.get? key).map (Value.listedIf (d.repeats key)) := by
  obtain ⟨flat, hflat, h⟩ := exists_of_bind_eq_ok h
  cases h
  have hpublic : ∀ k ∈ internalKeys, ¬ (Scalar.text k == Scalar.text key) = true := by
    intro k hk heq
    cases (Scalar.text_beq_iff _ _).mp heq
    exact hkey hk
  have htype : ¬ (Scalar.text key == Scalar.text "@type") = true := fun heq =>
    hpublic "@type" (by simp [internalKeys]) (BEq.symm heq)
  rw [← get?_flattenFields hflat, Fields.get?, Assoc.lookup_cons_ite, if_neg htype,
    Assoc.lookup_filter ?_]
  · rfl
  · intro e _ he
    rw [(Scalar.text_beq_iff _ _).mp he, Bool.not_eq_true', List.any_eq_false]
    exact hpublic

/-- The keys of a node are distinct if those of the values are. -/
theorem nodup_keys_nodeFields {expanded fields : Fields} (h : d.nodeFields expanded = .ok fields)
    (hkeys : (Assoc.keys expanded).Nodup) : (Assoc.keys fields).Nodup := by
  obtain ⟨flat, hflat, h⟩ := exists_of_bind_eq_ok h
  cases h
  rw [← keys_flattenFields hflat] at hkeys
  -- the type has been taken out where it is put first
  refine List.nodup_cons.mpr ⟨?_, hkeys.sublist (List.filter_sublist.map _)⟩
  intro htype
  obtain ⟨e, he, hetype⟩ := List.mem_map.mp htype
  have hinternal := (List.mem_filter.mp he).2
  rw [hetype] at hinternal
  cases hinternal

/-- The steps from the values of a schema to its node. -/
theorem exists_of_run_node [Slugifier] {fields : Fields}
    (hrun : runFrom (d.node limits context) p = (.ok fields, q)) :
    ∃ values expanded entries r, d.fieldValues = .ok values ∧
      runFrom (expandFields limits context values) p = (.ok expanded, r) ∧
      d.nodeFields expanded = .ok entries ∧ fields = Value.pruneFields entries ∧
      ∀ n ∈ r.log, n ∈ q.log := by
  rw [node] at hrun
  obtain ⟨values, hvalues, hrun⟩ := exists_of_runFrom_lift_bind hrun
  obtain ⟨expanded, r, hexpanded, hrun⟩ := runFrom_bind_eq_ok hrun
  obtain ⟨entries, hentries, hrun⟩ := exists_of_runFrom_lift_bind hrun
  obtain ⟨empty, -, hrun⟩ := exists_of_runFrom_lift_bind hrun
  refine ⟨values, expanded, entries, r, hvalues, hexpanded, hentries, ?_⟩
  dsimp only at hrun
  by_cases hempty : empty.isEmpty = true
  · rw [if_pos hempty, runFrom_pure] at hrun
    cases hrun
    exact ⟨rfl, fun _ hn => hn⟩
  · rw [if_neg hempty, runFrom_bind_of_ok (runFrom_tell _ r), runFrom_pure] at hrun
    cases hrun
    exact ⟨rfl, fun n hn => Array.mem_push_of_mem _ hn⟩

/-- What stands in a node under another key than the type is made of what a value under this key can
come to. -/
theorem exists_canGive_of_mem_node [Slugifier] {node : Fields}
    (hrun : runFrom (d.node limits context) p = (.ok node, q)) {e : Scalar × Value}
    (he : e ∈ node) (htype : e.1 ≠ .text "@type") :
    ∃ values v w, d.fieldValues = .ok values ∧ (e.1, v) ∈ values ∧
      CanGive (v.expand limits context) w ∧ (e.2 = w.prune ∨ e.2 = w.listed.prune) := by
  obtain ⟨values, expanded, entries, r, hvalues, hexpanded, hentries, rfl, -⟩ :=
    exists_of_run_node hrun
  obtain ⟨u, hu, hprune, -⟩ := Value.mem_pruneFields.mp he
  obtain ⟨w, hw, huw⟩ := mem_of_mem_nodeFields hentries hu htype
  have hall := forall₂_of_canGive_expandFields ⟨p, r, hexpanded⟩
  obtain ⟨v, hv, hgive⟩ :=
    exists_mem_of_forall₂ (R := fun v w => CanGive (v.expand limits context) w) hall hw
  refine ⟨values, v, w, hvalues, hv, hgive, ?_⟩
  dsimp only at huw
  rw [← hprune]
  exact huw.imp (congrArg Value.prune) (congrArg Value.prune)

/-- Nothing in a node would be cut from it. -/
theorem isDropped_of_mem_node [Slugifier] {node : Fields}
    (hrun : runFrom (d.node limits context) p = (.ok node, q)) {e : Scalar × Value}
    (he : e ∈ node) : e.2.isDropped = false := by
  obtain ⟨_, _, entries, _, _, _, _, rfl, _⟩ := exists_of_run_node hrun
  obtain ⟨_, _, _, hkept⟩ := Value.mem_pruneFields.mp he
  exact hkept

/-- Making a node adds to the steps that were taken before. -/
theorem additive_node [Slugifier] (d : Schema) (limits : Limits) (context : Value) :
    Additive (d.node limits context) :=
  compatible_additive.node additive_tell limits context fun _ _ e _ =>
    e.2.additive_expand limits context

variable [Slugifier] {fields values : Fields} (hp : p.exhausted = false)
  (hrun : runFrom (d.node limits context) p = (.ok fields, q))
  (hq : ∀ n ∈ q.log, n.isOutOfSteps = false) (hvalues : d.fieldValues = .ok values)

include hp hrun hq hvalues

/-- **What stands in a node** under another key than the type is what a value under this key comes
to, with a list made of it or not, and pruned. -/
theorem mem_of_mem_node {e : Scalar × Value} (he : e ∈ fields) (htype : e.1 ≠ .text "@type") :
    ∃ v w, (e.1, v) ∈ values ∧ Value.ComesTo limits context q.log v w ∧
      (e.2 = w.prune ∨ e.2 = w.listed.prune) ∧ e.2.isDropped = false := by
  obtain ⟨values', expanded, entries, r, hvalues', hexpanded, hentries, rfl, hlog⟩ :=
    exists_of_run_node hrun
  obtain rfl := Except.ok.inj (hvalues'.symm.trans hvalues)
  have hall := forall₂_of_run_expandFields hp hexpanded fun n hn => hq n (hlog n hn)
  obtain ⟨u, hu, hprune, hkept⟩ := Value.mem_pruneFields.mp he
  obtain ⟨w, hw, huw⟩ := mem_of_mem_nodeFields hentries hu htype
  obtain ⟨v, hv, s, halone, hs⟩ := exists_mem_of_forall₂ hall hw
  refine ⟨v, w, hv, ⟨s, halone, fun n hn => hlog n (hs n hn)⟩, ?_, hkept⟩
  dsimp only at huw
  rw [← hprune]
  rcases huw with rfl | rfl
  · exact Or.inl rfl
  · exact Or.inr rfl

/-- Each value that is read among those of a schema comes to something. -/
theorem exists_comesTo_of_get? {key : String} {v : Value} (hv : values.get? key = some v) :
    ∃ w, Value.ComesTo limits context q.log v w := by
  obtain ⟨values', expanded, entries, r, hvalues', hexpanded, -, -, hlog⟩ := exists_of_run_node hrun
  obtain rfl := Except.ok.inj (hvalues'.symm.trans hvalues)
  have hall := forall₂_of_run_expandFields hp hexpanded fun n hn => hq n (hlog n hn)
  obtain ⟨w, -, s, halone, hs⟩ := exists_lookup_of_forall₂ hall hv
  exact ⟨w, s, halone, fun n hn => hlog n (hs n hn)⟩

/-- **What is read in a node** under a key that is published is what the value under this key comes
to, with a list made of it if it may be repeated, and pruned. -/
theorem get?_node_iff (hkeys : (Assoc.keys values).Nodup) {key : String} (hkey : key ∉ internalKeys)
    {u : Value} :
    fields.get? key = some u ↔ ∃ v w, values.get? key = some v ∧
      Value.ComesTo limits context q.log v w ∧ (w.listedIf (d.repeats key)).prune = u ∧
      u.isDropped = false := by
  obtain ⟨values', expanded, entries, r, hvalues', hexpanded, hentries, rfl, hlog⟩ :=
    exists_of_run_node hrun
  obtain rfl := Except.ok.inj (hvalues'.symm.trans hvalues)
  have hall := forall₂_of_run_expandFields hp hexpanded fun n hn => hq n (hlog n hn)
  rw [← keys_eq_of_forall₂ hall] at hkeys
  have hentry := nodup_keys_nodeFields hentries hkeys
  rw [Fields.get?, Value.lookup_pruneFields_iff (Scalar.text_beq_iff key) hentry]
  constructor
  · rintro ⟨t, ht, hprune, hkept⟩
    have ht : entries.get? key = some t := ht
    rw [get?_nodeFields hentries hkey] at ht
    obtain ⟨w, hw, rfl⟩ := Option.map_eq_some_iff.mp ht
    obtain ⟨v, hv, s, halone, hs⟩ := exists_lookup_of_forall₂_right hall hw
    exact ⟨v, w, hv, ⟨s, halone, fun n hn => hlog n (hs n hn)⟩, hprune, hkept⟩
  · rintro ⟨v, w, hv, ⟨s, halone, -⟩, hprune, hkept⟩
    obtain ⟨w', hw', s', halone', -⟩ := exists_lookup_of_forall₂ hall hv
    cases halone.symm.trans halone'
    refine ⟨w.listedIf (d.repeats key), ?_, hprune, hkept⟩
    show entries.get? key = _
    rw [get?_nodeFields hentries hkey]
    exact congrArg (Option.map _) hw'

end Schema

end StructuredData
