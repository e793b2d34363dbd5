import StructuredData.Content.Basic
import StructuredData.Proofs.Assoc
import StructuredData.Proofs.Run

/-!
# Records under their ids

Posts and terms that are read are put under their ids one after the other, so that each of them
stands under its own one (`Content.isKeyed_of_run_read`).
-/

namespace StructuredData.Content

/-- Whether each post and each term stands under its own id. -/
structure IsKeyed (c : Content) : Prop where
  posts : ∀ e ∈ c.posts, e.2.id = e.1
  terms : ∀ e ∈ c.terms, e.2.id = e.1

/-- A record that is put under its id stands under it, and so do the others. -/
theorem forall_mem_set {α : Type} {idOf : α → Int} {id : Int} {a : α} {table : List (Int × α)}
    (h : ∀ e ∈ table, idOf e.2 = e.1) (ha : idOf a = id) :
    ∀ e ∈ Assoc.set id a table, idOf e.2 = e.1 := by
  intro e he
  rcases Assoc.mem_set he with he | ⟨hid, rfl⟩
  · exact h e he
  · rw [ha]
    exact eq_of_beq hid

/-- Keeping the schemas of a record changes no table of records. -/
theorem isKeyed_storeSchemas {c c' : Content} {owner : Owner} {id : Int} {v : Value}
    (hc : storeSchemas owner id v c = .ok c') (h : c.IsKeyed) : c'.IsKeyed := by
  rw [storeSchemas] at hc
  split at hc
  · obtain ⟨schemas, -, hc⟩ := exists_of_bind_eq_ok hc
    cases hc
    exact ⟨h.posts, h.terms⟩
  · cases hc
    exact h

/-- A post that is added stands under its own id. -/
theorem IsKeyed.addPost {c c' : Content} (h : c.IsKeyed) {raw : Value}
    (hc : CanGive (addPost c raw) c') : c'.IsKeyed := by
  obtain ⟨⟨id, entries⟩, -, hc⟩ := hc.exists_of_bind
  obtain ⟨ids, -, hc⟩ := hc.exists_of_bind
  obtain ⟨c₁, hc₁, hc⟩ := hc.exists_of_bind
  obtain ⟨date, -, hc⟩ := hc.exists_of_bind
  obtain ⟨modified, -, hc⟩ := hc.exists_of_bind
  obtain ⟨p, hp, hc⟩ := hc.exists_of_bind
  obtain rfl := hc.eq_of_pure
  obtain ⟨-, -, hid⟩ := exists_of_bind_eq_ok hp.eq_of_lift
  cases hid
  have h₁ : c₁.IsKeyed := isKeyed_storeSchemas hc₁.eq_of_lift ⟨h.posts, h.terms⟩
  exact ⟨forall_mem_set h₁.posts rfl, h₁.terms⟩

/-- A term that is added stands under its own id. -/
theorem IsKeyed.addTerm {c c' : Content} (h : c.IsKeyed) {raw : Value}
    (hc : CanGive (addTerm c raw) c') : c'.IsKeyed := by
  obtain ⟨⟨id, entries⟩, -, hc⟩ := hc.exists_of_bind
  obtain ⟨c₁, hc₁, hc⟩ := hc.exists_of_bind
  obtain ⟨t, ht, hc⟩ := hc.exists_of_bind
  obtain rfl := hc.eq_of_pure
  obtain ⟨-, -, hid⟩ := exists_of_bind_eq_ok ht.eq_of_lift
  cases hid
  have h₁ := isKeyed_storeSchemas hc₁.eq_of_lift h
  exact ⟨h₁.posts, forall_mem_set h₁.terms rfl⟩

/-- Adding a user leaves posts and terms alone. -/
theorem IsKeyed.addUser {c c' : Content} (h : c.IsKeyed) {raw : Value}
    (hc : CanGive (addUser c raw) c') : c'.IsKeyed := by
  obtain ⟨⟨id, entries⟩, -, hc⟩ := hc.exists_of_bind
  obtain ⟨c₁, hc₁, hc⟩ := hc.exists_of_bind
  obtain ⟨u, -, hc⟩ := hc.exists_of_bind
  obtain rfl := hc.eq_of_pure
  have h₁ := isKeyed_storeSchemas hc₁.eq_of_lift h
  exact ⟨h₁.posts, h₁.terms⟩

/-- **Content that is read has each post and each term under its own id.** -/
theorem isKeyed_of_run_read {v : Value} {c : Content} {log : Log}
    (hrun : Logged.run (Content.read v) = (.ok c, log)) : c.IsKeyed := by
  have hc : CanGive (Content.read v) c := ⟨#[], log, hrun⟩
  obtain ⟨data, -, hc⟩ := hc.exists_of_bind
  obtain ⟨siteEntries, -, hc⟩ := hc.exists_of_bind
  obtain ⟨site, -, hc⟩ := hc.exists_of_bind
  obtain ⟨typeRows, -, hc⟩ := hc.exists_of_bind
  obtain ⟨postTypes, -, hc⟩ := hc.exists_of_bind
  obtain ⟨taxonomyRows, -, hc⟩ := hc.exists_of_bind
  obtain ⟨taxonomies, -, hc⟩ := hc.exists_of_bind
  obtain ⟨posts, -, hc⟩ := hc.exists_of_bind
  obtain ⟨c₁, hposts, hc⟩ := hc.exists_of_bind
  obtain ⟨terms, -, hc⟩ := hc.exists_of_bind
  obtain ⟨c₂, hterms, hc⟩ := hc.exists_of_bind
  obtain ⟨users, -, hc⟩ := hc.exists_of_bind
  obtain ⟨c₃, husers, hc⟩ := hc.exists_of_bind
  obtain ⟨productEntries, -, hc⟩ := hc.exists_of_bind
  obtain ⟨types, -, hc⟩ := hc.exists_of_bind
  obtain rfl := hc.eq_of_pure
  have hempty : ∀ c : Content, c.posts = [] → c.terms = [] → c.IsKeyed :=
    fun c hp ht => ⟨by simp [hp], by simp [ht]⟩
  have h₁ := hposts.foldlM_induction (P := IsKeyed) (fun _ _ _ h => h.addPost)
    (hempty _ rfl rfl)
  have h₂ := hterms.foldlM_induction (P := IsKeyed) (fun _ _ _ h => h.addTerm) h₁
  have h₃ := husers.foldlM_induction (P := IsKeyed) (fun _ _ _ h => h.addUser) h₂
  exact ⟨h₃.posts, h₃.terms⟩

end StructuredData.Content
