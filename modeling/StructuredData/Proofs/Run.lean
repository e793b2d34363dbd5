import StructuredData.Proofs.Fault

/-!
# Runs

A computation that may fail and has a state gives, from each state, a result and the state after it.
Expansions, edits and computations that give notices are of this kind.
-/

namespace StructuredData

variable {σ α β : Type}

/-- The result of a computation that is started in a state, and the state after it. -/
def runFrom (act : ExceptT Fault (StateM σ) α) (s : σ) : Except Fault α × σ :=
  StateT.run (ExceptT.run act) s

@[simp] theorem runFrom_pure (a : α) (s : σ) : runFrom (pure a) s = (.ok a, s) := rfl

@[simp] theorem runFrom_throw (f : Fault) (s : σ) :
    runFrom (throw f : ExceptT Fault (StateM σ) α) s = (.error f, s) := rfl

@[simp] theorem runFrom_lift (e : Except Fault α) (s : σ) :
    runFrom (liftM e : ExceptT Fault (StateM σ) α) s = (e, s) := rfl

/-- A result that is there already is passed on. -/
theorem lift_ok_bind (a : α) (f : α → ExceptT Fault (StateM σ) β) :
    (liftM (Except.ok a : Except Fault α) >>= f) = f a := rfl

/-- A failure that is there already ends the sequence. -/
theorem lift_error_bind (e : Fault) (f : α → ExceptT Fault (StateM σ) β) :
    (liftM (Except.error e : Except Fault α) >>= f) = throw e := rfl

/-- A sequence goes on from where its first part came to, and stops if that failed. -/
theorem runFrom_bind (x : ExceptT Fault (StateM σ) α) (f : α → ExceptT Fault (StateM σ) β)
    (s : σ) :
    runFrom (x >>= f) s =
      match runFrom x s with
      | (.ok a, t) => runFrom (f a) t
      | (.error e, t) => (.error e, t) := by
  show StateT.run (ExceptT.run x >>= ExceptT.bindCont f) s = _
  rw [StateT.run_bind]
  show (match runFrom x s with | (r, t) => StateT.run (ExceptT.bindCont f r) t) = _
  rcases runFrom x s with ⟨r | a, t⟩ <;> rfl

variable {x : ExceptT Fault (StateM σ) α} {f : α → ExceptT Fault (StateM σ) β} {s t : σ}

/-- Behind a result the sequence goes on with it. -/
theorem runFrom_bind_of_ok {a : α} (h : runFrom x s = (.ok a, t)) :
    runFrom (x >>= f) s = runFrom (f a) t := by
  rw [runFrom_bind, h]

/-- Behind a failure nothing is done any more. -/
theorem runFrom_bind_of_error {e : Fault} (h : runFrom x s = (.error e, t)) :
    runFrom (x >>= f) s = (.error e, t) := by
  rw [runFrom_bind, h]

/-- A sequence that has a result has one at its first part, and goes on from there. -/
theorem runFrom_bind_eq_ok {b : β} (h : runFrom (x >>= f) s = (.ok b, t)) :
    ∃ a u, runFrom x s = (.ok a, u) ∧ runFrom (f a) u = (.ok b, t) := by
  rw [runFrom_bind] at h
  rcases hx : runFrom x s with ⟨e | a, u⟩
  · rw [hx] at h
    cases h
  · rw [hx] at h
    exact ⟨a, u, rfl, h⟩

/-- The same where the first part is no matter of the state. -/
theorem exists_of_runFrom_lift_bind {e : Except Fault α} {b : β}
    (h : runFrom (liftM e >>= f) s = (.ok b, t)) :
    ∃ a, e = .ok a ∧ runFrom (f a) s = (.ok b, t) := by
  obtain ⟨a, u, ha, h⟩ := runFrom_bind_eq_ok h
  rw [runFrom_lift] at ha
  cases ha
  exact ⟨a, rfl, h⟩

/-- Whether all that a computation comes to is of a kind. -/
def Gives (P : α → Prop) (act : ExceptT Fault (StateM σ) α) : Prop :=
  ∀ s t a, runFrom act s = (.ok a, t) → P a

theorem Gives.pure {P : α → Prop} {a : α} (h : P a) :
    Gives P (pure a : ExceptT Fault (StateM σ) α) := by
  rintro s t b ⟨⟩
  exact h

/-- What comes of a sequence is what comes of its last part. -/
theorem Gives.bind {P : β → Prop} (h : ∀ a, Gives P (f a)) : Gives P (x >>= f) := by
  intro s t b hrun
  obtain ⟨a, u, -, hrun⟩ := runFrom_bind_eq_ok hrun
  exact h a u t b hrun

/-- Whether a computation comes to a result from some state. -/
def CanGive (act : ExceptT Fault (StateM σ) α) (a : α) : Prop := ∃ s t, runFrom act s = (.ok a, t)

/-- What is given without doing anything is all that can be given. -/
theorem CanGive.eq_of_pure {a b : α} (h : CanGive (pure a : ExceptT Fault (StateM σ) α) b) :
    b = a := by
  obtain ⟨s, t, ⟨⟩⟩ := h
  rfl

/-- What can be given by something that leaves the state alone is its result. -/
theorem CanGive.eq_of_lift {e : Except Fault α} {a : α}
    (h : CanGive (liftM e : ExceptT Fault (StateM σ) α) a) : e = .ok a := by
  obtain ⟨s, t, hrun⟩ := h
  exact congrArg Prod.fst hrun

/-- What a sequence comes to is what its last part comes to after its first part. -/
theorem CanGive.exists_of_bind {b : β} (h : CanGive (x >>= f) b) :
    ∃ a, CanGive x a ∧ CanGive (f a) b := by
  obtain ⟨s, t, hrun⟩ := h
  obtain ⟨a, u, ha, hb⟩ := runFrom_bind_eq_ok hrun
  exact ⟨a, ⟨s, u, ha⟩, u, t, hb⟩

/-- What each step keeps is kept by a sequence of steps. -/
theorem CanGive.foldlM_induction {γ : Type} {P : α → Prop}
    {step : α → γ → ExceptT Fault (StateM σ) α}
    (hstep : ∀ a c a', P a → CanGive (step a c) a' → P a') {l : List γ} {a a' : α} (ha : P a)
    (h : CanGive (l.foldlM step a) a') : P a' := by
  induction l generalizing a with
  | nil => exact h.eq_of_pure ▸ ha
  | cons c rest ih =>
    rw [List.foldlM_cons] at h
    obtain ⟨a₁, ha₁, h⟩ := h.exists_of_bind
    exact ih (hstep a c a₁ ha ha₁) h

/-- Whether a computation comes to something of a kind, whatever the state is. -/
def Yields (P : α → Prop) (act : ExceptT Fault (StateM σ) α) : Prop :=
  ∀ s, ∃ a t, runFrom act s = (.ok a, t) ∧ P a

/-- Whether a computation comes to a result, whatever the state is. -/
abbrev Succeeds (act : ExceptT Fault (StateM σ) α) : Prop := Yields (fun _ => True) act

namespace Yields

variable {P : α → Prop} {Q : β → Prop}

theorem pure {a : α} (h : P a) : Yields P (pure a : ExceptT Fault (StateM σ) α) :=
  fun s => ⟨a, s, rfl, h⟩

theorem lift {e : Except Fault α} (h : ∃ a, e = .ok a ∧ P a) :
    Yields P (liftM e : ExceptT Fault (StateM σ) α) := by
  obtain ⟨a, rfl, ha⟩ := h
  exact pure ha

/-- A sequence goes on from a result of the kind that its first part comes to. -/
theorem bind (hx : Yields P x) (hf : ∀ a, P a → Yields Q (f a)) : Yields Q (x >>= f) := by
  intro s
  obtain ⟨a, t, ha, hP⟩ := hx s
  rw [runFrom_bind_of_ok ha]
  exact hf a hP t

/-- What yields results of a kind yields results of a wider kind. -/
theorem mono {P' : α → Prop} (h : Yields P x) (hP : ∀ a, P a → P' a) : Yields P' x := by
  intro s
  obtain ⟨a, t, ha, hPa⟩ := h s
  exact ⟨a, t, ha, hP a hPa⟩

end Yields

/-- Whether a computation comes to something of a kind from each state of a kind, and leaves the
state of that kind. -/
def YieldsFrom (kind : σ → Prop) (P : α → Prop) (act : ExceptT Fault (StateM σ) α) : Prop :=
  ∀ s, kind s → ∃ a t, runFrom act s = (.ok a, t) ∧ kind t ∧ P a

namespace YieldsFrom

variable {kind : σ → Prop} {P : α → Prop} {Q : β → Prop}

theorem pure {a : α} (h : P a) :
    YieldsFrom kind P (pure a : ExceptT Fault (StateM σ) α) :=
  fun s hs => ⟨a, s, rfl, hs, h⟩

theorem bind (hx : YieldsFrom kind P x) (hf : ∀ a, P a → YieldsFrom kind Q (f a)) :
    YieldsFrom kind Q (x >>= f) := by
  intro s hs
  obtain ⟨a, t, ha, ht, hP⟩ := hx s hs
  rw [runFrom_bind_of_ok ha]
  exact hf a hP t ht

end YieldsFrom

/-! ## States with a part that is not looked at -/

/-- Whether a computation is not aware of a change of its state: it has the same result, and the
state after it is changed in the same way. -/
def Unaware (change : σ → σ) (act : ExceptT Fault (StateM σ) α) : Prop :=
  ∀ s, runFrom act (change s) = ((runFrom act s).1, change (runFrom act s).2)

namespace Unaware

variable {change : σ → σ}

theorem pure (a : α) : Unaware change (pure a : ExceptT Fault (StateM σ) α) := fun _ => rfl

theorem throw (e : Fault) : Unaware change (throw e : ExceptT Fault (StateM σ) α) := fun _ => rfl

theorem lift (e : Except Fault α) : Unaware change (liftM e : ExceptT Fault (StateM σ) α) :=
  fun _ => rfl

theorem bind (hx : Unaware change x) (hf : ∀ a, Unaware change (f a)) :
    Unaware change (x >>= f) := by
  intro s
  rw [runFrom_bind, runFrom_bind, hx s]
  rcases runFrom x s with ⟨e | a, t⟩
  · rfl
  · exact hf a t

end Unaware

end StructuredData
