import Credential.Outcome

/-!
# Sequences of stages

A reader is a sequence of stages, each with faults of its own. A sequence has a value exactly if
every stage has one (`bind_eq_ok_iff`), and it fails at its first stage or at a later one
(`bind_eq_error_iff`). Another description of the faults goes through a sequence stage by stage
(`mapError_bind`) and changes no value. The same holds of outcomes, which can also be aborted.
-/

namespace Credential

variable {ε ε' ε'' α β : Type}

/-- A sequence has a value exactly if every stage has one. -/
theorem bind_eq_ok_iff {r : Except ε α} {f : α → Except ε β} {b : β} :
    r >>= f = .ok b ↔ ∃ a, r = .ok a ∧ f a = .ok b := by
  cases r with
  | error e =>
      constructor
      · intro h
        cases h
      · rintro ⟨a, h, -⟩
        cases h
  | ok a =>
      constructor
      · intro h
        exact ⟨a, rfl, h⟩
      · rintro ⟨a', h, hb⟩
        cases h
        exact hb

/-- A sequence fails at its first stage or at a later one. -/
theorem bind_eq_error_iff {r : Except ε α} {k : α → Except ε β} {e : ε} :
    r >>= k = .error e ↔ r = .error e ∨ ∃ a, r = .ok a ∧ k a = .error e := by
  cases r with
  | ok a =>
      constructor
      · intro h
        exact Or.inr ⟨a, rfl, h⟩
      · rintro (h | ⟨found, h, hk⟩)
        · cases h
        · cases h
          exact hk
  | error found =>
      constructor
      · intro h
        exact Or.inl (congrArg Except.error (Except.error.inj h))
      · rintro (h | ⟨a, h, -⟩)
        · cases h
          rfl
        · cases h

theorem map_eq_ok_iff {r : Except ε α} {f : α → β} {b : β} :
    r.map f = .ok b ↔ ∃ a, r = .ok a ∧ f a = b := by
  cases r <;> simp [Except.map]

theorem map_eq_error_iff {r : Except ε α} {f : α → β} {e : ε} :
    r.map f = .error e ↔ r = .error e := by
  cases r <;> simp [Except.map]

theorem toOption_eq_some_iff {r : Except ε α} {a : α} : r.toOption = some a ↔ r = .ok a := by
  cases r <;> simp [Except.toOption]

/-- A list is gone through if it is for its first element and the others. -/
theorem mapM_cons_eq_some_iff {f : α → Option β} {a : α} {as : List α} {bs : List β} :
    (a :: as).mapM f = some bs ↔ ∃ b others, f a = some b ∧ as.mapM f = some others ∧
      b :: others = bs := by
  simp [List.mapM_cons, Option.bind_eq_some_iff]

theorem exists_mapM_eq_some {f : α → Option β} {as : List α} (h : ∀ a ∈ as, (f a).isSome = true) :
    ∃ bs, as.mapM f = some bs := by
  induction as with
  | nil => exact ⟨[], rfl⟩
  | cons a as ih =>
      obtain ⟨ha, hothers⟩ := List.forall_mem_cons.1 h
      obtain ⟨b, hb⟩ := Option.isSome_iff_exists.1 ha
      obtain ⟨bs, hbs⟩ := ih hothers
      exact ⟨b :: bs, mapM_cons_eq_some_iff.2 ⟨b, bs, hb, hbs, rfl⟩⟩

theorem mapM_eq_some_map {f : α → Option β} {g : α → β} {as : List α}
    (h : ∀ a ∈ as, f a = some (g a)) : as.mapM f = some (as.map g) := by
  induction as with
  | nil => rfl
  | cons a as ih =>
      obtain ⟨ha, hothers⟩ := List.forall_mem_cons.1 h
      exact mapM_cons_eq_some_iff.2 ⟨g a, as.map g, ha, ih hothers, rfl⟩

/-- A list is read back from what was written for its entries, if each entry is. -/
theorem mapM_map_eq_some {read? : β → Option α} {write : α → β} {as : List α}
    (h : ∀ a ∈ as, read? (write a) = some a) : (as.map write).mapM read? = some as := by
  have hmap := mapM_eq_some_map (f := read? ∘ write) (g := id) h
  rwa [← List.mapM_map, List.map_id] at hmap

/-! ## Descriptions of faults -/

theorem mapError_mapError (r : Except ε α) (f : ε → ε') (g : ε' → ε'') :
    (r.mapError f).mapError g = r.mapError fun e => g (f e) := by
  cases r <;> rfl

/-- Describing the faults of a sequence is describing those of its stages. -/
theorem mapError_bind (r : Except ε α) (k : α → Except ε β) (f : ε → ε') :
    (r >>= k).mapError f = r.mapError f >>= fun a => (k a).mapError f := by
  cases r <;> rfl

theorem mapError_eq_ok_iff {r : Except ε α} {f : ε → ε'} {a : α} :
    r.mapError f = .ok a ↔ r = .ok a := by
  cases r with
  | ok found =>
      constructor <;> intro h
      · cases h
        rfl
      · cases h
        rfl
  | error e => constructor <;> intro h <;> cases h

theorem mapError_eq_error_iff {r : Except ε α} {f : ε → ε'} {described : ε'} :
    r.mapError f = .error described ↔ ∃ e, r = .error e ∧ f e = described := by
  cases r with
  | ok a =>
      constructor
      · intro h
        cases h
      · rintro ⟨e, h, -⟩
        cases h
  | error e =>
      constructor
      · intro h
        exact ⟨e, rfl, Except.error.inj h⟩
      · rintro ⟨found, h, rfl⟩
        cases h
        rfl

/-- Faults that are kept as they are. -/
theorem mapError_self (r : Except ε α) : (r.mapError fun e => e) = r := by
  cases r <;> rfl

/-! ## Outcomes -/

namespace Outcome

@[simp] theorem ok_bind (a : α) (f : α → Outcome ε β) : (ok a >>= f) = f a := rfl

@[simp] theorem error_bind (e : ε) (f : α → Outcome ε β) : (error e >>= f) = error e := rfl

@[simp] theorem aborted_bind (f : α → Outcome ε β) : (aborted >>= f) = aborted := rfl

theorem bind_eq_ok_iff {r : Outcome ε α} {f : α → Outcome ε β} {b : β} :
    r >>= f = .ok b ↔ ∃ a, r = .ok a ∧ f a = .ok b := by
  cases r <;> simp

theorem bind_eq_aborted_iff {r : Outcome ε α} {f : α → Outcome ε β} :
    r >>= f = .aborted ↔ r = .aborted ∨ ∃ a, r = .ok a ∧ f a = .aborted := by
  cases r <;> simp

theorem map_eq_aborted_iff {r : Outcome ε α} {f : α → β} :
    r.map f = .aborted ↔ r = .aborted := by
  cases r <;> simp [Outcome.map]

theorem ofExcept_eq_ok_iff {r : Except ε α} {a : α} : ofExcept r = .ok a ↔ r = .ok a := by
  cases r <;> simp [ofExcept]

theorem lift_bind_eq_aborted_iff {r : Except ε α} {f : α → Outcome ε β} :
    (liftM r : Outcome ε α) >>= f = .aborted ↔ ∃ a, r = .ok a ∧ f a = .aborted := by
  cases r <;> simp [liftM, monadLift, MonadLift.monadLift, ofExcept]

theorem ofExcept_ne_aborted (r : Except ε α) : ofExcept r ≠ .aborted := by
  cases r <;> simp [ofExcept]

theorem map_eq_ok_iff {r : Outcome ε α} {f : α → β} {b : β} :
    r.map f = .ok b ↔ ∃ a, r = .ok a ∧ f a = b := by
  cases r <;> simp [Outcome.map]

theorem map_eq_error_iff {r : Outcome ε α} {f : α → β} {e : ε} :
    r.map f = .error e ↔ r = .error e := by
  cases r <;> simp [Outcome.map]

theorem mapError_eq_ok_iff {r : Outcome ε α} {f : ε → ε'} {a : α} :
    r.mapError f = .ok a ↔ r = .ok a := by
  cases r <;> simp [Outcome.mapError]

theorem mapError_eq_error_iff {r : Outcome ε α} {f : ε → ε'} {described : ε'} :
    r.mapError f = .error described ↔ ∃ e, r = .error e ∧ f e = described := by
  cases r <;> simp [Outcome.mapError]

end Outcome

end Credential
