import Credential.Proofs.Key.Sealed

/-!
# The pass without a password

A reader of key files may be run without a password first, to learn whether one is needed. That
pass is decisive (`Decisive`): it blames no password, what it ends in stands for every password
unless it asks for one, and no run with a password asks for one. Both readers, the one that stops
at the specification and the one that builds the key, are decisive on every file
(`password_free_pass_decisive`).

The reason is the division of `Sealed.lean`: the password is looked at for a ciphertext only, after
everything else was checked, and the faults of the two steps have different kinds.
-/

namespace Credential.Key

variable {α β : Type}

/-- The pass without a password tells the outcome for every password, unless it asks for one. -/
structure Decisive (decode : Option Bytes → Outcome Error α) : Prop where
  blames_nobody : ∀ e, decode none = .error e → e.kind ≠ .badPassword
  stands : ∀ password, decode none ≠ .error .noPasswordProvided →
    decode (some password) = decode none
  asks_once : ∀ password, decode (some password) ≠ .error .noPasswordProvided

/-- A later stage that neither asks for a password nor blames one changes nothing. -/
theorem Decisive.bind {decode : Option Bytes → Outcome Error α} (h : Decisive decode)
    {build : α → Outcome Error β} (hb : ∀ a, OutcomeFaultsIn Kind.ofClear (build a)) :
    Decisive fun password => (decode password).bind build where
  blames_nobody := by
    intro e he
    -- a fault of the later stage is one of a key in the clear
    cases hd : decode none with
    | ok a =>
        rw [hd] at he
        have hk := hb a e he
        intro hbad
        simp [hbad, Kind.ofClear] at hk
    | error cause =>
        rw [hd] at he
        cases he
        exact h.blames_nobody e hd
    | aborted =>
        rw [hd] at he
        cases he
  stands := by
    intro password hne
    have hne' : decode none ≠ .error .noPasswordProvided := by
      intro hd
      exact hne (by rw [hd]; rfl)
    rw [h.stands password hne']
  asks_once := by
    intro password he
    cases hd : decode (some password) with
    | ok a =>
        rw [hd] at he
        have hk := hb a _ he
        simp [Error.kind, Kind.ofClear] at hk
    | error cause =>
        rw [hd] at he
        cases he
        exact h.asks_once password hd
    | aborted =>
        rw [hd] at he
        cases he

/-- The second step of the decoder, whatever the first one found. -/
theorem Contents.decisive_specification (contents : Contents) (heuristic : Heuristic) :
    Decisive fun password => .ofExcept (contents.specification password heuristic) := by
  cases contents with
  | clear specification =>
      refine ⟨?_, fun _ _ => rfl, ?_⟩
      · intro e he
        cases he
      · intro password he
        cases he
  | sealed ciphertext =>
      refine ⟨?_, ?_, ?_⟩
      · intro e he
        cases he
        simp
      · intro password hne
        exact absurd rfl hne
      · intro password he
        have hk := (ciphertext.faultsIn_unlock password heuristic).lift _ he
        simp [Error.kind, Kind.ofOpened] at hk

theorem Specification.decisive_ofFile (bytes : Bytes) (options : Options) :
    Decisive fun password => .ofExcept (Specification.ofFile bytes password options) := by
  -- the first step does not know the password, so all runs agree on what it finds
  cases hc : Contents.ofFile bytes options.policy with
  | ok contents =>
      have heq (password : Option Bytes) : Specification.ofFile bytes password options =
          contents.specification password options.heuristic := by
        rw [Specification.ofFile_eq_contents, hc]
        rfl
      simp only [heq]
      exact contents.decisive_specification options.heuristic
  | error cause =>
      have heq (password : Option Bytes) :
          Specification.ofFile bytes password options = .error cause := by
        rw [Specification.ofFile_eq_contents, hc]
        rfl
      have hk := Contents.faultsIn_ofFile bytes options.policy cause hc
      simp only [heq]
      refine ⟨?_, fun _ _ => rfl, ?_⟩
      · intro e he hbad
        cases he
        simp [hbad, Kind.ofSealed] at hk
      · intro password he
        cases he
        simp [Error.kind, Kind.ofSealed] at hk

theorem PrivateKey.decisive_ofFile (bytes : Bytes) (options : Options) :
    Decisive fun password => PrivateKey.ofFile bytes password options :=
  (Specification.decisive_ofFile bytes options).bind PrivateKey.faultsIn_ofSpecification

/-- The pass without a password is decisive on every file, for the specification of the key and for
the key itself. -/
theorem password_free_pass_decisive (bytes : Bytes) (options : Options) :
    Decisive (fun password => PrivateKey.ofFile bytes password options) ∧
      Decisive (fun password => .ofExcept (Specification.ofFile bytes password options)) := by
  constructor
  · exact PrivateKey.decisive_ofFile bytes options
  · exact Specification.decisive_ofFile bytes options

end Credential.Key
