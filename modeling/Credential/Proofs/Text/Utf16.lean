import Credential.Proofs.Bytes
import Credential.Text.Utf16

/-!
# UTF-16 is a code

Different texts have different octets in UTF-16 (`encode_injective`). The units of a character tell
where they end, since a surrogate is no character of its own (`units_append_inj`), and so do the two
octets of a unit. Texts written in such words can be told apart word by word (`flatMap_inj`).
-/

namespace Credential.Text.Utf16

/-! ## Words that tell where they end -/

section

variable {α β : Type} {word : α → List β} {Valid : α → Prop}

/-- Lists of letters whose words are not empty and tell where they end are told by their words put
together. -/
theorem flatMap_inj (hne : ∀ a, Valid a → word a ≠ [])
    (hends : ∀ a b xs ys, Valid a → Valid b → word a ++ xs = word b ++ ys → a = b ∧ xs = ys) :
    ∀ as bs : List α, (∀ a ∈ as, Valid a) → (∀ b ∈ bs, Valid b) →
      as.flatMap word = bs.flatMap word → as = bs := by
  intro as
  induction as with
  | nil =>
    intro bs _ hbs h
    cases bs with
    | nil => rfl
    | cons b bs =>
      have hempty : word b ++ bs.flatMap word = [] := h.symm
      exact absurd (List.append_eq_nil_iff.1 hempty).1 (hne b (hbs b List.mem_cons_self))
  | cons a as ih =>
    intro bs has hbs h
    cases bs with
    | nil =>
      have hempty : word a ++ as.flatMap word = [] := h
      exact absurd (List.append_eq_nil_iff.1 hempty).1 (hne a (has a List.mem_cons_self))
    | cons b bs =>
      obtain ⟨hfirst, hothers⟩ := List.forall_mem_cons.1 has
      obtain ⟨hfirst', hothers'⟩ := List.forall_mem_cons.1 hbs
      rw [List.flatMap_cons, List.flatMap_cons] at h
      obtain ⟨rfl, hrest⟩ := hends a b _ _ hfirst hfirst' h
      rw [ih bs hothers hothers' hrest]

end

/-! ## Units -/

theorem toNat_lt (c : Char) : c.toNat < 0x110000 := by
  have hlow : 0xD800 < 0x110000 := by decide
  rcases c.valid with h | h
  · exact Nat.lt_trans h hlow
  · exact h.2

/-- No character stands for a surrogate. -/
theorem not_surrogate (c : Char) : c.toNat < 0xD800 ∨ 0xDFFF < c.toNat := by
  rcases c.valid with h | h
  · exact Or.inl h
  · exact Or.inr h.1

theorem units_ne_nil (c : Char) : units c ≠ [] := by
  unfold units
  dsimp only
  split <;> simp

theorem lt_of_mem_units {c : Char} {unit : Nat} (h : unit ∈ units c) : unit < 0x10000 := by
  have hc := toNat_lt c
  unfold units at h
  dsimp only at h
  split at h
  · next hbasic =>
    rw [List.mem_singleton.1 h]
    exact hbasic
  · simp only [List.mem_cons, List.not_mem_nil, or_false] at h
    rcases h with h | h
    · omega
    · omega

/-- The first unit says whether a second one belongs to the character. -/
theorem units_append_inj {c d : Char} {xs ys : List Nat} (h : units c ++ xs = units d ++ ys) :
    c = d ∧ xs = ys := by
  have hc := toNat_lt c
  have hd := toNat_lt d
  have hcs := not_surrogate c
  have hds := not_surrogate d
  unfold units at h
  dsimp only at h
  split at h <;> split at h <;> simp only [List.cons_append, List.nil_append, List.cons.injEq] at h
  · -- both characters are of the basic plane
    exact ⟨Char.toNat_inj.1 h.1, h.2⟩
  · omega
  · omega
  · -- both have two units, which are the digits of their numbers to the base 1024
    obtain ⟨hhigh, hlow, hrest⟩ := h
    refine ⟨Char.toNat_inj.1 ?_, hrest⟩
    omega

/-! ## Octets -/

theorem bigEndian_append_inj {m n : Nat} {xs ys : Bytes} (hm : m < 0x10000) (hn : n < 0x10000)
    (h : Bytes.bigEndian 2 m ++ xs = Bytes.bigEndian 2 n ++ ys) : m = n ∧ xs = ys := by
  obtain ⟨hunit, hrest⟩ :=
    List.append_inj h (by rw [Bytes.length_bigEndian, Bytes.length_bigEndian])
  have hvalue := congrArg Bytes.toNat hunit
  rw [Bytes.toNat_bigEndian_of_lt hm, Bytes.toNat_bigEndian_of_lt hn] at hvalue
  exact ⟨hvalue, hrest⟩

/-- Different texts have different octets. -/
theorem encode_injective {cs ds : List Char} (h : encode cs = encode ds) : cs = ds := by
  have hunits : cs.flatMap units = ds.flatMap units := by
    refine flatMap_inj (fun unit _ => ?_) (fun _ _ _ _ => bigEndian_append_inj) _ _ ?_ ?_ h
    · intro hnil
      have hlength := congrArg List.length hnil
      rw [Bytes.length_bigEndian] at hlength
      cases hlength
    · intro unit hunit
      obtain ⟨c, -, hc⟩ := List.mem_flatMap.1 hunit
      exact lt_of_mem_units hc
    · intro unit hunit
      obtain ⟨d, -, hd⟩ := List.mem_flatMap.1 hunit
      exact lt_of_mem_units hd
  have hends : ∀ c d xs ys, True → True → units c ++ xs = units d ++ ys → c = d ∧ xs = ys :=
    fun _ _ _ _ _ _ => units_append_inj
  exact flatMap_inj (fun c _ => units_ne_nil c) hends cs ds (fun _ _ => trivial)
    (fun _ _ => trivial) hunits

end Credential.Text.Utf16
