import Credential.Der.ObjectIdentifier

/-!
# Object identifiers are read as they were written

`ofContent_content`: the content octets of an identifier are read as that identifier, if its first
two arcs fit one octet and the others 64 bits. The octets of an arc all but the last one leave the
reader in the middle of the arc, at the value of what was read (`readArcs_arcOctets_pending`).

DER writes the first two arcs as one number, like the others in base 128. The reader takes the first
octet for that number, and a second arc of 40 or more for a part of the first one. So what DER
writes is read back for the identifiers with a smaller second arc and for no others
(`ofContent_standardContent_iff`).
-/

namespace Credential.Der.ObjectIdentifier

/-- The octets of an arc are written in front of what follows. -/
theorem arcOctets_append (n : Nat) (last : Bool) (tail rest : Bytes) :
    arcOctets n last tail ++ rest = arcOctets n last (tail ++ rest) := by
  induction n using Nat.strongRecOn generalizing last tail with
  | ind n ih =>
      unfold arcOctets
      dsimp only
      by_cases hsmall : n < 128
      · rw [if_pos hsmall, if_pos hsmall]
        rfl
      · rw [if_neg hsmall, if_neg hsmall, ih (n / 128) (by omega)]
        rfl

/-- An octet with the high bit set goes on with the arc. -/
theorem readArcs_of_high {b : UInt8} (hb : 128 ≤ b.toNat) (bs : Bytes) {value : Nat}
    (hvalue : value < carryBound) (pending : Bool) :
    readArcs (b :: bs) value pending = readArcs bs (value * 128 + b.toNat % 128) true := by
  have hge : b ≥ 0x80 := UInt8.le_iff_toNat_le.2 hb
  rw [readArcs, if_neg (by omega)]
  exact if_pos hge

/-- An octet without the high bit ends the arc. -/
theorem readArcs_of_low {b : UInt8} (hb : b.toNat < 128) (bs : Bytes) {value : Nat}
    (hvalue : value < carryBound) (pending : Bool) :
    readArcs (b :: bs) value pending =
      (readArcs bs 0 false).map ((value * 128 + b.toNat) :: ·) := by
  have hlt : ¬ b ≥ 0x80 := by
    intro hge
    have hle : 128 ≤ b.toNat := UInt8.le_iff_toNat_le.1 hge
    omega
  have hmod : b.toNat % 128 = b.toNat := Nat.mod_eq_of_lt hb
  rw [readArcs, if_neg (by omega)]
  dsimp only
  rw [if_neg hlt, hmod]

/-- The octets of the high digits of an arc. -/
theorem readArcs_arcOctets_pending {n : Nat} (h : n < carryBound) (tail : Bytes) (pending : Bool) :
    readArcs (arcOctets n false tail) 0 pending = readArcs tail n true := by
  -- digits are written from the last one on, so the induction takes the last one away
  induction n using Nat.strongRecOn generalizing tail with
  | ind n ih =>
      have hoctet : (UInt8.ofNat (n % 128 + 128)).toNat = n % 128 + 128 := by
        rw [UInt8.toNat_ofNat']
        omega
      have hlow : (n % 128 + 128) % 128 = n % 128 := by omega
      unfold arcOctets
      dsimp only
      by_cases hsmall : n < 128
      · rw [if_pos hsmall, if_neg (by decide),
          readArcs_of_high (by rw [hoctet]; omega) _ (by decide), hoctet, hlow]
        congr 1
        omega
      · have hdigits : n / 128 * 128 + n % 128 = n := Nat.div_add_mod' n 128
        rw [if_neg hsmall, if_neg (by decide), ih (n / 128) (by omega) (by omega),
          readArcs_of_high (by rw [hoctet]; omega) _ (by omega), hoctet, hlow, hdigits]

/-- The octets of an arc that fits 64 bits. -/
theorem readArcs_arcOctets {n : Nat} (h : n < Text.Decimal.bound64) (rest : Bytes) :
    readArcs (arcOctets n true rest) 0 false = (readArcs rest 0 false).map (n :: ·) := by
  have hbound : Text.Decimal.bound64 = carryBound * 128 := rfl
  have hoctet : (UInt8.ofNat (n % 128)).toNat = n % 128 := by
    rw [UInt8.toNat_ofNat']
    omega
  unfold arcOctets
  dsimp only
  by_cases hsmall : n < 128
  · have hvalue : 0 * 128 + n % 128 = n := by omega
    rw [if_pos hsmall, if_pos rfl, Nat.add_zero,
      readArcs_of_low (by rw [hoctet]; omega) _ (by decide), hoctet, hvalue]
  · have hhigh : n / 128 < carryBound := by omega
    have hdigits : n / 128 * 128 + n % 128 = n := Nat.div_add_mod' n 128
    rw [if_neg hsmall, if_pos rfl, Nat.add_zero, readArcs_arcOctets_pending hhigh,
      readArcs_of_low (by rw [hoctet]; omega) _ hhigh, hoctet, hdigits]

theorem readArcs_flatMap {arcs : List Nat} (h : ∀ arc ∈ arcs, arc < Text.Decimal.bound64) :
    readArcs (arcs.flatMap fun arc => arcOctets arc true []) 0 false = .ok arcs := by
  induction arcs with
  | nil => rfl
  | cons arc arcs ih =>
      have hrest := ih fun other ho => h other (List.mem_cons_of_mem _ ho)
      rw [List.flatMap_cons, arcOctets_append, List.nil_append,
        readArcs_arcOctets (h arc List.mem_cons_self), hrest]
      rfl

/-- The content octets of an identifier are read as that identifier. -/
theorem ofContent_content {first second : Nat} {arcs : List Nat} (hsecond : second < 40)
    (hfirst : first * 40 + second < 256) (harcs : ∀ arc ∈ arcs, arc < Text.Decimal.bound64) :
    ofContent (content ⟨first :: second :: arcs⟩) = .ok ⟨first :: second :: arcs⟩ := by
  have hoctet : (UInt8.ofNat (first * 40 + second)).toNat = first * 40 + second := by
    rw [UInt8.toNat_ofNat']
    omega
  have hdiv : (first * 40 + second) / 40 = first := by omega
  have hmod : (first * 40 + second) % 40 = second := by omega
  unfold content ofContent
  dsimp only
  rw [readArcs_flatMap harcs, hoctet, hdiv, hmod]
  rfl

/-! ## The content octets of DER -/

/-- An identifier that `content` writes: the first two arcs share an octet and the second one is
below 40, so that they can be told apart, and the other arcs fit 64 bits. -/
def IsWritable (oid : ObjectIdentifier) : Prop :=
  ∃ first second arcs, oid = ⟨first :: second :: arcs⟩ ∧ second < 40 ∧ first * 40 + second < 256 ∧
    ∀ arc ∈ arcs, arc < Text.Decimal.bound64

theorem IsWritable.ofContent {oid : ObjectIdentifier} (h : oid.IsWritable) :
    ObjectIdentifier.ofContent oid.content = .ok oid := by
  obtain ⟨first, second, arcs, rfl, hsecond, hfirst, harcs⟩ := h
  exact ofContent_content hsecond hfirst harcs

/-- The content octets that DER has for an identifier: the first two arcs are one number, which is
written in base 128 like the others. -/
def standardContent (oid : ObjectIdentifier) : Bytes :=
  match oid.arcs with
  | first :: second :: arcs =>
    ((first * 40 + second) :: arcs).flatMap fun arc => arcOctets arc true []
  | _ => []

/-- The octets of the high digits of an arc begin with a high bit. -/
theorem exists_high_arcOctets (n : Nat) (tail : Bytes) :
    ∃ b bs, arcOctets n false tail = b :: bs ∧ 128 ≤ b.toNat := by
  induction n using Nat.strongRecOn generalizing tail with
  | ind n ih =>
      unfold arcOctets
      dsimp only
      by_cases hsmall : n < 128
      · refine ⟨UInt8.ofNat (n % 128 + 128), tail, if_pos hsmall, ?_⟩
        rw [UInt8.toNat_ofNat']
        omega
      · rw [if_neg hsmall]
        exact ih (n / 128) (by omega) _

theorem arcOctets_of_lt {n : Nat} (h : n < 128) : arcOctets n true [] = [UInt8.ofNat n] := by
  have hlow : n % 128 + 0 = n := by omega
  unfold arcOctets
  dsimp only
  rw [if_pos h, if_pos rfl, hlow]

theorem content_eq_standardContent {first second : Nat} (h : first * 40 + second < 128)
    (arcs : List Nat) :
    content ⟨first :: second :: arcs⟩ = standardContent ⟨first :: second :: arcs⟩ := by
  unfold content standardContent
  dsimp only
  rw [List.flatMap_cons, arcOctets_of_lt h]
  rfl

/-- Of the identifiers of DER, those with a second arc below 40 are read as they were written, and
no others: a larger second arc takes the first two arcs over one octet, or reads as another first
arc. -/
theorem ofContent_standardContent_iff {first second : Nat} {arcs : List Nat} (hfirst : first ≤ 2)
    (hsecond : first < 2 → second < 40) (harcs : ∀ arc ∈ arcs, arc < Text.Decimal.bound64) :
    ofContent (standardContent ⟨first :: second :: arcs⟩) = .ok ⟨first :: second :: arcs⟩ ↔
      second < 40 := by
  constructor
  · intro h
    apply Nat.lt_of_not_le
    intro hlarge
    have htwo : first = 2 := by
      rcases Nat.lt_or_ge first 2 with hlt | hge
      · exact absurd (hsecond hlt) (by omega)
      · omega
    -- the first octet is then 120 or more, which is read as a first arc of 3 or more
    obtain ⟨b, bs, hhead, hb⟩ : ∃ b bs, arcOctets (first * 40 + second) true [] = b :: bs ∧
        120 ≤ b.toNat := by
      by_cases hsmall : first * 40 + second < 128
      · refine ⟨_, _, arcOctets_of_lt hsmall, ?_⟩
        rw [UInt8.toNat_ofNat']
        omega
      · obtain ⟨b, bs, hhead, hb⟩ := exists_high_arcOctets ((first * 40 + second) / 128)
          [UInt8.ofNat ((first * 40 + second) % 128 + 0)]
        refine ⟨b, bs, ?_, by omega⟩
        unfold arcOctets
        dsimp only
        rw [if_neg hsmall]
        exact hhead
    unfold standardContent at h
    dsimp only at h
    rw [List.flatMap_cons, hhead, List.cons_append] at h
    unfold ofContent at h
    dsimp only at h
    cases hread : readArcs (bs ++ arcs.flatMap fun arc => arcOctets arc true []) 0 false with
    | error cause =>
        rw [hread] at h
        cases h
    | ok found =>
        rw [hread] at h
        have harc : b.toNat / 40 = first :=
          (List.cons.inj (congrArg ObjectIdentifier.arcs (Except.ok.inj h))).1
        omega
  · intro hsmall
    rw [← content_eq_standardContent (by omega)]
    exact ofContent_content hsmall (by omega) harcs

end Credential.Der.ObjectIdentifier
