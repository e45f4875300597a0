import Credential.Proofs.Der.ObjectIdentifier
import Credential.Proofs.Stages

/-!
# The arcs of an object identifier

The octets after the first one are groups, each of which ends at its only octet without the high
bit, and perhaps the octets of a last group that does not end (`groups`, `unfinished`). The reader
keeps the value of the group it is in, in 64 bits, and refuses an octet that would carry the value
over them. `ofContent_reads_groups` compares it with values that have no bound: an identifier is
read exactly if every group ends and has a value below `2 ^ 64`, and its arcs are these values.

The values of a group grow from octet to octet, so the value before the last octet decides whether
the group overruns (`overruns_iff`), and a group that ends overruns exactly if its value does not
fit 64 bits (`IsGroup.overruns_iff`).
-/

namespace Credential.Der.ObjectIdentifier

open Text.Decimal (bound64)

/-! ## Groups and their values -/

/-- The number that the low seven bits of the octets write after `value`. -/
def base128From (value : Nat) (octets : Bytes) : Nat :=
  octets.foldl (fun value b => value * 128 + b.toNat % 128) value

/-- The number that the low seven bits of the octets write, most significant first. -/
def base128 (octets : Bytes) : Nat := base128From 0 octets

/-- Octets that are cut after every octet without the high bit, and what is left after the last
one. -/
def cut : Bytes → List Bytes × Bytes
  | [] => ([], [])
  | b :: bs =>
    if b.toNat < 128 then ([b] :: (cut bs).1, (cut bs).2)
    else match cut bs with
      | ([], unfinished) => ([], b :: unfinished)
      | (group :: groups, unfinished) => ((b :: group) :: groups, unfinished)

/-- The groups that end. -/
def groups (octets : Bytes) : List Bytes := (cut octets).1

/-- The octets of a last group that does not end. -/
def unfinished (octets : Bytes) : Bytes := (cut octets).2

/-- Octets that go on after a value of `2 ^ 57` or more, which seven more bits carry over 64
bits. -/
def Overruns (group : Bytes) : Prop :=
  ∃ front b back, group = front ++ b :: back ∧ carryBound ≤ base128 front

/-- A group ends at its only octet without the high bit. -/
def IsGroup (octets : Bytes) : Prop :=
  ∃ high last, octets = high ++ [last] ∧ (∀ b ∈ high, 128 ≤ b.toNat) ∧ last.toNat < 128

theorem base128From_append (value : Nat) (front back : Bytes) :
    base128From value (front ++ back) = base128From (base128From value front) back :=
  List.foldl_append

theorem le_base128From (value : Nat) (octets : Bytes) : value ≤ base128From value octets := by
  induction octets generalizing value with
  | nil => exact Nat.le_refl _
  | cons b bs ih =>
      have hstep := ih (value * 128 + b.toNat % 128)
      exact Nat.le_trans (by omega) hstep

theorem base128_nil : base128 [] = 0 := rfl

theorem base128_singleton (b : UInt8) : base128 [b] = b.toNat % 128 := by
  unfold base128 base128From
  rw [List.foldl_cons, List.foldl_nil]
  omega

theorem base128_concat (octets : Bytes) (b : UInt8) :
    base128 (octets ++ [b]) = base128 octets * 128 + b.toNat % 128 :=
  base128From_append 0 octets [b]

/-- The groups and the rest are all of the octets, in order. -/
theorem flatten_groups_append_unfinished (octets : Bytes) :
    (groups octets).flatten ++ unfinished octets = octets := by
  unfold groups unfinished
  induction octets with
  | nil => rfl
  | cons b bs ih =>
      rw [cut]
      split
      · rw [List.flatten_cons, List.append_assoc, ih]
        rfl
      · split
        · next rest hcut =>
            rw [hcut] at ih
            exact congrArg (b :: ·) ih
        · next group others rest hcut =>
            rw [hcut] at ih
            exact congrArg (b :: ·) ih

theorem isGroup_of_mem_groups (octets : Bytes) : ∀ group ∈ groups octets, IsGroup group := by
  unfold groups
  induction octets with
  | nil => exact fun group hgroup => by cases hgroup
  | cons b bs ih =>
      rw [cut]
      split
      · next hlow =>
          exact List.forall_mem_cons.2 ⟨⟨[], b, rfl, List.forall_mem_nil _, hlow⟩, ih⟩
      · next hhigh =>
          split
          · exact List.forall_mem_nil _
          · next group others rest hcut =>
              rw [hcut] at ih
              obtain ⟨⟨high, last, rfl, hhighs, hlast⟩, hothers⟩ := List.forall_mem_cons.1 ih
              refine List.forall_mem_cons.2 ⟨⟨b :: high, last, rfl, ?_, hlast⟩, hothers⟩
              exact List.forall_mem_cons.2 ⟨Nat.le_of_not_lt hhigh, hhighs⟩

theorem high_of_mem_unfinished (octets : Bytes) : ∀ b ∈ unfinished octets, 128 ≤ b.toNat := by
  unfold unfinished
  induction octets with
  | nil => exact fun b hb => by cases hb
  | cons b bs ih =>
      rw [cut]
      split
      · exact ih
      · next hhigh =>
          split
          · next rest hcut =>
              rw [hcut] at ih
              exact List.forall_mem_cons.2 ⟨Nat.le_of_not_lt hhigh, ih⟩
          · next group others rest hcut =>
              rw [hcut] at ih
              exact ih

/-- The value before the last octet is the largest one after which the octets go on. -/
theorem overruns_iff {octets : Bytes} :
    Overruns octets ↔ carryBound ≤ base128 octets.dropLast := by
  constructor
  · rintro ⟨front, c, back, rfl, hvalue⟩
    have hle := le_base128From (base128 front) (c :: back).dropLast
    rw [List.dropLast_append_of_ne_nil (List.cons_ne_nil c back), base128, base128From_append]
    exact Nat.le_trans hvalue hle
  · intro hvalue
    have hne : octets ≠ [] := by
      rintro rfl
      exact absurd hvalue (by decide)
    exact ⟨_, _, [], (List.dropLast_concat_getLast hne).symm, hvalue⟩

instance : DecidablePred Overruns := fun _ => decidable_of_iff _ overruns_iff.symm

/-- A group that ends goes on too long exactly if its value does not fit 64 bits. -/
theorem IsGroup.overruns_iff {group : Bytes} (h : IsGroup group) :
    Overruns group ↔ ¬ base128 group < bound64 := by
  obtain ⟨high, last, rfl, -, hlast⟩ := h
  have hbound : bound64 = carryBound * 128 := rfl
  rw [ObjectIdentifier.overruns_iff, List.dropLast_concat, base128_concat, hbound]
  omega

/-! ## Reading groups -/

/-- Octets with the high bit are read into the value, as long as one more octet may follow it. -/
theorem readArcs_high_append {high : Bytes} (hhigh : ∀ b ∈ high, 128 ≤ b.toNat) (b : UInt8)
    (rest : Bytes) (value : Nat) (pending : Bool) :
    readArcs (high ++ b :: rest) value pending =
      if carryBound ≤ base128From value high then .error .identifierArcOverflow
      else readArcs (b :: rest) (base128From value high) true := by
  induction high generalizing value pending with
  | nil =>
      have hempty : base128From value [] = value := rfl
      rw [List.nil_append, hempty, readArcs]
      by_cases hvalue : carryBound ≤ value
      · rw [if_pos hvalue, if_pos hvalue]
      · rw [if_neg hvalue, if_neg hvalue, readArcs, if_neg hvalue]
  | cons c high ih =>
      obtain ⟨hc, hothers⟩ := List.forall_mem_cons.1 hhigh
      by_cases hvalue : carryBound ≤ value
      · have hlater : carryBound ≤ base128From value (c :: high) :=
          Nat.le_trans hvalue (le_base128From value _)
        rw [if_pos hlater, List.cons_append, readArcs, if_pos hvalue]
      · rw [List.cons_append, readArcs_of_high hc _ (Nat.lt_of_not_le hvalue), ih hothers]
        rfl

/-- A group is one arc, unless it goes on too long. -/
theorem IsGroup.readArcs_append {group : Bytes} (h : IsGroup group) (rest : Bytes) :
    readArcs (group ++ rest) 0 false =
      if bound64 ≤ base128 group then .error .identifierArcOverflow
      else (readArcs rest 0 false).map (base128 group :: ·) := by
  have hoverruns := h.overruns_iff
  obtain ⟨high, last, rfl, hhigh, hlast⟩ := h
  rw [ObjectIdentifier.overruns_iff, List.dropLast_concat, Nat.not_lt] at hoverruns
  rw [List.append_assoc, List.singleton_append, readArcs_high_append hhigh]
  by_cases hvalue : carryBound ≤ base128 high
  · rw [if_pos (hoverruns.1 hvalue)]
    exact if_pos hvalue
  · have hread := readArcs_of_low hlast rest (Nat.lt_of_not_le hvalue) true
    rw [if_neg fun hlarge => hvalue (hoverruns.2 hlarge), base128_concat, Nat.mod_eq_of_lt hlast,
      ← hread]
    exact if_neg hvalue

/-- Octets of a group that does not end are no arc. -/
theorem readArcs_of_high_all {octets : Bytes} (hhigh : ∀ b ∈ octets, 128 ≤ b.toNat) :
    readArcs octets 0 false =
      if Overruns octets then .error .identifierArcOverflow
      else if octets = [] then .ok [] else .error .identifierIncomplete := by
  by_cases hempty : octets = []
  · rw [hempty]
    rfl
  · obtain ⟨front, last, rfl⟩ : ∃ front last, octets = front ++ [last] :=
      ⟨_, _, (List.dropLast_concat_getLast hempty).symm⟩
    have hfront : ∀ b ∈ front, 128 ≤ b.toNat := fun b hb => hhigh b (List.mem_append_left _ hb)
    have hlast : 128 ≤ last.toNat := hhigh last (by simp)
    rw [readArcs_high_append hfront, if_neg hempty]
    simp only [overruns_iff, List.dropLast_concat]
    by_cases hvalue : carryBound ≤ base128 front
    · rw [if_pos hvalue]
      exact if_pos hvalue
    · have hread := readArcs_of_high hlast [] (Nat.lt_of_not_le hvalue) true
      rw [if_neg hvalue]
      exact (if_neg hvalue).trans hread

/-- Groups are read one after the other, and then the octets of a group that does not end. -/
theorem readArcs_flatten_append {gs : List Bytes} (hgs : ∀ group ∈ gs, IsGroup group) {rest : Bytes}
    (hrest : ∀ b ∈ rest, 128 ≤ b.toNat) :
    readArcs (gs.flatten ++ rest) 0 false =
      if ∃ group ∈ gs ++ [rest], Overruns group then .error .identifierArcOverflow
      else if rest = [] then .ok (gs.map base128) else .error .identifierIncomplete := by
  induction gs with
  | nil =>
      rw [List.flatten_nil, List.nil_append, readArcs_of_high_all hrest]
      simp only [List.nil_append, List.mem_singleton, exists_eq_left, List.map_nil]
  | cons group gs ih =>
      obtain ⟨hgroup, hothers⟩ := List.forall_mem_cons.1 hgs
      rw [List.flatten_cons, List.append_assoc, hgroup.readArcs_append, ih hothers]
      simp only [List.cons_append, List.mem_cons, exists_eq_or_imp, hgroup.overruns_iff, Nat.not_lt]
      by_cases hlarge : bound64 ≤ base128 group
      · rw [if_pos hlarge, if_pos (Or.inl hlarge)]
      · rw [if_neg hlarge]
        simp only [hlarge, false_or]
        split
        · rfl
        · split <;> rfl

/-- The octets after the first one, in terms of values without a bound. -/
theorem readArcs_eq (octets : Bytes) :
    readArcs octets 0 false =
      if ∃ group ∈ groups octets ++ [unfinished octets], Overruns group then
        .error .identifierArcOverflow
      else if unfinished octets = [] then .ok ((groups octets).map base128)
      else .error .identifierIncomplete := by
  have hread :=
    readArcs_flatten_append (isGroup_of_mem_groups octets) (high_of_mem_unfinished octets)
  rwa [flatten_groups_append_unfinished] at hread

/-- Whole groups of which none goes on too long have values that fit 64 bits. -/
theorem not_overruns_iff {octets : Bytes} (h : unfinished octets = []) :
    (¬ ∃ group ∈ groups octets ++ [unfinished octets], Overruns group) ↔
      ∀ group ∈ groups octets, base128 group < bound64 := by
  have hnil : ¬ Overruns [] := by decide
  have hgroup : ∀ group ∈ groups octets, ¬ Overruns group ↔ base128 group < bound64 := by
    intro group hmem
    rw [(isGroup_of_mem_groups octets group hmem).overruns_iff, Decidable.not_not]
  constructor
  · intro hnone group hmem
    exact (hgroup group hmem).1 fun hlong => hnone ⟨group, List.mem_append_left _ hmem, hlong⟩
  · rintro hfits ⟨group, hmem, hlong⟩
    rcases List.mem_append.1 hmem with hmem | hmem
    · exact (hgroup group hmem).2 (hfits group hmem) hlong
    · rw [List.mem_singleton.1 hmem, h] at hlong
      exact hnil hlong

theorem readArcs_eq_ok_iff {octets : Bytes} {arcs : List Nat} :
    readArcs octets 0 false = .ok arcs ↔
      unfinished octets = [] ∧ (∀ group ∈ groups octets, base128 group < bound64) ∧
        arcs = (groups octets).map base128 := by
  rw [readArcs_eq]
  constructor
  · intro h
    split at h
    · cases h
    · next hnone =>
        split at h
        · next hend => exact ⟨hend, (not_overruns_iff hend).1 hnone, (Except.ok.inj h).symm⟩
        · cases h
  · rintro ⟨hend, hfits, rfl⟩
    rw [if_neg ((not_overruns_iff hend).2 hfits), if_pos hend]

/-! ## The shortest group of an arc -/

/-- A group that is no longer than any other group of its value. -/
def IsShortest (group : Bytes) : Prop :=
  IsGroup group ∧
    ∀ other, IsGroup other → base128 other = base128 group → group.length ≤ other.length

/-- Octets of a value of more than one digit have the other digits before the last octet. -/
theorem exists_front_of_base128 {octets : Bytes} {n : Nat} (hne : octets ≠ [])
    (h : base128 octets = n) (hlarge : ¬ n < 128) :
    ∃ front b, octets = front ++ [b] ∧ base128 front = n / 128 ∧ front ≠ [] := by
  obtain ⟨front, b, rfl⟩ : ∃ front b, octets = front ++ [b] :=
    ⟨_, _, (List.dropLast_concat_getLast hne).symm⟩
  rw [base128_concat] at h
  have hfront : base128 front = n / 128 := by omega
  refine ⟨front, b, rfl, hfront, ?_⟩
  rintro rfl
  rw [base128_nil] at hfront
  omega

/-- The octets of the high digits of a number, of which there are no more than in any other octets
of its value. -/
theorem exists_high_digits (n : Nat) (tail : Bytes) :
    ∃ high, arcOctets n false tail = high ++ tail ∧ (∀ b ∈ high, 128 ≤ b.toNat) ∧ base128 high = n ∧
      ∀ octets, octets ≠ [] → base128 octets = n → high.length ≤ octets.length := by
  -- digits are written from the last one on, so the induction takes the last one away
  induction n using Nat.strongRecOn generalizing tail with
  | ind n ih =>
      have hoctet : (UInt8.ofNat (n % 128 + 128)).toNat = n % 128 + 128 := by
        rw [UInt8.toNat_ofNat']
        omega
      unfold arcOctets
      dsimp only
      by_cases hsmall : n < 128
      · have hvalue : base128 [UInt8.ofNat (n % 128 + 128)] = n := by
          rw [base128_singleton, hoctet]
          omega
        rw [if_pos hsmall, if_neg (by decide)]
        refine ⟨[UInt8.ofNat (n % 128 + 128)], rfl, ?_, hvalue, fun octets hne _ => ?_⟩
        · rw [List.forall_mem_singleton, hoctet]
          omega
        · exact List.length_pos_iff.2 hne
      · obtain ⟨high, hwritten, hhigh, hvalue, hshortest⟩ :=
          ih (n / 128) (by omega) (UInt8.ofNat (n % 128 + 128) :: tail)
        rw [if_neg hsmall, if_neg (by decide), hwritten]
        refine ⟨high ++ [UInt8.ofNat (n % 128 + 128)], by simp, ?_, ?_, fun octets hne hsame => ?_⟩
        · rw [List.forall_mem_append, List.forall_mem_singleton, hoctet]
          exact ⟨hhigh, by omega⟩
        · rw [base128_concat, hvalue, hoctet]
          omega
        · obtain ⟨front, b, rfl, hfront, hfrontNe⟩ := exists_front_of_base128 hne hsame hsmall
          have hle := hshortest front hfrontNe hfront
          rw [List.length_append, List.length_append]
          exact Nat.add_le_add_right hle _

/-- The octets of an arc are its shortest group. -/
theorem arcOctets_isShortest (n : Nat) :
    IsShortest (arcOctets n true []) ∧ base128 (arcOctets n true []) = n := by
  have hne {other : Bytes} (h : IsGroup other) : other ≠ [] := by
    obtain ⟨high, last, rfl, -⟩ := h
    simp
  by_cases hsmall : n < 128
  · have hoctet : (UInt8.ofNat n).toNat = n := by
      rw [UInt8.toNat_ofNat']
      omega
    have hvalue : base128 [UInt8.ofNat n] = n := by
      rw [base128_singleton, hoctet]
      omega
    rw [arcOctets_of_lt hsmall]
    refine ⟨⟨⟨[], UInt8.ofNat n, rfl, List.forall_mem_nil _, by omega⟩, fun other hother _ => ?_⟩,
      hvalue⟩
    exact List.length_pos_iff.2 (hne hother)
  · obtain ⟨high, hwritten, hhigh, hvalue, hshortest⟩ :=
      exists_high_digits (n / 128) [UInt8.ofNat (n % 128)]
    have hoctet : (UInt8.ofNat (n % 128)).toNat = n % 128 := by
      rw [UInt8.toNat_ofNat']
      omega
    have hgroup : arcOctets n true [] = high ++ [UInt8.ofNat (n % 128)] := by
      unfold arcOctets
      dsimp only
      rw [if_neg hsmall, if_pos rfl]
      exact hwritten
    have hbase : base128 (high ++ [UInt8.ofNat (n % 128)]) = n := by
      rw [base128_concat, hvalue, hoctet]
      omega
    rw [hgroup]
    refine ⟨⟨⟨high, _, rfl, hhigh, by omega⟩, fun other hother hsame => ?_⟩, hbase⟩
    obtain ⟨front, b, rfl, hfront, hfrontNe⟩ :=
      exists_front_of_base128 (hne hother) (hsame.trans hbase) hsmall
    have hle := hshortest front hfrontNe hfront
    rw [List.length_append, List.length_append]
    exact Nat.add_le_add_right hle _

/-! ## Content octets -/

/-- What the content octets of an identifier are read as. The octets after the first one are an
identifier exactly if they are whole groups with values below `2 ^ 64`, and then its arcs after the
first two are these values. A group that goes on after a value of `2 ^ 57` is reported in any case,
and if there is none, a group that does not end. So the content octets of an identifier, which have
the shortest group for every arc, are read as that identifier. -/
theorem ofContent_reads_groups :
    ofContent [] = .error .identifierEmpty ∧
    (∀ (b : UInt8) (bs : Bytes),
      (∀ oid, ofContent (b :: bs) = .ok oid ↔
        unfinished bs = [] ∧ (∀ group ∈ groups bs, base128 group < bound64) ∧
          oid.arcs = b.toNat / 40 :: b.toNat % 40 :: (groups bs).map base128) ∧
      (ofContent (b :: bs) = .error .identifierArcOverflow ↔
        ∃ group ∈ groups bs ++ [unfinished bs], Overruns group) ∧
      (ofContent (b :: bs) = .error .identifierIncomplete ↔
        (∃ e, ofContent (b :: bs) = .error e) ∧
          ¬ ∃ group ∈ groups bs ++ [unfinished bs], Overruns group)) ∧
    ∀ first second arcs, second < 40 → 40 * first + second ≤ 255 →
      (∀ arc ∈ arcs, arc < bound64) →
      content ⟨first :: second :: arcs⟩ =
          UInt8.ofNat (40 * first + second) :: (arcs.map (arcOctets · true [])).flatten ∧
        (∀ arc ∈ arcs, IsShortest (arcOctets arc true []) ∧ base128 (arcOctets arc true []) = arc) ∧
        ofContent (content ⟨first :: second :: arcs⟩) = .ok ⟨first :: second :: arcs⟩ := by
  refine ⟨rfl, fun b bs => ⟨fun oid => ?_, ?_, ?_⟩,
    fun first second arcs hsecond hfirst harcs => ⟨?_, fun arc _ => arcOctets_isShortest arc, ?_⟩⟩
  · unfold ofContent
    dsimp only
    rw [map_eq_ok_iff]
    constructor
    · rintro ⟨arcs, harcs, rfl⟩
      obtain ⟨hend, hfits, rfl⟩ := readArcs_eq_ok_iff.1 harcs
      exact ⟨hend, hfits, rfl⟩
    · rintro ⟨hend, hfits, harcs⟩
      exact ⟨_, readArcs_eq_ok_iff.2 ⟨hend, hfits, rfl⟩, congrArg ObjectIdentifier.mk harcs.symm⟩
  · unfold ofContent
    dsimp only
    rw [readArcs_eq]
    split
    · next hlong => exact iff_of_true rfl hlong
    · next hshort => split <;> exact iff_of_false (fun h => by cases h) hshort
  · unfold ofContent
    dsimp only
    rw [readArcs_eq]
    split
    · next hlong => exact iff_of_false (fun h => by cases h) fun h => h.2 hlong
    · next hshort =>
        split
        · refine iff_of_false (fun h => by cases h) ?_
          rintro ⟨⟨e, he⟩, -⟩
          cases he
        · exact iff_of_true rfl ⟨⟨_, rfl⟩, hshort⟩
  · unfold content
    dsimp only
    rw [Nat.mul_comm first 40, List.flatMap_def]
  · exact ofContent_content hsecond (by omega) harcs

/-- The largest first octet and the largest arc. -/
theorem ofContent_reads_groups_largest :
    (15 < 40 ∧ 40 * 6 + 15 ≤ 255 ∧ ∀ arc ∈ [bound64 - 1, 0], arc < bound64) ∧
      ofContent (content ⟨[6, 15, bound64 - 1, 0]⟩) = .ok ⟨[6, 15, bound64 - 1, 0]⟩ :=
  have harcs : ∀ arc ∈ [bound64 - 1, 0], arc < bound64 := by decide
  ⟨⟨by decide, by decide, harcs⟩,
    (ofContent_reads_groups.2.2 6 15 [bound64 - 1, 0] (by decide) (by decide) harcs).2.2⟩

end Credential.Der.ObjectIdentifier
