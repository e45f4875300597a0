import Credential.Proofs.Text.Base64

/-!
# Base64 reads only what it writes

`decodeOctets_eq_ok_iff`: a text is read as a byte string if and only if it is what the byte string
is written as, so no two texts are read as the same one. A last group that is read is made of
symbols and of padding that fills it up to four (`isLastGroup_of_decodeLast`), and the spare bits of
its last symbol are zero.
-/

namespace Credential.Text.Base64

/-! ## Symbols -/

/-- An octet with a value is the symbol of that value. -/
theorem symbol_of_value? {b : UInt8} {v : Nat} (h : value? b = some v) : v < 64 ∧ symbol v = b := by
  have hall : ∀ n < 256, ((value? (UInt8.ofNat n)).all fun w =>
      decide (w < 64) && symbol w == UInt8.ofNat n) = true := by
    decide +kernel
  have hb := hall b.toNat b.toNat_lt
  rw [UInt8.ofNat_toNat, h] at hb
  simpa using hb

/-- Values below 64 are those of the octets that they make up. -/
theorem values_of_octets {v w x y : Nat} (hv : v < 64) (hw : w < 64) (hx : x < 64) (hy : y < 64) :
    (UInt8.ofNat (v * 4 + w / 16)).toNat = v * 4 + w / 16 ∧
      (UInt8.ofNat (w % 16 * 16 + x / 4)).toNat = w % 16 * 16 + x / 4 ∧
      (UInt8.ofNat (x % 4 * 64 + y)).toNat = x % 4 * 64 + y := by
  refine ⟨?_, ?_, ?_⟩ <;> rw [UInt8.toNat_ofNat'] <;> omega

theorem encodeOctets_three {v w x y : Nat} (hv : v < 64) (hw : w < 64) (hx : x < 64) (hy : y < 64)
    (rest : Bytes) :
    encodeOctets (UInt8.ofNat (v * 4 + w / 16) :: UInt8.ofNat (w % 16 * 16 + x / 4) ::
        UInt8.ofNat (x % 4 * 64 + y) :: rest) =
      symbol v :: symbol w :: symbol x :: symbol y :: encodeOctets rest := by
  obtain ⟨h1, h2, h3⟩ := values_of_octets hv hw hx hy
  have hfirst : (v * 4 + w / 16) / 4 = v := by omega
  have hsecond : (v * 4 + w / 16) % 4 * 16 + (w % 16 * 16 + x / 4) / 16 = w := by omega
  have hthird : (w % 16 * 16 + x / 4) % 16 * 4 + (x % 4 * 64 + y) / 64 = x := by omega
  have hfourth : (x % 4 * 64 + y) % 64 = y := by omega
  rw [encodeOctets, h1, h2, h3, hfirst, hsecond, hthird, hfourth]

theorem encodeOctets_two {v w x : Nat} (hv : v < 64) (hw : w < 64) (hx : x < 64)
    (hfull : x % 4 = 0) :
    encodeOctets [UInt8.ofNat (v * 4 + w / 16), UInt8.ofNat (w % 16 * 16 + x / 4)] =
      [symbol v, symbol w, symbol x, pad] := by
  obtain ⟨h1, h2, -⟩ := values_of_octets hv hw hx hx
  have hfirst : (v * 4 + w / 16) / 4 = v := by omega
  have hsecond : (v * 4 + w / 16) % 4 * 16 + (w % 16 * 16 + x / 4) / 16 = w := by omega
  have hthird : (w % 16 * 16 + x / 4) % 16 * 4 = x := by omega
  rw [encodeOctets, h1, h2, hfirst, hsecond, hthird]

theorem encodeOctets_one {v w : Nat} (hv : v < 64) (hw : w < 64) (hfull : w % 16 = 0) :
    encodeOctets [UInt8.ofNat (v * 4 + w / 16)] = [symbol v, symbol w, pad, pad] := by
  obtain ⟨h1, -, -⟩ := values_of_octets hv hw hw hw
  have hfirst : (v * 4 + w / 16) / 4 = v := by omega
  have hsecond : (v * 4 + w / 16) % 4 * 16 = w := by omega
  rw [encodeOctets, h1, hfirst, hsecond]

/-! ## Groups -/

/-- A group that is read is written the same. -/
theorem encodeOctets_of_decodeGroup {offset : Nat} {a b c d : UInt8} {octets : Bytes}
    (h : decodeGroup offset a b c d = .ok octets) (rest : Bytes) :
    encodeOctets (octets ++ rest) = a :: b :: c :: d :: encodeOctets rest := by
  unfold decodeGroup at h
  cases ha : value? a with
  | none => simp [ha] at h
  | some v =>
      cases hb : value? b with
      | none => simp [ha, hb] at h
      | some w =>
          cases hc : value? c with
          | none => simp [ha, hb, hc] at h
          | some x =>
              cases hd : value? d with
              | none => simp [ha, hb, hc, hd] at h
              | some y =>
                  simp only [ha, hb, hc, hd, Except.ok.injEq] at h
                  subst h
                  obtain ⟨hv, rfl⟩ := symbol_of_value? ha
                  obtain ⟨hw, rfl⟩ := symbol_of_value? hb
                  obtain ⟨hx, rfl⟩ := symbol_of_value? hc
                  obtain ⟨hy, rfl⟩ := symbol_of_value? hd
                  exact encodeOctets_three hv hw hx hy rest

/-- The octets of a last group are written as its symbols and padding. -/
theorem encodeOctets_of_lastOctets {last : UInt8} {offset : Nat} {values : List Nat}
    {octets : Bytes} (h : lastOctets last offset values = .ok octets)
    (hvalues : ∀ v ∈ values, v < 64) (hfew : 2 ≤ values.length) (hle : values.length ≤ 4) :
    encodeOctets octets = values.map symbol ++ List.replicate (4 - values.length) pad := by
  match values with
  | [v, w] =>
      have hv : v < 64 := hvalues v (by simp)
      have hw : w < 64 := hvalues w (by simp)
      rw [lastOctets] at h
      split at h
      · next hfull =>
          cases h
          exact encodeOctets_one hv hw hfull
      · cases h
  | [v, w, x] =>
      have hv : v < 64 := hvalues v (by simp)
      have hw : w < 64 := hvalues w (by simp)
      have hx : x < 64 := hvalues x (by simp)
      rw [lastOctets] at h
      split at h
      · next hfull =>
          cases h
          exact encodeOctets_two hv hw hx hfull
      · cases h
  | [v, w, x, y] =>
      have hv : v < 64 := hvalues v (by simp)
      have hw : w < 64 := hvalues w (by simp)
      have hx : x < 64 := hvalues x (by simp)
      have hy : y < 64 := hvalues y (by simp)
      cases h
      exact encodeOctets_three hv hw hx hy []
  | [] => simp at hfew
  | [_] => simp at hfew
  | _ :: _ :: _ :: _ :: _ :: _ =>
      simp only [List.length_cons] at hle
      omega

/-- A last group after the symbols of `values` and some padding: the symbols of more values and
more padding, which fill up groups of four. -/
def IsLastGroup (values : List Nat) (pads : Nat) (text octets : Bytes) : Prop :=
  ∃ more fill last offset, text = more.map symbol ++ List.replicate fill pad ∧
    (∀ v ∈ more, v < 64) ∧ 2 ≤ (values ++ more).length ∧
    ((values ++ more).length + (pads + fill)) % 4 = 0 ∧ (pads ≠ 0 → more = []) ∧
    lastOctets last offset (values ++ more) = .ok octets

theorem isLastGroup_of_decodeLast {offset : Nat} {values : List Nat} {last : UInt8} {pads : Nat}
    {text octets : Bytes} (h : decodeLast offset values last pads text = .ok octets) :
    IsLastGroup values pads text octets := by
  -- the induction is on the text, with the values and the padding that were read before it
  induction text generalizing values last pads with
  | nil =>
      rw [decodeLast] at h
      split at h
      · cases h
      · split at h
        · cases h
        · refine ⟨[], 0, last, offset + values.length - 1, rfl, ?_, ?_, ?_, fun _ => rfl, ?_⟩
          · intro v hv
            cases hv
          · simp only [List.append_nil]
            omega
          · simp only [List.append_nil]
            omega
          · simp only [List.append_nil]
            exact h
  | cons b text ih =>
      rw [decodeLast] at h
      split at h
      · next hpad =>
          -- padding is counted, and nothing but padding follows it
          subst hpad
          split at h
          · cases h
          · obtain ⟨more, fill, last', offset', rfl, hlt, hfew, hwhole, hnone, hread⟩ := ih h
            obtain rfl := hnone (Nat.succ_ne_zero pads)
            refine ⟨[], fill + 1, last', offset', rfl, hlt, hfew, ?_, fun _ => rfl, hread⟩
            omega
      · split at h
        · cases h
        · next hpads =>
            have hzero : pads = 0 := by omega
            subst hzero
            cases hb : value? b with
            | none => simp [hb] at h
            | some v =>
                rw [hb] at h
                obtain ⟨hv, rfl⟩ := symbol_of_value? hb
                obtain ⟨more, fill, last', offset', rfl, hlt, hfew, hwhole, -, hread⟩ := ih h
                rw [List.append_assoc, List.singleton_append] at hfew hwhole hread
                refine ⟨v :: more, fill, last', offset', rfl, ?_, hfew, hwhole, ?_, hread⟩
                · intro u hu
                  rcases List.mem_cons.1 hu with rfl | hu
                  · exact hv
                  · exact hlt u hu
                · intro hne
                  exact absurd rfl hne

/-- A text of at most one group is what its octets are written as. -/
theorem encodeOctets_of_decodeLast {offset : Nat} {text octets : Bytes}
    (h : decodeLast offset [] pad 0 text = .ok octets) (hle : text.length ≤ 4) :
    encodeOctets octets = text := by
  obtain ⟨values, fill, last, offset', rfl, hlt, hfew, hwhole, -, hread⟩ :=
    isLastGroup_of_decodeLast h
  rw [List.nil_append] at hfew hwhole hread
  rw [List.length_append, List.length_map, List.length_replicate] at hle
  -- between one and four symbols and their padding are exactly four
  have hfill : 4 - values.length = fill := by omega
  rw [encodeOctets_of_lastOctets hread hlt hfew (by omega), hfill]

/-! ## Texts -/

theorem encodeOctets_of_decodeGroups {offset : Nat} {text octets : Bytes}
    (h : decodeGroups offset text = .ok octets) : encodeOctets octets = text := by
  induction offset, text using decodeGroups.induct generalizing octets with
  | case1 offset a b c d e rest ih =>
      rw [decodeGroups] at h
      cases hgroup : decodeGroup offset a b c d with
      | error cause => simp [hgroup, bind, Except.bind] at h
      | ok first =>
          cases hothers : decodeGroups (offset + 4) (e :: rest) with
          | error cause => simp [hgroup, hothers, bind, Except.bind] at h
          | ok others =>
              simp only [hgroup, hothers, bind, Except.bind, pure, Except.pure,
                Except.ok.injEq] at h
              rw [← h, encodeOctets_of_decodeGroup hgroup, ih hothers]
  | case2 offset =>
      cases h
      rfl
  | case3 offset last hshort hne =>
      have hle : last.length ≤ 4 := by
        rcases last with _ | ⟨a, _ | ⟨b, _ | ⟨c, _ | ⟨d, _ | ⟨e, rest⟩⟩⟩⟩⟩
        · exact absurd rfl hne
        · exact Nat.le_add_left 1 3
        · exact Nat.le_add_left 2 2
        · exact Nat.le_add_left 3 1
        · exact Nat.le_refl 4
        · exact absurd rfl (hshort a b c d e rest)
      rw [decodeGroups_last offset hne hle] at h
      exact encodeOctets_of_decodeLast h hle

/-- A text is read as a byte string if and only if it is what the byte string is written as. -/
theorem decodeOctets_eq_ok_iff {text octets : Bytes} :
    decodeOctets text = .ok octets ↔ text = encodeOctets octets := by
  constructor
  · intro h
    unfold decodeOctets at h
    split at h
    · cases h
    · exact (encodeOctets_of_decodeGroups h).symm
  · rintro rfl
    exact decodeOctets_encodeOctets octets

end Credential.Text.Base64
