import Credential.Cipher.Mode
import Credential.Proofs.Bytes

/-!
# Modes of operation decipher what they enciphered

Each direction of a mode is a `Chaining`: what it writes for a block and what it hands on to the
next one, both from the block and from what it was handed. If one step of a chaining undoes one step
of another (`Undoes`), then the runs do so on texts of every length (`Undoes.run_run`). The four
modes undo their steps (`Mode.undoes`), so `Mode.decrypt_encrypt` holds for every lawful block
cipher.
-/

namespace Credential.Cipher

/-- A block cipher whose two directions are inverse on blocks. -/
structure Block.Lawful (cipher : Block) : Prop where
  size_pos : 0 < cipher.size
  length_encrypt : ∀ block, block.length = cipher.size → (cipher.encrypt block).length = cipher.size
  decrypt_encrypt : ∀ block, block.length = cipher.size →
    cipher.decrypt (cipher.encrypt block) = block

/-! ## Chainings -/

/-- One step of a mode, from what the step before handed on and a block. -/
structure Chaining where
  output : (previous block : Bytes) → Bytes
  next : (previous block : Bytes) → Bytes

namespace Chaining

/-- The steps of a chaining over blocks. -/
def run (chaining : Chaining) : (previous : Bytes) → List Bytes → Bytes
  | _, [] => []
  | previous, block :: rest =>
    chaining.output previous block ++ chaining.run (chaining.next previous block) rest

theorem run_nil (chaining : Chaining) (previous : Bytes) : chaining.run previous [] = [] := rfl

theorem run_cons (chaining : Chaining) (previous block : Bytes) (rest : List Bytes) :
    chaining.run previous (block :: rest) =
      chaining.output previous block ++ chaining.run (chaining.next previous block) rest := rfl

/-- A function that takes the steps of a chaining is its run. -/
theorem eq_run (chaining : Chaining) {f : Bytes → List Bytes → Bytes}
    (hnil : ∀ previous, f previous [] = [])
    (hcons : ∀ previous block rest, f previous (block :: rest) =
      chaining.output previous block ++ f (chaining.next previous block) rest)
    (previous : Bytes) (blocks : List Bytes) :
    f previous blocks = chaining.run previous blocks := by
  induction blocks generalizing previous with
  | nil => exact hnil previous
  | cons block rest ih => rw [hcons, ih, run_cons]

/-- One step undoes another on blocks of at most `size` octets, and on such blocks only as `Input`
admits, after anything of which `Handed` holds. -/
structure Undoes (size : Nat) (Handed Input : Bytes → Prop) (forth back : Chaining) : Prop where
  length_output : ∀ previous block, Handed previous → Input block → block.length ≤ size →
    (forth.output previous block).length = block.length
  output : ∀ previous block, Handed previous → Input block → block.length ≤ size →
    back.output previous (forth.output previous block) = block
  next : ∀ previous block, back.next previous (forth.output previous block) =
    forth.next previous block
  handed : ∀ previous block, Handed previous → block.length = size →
    Handed (forth.next previous block)

variable {size : Nat} {Handed Input : Bytes → Prop} {forth back : Chaining}

/-- What the forward run writes is the output for the first block and the rest of the run. -/
theorem run_blocks (hsize : 0 < size) (chaining : Chaining) (previous : Bytes) {text : Bytes}
    (htext : text ≠ []) :
    chaining.run previous (Bytes.blocks size text) =
      chaining.output previous (text.take size) ++
        chaining.run (chaining.next previous (text.take size))
          (Bytes.blocks size (text.drop size)) := by
  rw [Bytes.blocks_of_ne_nil hsize htext, run_cons]

/-- A text of which each block is admitted. -/
def Admits (size : Nat) (Input : Bytes → Prop) (text : Bytes) : Prop :=
  ∀ block ∈ Bytes.blocks size text, Input block

theorem Admits.take_drop (hsize : 0 < size) {text : Bytes} (h : Admits size Input text)
    (htext : text ≠ []) : Input (text.take size) ∧ Admits size Input (text.drop size) := by
  unfold Admits at h ⊢
  rw [Bytes.blocks_of_ne_nil hsize htext] at h
  exact ⟨h _ List.mem_cons_self, fun block hb => h block (List.mem_cons_of_mem _ hb)⟩

/-- What is handed on after a full block fits the rest; after a short one there is no rest. -/
theorem Undoes.handed_next (h : Undoes size Handed Input forth back) {previous text : Bytes}
    (hprevious : Handed previous) :
    text.drop size = [] ∨ Handed (forth.next previous (text.take size)) := by
  by_cases hfull : size ≤ text.length
  · right
    apply h.handed previous _ hprevious
    rw [List.length_take]
    omega
  · left
    exact List.drop_eq_nil_of_le (by omega)

theorem Undoes.length_run (h : Undoes size Handed Input forth back) (hsize : 0 < size)
    {text : Bytes} (hinput : Admits size Input text) {previous : Bytes}
    (hprevious : text = [] ∨ Handed previous) :
    (forth.run previous (Bytes.blocks size text)).length = text.length := by
  induction text using Bytes.blockInduction hsize generalizing previous with
  | nil =>
      rw [Bytes.blocks_nil, run_nil]
  | block text htext ih =>
      have hhanded : Handed previous := hprevious.resolve_left htext
      obtain ⟨hblock, hrest⟩ := hinput.take_drop hsize htext
      have hlength := h.length_output _ _ hhanded hblock (List.length_take_le _ _)
      rw [run_blocks hsize forth previous htext, List.length_append, hlength,
        ih hrest (h.handed_next hhanded), List.length_take, List.length_drop]
      omega

/-- The backward run undoes the forward run. -/
theorem Undoes.run_run (h : Undoes size Handed Input forth back) (hsize : 0 < size)
    {text : Bytes} (hinput : Admits size Input text) {previous : Bytes}
    (hprevious : text = [] ∨ Handed previous) :
    back.run previous (Bytes.blocks size (forth.run previous (Bytes.blocks size text))) = text := by
  -- block by block, for anything that the step before may have handed on
  induction text using Bytes.blockInduction hsize generalizing previous with
  | nil =>
      rw [Bytes.blocks_nil, run_nil, Bytes.blocks_nil, run_nil]
  | block text htext ih =>
      have hhanded : Handed previous := hprevious.resolve_left htext
      obtain ⟨hblock, hrest⟩ := hinput.take_drop hsize htext
      have hnext : text.drop size = [] ∨ Handed (forth.next previous (text.take size)) :=
        h.handed_next hhanded
      have hlength := h.length_output _ _ hhanded hblock (List.length_take_le _ _)
      have hpos : 0 < text.length := List.length_pos_iff.2 htext
      rw [List.length_take] at hlength
      -- the output for the first block is the first block of what was written
      have hne : forth.output previous (text.take size) ≠ [] := by
        intro hnil
        rw [hnil, List.length_nil] at hlength
        omega
      -- and it is a full one, unless it is also the last
      have hfull : (forth.output previous (text.take size)).length = size ∨
          forth.run (forth.next previous (text.take size))
            (Bytes.blocks size (text.drop size)) = [] := by
        by_cases hle : size ≤ text.length
        · left
          omega
        · right
          rw [List.drop_eq_nil_of_le (by omega), Bytes.blocks_nil, run_nil]
      rw [run_blocks hsize forth previous htext, Bytes.blocks_append hne (by omega) _ hfull,
        run_cons, h.output _ _ hhanded hblock (List.length_take_le _ _), h.next, ih hrest hnext,
        List.take_append_drop]

end Chaining

/-! ## The four modes -/

namespace Mode

/-- One step of a mode, encrypting. -/
def encrypting (mode : Mode) (cipher : Block) : Chaining :=
  match mode with
  | .cbc =>
    ⟨fun previous block => cipher.encrypt (Bytes.xor block previous),
      fun previous block => cipher.encrypt (Bytes.xor block previous)⟩
  | .ecb => ⟨fun _ block => cipher.encrypt block, fun previous _ => previous⟩
  | .cfb =>
    ⟨fun previous block => Bytes.xor block (cipher.encrypt previous),
      fun previous block => Bytes.xor block (cipher.encrypt previous)⟩
  | .ofb =>
    ⟨fun previous block => Bytes.xor block (cipher.encrypt previous),
      fun previous _ => cipher.encrypt previous⟩

/-- One step of a mode, decrypting. -/
def decrypting (mode : Mode) (cipher : Block) : Chaining :=
  match mode with
  | .cbc =>
    ⟨fun previous block => Bytes.xor (cipher.decrypt block) previous, fun _ block => block⟩
  | .ecb => ⟨fun _ block => cipher.decrypt block, fun previous _ => previous⟩
  | .cfb =>
    ⟨fun previous block => Bytes.xor block (cipher.encrypt previous), fun _ block => block⟩
  | .ofb =>
    ⟨fun previous block => Bytes.xor block (cipher.encrypt previous),
      fun previous _ => cipher.encrypt previous⟩

variable {cipher : Block}

theorem encrypt_eq_run (mode : Mode) (cipher : Block) (vector text : Bytes) :
    mode.encrypt cipher vector text =
      (mode.encrypting cipher).run vector (Bytes.blocks cipher.size text) := by
  unfold encrypt
  dsimp only
  cases mode with
  | cbc => exact Chaining.eq_run _ (fun _ => rfl) (fun _ _ _ => rfl) _ _
  | ecb =>
      exact Chaining.eq_run (f := fun _ blocks => blocks.flatMap cipher.encrypt) _ (fun _ => rfl)
        (fun _ _ _ => rfl) vector _
  | cfb => exact Chaining.eq_run _ (fun _ => rfl) (fun _ _ _ => rfl) _ _
  | ofb => exact Chaining.eq_run _ (fun _ => rfl) (fun _ _ _ => rfl) _ _

theorem decrypt_eq_run (mode : Mode) (cipher : Block) (vector data : Bytes) :
    mode.decrypt cipher vector data =
      (mode.decrypting cipher).run vector (Bytes.blocks cipher.size data) := by
  unfold decrypt
  dsimp only
  cases mode with
  | cbc => exact Chaining.eq_run _ (fun _ => rfl) (fun _ _ _ => rfl) _ _
  | ecb =>
      exact Chaining.eq_run (f := fun _ blocks => blocks.flatMap cipher.decrypt) _ (fun _ => rfl)
        (fun _ _ _ => rfl) vector _
  | cfb => exact Chaining.eq_run _ (fun _ => rfl) (fun _ _ _ => rfl) _ _
  | ofb => exact Chaining.eq_run _ (fun _ => rfl) (fun _ _ _ => rfl) _ _

/-- A block combined with the encryption of a full one keeps its length. -/
theorem length_xor_encrypt (h : cipher.Lawful) {previous block : Bytes}
    (hprevious : previous.length = cipher.size) (hblock : block.length ≤ cipher.size) :
    (Bytes.xor block (cipher.encrypt previous)).length = block.length := by
  rw [Bytes.length_xor, h.length_encrypt _ hprevious]
  omega

/-- A block combined twice with the encryption of a full one. -/
theorem xor_encrypt_cancel (h : cipher.Lawful) {previous block : Bytes}
    (hprevious : previous.length = cipher.size) (hblock : block.length ≤ cipher.size) :
    Bytes.xor (Bytes.xor block (cipher.encrypt previous)) (cipher.encrypt previous) = block := by
  apply Bytes.xor_xor_cancel
  rw [h.length_encrypt _ hprevious]
  exact hblock

/-- What a mode asks of the vector and of what one step hands to the next. -/
def Handed (mode : Mode) (size : Nat) (previous : Bytes) : Prop :=
  mode.usesVector = true → previous.length = size

/-- What a mode asks of a block. -/
def Input (mode : Mode) (size : Nat) (block : Bytes) : Prop :=
  mode.isPadded = true → block.length = size

/-- Each step of a mode is undone by its other direction. -/
theorem undoes (mode : Mode) (h : cipher.Lawful) :
    Chaining.Undoes cipher.size (mode.Handed cipher.size) (mode.Input cipher.size)
      (mode.encrypting cipher) (mode.decrypting cipher) := by
  cases mode with
  | cbc =>
      -- the only mode that combines before it encrypts, so what it encrypts must be a full block
      have hcombined {previous block : Bytes} (hp : previous.length = cipher.size)
          (hb : block.length = cipher.size) : (Bytes.xor block previous).length = cipher.size := by
        rw [Bytes.length_xor, hp, hb, Nat.min_self]
      constructor
      · intro previous block hp hb _
        exact (h.length_encrypt _ (hcombined (hp rfl) (hb rfl))).trans (hb rfl).symm
      · intro previous block hp hb _
        have hle : block.length ≤ previous.length := Nat.le_of_eq ((hb rfl).trans (hp rfl).symm)
        calc Bytes.xor (cipher.decrypt (cipher.encrypt (Bytes.xor block previous))) previous
            = Bytes.xor (Bytes.xor block previous) previous := by
              rw [h.decrypt_encrypt _ (hcombined (hp rfl) (hb rfl))]
          _ = block := Bytes.xor_xor_cancel hle
      · intro previous block
        rfl
      · intro previous block hp hb _
        exact h.length_encrypt _ (hcombined (hp rfl) hb)
  | ecb =>
      constructor
      · intro previous block _ hb _
        exact (h.length_encrypt _ (hb rfl)).trans (hb rfl).symm
      · intro previous block _ hb _
        exact h.decrypt_encrypt _ (hb rfl)
      · intro previous block
        rfl
      · intro previous block hp _
        exact hp
  | cfb =>
      constructor
      · intro previous block hp _ hle
        exact length_xor_encrypt h (hp rfl) hle
      · intro previous block hp _ hle
        exact xor_encrypt_cancel h (hp rfl) hle
      · intro previous block
        rfl
      · intro previous block hp hb _
        exact (length_xor_encrypt h (hp rfl) (Nat.le_of_eq hb)).trans hb
  | ofb =>
      constructor
      · intro previous block hp _ hle
        exact length_xor_encrypt h (hp rfl) hle
      · intro previous block hp _ hle
        exact xor_encrypt_cancel h (hp rfl) hle
      · intro previous block
        rfl
      · intro previous block hp _ _
        exact h.length_encrypt _ (hp rfl)

/-- A text of whole blocks, where the mode wants them, is admitted. -/
theorem admits (mode : Mode) {size : Nat} (hsize : 0 < size) {text : Bytes}
    (hwhole : mode.isPadded = true → text.length % size = 0) :
    Chaining.Admits size (mode.Input size) text := by
  intro block hblock hpadded
  exact Bytes.length_of_mem_blocks hsize (hwhole hpadded) hblock

section

variable (h : cipher.Lawful) {mode : Mode} {vector text : Bytes}
  (hvector : mode.usesVector = true → vector.length = cipher.size)
  (hwhole : mode.isPadded = true → text.length % cipher.size = 0)
include h hvector hwhole

theorem length_encrypt : (mode.encrypt cipher vector text).length = text.length := by
  rw [encrypt_eq_run]
  exact (mode.undoes h).length_run h.size_pos (mode.admits h.size_pos hwhole) (Or.inr hvector)

theorem decrypt_encrypt : mode.decrypt cipher vector (mode.encrypt cipher vector text) = text := by
  rw [encrypt_eq_run, decrypt_eq_run]
  exact (mode.undoes h).run_run h.size_pos (mode.admits h.size_pos hwhole) (Or.inr hvector)

end

end Mode

end Credential.Cipher
