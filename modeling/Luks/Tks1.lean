import Luks.Af

/-!
# The published scheme of the splitter

The anti-forensic splitter is published as a scheme (`Luks.Tks1`): an accumulator of zeros into
which each stripe is XORed, diffused by hashing its digest-sized blocks with their numbers, and
a remainder with the next number. The code has one loop with a running offset. Its blocks are
those of the scheme (`Luks.diffuseFrom_eq_reference`), and so is its XOR, of bytes of one length
(`Luks.xorInto_eq_xor`).
-/

namespace Luks

open Basis

/-! ### The reference -/

namespace Tks1

/-- Diffusion: every whole block of the size of a digest is replaced by the hash of its
number and itself, and what remains by the front of such a hash. -/
def diffuse (D : Digest) (data : Bytes) : Bytes :=
  let full := data.length / D.outputSize
  let rest := data.length % D.outputSize
  ((List.range full).map fun i =>
      D.hash (toBe 4 i ++ window data (i * D.outputSize) D.outputSize)).flatten ++
    if 0 < rest then
      (D.hash (toBe 4 full ++ window data (full * D.outputSize) rest)).take rest
    else []

/-- Bytes XORed, place by place. -/
def xor (x y : Bytes) : Bytes := List.zipWith (· ^^^ ·) x y

/-- Stripe `i` of the material. -/
def stripe (material : Bytes) (blockSize i : ℕ) : Bytes :=
  window material (i * blockSize) blockSize

/-- The accumulator after the first `n` stripes. -/
def accumulate (D : Digest) (material : Bytes) (blockSize : ℕ) : ℕ → Bytes
  | 0 => List.replicate blockSize 0
  | n + 1 => diffuse D
      (xor (accumulate D material blockSize n) (stripe material blockSize n))

/-- **Merging**, as the scheme describes it. -/
def merge (D : Digest) (material : Bytes) (blockSize stripes : ℕ) : Bytes :=
  xor (accumulate D material blockSize (stripes - 1)) (stripe material blockSize (stripes - 1))

end Tks1

/-! ### The code makes the same blocks -/

section Diffusing

variable (D : Digest)

/-- The blocks of the reference, with numbers from `i` on. -/
def Tks1.diffuseFrom (i : ℕ) (data : Bytes) : Bytes :=
  let full := data.length / D.outputSize
  let rest := data.length % D.outputSize
  ((List.range full).map fun j =>
      D.hash (toBe 4 (i + j) ++ window data (j * D.outputSize) D.outputSize)).flatten ++
    if 0 < rest then
      (D.hash (toBe 4 (i + full) ++ window data (full * D.outputSize) rest)).take rest
    else []

theorem Tks1.diffuseFrom_zero (data : Bytes) :
    Tks1.diffuseFrom D 0 data = Tks1.diffuse D data := by
  simp only [Tks1.diffuseFrom, Tks1.diffuse, Nat.zero_add]

/-- Less than a block is all remainder. -/
theorem Tks1.diffuseFrom_of_lt (i : ℕ) {data : Bytes} (hpos : 0 < data.length)
    (hlt : data.length < D.outputSize) :
    Tks1.diffuseFrom D i data = (D.hash (toBe 4 i ++ data)).take data.length := by
  simp only [Tks1.diffuseFrom, Nat.div_eq_of_lt hlt, Nat.mod_eq_of_lt hlt, if_pos hpos]
  rw [Nat.zero_mul, Nat.add_zero, window_full]
  rfl

/-- A block and more: the block, and what follows with the numbers from the next on. -/
theorem Tks1.diffuseFrom_of_le (i : ℕ) {data : Bytes} (hle : D.outputSize ≤ data.length) :
    Tks1.diffuseFrom D i data = D.hash (toBe 4 i ++ data.take D.outputSize) ++
      Tks1.diffuseFrom D (i + 1) (data.drop D.outputSize) := by
  obtain ⟨m, hm⟩ := Nat.exists_eq_add_of_le hle
  have hpos := D.outputSize_pos
  have hdiv : data.length / D.outputSize = m / D.outputSize + 1 := by
    rw [hm, Nat.add_div_left _ hpos]
  have hmod : data.length % D.outputSize = m % D.outputSize := by
    rw [hm, Nat.add_mod_left]
  have hdrop : (data.drop D.outputSize).length = m := by
    rw [List.length_drop]
    omega
  -- block `j` of what follows is block `j + 1` of the whole
  have hwin : ∀ j k, window (data.drop D.outputSize) (j * D.outputSize) k =
      window data ((j + 1) * D.outputSize) k := by
    intro j k
    rw [window, window, List.drop_drop, Nat.succ_mul, Nat.add_comm]
  have hnum : ∀ j, i + 1 + j = i + (j + 1) := by omega
  simp only [Tks1.diffuseFrom, hdiv, hmod, hdrop, hwin, hnum]
  rw [List.range_succ_eq_map, List.map_cons, List.map_map, List.flatten_cons, List.append_assoc,
    Nat.add_zero, Nat.zero_mul]
  rfl

/-- **The running offset of the code makes the blocks of the reference.** -/
theorem diffuseFrom_eq_reference (i : ℕ) (data : Bytes) :
    diffuseFrom D i data = Tks1.diffuseFrom D i data := by
  induction i, data using diffuseFrom.induct D with
  | case1 i => simp [diffuseFrom, Tks1.diffuseFrom]
  | case2 i data hne take ih =>
    have hlen := List.length_pos_iff.mpr hne
    rw [diffuseFrom, if_neg hne]
    dsimp only
    rcases Nat.lt_or_ge data.length D.outputSize with hlt | hge
    · -- the remainder, after which nothing is left
      rw [Nat.min_eq_right hlt.le, List.drop_length, diffuseFrom, if_pos rfl, List.append_nil,
        List.take_length, Tks1.diffuseFrom_of_lt D i hlen hlt]
    · rw [show take = D.outputSize from Nat.min_eq_left hge] at ih
      rw [Nat.min_eq_left hge, ih, List.take_of_length_le (D.length_hash _).le,
        Tks1.diffuseFrom_of_le D i hge]

end Diffusing

/-- XORing in is XOR, for bytes of one length. -/
theorem xorInto_eq_xor {x y : Bytes} (h : x.length = y.length) : xorInto x y = Tks1.xor x y := by
  induction x generalizing y with
  | nil => rfl
  | cons a x ih =>
    cases y with
    | nil => cases h
    | cons b y =>
      rw [xorInto, ih (Nat.succ.inj h)]
      rfl

/-- A stripe that is absorbed makes the accumulator of the code. -/
theorem reference_diffuse_xor (D : Digest) {acc block : Bytes} (h : acc.length = block.length) :
    Tks1.diffuse D (Tks1.xor acc block) = diffuseFrom D 0 (xorInto acc block) := by
  rw [← xorInto_eq_xor h, ← Tks1.diffuseFrom_zero, diffuseFrom_eq_reference]

end Luks
