import Luks.Crates
import Luks.Machine

/-!
# The anti-forensic splitter

A master key is stored inflated to many stripes, so that recovering it takes all of
them. `Luks.merge` undoes that: every block but the last is XORed into an
accumulator that is diffused through the hash each time, and the last block is
XORed in on top.

The `Luks.Spec` functions are the same computations without the machine around
them – no buffers to allocate, no integers to overflow. Where the sizes fit, the
code follows them (`Luks.merge_follows`, `Luks.materialLen_follows`).
-/

namespace Luks

open Basis

/-- `other` XORed into the front of `acc`. -/
def xorInto : Bytes → Bytes → Bytes
  | [], _ => []
  | acc, [] => acc
  | a :: acc, b :: other => (a ^^^ b) :: xorInto acc other

/-- What diffusing does from chunk `i` on: each chunk of digest size is replaced by
the front of the hash of its index and itself. -/
def diffuseFrom (D : Digest) (i : ℕ) (data : Bytes) : Bytes :=
  if data = [] then []
  else
    let take := min D.outputSize data.length
    (D.hash (toBe 4 i ++ data.take take)).take take ++ diffuseFrom D (i + 1) (data.drop take)
termination_by data.length
decreasing_by
  rename_i hne
  have hlen := List.length_pos_iff.mpr hne
  have hpos := D.outputSize_pos
  rw [List.length_drop]
  omega

section Blocks

@[simp] theorem length_xorInto (acc other : Bytes) :
    (xorInto acc other).length = acc.length := by
  induction acc generalizing other with
  | nil => rfl
  | cons a acc ih =>
    cases other with
    | nil => rfl
    | cons b other => rw [xorInto, List.length_cons, ih, List.length_cons]

/-- XORing the same bytes in twice changes nothing. -/
theorem xorInto_xorInto (acc other : Bytes) : xorInto (xorInto acc other) other = acc := by
  induction acc generalizing other with
  | nil => rfl
  | cons a acc ih =>
    cases other with
    | nil => rfl
    | cons b other => rw [xorInto, xorInto, ih, UInt8.xor_assoc, UInt8.xor_self, UInt8.xor_zero]

/-- XOR does not depend on which side is the accumulator, for sides of one length. -/
theorem xorInto_comm {x y : Bytes} (h : x.length = y.length) : xorInto x y = xorInto y x := by
  induction x generalizing y with
  | nil =>
    obtain rfl : y = [] := List.length_eq_zero_iff.mp h.symm
    rfl
  | cons a x ih =>
    cases y with
    | nil => simp at h
    | cons b y =>
      rw [xorInto, xorInto, UInt8.xor_comm, ih (by simpa using h)]

@[simp] theorem length_diffuseFrom (D : Digest) (i : ℕ) (data : Bytes) :
    (diffuseFrom D i data).length = data.length := by
  induction i, data using diffuseFrom.induct D with
  | case1 i => simp [diffuseFrom]
  | case2 i data hne take ih =>
    rw [diffuseFrom, if_neg hne]
    simp only [List.length_append, List.length_take, D.length_hash]
    rw [ih, List.length_drop]
    omega

end Blocks

/-- The hash a header names. -/
def hashOf (spec : String) : Except LuksError Hash :=
  if spec = "sha1" then .ok .sha1
  else if spec = "sha256" then .ok .sha256
  else if spec = "sha512" then .ok .sha512
  else .error (.unsupported "hash" spec)

/-- The most stripes a keyslot may declare. -/
def maxStripes : ℕ := 2 ^ 20

variable {σ : Type} (K : Crates)

/-- Hash each chunk of `data` with its index. -/
def diffuse (D : Digest) (data : Bytes) : Exec σ Bytes := do
  let _ ← vecZeroed data.length
  return diffuseFrom D 0 data

/-- Merge `stripes` blocks of `material` back into one. -/
def afMerge (D : Digest) (material : Bytes) (blockSize stripes : ℕ) : Exec σ Bytes := do
  let acc ← vecZeroed blockSize
  let acc ← (List.range (stripes - 1)).foldlM (fun acc i => do
    let start ← mulU64 i blockSize
    let stop ← addU64 start blockSize
    match slice? material start stop with
    | some block => diffuse D (xorInto acc block)
    -- `material.get(..)` out of range: the block is left out
    | none => return acc) acc
  let last ← mulU64 (stripes - 1) blockSize
  let stop ← addU64 last blockSize
  match slice? material last stop with
  | some block => return xorInto acc block
  | none => return acc

/-- Merge with the hash that `hashSpec` names. -/
def merge (hashSpec : String) (material : Bytes) (blockSize stripes : ℕ) : Exec σ Bytes :=
  if maxStripes < stripes then
    Prog.throw (.implausibleStripes stripes maxStripes blockSize)
  else do
    let hash ← Prog.ofExcept (hashOf hashSpec)
    afMerge (K.digest hash) material blockSize stripes

/-- The size of the key material of `stripes` blocks, in whole sectors. -/
def materialLen (blockSize stripes : ℕ) : Exec σ ℕ :=
  if maxStripes < stripes then
    Prog.throw (.implausibleStripes stripes maxStripes blockSize)
  -- `checked_mul`; an unlock has bounded the key size before
  else if 2 ^ 64 ≤ blockSize * stripes then
    Prog.throw (.implausibleStripes stripes maxStripes blockSize)
  else mulU64 ((blockSize * stripes + 511) / 512) 512

/-! ### The same without the machine -/

namespace Spec

/-- One step of merging: XOR a block in, and diffuse. -/
def mergeStep (D : Digest) (material : Bytes) (blockSize : ℕ) (acc : Bytes) (i : ℕ) : Bytes :=
  match slice? material (i * blockSize) (i * blockSize + blockSize) with
  | some block => diffuseFrom D 0 (xorInto acc block)
  | none => acc

/-- The accumulator after the first `n` blocks. -/
def mergeBlocks (D : Digest) (material : Bytes) (blockSize n : ℕ) : Bytes :=
  (List.range n).foldl (mergeStep D material blockSize) (List.replicate blockSize 0)

/-- Merging. -/
def afMerge (D : Digest) (material : Bytes) (blockSize stripes : ℕ) : Bytes :=
  let acc := mergeBlocks D material blockSize (stripes - 1)
  match slice? material ((stripes - 1) * blockSize) ((stripes - 1) * blockSize + blockSize) with
  | some block => xorInto acc block
  | none => acc

/-- Merging with the hash that `hashSpec` names. -/
def merge (hashSpec : String) (material : Bytes) (blockSize stripes : ℕ) :
    Except LuksError Bytes :=
  if maxStripes < stripes then .error (.implausibleStripes stripes maxStripes blockSize)
  else do
    let hash ← hashOf hashSpec
    return afMerge (K.digest hash) material blockSize stripes

/-- The size of key material, rounded up to whole sectors. -/
def sectorRounded (n : ℕ) : ℕ := (n + 511) / 512 * 512

/-- The size of the key material of `stripes` blocks. -/
def materialLen (blockSize stripes : ℕ) : Except LuksError ℕ :=
  if maxStripes < stripes then .error (.implausibleStripes stripes maxStripes blockSize)
  else .ok (sectorRounded (blockSize * stripes))

@[simp] theorem length_mergeStep (D : Digest) (material acc : Bytes) (blockSize i : ℕ) :
    (mergeStep D material blockSize acc i).length = acc.length := by
  rw [mergeStep]
  split <;> simp

@[simp] theorem length_mergeBlocks (D : Digest) (material : Bytes) (blockSize n : ℕ) :
    (mergeBlocks D material blockSize n).length = blockSize := by
  induction n with
  | zero => simp [mergeBlocks]
  | succ n ih =>
    rw [mergeBlocks, List.range_succ, List.foldl_append, List.foldl_cons, List.foldl_nil,
      length_mergeStep]
    exact ih

@[simp] theorem length_afMerge (D : Digest) (material : Bytes) (blockSize stripes : ℕ) :
    (afMerge D material blockSize stripes).length = blockSize := by
  rw [afMerge]
  split <;> simp

/-- A merged key has the size of a block. -/
theorem length_of_merge_eq_ok {hashSpec : String} {material key : Bytes} {blockSize stripes : ℕ}
    (h : merge K hashSpec material blockSize stripes = .ok key) : key.length = blockSize := by
  rw [merge] at h
  split_ifs at h
  cases hh : hashOf hashSpec with
  | error e =>
    rw [hh] at h
    cases h
  | ok hash =>
    rw [hh] at h
    obtain rfl : afMerge (K.digest hash) material blockSize stripes = key := Except.ok.inj h
    exact length_afMerge ..

theorem le_sectorRounded (n : ℕ) : n ≤ sectorRounded n := by
  rw [sectorRounded]
  omega

theorem sectorRounded_eq_mul (n : ℕ) : ∃ k, sectorRounded n = k * 512 := ⟨(n + 511) / 512, rfl⟩

/-- The ceiling on the material of a keyslot: 2^30 bytes. -/
theorem sectorRounded_le {blockSize stripes : ℕ} (hb : blockSize ≤ 1024)
    (hs : stripes ≤ maxStripes) : sectorRounded (blockSize * stripes) ≤ 2 ^ 30 := by
  have hmul : blockSize * stripes ≤ 1024 * 2 ^ 20 := Nat.mul_le_mul hb hs
  rw [sectorRounded]
  omega

end Spec

/-! ### The code follows it -/

section Following

variable {I : σ → Prop} {G : LuksError → Prop} {E : Event → Prop} {blockSize stripes : ℕ}

theorem materialLen_follows (hb : blockSize ≤ 1024) :
    Triple I (materialLen blockSize stripes)
      (Follows I G (Spec.materialLen blockSize stripes)) E := by
  rw [materialLen, Spec.materialLen]
  by_cases hs : maxStripes < stripes
  · rw [if_pos hs, if_pos hs]
    exact Triple.throw_follows
  · have hle := Spec.sectorRounded_le hb (Nat.le_of_not_lt hs)
    have hge := Spec.le_sectorRounded (blockSize * stripes)
    rw [if_neg hs, if_neg hs, if_neg (by omega), mulU64_of_lt]
    · exact Triple.pure_follows
    · rw [Spec.sectorRounded] at hle
      omega

theorem diffuse_follows (D : Digest) {data : Bytes} (hlen : data.length ≤ isizeMax)
    (hE : E (.alloc data.length)) :
    Triple I (diffuse D data) (Follows I G (.ok (diffuseFrom D 0 data))) E :=
  Triple.bind_ok_follows (vecZeroed_follows hlen hE) Triple.pure_follows

/-- **Merging follows its description** when a block fits a buffer and the stripes the
address space: the accumulator keeps the size of a block, so every buffer asked for has
it. -/
theorem afMerge_follows_of_lt (D : Digest) {material : Bytes} (hb : blockSize ≤ isizeMax)
    (hfit : blockSize * stripes < 2 ^ 64) (hE : E (.alloc blockSize)) :
    Triple I (afMerge D material blockSize stripes)
      (Follows I G (.ok (Spec.afMerge D material blockSize stripes))) E := by
  -- no block of the material ends over the address space
  have hpos : ∀ i, i ≤ stripes - 1 → i * blockSize + blockSize < 2 ^ 64 := by
    intro i hi
    rcases Nat.eq_zero_or_pos i with rfl | hi'
    · rw [isizeMax] at hb
      omega
    · have hle := Nat.mul_le_mul_left blockSize (show i + 1 ≤ stripes by omega)
      rw [Nat.mul_comm i, ← Nat.mul_succ]
      exact lt_of_le_of_lt hle hfit
  have hstep : ∀ acc i, i ∈ List.range (stripes - 1) → acc.length = blockSize →
      Triple I (do
        let start ← mulU64 i blockSize
        let stop ← addU64 start blockSize
        match slice? material start stop with
        | some block => diffuse D (xorInto acc block)
        | none => return acc : Exec σ Bytes)
        (Follows I G (.ok (Spec.mergeStep D material blockSize acc i))) E := by
    intro acc i hi hacc
    have hlt := hpos i (by have := List.mem_range.mp hi; omega)
    rw [mulU64_of_lt (by omega), pure_bind, addU64_of_lt (by omega), pure_bind, Spec.mergeStep]
    split
    · exact diffuse_follows D (by rw [length_xorInto]; omega)
        (by rw [length_xorInto, hacc]; exact hE)
    · exact Triple.pure_follows
  rw [afMerge, Spec.afMerge]
  refine Triple.bind_ok_follows (vecZeroed_follows hb hE) ?_
  -- every accumulator is one block long, so that no step asks for a larger buffer
  refine Triple.bind_ok_follows (Triple.foldlM (J := fun acc => acc.length = blockSize) (by simp)
    (fun acc i hacc => by rw [Spec.length_mergeStep, hacc]) hstep) ?_
  have hlt := hpos (stripes - 1) (le_refl _)
  rw [mulU64_of_lt (by omega), pure_bind, addU64_of_lt (by omega), pure_bind]
  split <;> exact Triple.pure_follows

theorem afMerge_follows (D : Digest) {material : Bytes} (hfit : blockSize * (stripes + 1) < 2 ^ 63)
    (hE : E (.alloc blockSize)) :
    Triple I (afMerge D material blockSize stripes)
      (Follows I G (.ok (Spec.afMerge D material blockSize stripes))) E := by
  rw [Nat.mul_succ] at hfit
  exact afMerge_follows_of_lt D (by rw [isizeMax]; omega) (by omega) hE

theorem merge_follows (hashSpec : String) {material : Bytes} (hb : blockSize ≤ 1024)
    (hE : E (.alloc blockSize)) :
    Triple I (merge K hashSpec material blockSize stripes)
      (Follows I G (Spec.merge K hashSpec material blockSize stripes)) E := by
  rw [merge, Spec.merge]
  by_cases hs : maxStripes < stripes
  · rw [if_pos hs, if_pos hs]
    exact Triple.throw_follows
  · rw [if_neg hs, if_neg hs]
    have hfit : blockSize * (stripes + 1) < 2 ^ 63 := by
      have hle := Nat.mul_le_mul hb (show stripes + 1 ≤ 2 ^ 20 + 1 by rw [maxStripes] at hs; omega)
      omega
    exact Triple.bind_follows (Triple.ofExcept_follows _) fun hash _ =>
      afMerge_follows (K.digest hash) hfit hE

end Following

end Luks
