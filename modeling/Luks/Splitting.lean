import Luks.Formatter
import Luks.Merging

/-!
# The splitter against its reference

The published scheme describes merging with whole blocks: an accumulator of zeros into which
each stripe is XORed, diffused by hashing its digest-sized blocks with their numbers, and a
remainder with the next number (`Luks.Tks1`). The code has one loop with a running offset
and fetches every stripe through a bounds check. On material that is long enough the two
are one function, which looks at no byte after the last stripe
(`Luks.afMerge_refines_reference`).

Splitting is what merging undoes, and merging what splitting undoes, whatever the stripes
before the last are filled with (`Luks.split_merge_inverse`).
-/

namespace Luks

open Basis

/-! ### The code refines it -/

section Merging

variable {D : Digest} {material : Bytes} {n stripes : ℕ}

/-- A stripe inside the material is fetched. -/
theorem slice?_stripe {i : ℕ} (hi : i < stripes) (hlen : stripes * n ≤ material.length) :
    slice? material (i * n) (i * n + n) = some (Tks1.stripe material n i) ∧
      (Tks1.stripe material n i).length = n := by
  have hle := Nat.mul_le_mul_right n (Nat.succ_le_of_lt hi)
  rw [Nat.succ_mul] at hle
  refine ⟨?_, length_window_of_le (by omega)⟩
  rw [slice?_of_le (by omega) (by omega), Nat.add_sub_cancel_left, Tks1.stripe]

/-- **The accumulators are the same**, as no stripe is left out. -/
theorem mergeBlocks_eq_accumulate (hlen : stripes * n ≤ material.length) {m : ℕ}
    (hm : m ≤ stripes) : Spec.mergeBlocks D material n m = Tks1.accumulate D material n m := by
  induction m with
  | zero => rfl
  | succ m ih =>
    obtain ⟨hslice, hstripe⟩ := slice?_stripe hm hlen
    have hacc : (Spec.mergeBlocks D material n m).length = n := Spec.length_mergeBlocks _ _ _ _
    have hstep : Spec.mergeBlocks D material n (m + 1) =
        Spec.mergeStep D material n (Spec.mergeBlocks D material n m) m := by
      rw [Spec.mergeBlocks, List.range_succ, List.foldl_append]
      rfl
    rw [hstep, Spec.mergeStep, hslice, Tks1.accumulate, ← ih (by omega),
      ← xorInto_eq_xor (hacc.trans hstripe.symm), ← Tks1.diffuseFrom_zero]
    exact diffuseFrom_eq_reference D 0 _

/-- Merging is the reference, on material that is long enough. -/
theorem spec_afMerge_eq_reference (hpos : 1 ≤ stripes) (hlen : stripes * n ≤ material.length) :
    Spec.afMerge D material n stripes = Tks1.merge D material n stripes := by
  obtain ⟨hslice, hstripe⟩ := slice?_stripe (i := stripes - 1) (by omega) hlen
  have hacc : (Spec.mergeBlocks D material n (stripes - 1)).length = n :=
    Spec.length_mergeBlocks _ _ _ _
  rw [Spec.afMerge, hslice, Tks1.merge, ← mergeBlocks_eq_accumulate hlen (by omega)]
  exact xorInto_eq_xor (hacc.trans hstripe.symm)

/-- The reference looks at the stripes, and at nothing after them. -/
theorem Tks1.merge_take (D : Digest) (hpos : 1 ≤ stripes) (material : Bytes) :
    Tks1.merge D (material.take (stripes * n)) n stripes = Tks1.merge D material n stripes := by
  have hstripe : ∀ i < stripes,
      Tks1.stripe (material.take (stripes * n)) n i = Tks1.stripe material n i := by
    intro i hi
    have hle := Nat.mul_le_mul_right n (Nat.succ_le_of_lt hi)
    rw [Nat.succ_mul] at hle
    rw [Tks1.stripe, show material.take (stripes * n) = window material 0 (stripes * n) from rfl,
      window_window _ hle, Nat.zero_add, Tks1.stripe]
  have hacc : ∀ m ≤ stripes, Tks1.accumulate D (material.take (stripes * n)) n m =
      Tks1.accumulate D material n m := by
    intro m hm
    induction m with
    | zero => rfl
    | succ m ih => rw [Tks1.accumulate, Tks1.accumulate, ih (by omega), hstripe m hm]
  rw [Tks1.merge, Tks1.merge, hacc _ (by omega), hstripe _ (by omega)]

/-- Stripes that a slice holds fit a merge. -/
theorem mergeFits_of_slice (hpos : 1 ≤ stripes) (material : Slice)
    (hlen : stripes * n ≤ material.bytes.length) : MergeFits n stripes := by
  have hle := hlen.trans material.length_le
  have hn := Nat.le_mul_of_pos_left n hpos
  rw [isizeMax] at hle
  refine ⟨hn.trans hle, ?_⟩
  rw [Nat.mul_comm]
  omega

/-- **Merging refines the reference**, for every hash, every block size and every stripe
count, on material that holds the stripes; and no byte after the stripes influences it. -/
theorem afMerge_refines_reference {σ : Type} (D : Digest) (n stripes : ℕ) (hpos : 1 ≤ stripes)
    (material : Slice) (hlen : stripes * n ≤ material.bytes.length) (s : σ) :
    (afMerge D material.bytes n stripes s).out = .ok (Tks1.merge D material.bytes n stripes) ∧
      ∀ other : Slice, other.bytes.take (stripes * n) = material.bytes.take (stripes * n) →
        (afMerge D other.bytes n stripes s).out = (afMerge D material.bytes n stripes s).out := by
  have hfits := mergeFits_of_slice hpos material hlen
  have href : ∀ bytes : Bytes, stripes * n ≤ bytes.length →
      (afMerge D bytes n stripes s).out = .ok (Tks1.merge D bytes n stripes) := by
    intro bytes hbytes
    rw [afMerge_out D bytes hfits, spec_afMerge_eq_reference hpos hbytes]
  refine ⟨href _ hlen, fun other hother => ?_⟩
  have hlong : stripes * n ≤ other.bytes.length := by
    have hlength := congrArg List.length hother
    rw [List.length_take, List.length_take] at hlength
    omega
  rw [href _ hlong, href _ hlen, ← Tks1.merge_take D hpos other.bytes, hother,
    Tks1.merge_take D hpos]

/-- The two stripes of a container. -/
def Sample.twoStripes : Slice := ⟨filler ++ lastStripe, by decide⟩

theorem afMerge_refines_reference_sample :
    (afMerge ((Sample.tables []).crates.digest .sha1) Sample.twoStripes.bytes 32 2 ()).out =
      .ok (Tks1.merge ((Sample.tables []).crates.digest .sha1) Sample.twoStripes.bytes 32 2) :=
  (afMerge_refines_reference ((Sample.tables []).crates.digest .sha1) 32 2 (by decide)
    Sample.twoStripes (by decide) ()).1

/-- The dispatch on the name of a hash does nothing else, under the ceiling on stripes. -/
theorem merge_name {σ : Type} (K : Crates) (hash : Hash) (bytes : Bytes) (n : ℕ)
    (hle : stripes ≤ maxStripes) :
    (merge K hash.name bytes n stripes : Exec σ Bytes) =
      afMerge (K.digest hash) bytes n stripes := by
  rw [merge, if_neg (Nat.not_lt_of_le hle), hashOf_name]
  exact pure_bind _ _

end Merging

/-! ### Splitting -/

section Splitting

variable {D : Digest} {n stripes : ℕ}

/-- The stripes of the material before the last. -/
def firstStripes (material : Bytes) (n stripes : ℕ) : List Bytes :=
  (List.range (stripes - 1)).map (Tks1.stripe material n)

theorem length_firstStripes (material : Bytes) (n stripes : ℕ) :
    (firstStripes material n stripes).length = stripes - 1 := by
  rw [firstStripes, List.length_map, List.length_range]

theorem flatten_firstStripes (material : Bytes) (n stripes : ℕ) :
    (firstStripes material n stripes).flatten = material.take ((stripes - 1) * n) :=
  flatten_map_window n material (stripes - 1)

theorem length_of_mem_firstStripes {material : Bytes} (hlen : stripes * n ≤ material.length) :
    ∀ b ∈ firstStripes material n stripes, b.length = n := by
  intro b hb
  obtain ⟨i, hi, rfl⟩ := List.mem_map.mp hb
  have hlt := List.mem_range.mp hi
  exact (slice?_stripe (by omega) hlen).2

/-- **Splitting undoes merging**: what was merged, split over the same first stripes, gives
the material again, its last stripe included. -/
theorem afSplit_afMerge (hpos : 1 ≤ stripes) {material : Bytes}
    (hlen : stripes * n ≤ material.length) :
    afSplit D (Spec.afMerge D material n stripes) (firstStripes material n stripes) =
      material.take (stripes * n) := by
  have hfirst := length_of_mem_firstStripes hlen
  have hcount := length_firstStripes material n stripes
  have hmul : stripes * n = (stripes - 1) * n + n := by
    rw [← Nat.succ_mul, Nat.succ_eq_add_one, Nat.sub_add_cancel hpos]
  obtain ⟨hslice, hlast⟩ := slice?_stripe (i := stripes - 1) (by omega) hlen
  -- the first stripes are absorbed on both sides
  have hacc : absorb D (List.replicate n 0) (firstStripes material n stripes) =
      Spec.mergeBlocks D material n (stripes - 1) := by
    have h := Spec.mergeBlocks_flatten (D := D) hfirst (material.drop ((stripes - 1) * n))
      hcount.ge
    rw [flatten_firstStripes, List.take_append_drop, List.take_of_length_le hcount.le] at h
    exact h.symm
  have hlength : (Spec.mergeBlocks D material n (stripes - 1)).length = n :=
    Spec.length_mergeBlocks _ _ _ _
  have hkey : (Spec.afMerge D material n stripes).length = n := Spec.length_afMerge _ _ _ _
  rw [afSplit_eq (by rwa [hkey]), hkey, hacc, flatten_firstStripes, Spec.afMerge, hslice]
  change _ ++ xorInto _ (xorInto _ (Tks1.stripe material n (stripes - 1))) = _
  -- XORing the accumulator in twice leaves the last stripe
  rw [xorInto_comm (x := Spec.mergeBlocks D material n (stripes - 1)) (hlength.trans hlast.symm),
    xorInto_comm (by rw [length_xorInto, hlast, hlength]), xorInto_xorInto, Tks1.stripe, window,
    ← List.take_add, ← hmul]

/-- Splitting a master key to `stripes` blocks, all but the last full of `filler`. -/
def afSplitFilled (D : Digest) (master : Bytes) (blockSize stripes : ℕ) (filler : UInt8) : Bytes :=
  let material := List.replicate (blockSize * stripes) filler
  let acc := (List.range (stripes - 1)).foldl (fun acc i =>
    diffuseFrom D 0 (xorInto acc (window material (i * blockSize) blockSize)))
      (List.replicate blockSize 0)
  overwrite material ((stripes - 1) * blockSize) (List.zipWith (· ^^^ ·) master acc)

/-- A constant filler is one choice of the first stripes. -/
theorem afSplitFilled_eq_afSplit (hpos : 1 ≤ stripes) {master : Bytes} (hlen : master.length = n)
    (filler : UInt8) : afSplitFilled D master n stripes filler =
      afSplit D master (List.replicate (stripes - 1) (List.replicate n filler)) := by
  obtain ⟨m, rfl⟩ : ∃ m, stripes = m + 1 := ⟨stripes - 1, by omega⟩
  have hwin : ∀ i < m, window (List.replicate (n * (m + 1)) filler) (i * n) n =
      List.replicate n filler := by
    intro i hi
    have hle := Nat.mul_le_mul_left n (show i + 1 ≤ m + 1 by omega)
    rw [Nat.mul_succ] at hle
    rw [window, List.drop_replicate, List.take_replicate, Nat.mul_comm i,
      Nat.min_eq_left (by omega)]
  have hfill : ∀ k, ∀ b ∈ List.replicate k (List.replicate n filler), b.length = n := by
    intro k b hb
    rw [List.eq_of_mem_replicate hb, List.length_replicate]
  -- the fold over numbers is the fold over the blocks they fetch
  have hacc : ∀ k ≤ m, (List.range k).foldl (fun acc i => diffuseFrom D 0 (xorInto acc
      (window (List.replicate (n * (m + 1)) filler) (i * n) n))) (List.replicate n 0) =
        absorb D (List.replicate n 0) (List.replicate k (List.replicate n filler)) := by
    intro k hk
    induction k with
    | zero => rfl
    | succ k ih =>
      have hlen := length_absorb_zeros (D := D) (hfill k)
      rw [List.range_succ, List.foldl_append, ih (by omega), List.foldl_cons, List.foldl_nil,
        hwin k (by omega), List.replicate_succ',
        ← reference_diffuse_xor D (hlen.trans List.length_replicate.symm), absorb, absorb,
        List.foldl_append]
      rfl
  have hlength : (absorb D (List.replicate n 0)
      (List.replicate m (List.replicate n filler))).length = n := length_absorb_zeros (hfill m)
  have hxor : List.zipWith (· ^^^ ·) master
      (absorb D (List.replicate n 0) (List.replicate m (List.replicate n filler))) =
        xorInto (absorb D (List.replicate n 0) (List.replicate m (List.replicate n filler)))
          master :=
    (xorInto_eq_xor (hlen.trans hlength.symm)).symm.trans (xorInto_comm (hlen.trans hlength.symm))
  -- the last stripe is the end of the material
  have hrest : (List.replicate (n * (m + 1)) filler).drop (m * n + n) = [] := by
    rw [List.drop_eq_nil_iff, List.length_replicate, Nat.mul_succ, Nat.mul_comm]
  rw [afSplitFilled, Nat.add_sub_cancel]
  simp only [hacc m (le_refl m), hxor]
  rw [overwrite, length_xorInto, hlength, hrest, List.append_nil, List.take_replicate, Nat.mul_succ,
    Nat.mul_comm n, Nat.min_eq_left (Nat.le_add_right _ _),
    afSplit_eq (by rw [hlen]; exact hfill m), hlen, List.flatten_replicate_replicate]

/-- **Splitting and merging are inverse**, for every hash, block size and stripe count. What
a key is split to, over any first stripes and with anything after the last, merges to the
key, by the loop itself and through the dispatch on the name of the hash. And what material
merges to, split over its own first stripes, gives its stripes again. -/
theorem split_merge_inverse {σ : Type} (D : Digest) (n stripes : ℕ) (hpos : 1 ≤ stripes) (s : σ) :
    (∀ (key : Bytes) (first : List Bytes) (pad : Bytes) (material : Slice), key.length = n →
      first.length = stripes - 1 → (∀ b ∈ first, b.length = n) →
      material.bytes = afSplit D key first ++ pad →
        (afMerge D material.bytes n stripes s).out = .ok key ∧
        ∀ (K : Crates) (hash : Hash), K.digest hash = D → stripes ≤ maxStripes →
          (merge K hash.name material.bytes n stripes s).out = .ok key) ∧
    ∀ material : Slice, stripes * n ≤ material.bytes.length →
      ∃ key, (afMerge D material.bytes n stripes s).out = .ok key ∧ key.length = n ∧
        afSplit D key (firstStripes material.bytes n stripes) =
          material.bytes.take (stripes * n) := by
  refine ⟨?_, fun material hlen => ?_⟩
  · rintro key first pad material rfl hcount hfirst hmaterial
    obtain rfl : stripes = first.length + 1 := by omega
    have hsplit := length_afSplit (D := D) hfirst
    have hfits : MergeFits key.length (first.length + 1) := by
      refine mergeFits_of_slice hpos material ?_
      rw [hmaterial, List.length_append, hsplit, Nat.mul_comm]
      exact Nat.le_add_right _ _
    have hmerge : (afMerge D material.bytes key.length (first.length + 1) s).out = .ok key := by
      rw [afMerge_out D _ hfits, hmaterial, Spec.afMerge_afSplit hfirst]
    refine ⟨hmerge, fun K hash hdigest hle => ?_⟩
    rw [merge_name K hash _ _ hle, hdigest]
    exact hmerge
  · exact ⟨_, afMerge_out D _ (mergeFits_of_slice hpos material hlen), Spec.length_afMerge _ _ _ _,
      afSplit_afMerge hpos hlen⟩

theorem split_merge_inverse_sample :
    ∃ key, (afMerge ((Sample.tables []).crates.digest .sha1) Sample.twoStripes.bytes 32 2 ()).out =
        .ok key ∧ key.length = 32 ∧
      afSplit ((Sample.tables []).crates.digest .sha1) key
        (firstStripes Sample.twoStripes.bytes 32 2) = Sample.twoStripes.bytes.take (2 * 32) :=
  (split_merge_inverse ((Sample.tables []).crates.digest .sha1) 32 2 (by decide) ()).2
    Sample.twoStripes (by decide)

end Splitting

end Luks
