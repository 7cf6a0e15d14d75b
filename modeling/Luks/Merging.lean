import Luks.Slots
import Luks.Tables

/-!
# When merging is stopped

The anti-forensic splitter is public, so that a caller may hand it any block size and any
stripe count. It refuses a count over the ceiling and a hash it does not know. Of the block
size it checks nothing: the accumulator is one block long, and the loop computes where each
block ends.

So a merge ends by itself exactly when it is refused, or the block fits a buffer and the
stripes the address space (`Luks.merge_endsByItself_iff`). Within an unlock the block size
has been bounded before, and `Luks.merge_follows` applies.
-/

namespace Luks

open Basis

/-- A run that ends by itself, with a value or an error, and asks for no buffer that a
process cannot have. -/
structure EndsByItself {σ α : Type} (run : Run LuksError Event σ α) : Prop where
  /-- The run is not stopped. -/
  no_panic : ∀ p, run.out ≠ .panic p
  /-- Every buffer fits the memory of a process. -/
  alloc : ∀ len, .alloc len ∈ run.events → len ≤ isizeMax

/-- What follows a pure computation, and gives up on nothing, ends by itself. -/
theorem EndsByItself.of_follows {σ α : Type} {I : σ → Prop} {m : Exec σ α}
    {x : Except LuksError α} (h : Triple I m (Follows I (fun _ => False) x) (AllocAtMost isizeMax))
    {s : σ} (hs : I s) : EndsByItself (m s) := by
  obtain ⟨hout, -⟩ := h.sure hs
  exact ⟨fun p hp => Outcome.ofExcept_ne_panic x p (hout.symm.trans hp),
    fun len hlen => (h s hs).2 _ hlen⟩

/-- A block fits a buffer, and the stripes the address space. -/
def MergeFits (blockSize stripes : ℕ) : Prop :=
  blockSize ≤ isizeMax ∧ blockSize * stripes < 2 ^ 64

instance (blockSize stripes : ℕ) : Decidable (MergeFits blockSize stripes) :=
  inferInstanceAs (Decidable (_ ∧ _))

section Stopping

variable {σ : Type} {blockSize stripes : ℕ} {s : σ}

/-- **A merge that returns has fitted**: its accumulator was given out, and the end of its
last block was computed. -/
theorem mergeFits_of_afMerge {D : Digest} {material key : Bytes}
    (h : (afMerge D material blockSize stripes s).out = .ok key) :
    MergeFits blockSize stripes := by
  rw [afMerge] at h
  obtain ⟨zeros, hzeros, h⟩ := Prog.bind_out_eq_ok_iff.mp h
  obtain ⟨acc, -, h⟩ := Prog.bind_out_eq_ok_iff.mp h
  obtain ⟨last, hlast, h⟩ := Prog.bind_out_eq_ok_iff.mp h
  obtain ⟨stop, hstop, -⟩ := Prog.bind_out_eq_ok_iff.mp h
  obtain ⟨-, rfl⟩ := checked_out_eq_ok_iff.mp hlast
  have hlt := checked_out_eq_ok hstop
  refine ⟨vecZeroed_out_eq_ok hzeros, ?_⟩
  cases stripes with
  | zero => rw [Nat.mul_zero]; decide
  | succ n =>
    rw [Nat.add_sub_cancel, Nat.mul_comm] at hlt
    rwa [Nat.mul_succ]

/-- And one that fits returns. -/
theorem afMerge_out (D : Digest) (material : Bytes) (h : MergeFits blockSize stripes) :
    (afMerge D material blockSize stripes s).out =
      .ok (Spec.afMerge D material blockSize stripes) :=
  ((afMerge_follows_of_lt (I := fun _ => True) (E := fun _ => True) D h.1 h.2 trivial).sure
    trivial).1

/-- Merging reports no error. -/
theorem afMerge_reports {I : σ → Prop} (D : Digest) (material : Bytes) :
    Reports I (fun _ => False) (afMerge D material blockSize stripes) := by
  have hdiffuse : ∀ data, Reports I (fun _ => False) (diffuse D data) := fun data =>
    (vecZeroed_reports _).bind fun _ => Reports.pure _
  rw [afMerge]
  refine (vecZeroed_reports _).bind fun zeros => ?_
  refine (Reports.foldlM (fun acc i _ => ?_) zeros).bind fun acc => ?_
  · refine (checked_reports _ _).bind fun start => (checked_reports _ _).bind fun stop => ?_
    split
    · exact hdiffuse _
    · exact Reports.pure _
  · refine (checked_reports _ _).bind fun last => (checked_reports _ _).bind fun stop => ?_
    split <;> exact Reports.pure _

/-- So one that does not fit is stopped. -/
theorem exists_afMerge_panic (D : Digest) (material : Bytes) (h : ¬MergeFits blockSize stripes)
    (s : σ) : ∃ p, (afMerge D material blockSize stripes s).out = .panic p := by
  have hreports : Reports (fun _ => True) (fun _ => False)
      (afMerge D material blockSize stripes : Exec σ Bytes) := afMerge_reports D material
  cases hout : (afMerge D material blockSize stripes s).out with
  | ok key => exact absurd (mergeFits_of_afMerge hout) h
  | err e => exact ((hreports s trivial).1.2 e hout).elim
  | panic p => exact ⟨p, rfl⟩

/-- **When a merge ends by itself**: when it is refused for its stripes or its hash, or a
block fits a buffer and the stripes the address space. -/
theorem merge_endsByItself_iff (K : Crates) (hashSpec : String) (material : Slice)
    (blockSize stripes : UInt64) (s : σ) :
    EndsByItself (merge K hashSpec material.bytes blockSize.toNat stripes.toNat s) ↔
      maxStripes < stripes.toNat ∨ ¬SupportedHash hashSpec ∨
        MergeFits blockSize.toNat stripes.toNat := by
  rw [merge]
  by_cases hs : maxStripes < stripes.toNat
  · rw [if_pos hs]
    exact iff_of_true (EndsByItself.of_follows (I := fun _ => True) Triple.throw_follows trivial)
      (Or.inl hs)
  · rw [if_neg hs, or_iff_right hs, ← Spec.exists_hashOf_iff]
    cases hhash : hashOf hashSpec with
    | error e =>
      refine iff_of_true (EndsByItself.of_follows (I := fun _ => True) (Triple.bind_error_follows
        (Triple.ofExcept_follows (.error e))) trivial) (Or.inl ?_)
      rintro ⟨hash, hok⟩
      cases hok
    | ok hash =>
      rw [or_iff_right (not_not_intro ⟨hash, rfl⟩)]
      constructor
      · intro h
        by_contra hfits
        obtain ⟨p, hp⟩ := exists_afMerge_panic (K.digest hash) material.bytes hfits s
        exact h.no_panic p hp
      · rintro ⟨hb, hfit⟩
        exact EndsByItself.of_follows (I := fun _ => True) (Triple.bind_ok_follows
          (Triple.ofExcept_follows (.ok hash)) (afMerge_follows_of_lt (K.digest hash) hb hfit hb))
          trivial

end Stopping

/-! ### A block that no buffer can hold -/

theorem not_mergeFits_largestBlock : ¬MergeFits (2 ^ 64 - 1) 1 := by decide

/-- **Merging with a block of the largest size is stopped**, though there is only one
stripe and the hash is a known one. -/
theorem not_endsByItself_largestBlock :
    ¬EndsByItself (merge (Sample.tables []).crates "sha256" [] (2 ^ 64 - 1) 1 ()) := by
  intro h
  obtain ⟨p, hp⟩ := exists_afMerge_panic ((Sample.tables []).crates.digest .sha256) []
    not_mergeFits_largestBlock ()
  exact h.no_panic p hp

end Luks
