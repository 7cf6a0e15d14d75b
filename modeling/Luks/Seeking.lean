import Luks.Variants

/-!
# Where a seek goes

A seek computes its target in 128 bits, refuses a negative one, and cuts what is left to
the 64 bits of a position. The target is the position, or the size, plus an offset of 63
bits: where the position is free to be any `u64`, as it is after a seek from the start,
the sum need not fit.

So a seek is exact or refused when its target is below 2^64, and only then
(`Luks.seeksExactly_iff`); and so is every seek of a run
(`Luks.seeks_exact_along_iff`).
-/

namespace Luks

open Basis

namespace DecryptedPayload

variable {ρ : Type}

/-- Where a seek should go, as an unbounded integer. -/
def seekTarget (p : DecryptedPayload ρ) (pos : SeekFrom) : ℤ :=
  File.target p.payloadSize p.position.toNat pos

/-- A seek is exact or refused: a position it returns is its target, as is the position it
leaves, and it refuses a target that is no `u64`, leaving the position alone. -/
structure SeeksExactly (p : DecryptedPayload ρ) (pos : SeekFrom) : Prop where
  /-- What is returned, and where the payload is then, is the target. -/
  exact : ∀ n, (seek pos p).out = .ok n →
    (n.toNat : ℤ) = p.seekTarget pos ∧
      ((seek pos p).final.position.toNat : ℤ) = p.seekTarget pos
  /-- A target that does not fit is refused. -/
  refused : p.seekTarget pos < 0 ∨ 2 ^ 64 ≤ p.seekTarget pos →
    (∃ e, (seek pos p).out = .err e) ∧ (seek pos p).final.position = p.position

variable {p : DecryptedPayload ρ} {pos : SeekFrom}

theorem seek_of_neg (h : p.seekTarget pos < 0) :
    seek pos p = ⟨.err (.io (.invalidInput "seek before start")), [], p⟩ :=
  (seek_apply p pos).trans (if_pos h)

theorem seek_of_nonneg (h : 0 ≤ p.seekTarget pos) :
    seek pos p = ⟨.ok (UInt64.ofNat (p.seekTarget pos).toNat), [],
      p.movedTo p.reader (UInt64.ofNat (p.seekTarget pos).toNat)⟩ :=
  (seek_apply p pos).trans (if_neg (not_lt_of_ge h))

/-- A seek to a target below 2^64 is exact or refused. -/
theorem SeeksExactly.of_lt (h : p.seekTarget pos < 2 ^ 64) : SeeksExactly p pos := by
  rcases lt_or_ge (p.seekTarget pos) 0 with hneg | hnonneg
  · refine ⟨fun n hn => ?_, fun _ => ?_⟩
    · rw [seek_of_neg hneg] at hn
      cases hn
    · rw [seek_of_neg hneg]
      exact ⟨⟨_, rfl⟩, rfl⟩
  · have hnat : ((UInt64.ofNat (p.seekTarget pos).toNat).toNat : ℤ) = p.seekTarget pos := by
      rw [UInt64.toNat_ofNat_of_lt' (show _ < 2 ^ 64 by omega)]
      exact Int.toNat_of_nonneg hnonneg
    refine ⟨fun n hn => ?_, fun hout => ?_⟩
    · rw [seek_of_nonneg hnonneg] at hn ⊢
      obtain rfl := Outcome.ok.inj hn
      exact ⟨hnat, hnat⟩
    · omega

/-- **When a seek is exact or refused**: when its target is below 2^64. Any other target is
cut to 64 bits, and returned. -/
theorem seeksExactly_iff : SeeksExactly p pos ↔ p.seekTarget pos < 2 ^ 64 := by
  refine ⟨fun h => ?_, SeeksExactly.of_lt⟩
  by_contra hbig
  obtain ⟨⟨e, he⟩, -⟩ := h.refused (Or.inr (not_lt.mp hbig))
  rw [seek_of_nonneg (by omega)] at he
  cases he

/-- A call, if it is a seek, is exact or refused. -/
def CallExact (p : DecryptedPayload ρ) : File.Call → Prop
  | .seek pos => SeeksExactly p pos
  | _ => True

/-- A call, if it is a seek, has a target below 2^64. -/
def CallInRange (p : DecryptedPayload ρ) : File.Call → Prop
  | .seek pos => p.seekTarget pos < 2 ^ 64
  | _ => True

theorem callExact_iff (p : DecryptedPayload ρ) (c : File.Call) :
    CallExact p c ↔ CallInRange p c := by
  cases c with
  | seek pos => exact seeksExactly_iff
  | readAt offset n => exact Iff.rfl
  | read n => exact Iff.rfl

end DecryptedPayload

/-- **Seeks are exact or refused along every run** of reads and seeks, from any payload,
exactly when their targets are below 2^64; and so is any seek in the state the run ends
in. -/
theorem seeks_exact_along_iff {ρ : Type} [ReadSeek ρ] (K : Crates) (p : DecryptedPayload ρ)
    (calls : List File.Call) :
    (AllLegal (DecryptedPayload.call K) DecryptedPayload.CallExact p calls ↔
        AllLegal (DecryptedPayload.call K) DecryptedPayload.CallInRange p calls) ∧
      ∀ pos, (replies (DecryptedPayload.call K) p calls).2.SeeksExactly pos ↔
        (replies (DecryptedPayload.call K) p calls).2.seekTarget pos < 2 ^ 64 :=
  ⟨allLegal_congr DecryptedPayload.callExact_iff, fun _ => DecryptedPayload.seeksExactly_iff⟩

/-! ### Two seeks that wrap around -/

namespace Sample

/-- A seek to the largest position, and one more byte. -/
def wrappingSeeks : List File.Call := [.seek (.start 0xFFFFFFFFFFFFFFFF), .seek (.current 1)]

end Sample

/-- **The position wraps around**: on an unlocked container, a seek by one byte from the
largest position is neither exact nor refused. -/
theorem not_callExact_wrappingSeeks : ¬∀ u, (unlock2WithPassphraseWithin
    (Sample.cratesOf Sample.metadata) Sample.clock Sample.passphrase 1
    (World.init (Sample.readerOf Sample.fits_metadata [] (by decide)))).out = .ok u →
      AllLegal (DecryptedPayload.call (Sample.cratesOf Sample.metadata))
        DecryptedPayload.CallExact u.payload Sample.wrappingSeeks := by
  intro h
  obtain ⟨u, hu, -⟩ := Sample.exists_unlock2_imageOf Sample.fits_metadata [] (by decide)
    (by decide) rfl rfl rfl Sample.stands_clock Nat.one_pos
  obtain ⟨-, hsecond, -⟩ := h u hu
  have hlt : (((0xFFFFFFFFFFFFFFFF : UInt64).toNat : ℤ) + (1 : Int64).toInt) < 2 ^ 64 :=
    DecryptedPayload.seeksExactly_iff.mp hsecond
  exact absurd hlt (by decide)

end Luks
