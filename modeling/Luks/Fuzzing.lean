import Luks.Addresses
import Luks.EntryPoints
import Luks.Merging

/-!
# The fuzz targets

The targets that are fuzzed run the code on arbitrary bytes, and are to end by themselves
whatever these are. The one of the merge does (`Luks.fuzzAfMerge_ends`). The one of the whole
pipeline unlocks the bytes with a fixed passphrase, and reads the first sector of the payload.
It is stopped by the bytes that declare a LUKS2 header that no buffer can have, and by those
that unlock to a volume whose data unit no buffer can have, and by no others
(`Luks.fuzzUnlock_stops_iff`).
-/

namespace Luks

open Basis

/-- A program whose errors are values is stopped where the program is. -/
theorem attempt_out_panic_iff {ε ε' ν σ α : Type} {m : Prog ε ν σ α} {s : σ} {p : Panic} :
    (Prog.attempt m s : Run ε' ν σ (Except ε α)).out = .panic p ↔ (m s).out = .panic p := by
  simp only [Prog.attempt]
  cases (m s).out <;> simp

/-- And returns where it is not. -/
theorem exists_attempt_ok {ε ε' ν σ α : Type} {m : Prog ε ν σ α} {s : σ}
    (h : ∀ p, (m s).out ≠ .panic p) :
    ∃ x, (Prog.attempt m s : Run ε' ν σ (Except ε α)).out = .ok x := by
  cases hout : (m s).out with
  | ok a => exact ⟨.ok a, by rw [Prog.attempt_of_ok hout]⟩
  | err e => exact ⟨.error e, by rw [Prog.attempt_of_err hout]⟩
  | panic p => exact absurd hout (h p)

/-- What is tried, and ignored, stops the run where it is stopped. -/
theorem ignored_panic_iff {ε ε' ν σ α : Type} {m : Prog ε ν σ α} {s : σ} {p : Panic} :
    ((Prog.attempt m >>= fun _ => Pure.pure () : Prog ε' ν σ Unit) s).out = .panic p ↔
      (m s).out = .panic p := by
  have hattempt : (Prog.attempt m s : Run ε' ν σ (Except ε α)).out = .panic p ↔
      (m s).out = .panic p := attempt_out_panic_iff
  rw [← hattempt]
  cases hout : (Prog.attempt m s : Run ε' ν σ (Except ε α)).out with
  | ok x => simp [Prog.bind_of_ok hout]
  | err e => simp [Prog.bind_of_err hout]
  | panic q => simp [Prog.bind_of_panic hout]

section Merging

variable {σ : Type} (K : Crates)

/-- The hash that the fuzzer chooses with a byte. -/
def fuzzHash (b : UInt8) : String :=
  match b.toNat % 4 with
  | 0 => "sha1"
  | 1 => "sha256"
  | 2 => "sha512"
  | _ => "unsupported-hash"

/-- Fuzz the merge: three bytes choose the hash, the block size and the stripes, and the
others are the material. -/
def fuzzAfMerge : Bytes → Exec σ Unit
  | b :: blockSize :: stripes :: material => do
      let _ ← Prog.attempt (merge K (fuzzHash b) material blockSize.toNat stripes.toNat)
      return ()
  | _ => return ()

/-- **The target of the merge ends by itself**, on any bytes: a byte is no block that could not
be had. -/
theorem fuzzAfMerge_ends (data : Bytes) (s : σ) : (fuzzAfMerge K data s).out = .ok () := by
  rcases data with _ | ⟨b, _ | ⟨blockSize, _ | ⟨stripes, material⟩⟩⟩
  -- the front of the bytes holds the parameters, if it is long enough
  · rfl
  · rfl
  · rfl
  · have hblock := blockSize.toNat_lt
    have hstripes := stripes.toNat_lt
    have hfits : MergeFits blockSize.toNat stripes.toNat := by
      refine ⟨by rw [isizeMax]; omega, ?_⟩
      calc blockSize.toNat * stripes.toNat ≤ 2 ^ 8 * 2 ^ 8 :=
            Nat.mul_le_mul hblock.le hstripes.le
        _ < 2 ^ 64 := by decide
    have hends : ∀ p, (merge K (fuzzHash b) material blockSize.toNat stripes.toNat s).out ≠
        .panic p := by
      intro p
      rw [merge, if_neg (by rw [maxStripes]; omega)]
      cases hhash : hashOf (fuzzHash b) with
      | error e =>
        intro hp
        cases hp
      | ok hash =>
        intro hp
        have hout := afMerge_out (s := s) (K.digest hash) material hfits
        cases hout.symm.trans hp
    obtain ⟨x, hx⟩ : ∃ x, (Prog.attempt (merge K (fuzzHash b) material blockSize.toNat
        stripes.toNat) s : Run LuksError Event σ (Except LuksError Bytes)).out = .ok x :=
      exists_attempt_ok hends
    rw [fuzzAfMerge, Prog.bind_of_ok hx]
    rfl

end Merging

section Unlocking

variable {ρ : Type} [ReadSeek ρ] (K : Crates) (clk : Clock)

/-- The passphrase that the fuzzer tries. -/
def fuzzPassphrase : Bytes := "luks-TEST".toUTF8.toList

/-- Fuzz the pipeline: unlock, and read the first sector. -/
def fuzzUnlock : Exec (World ρ) Unit := do
  match ← Prog.attempt (unlockWithPassphrase K clk fuzzPassphrase) with
  | .error _ => return ()
  | .ok vol =>
      let _ ← Prog.attempt (Prog.zoom (fun _ => vol.payload) (fun _ w => w)
        (DecryptedPayload.readAt K 0 512))
      return ()

end Unlocking

section Stopping

variable {ρ : Type} [ImageReader ρ] (K : Crates) (clk : Clock)

/-- The first sector of a payload can be read unless a data unit has no buffer. -/
theorem readAt_first_panic_iff {p : DecryptedPayload ρ} (htweak : p.ivTweak.toNat < 2 ^ 64) :
    (∃ q, (DecryptedPayload.readAt K 0 512 p).out = .panic q) ↔ isizeMax < p.unitSize := by
  have hpayload := p.payloadOffset.toNat_lt
  -- the sector lies in the first unit, and that stands where the payload does
  have hfirst : p.unitAddress 0 < 2 ^ 64 := by
    rwa [DecryptedPayload.unitAddress, Nat.zero_div, Nat.zero_mul]
  have hlast : p.unitAddress (0 + (512 - 1)) < 2 ^ 64 := by
    have hle := p.sector_le
    rwa [DecryptedPayload.unitAddress, Nat.div_eq_of_lt (by
      rw [DecryptedPayload.unitSize]
      omega), Nat.zero_mul]
  have hreads := readUnits_readsTo (K := K) htweak (show 0 < 512 by decide)
    (show 0 < 2 ^ 64 by decide) p.reader
  change ReadsTo K p _ 0 512 (p.readUnits K (0 : UInt64).toNat 512 0 p.reader).out at hreads
  rw [DecryptedPayload.readAt_apply]
  dsimp only
  constructor
  · rintro ⟨q, hq⟩
    rw [hq] at hreads
    cases hreads with
    | noAddress hbad => exact absurd hfirst (Nat.not_lt_of_le hbad)
    | noBuffer _ hss => exact hss
    | stopped _ _ hbad => exact absurd hlast (Nat.not_lt_of_le hbad)
  · intro hss
    exact ⟨_, readUnits_of_first_panic (by decide) (by decide)
      (readUnit_of_isizeMax_lt K p hfirst hss p.reader)⟩

/-- The target of the pipeline is stopped in the unlock, or in the read after it. -/
theorem fuzzUnlock_panic_iff {w : World ρ} {q : Panic} :
    (fuzzUnlock K clk w).out = .panic q ↔
      (unlockWithPassphrase K clk fuzzPassphrase w).out = .panic q ∨
      ∃ vol, (unlockWithPassphrase K clk fuzzPassphrase w).out = .ok vol ∧
        (DecryptedPayload.readAt K 0 512 vol.payload).out = .panic q := by
  rw [fuzzUnlock]
  cases hout : (unlockWithPassphrase K clk fuzzPassphrase w).out with
  | ok vol =>
    rw [Prog.bind_of_ok (by rw [Prog.attempt_of_ok hout])]
    dsimp only
    rw [ignored_panic_iff]
    simp [Prog.zoom]
  | err e =>
    rw [Prog.bind_of_ok (by rw [Prog.attempt_of_err hout])]
    simp
  | panic q' =>
    rw [Prog.bind_of_panic (attempt_out_panic_iff.mpr hout)]
    simp

variable {K} in
/-- What unlocks and does not say it is of version 2 has sectors. -/
theorem Spec.unitSize_of_unlock {img passphrase : Bytes} {u : Unlocked Bytes}
    (hversion : beU16 img 6 ≠ 2) (h : unlock K img passphrase = .ok u) :
    u.payload.unitSize = 512 := by
  have hle : 8 ≤ img.length := by
    by_contra hshort
    rw [unlock, readFill_of_gt (by decide) (by omega)] at h
    cases h
  rw [unlock_eq_of_le hle] at h
  split_ifs at h
  obtain ⟨header, found, -, -, rfl⟩ := unlock1_eq_ok_iff.mp h
  exact show (UInt64.ofNat sector).toNat = 512 by decide

/-- **What stops the target of the pipeline.** Some clock lets it be stopped exactly by the
bytes that declare a LUKS2 header that no buffer can have, by those whose unlock comes to a LUKS2
keyslot that stops it, and by those that unlock to a volume whose data unit no buffer can have;
and it is never stopped by bytes of another version. -/
theorem fuzzUnlock_stops_iff (r : ρ) :
    ((∃ clk q, (fuzzUnlock K clk (World.init r)).out = .panic q) ↔
      beU16 (ImageReader.image r) 6 = 2 ∧ Oversized (ImageReader.image r) ∨
      beU16 (ImageReader.image r) 6 = 2 ∧
        Spec.UnlockStops2 K (ImageReader.image r) fuzzPassphrase ∨
      ∃ u, Spec.unlock K (ImageReader.image r) fuzzPassphrase = .ok u ∧
        isizeMax < u.payload.unitSize) ∧
    (beU16 (ImageReader.image r) 6 ≠ 2 → ∀ clk q,
      (fuzzUnlock K clk (World.init r)).out ≠ .panic q) := by
  have hpanic : (∃ clk q, (fuzzUnlock K clk (World.init r)).out = .panic q) ↔
      beU16 (ImageReader.image r) 6 = 2 ∧ Oversized (ImageReader.image r) ∨
      beU16 (ImageReader.image r) 6 = 2 ∧
        Spec.UnlockStops2 K (ImageReader.image r) fuzzPassphrase ∨
      ∃ u, Spec.unlock K (ImageReader.image r) fuzzPassphrase = .ok u ∧
        isizeMax < u.payload.unitSize := by
    constructor
    · rintro ⟨clk, q, hq⟩
      by_cases hstop : EntryPoint.detect.Stopped (ImageReader.image r)
      · exact Or.inl hstop
      rcases (fuzzUnlock_panic_iff K clk).mp hq with hout | ⟨vol, hvol, hread⟩
      · have hanswers := EntryPoint.answers (ρ := ρ) K clk hstop unlockBudget fuzzPassphrase
        exact Or.inr (Or.inl (hanswers.stopped (opens_init r) hout).1)
      · obtain ⟨-, hspec⟩ := unlock_eq_ok K clk (opens_init r) hvol
        obtain ⟨-, htweak⟩ := (UnlockedFrom.either hvol).isXtsKey
        exact Or.inr (Or.inr ⟨_, hspec, (readAt_first_panic_iff K htweak).mp ⟨q, hread⟩⟩)
    · intro h
      by_cases hstop : EntryPoint.detect.Stopped (ImageReader.image r)
      · exact ⟨.stopped 0, _, (fuzzUnlock_panic_iff K _).mpr
          (Or.inl (EntryPoint.stops K _ hstop unlockBudget fuzzPassphrase (opens_init r)))⟩
      -- on a clock that stands the unlock comes to its keyslot, or to its end
      rcases h.resolve_left hstop with hhalts | ⟨u, hspec, hss⟩
      · have hrun : Triple (Opens (ρ := ρ) (ImageReader.image r))
            (EntryPoint.detect.unlock K (.stopped 0) fuzzPassphrase unlockBudget)
            (Halts .arithmeticOverflow (Refuses (.stopped 0) unlockBudget)) fun _ => True :=
          EntryPoint.halts K (.stopped 0) hstop hhalts
        rcases (hrun _ (opens_init r)).1 with hp | ⟨e, he, -⟩
        · exact ⟨.stopped 0, _, (fuzzUnlock_panic_iff K _).mpr (Or.inl hp)⟩
        · exact absurd he (not_refuses _ (Clock.stands_stopped 0) (by decide) e)
      · have hrun := EntryPoint.answers (ρ := ρ) K (.stopped 0) hstop unlockBudget fuzzPassphrase
        rw [show EntryPoint.detect.spec K (ImageReader.image r) fuzzPassphrase = .ok u from hspec]
          at hrun
        obtain ⟨vol, hvol, rfl⟩ := hrun.settles_ok _ (opens_init r) (Clock.stands_stopped 0)
          (by decide)
        obtain ⟨-, htweak⟩ := (UnlockedFrom.either hvol).isXtsKey
        obtain ⟨q, hq⟩ := (readAt_first_panic_iff K htweak).mpr hss
        exact ⟨.stopped 0, q, (fuzzUnlock_panic_iff K _).mpr (Or.inr ⟨vol, hvol, hq⟩)⟩
  refine ⟨hpanic, fun hversion clk q hq => ?_⟩
  rcases hpanic.mp ⟨clk, q, hq⟩ with h | h | ⟨u, hspec, hss⟩
  · exact hversion h.1
  · exact hversion h.1
  · have hsmall : u.payload.unitSize = 512 := Spec.unitSize_of_unlock hversion hspec
    rw [hsmall] at hss
    exact absurd hss (by decide)

end Stopping

end Luks
