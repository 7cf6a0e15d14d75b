import Luks.EmptyDigest
import Luks.EntryPoints

/-!
# The speed of the machine

What an unlock reads off the clock decides only whether it goes on. So two runs on the
same bytes, on machines of different speed and within different budgets, can differ only
in that one of them is refused for its time; where neither is, they end the same way
(`Luks.unlock_ignores_speed`).
-/

namespace Luks

open Basis

/-- **The speed of the machine never changes an answer.** Two runs of an unlock on the same
bytes, neither of them refused for its time, end with the same volume, the same error or the
same panic; and where one returns a volume, the other does not reject the passphrase. -/
theorem unlock_ignores_speed {ρ τ : Type} [ImageReader ρ] [ImageReader τ] (K : Crates)
    (e : EntryPoint) (passphrase : Bytes) {r : ρ} {t : τ} (hrt : SameImage r t) (clk clk' : Clock)
    (budget budget' : Duration)
    (hrun : ∀ err, (e.unlock K clk passphrase budget (World.init r)).out = .err err →
      ¬err.IsBudgetRefusal)
    (hrun' : ∀ err, (e.unlock K clk' passphrase budget' (World.init t)).out = .err err →
      ¬err.IsBudgetRefusal) :
    Outcome.Rel SameVolume (e.unlock K clk passphrase budget (World.init r)).out
        (e.unlock K clk' passphrase budget' (World.init t)).out ∧
      ∀ u, (e.unlock K clk passphrase budget (World.init r)).out = .ok u →
        (e.unlock K clk' passphrase budget' (World.init t)).out ≠ .err .authenticationFailed := by
  have hrel : Outcome.Rel SameVolume (e.unlock K clk passphrase budget (World.init r)).out
      (e.unlock K clk' passphrase budget' (World.init t)).out := by
    have ht : Opens (ImageReader.image r) (World.init t) := hrt.symm
    exact Outcome.rel_of_map_eq ((EntryPoint.out_eq K clk (opens_init r) hrun).trans
      (EntryPoint.out_eq K clk' ht hrun').symm)
  refine ⟨hrel, fun u hu hfailed => ?_⟩
  rw [hu, hfailed] at hrel
  cases hrel

namespace Sample

/-- Metadata whose digest is not base64, and whose keyslot asks for so many iterations that they
are measured before they are run. -/
def slow : Metadata := { noDigest with iterations := 30000 }

theorem fits_slow : slow.Fits :=
  Metadata.fits_of_texts (by decide +kernel) (by decide +kernel)

/-- A clock that moves on at some rate, for a while. -/
def moving (rate : ℕ) : Clock :=
  ⟨fun n => min (rate * n) 6, fun _ _ h => min_le_min_right 6 (Nat.mul_le_mul_left rate h)⟩

/-- It leaves time for any derivation. -/
theorem ample_moving (rate : ℕ) {budget : ℕ} (h : 2 ^ 35 ≤ budget) :
    (moving rate).Ample budget := by
  have hrange : ∀ m n, (moving rate).now n - (moving rate).now m ≤ 6 :=
    fun m n => (Nat.sub_le _ _).trans (min_le_right _ _)
  exact Clock.ample_of_range hrange (by decide) (by omega)

/-- Within a budget that is ample, the container opens. -/
theorem exists_unlock2_slow {clk : Clock} {budget : Duration} (hample : clk.Ample budget) :
    ∃ u, (unlock2WithPassphraseWithin (cratesOf slow) clk passphrase budget
      (World.init (readerOf fits_slow [] length_nil_lt))).out = .ok u := by
  have hluks := isLuks2_imageOf fits_slow [] (by decide) length_nil_lt
  obtain ⟨key, slot, dig, haccepts, -⟩ := Spec.exists_accepts2_nil_iff.mpr
    (reachesEmptyDigest_imageOf fits_slow rfl rfl passphrase)
  have hspec := Spec.unlock2_eq_ok_iff.mpr ⟨hluks.length_le, _, _, ⟨key, .luks2 slot dig⟩,
    hluks.parses, hluks.chosen,
    Spec.recoverMasterKey2_eq_ok_iff_accepts.mpr ⟨_, _, haccepts, rfl⟩, rfl⟩
  have hrun := unlock2_run (ρ := Cursor) (cratesOf slow) clk hluks.not_oversized budget passphrase
  rw [hspec] at hrun
  have hopens : Opens (imageOf fits_slow []) (World.init (readerOf fits_slow [] length_nil_lt)) :=
    rfl
  obtain ⟨u, hu, -⟩ := hrun.ok_of_ample clk hopens hample
  exact ⟨u, hu⟩

end Sample

theorem unlock_ignores_speed_sample :
    calibrationIters < Sample.slow.iterations ∧ ∃ u,
      (EntryPoint.luks2.unlock (Sample.cratesOf Sample.slow) (Sample.moving 1) Sample.passphrase
        (2 ^ 36) (World.init (Sample.readerOf Sample.fits_slow [] Sample.length_nil_lt))).out =
          .ok u ∧
      Outcome.Rel SameVolume (.ok u)
        (EntryPoint.luks2.unlock (Sample.cratesOf Sample.slow) (Sample.moving 2) Sample.passphrase
          (2 ^ 35)
          (World.init (Sample.readerOf Sample.fits_slow [] Sample.length_nil_lt))).out := by
  have hreturns : ∀ (clk : Clock) (budget : Duration), clk.Ample budget → ∀ err,
      (EntryPoint.luks2.unlock (Sample.cratesOf Sample.slow) clk Sample.passphrase budget
        (World.init (Sample.readerOf Sample.fits_slow [] Sample.length_nil_lt))).out = .err err →
      ¬err.IsBudgetRefusal := by
    intro clk budget hample err herr
    obtain ⟨u, hu⟩ := Sample.exists_unlock2_slow hample
    rw [EntryPoint.unlock, hu] at herr
    cases herr
  have hone : (Sample.moving 1).Ample (2 ^ 36) := Sample.ample_moving 1 (by decide)
  have htwo : (Sample.moving 2).Ample (2 ^ 35) := Sample.ample_moving 2 (by decide)
  obtain ⟨u, hu⟩ := Sample.exists_unlock2_slow hone
  have hrel := (unlock_ignores_speed _ .luks2 _ rfl _ _ (2 ^ 36) (2 ^ 35)
    (hreturns _ _ hone) (hreturns _ _ htwo)).1
  exact ⟨by decide, u, hu, hu ▸ hrel⟩

end Luks
