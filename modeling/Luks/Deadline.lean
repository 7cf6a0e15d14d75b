import Luks.Projection
import Luks.WholeUnits
import Mathlib.Data.Rat.Cast.Order
import Mathlib.Tactic.FieldSimp

/-!
# The aggregate budget

An unlock is bounded as a whole, not only derivation by derivation: every
derivation starts before its deadline has passed, and is given no more than what is
left and no more than a single derivation may take. This holds of every run of the
two recovery loops, for any number of keyslots and digests, on any reader – also one
that fails – and under any clock.

Where an iteration of PBKDF2 has a constant cost during each call, the projection
turns that allowance into a bound on the time the call takes
(`Luks.Pbkdf2Run.finish_le`): only the calibration comes on top of it.
-/

namespace Luks

open Basis

/-- What the deadline `d` promises of an event: derivations are granted, and PBKDF2
calls run as their projection says. -/
def InTime (d : UnlockDeadline) : Event → Prop
  | .derive start allowance => d.Grants start allowance
  | .pbkdf2 run => d.Grants run.start run.allowance ∧ run.Projected
  | _ => True

theorem permitsDerivation_inTime (d : UnlockDeadline) : PermitsDerivation (InTime d) d :=
  ⟨fun _ _ => trivial, fun _ _ hgrants => hgrants, fun _ hgrants hrun => ⟨hgrants, hrun⟩⟩

/-- A run that is made of words whose other events are in time is in time: decryption takes
none. -/
theorem inTime_of_madeOf {σ α : Type} {run : Run LuksError Event σ α} {d : UnlockDeadline}
    (h : MadeOf (unlockVocabulary (InTime d)).words begun run) : ∀ v ∈ run.events, InTime d v :=
  forall_mem_of_madeOf h (fun _ hv => hv) (fun _ _ => trivial) (fun _ => trivial)
    (fun _ _ _ => trivial) fun _ _ _ => trivial

/-! ### What a projection promises -/

/-- The call took `c` nanoseconds per iteration, and nothing else: the calibration
runs from the start, and the full count, if it is run, after it. -/
structure Pbkdf2Run.Costs (run : Pbkdf2Run) (c : ℚ) : Prop where
  /-- The calibration starts at once and takes its iterations' time. -/
  probe : ∀ a b, run.probe = some (a, b) → a = run.start ∧ (b : ℚ) = a + calibrationIters * c
  /-- What is run takes its iterations' time. -/
  finish : (run.finish : ℚ) = (run.probe.elim run.start Prod.snd : ℕ) +
    if run.ran then run.iters * c else 0

/-- A count whose calibration took `c` per iteration, and whose projection fits, takes
no more than it was given. Instants are whole nanoseconds, so the scaling is exact. -/
theorem mul_le_of_projected {start stop finish iters allowance : ℕ} {c : ℚ} (hc : 0 ≤ c)
    (hprobe : (stop : ℚ) = start + calibrationIters * c) (hfinish : (finish : ℚ) = stop + iters * c)
    (h : projectedPbkdf2 (stop - start) iters ≤ allowance) (hb : allowance ≤ derivationBudget) :
    (iters : ℚ) * c ≤ allowance := by
  have hcal : (0 : ℚ) ≤ calibrationIters * c := mul_nonneg (Nat.cast_nonneg _) hc
  have hiter : (0 : ℚ) ≤ iters * c := mul_nonneg (Nat.cast_nonneg _) hc
  have hstart : start ≤ stop := by
    have : (start : ℚ) ≤ stop := by linarith
    exact_mod_cast this
  have hstop : stop ≤ finish := by
    have : (stop : ℚ) ≤ finish := by linarith
    exact_mod_cast this
  have hfull : ((finish - stop : ℕ) : ℚ) = iters * c := by
    rw [Nat.cast_sub hstop]
    linarith
  have hmeasured : ((stop - start : ℕ) : ℚ) = calibrationIters * c := by
    rw [Nat.cast_sub hstart]
    linarith
  -- both runs take time in proportion to their counts
  have hscale : (stop - start) * iters = calibrationIters * (finish - stop) := by
    have : ((stop - start : ℕ) : ℚ) * iters = calibrationIters * ((finish - stop : ℕ) : ℚ) := by
      rw [hfull, hmeasured]
      ring
    exact_mod_cast this
  have hle : (stop - start) * iters / calibrationIters ≤ allowance :=
    Nat.le_of_not_lt fun hover => Nat.not_lt_of_le h ((lt_projectedPbkdf2_iff hb).mpr hover)
  rw [hscale, Nat.mul_div_cancel_left _ (by decide)] at hle
  rw [← hfull]
  exact_mod_cast hle

/-- **A PBKDF2 call of constant cost ends in the time it was given**, apart from its
calibration. -/
theorem Pbkdf2Run.finish_le {run : Pbkdf2Run} {c C : ℚ} (hrun : run.Projected)
    (hcost : run.Costs c) (hc : 0 ≤ c) (hC : c ≤ C) (hb : run.allowance ≤ derivationBudget) :
    (run.finish : ℚ) ≤ run.start + run.allowance + calibrationIters * C := by
  have hcal : (calibrationIters : ℚ) * c ≤ calibrationIters * C :=
    mul_le_mul_of_nonneg_left hC (by positivity)
  have hleft : (0 : ℚ) ≤ run.allowance := Nat.cast_nonneg _
  have hfinish := hcost.finish
  rcases Nat.lt_or_ge calibrationIters run.iters with hlarge | hsmall
  · obtain ⟨a, b, hprobe, hfit⟩ := hrun.measured hlarge
    obtain ⟨rfl, hb'⟩ := hcost.probe a b hprobe
    rw [hprobe, Option.elim_some, hb'] at hfinish
    cases hran : run.ran with
    | false =>
      rw [hran, if_neg Bool.false_ne_true] at hfinish
      linarith
    | true =>
      -- the full count takes the calibration scaled to it, and that fits
      have hfull : (run.iters : ℚ) * c ≤ run.allowance :=
        mul_le_of_projected hc hb' (by rw [hfinish, hran, if_pos rfl, hb']) (hfit hran) hb
      rw [hran, if_pos rfl] at hfinish
      linarith
  · have hmul : (run.iters : ℚ) * c ≤ calibrationIters * c :=
      mul_le_mul_of_nonneg_right (by exact_mod_cast hsmall) hc
    have hiter : (0 : ℚ) ≤ run.iters * c := mul_nonneg (Nat.cast_nonneg _) hc
    rw [hrun.direct hsmall, Option.elim_none] at hfinish
    split_ifs at hfinish <;> linarith

/-- What the deadline promises of the events of a run. Each derivation starts before
the deadline has passed, and is given at most what is left and what one derivation may
take. And where PBKDF2 has a constant cost per iteration in each call, at most `C`,
every PBKDF2 call has ended when the total and one calibration are over, and none takes
longer than one derivation may and one calibration. -/
structure UnlockDeadline.Bounds (d : UnlockDeadline) (events : List Event) : Prop where
  /-- Derivations start in time, with an allowance. -/
  derive : ∀ start allowance, .derive start allowance ∈ events →
    start - d.started < d.total ∧
      allowance ≤ min derivationBudget (d.total - (start - d.started))
  /-- PBKDF2 calls of constant cost end in time. -/
  pbkdf2 : ∀ C : ℚ, (∀ run, .pbkdf2 run ∈ events → ∃ c, 0 ≤ c ∧ c ≤ C ∧ run.Costs c) →
    ∀ run, .pbkdf2 run ∈ events →
      (run.finish : ℚ) ≤ d.started + d.total + calibrationIters * C ∧
      (run.finish : ℚ) - run.start ≤ derivationBudget + calibrationIters * C

theorem UnlockDeadline.bounds_of_inTime {d : UnlockDeadline} {events : List Event}
    (h : ∀ v ∈ events, InTime d v) : d.Bounds events := by
  refine ⟨fun start allowance hmem => ?_, fun C hcosts run hmem => ?_⟩
  · obtain ⟨hearly, hwithin⟩ := h _ hmem
    exact ⟨hearly, hwithin⟩
  · obtain ⟨⟨hearly, hwithin⟩, hprojected⟩ := h _ hmem
    obtain ⟨c, hc, hC, hcost⟩ := hcosts run hmem
    have hend := run.finish_le hprojected hcost hc hC (hwithin.trans (min_le_left _ _))
    have hone : (run.allowance : ℚ) ≤ derivationBudget := by
      exact_mod_cast hwithin.trans (min_le_left _ _)
    have htotal : (run.start : ℚ) + run.allowance ≤ d.started + d.total := by
      have hle : run.allowance ≤ d.total - (run.start - d.started) :=
        hwithin.trans (min_le_right _ _)
      have : run.start + run.allowance ≤ d.started + d.total :=
        (Nat.add_le_add_left hle run.start).trans (by omega)
      exact_mod_cast this
    exact ⟨by linarith, by linarith⟩

/-- **The aggregate budget.** Every run of either recovery loop keeps to its deadline,
for any header, on any reader and under any clock. -/
theorem recovery_in_time {ρ : Type} [ReadSeek ρ] (K : Crates) (clk : Clock) (d : UnlockDeadline)
    (passphrase : Bytes) (w : World ρ) :
    (∀ (header : Luks1Header) (keyBytes : ℕ),
      d.Bounds (recoverMasterKey1 K clk header passphrase keyBytes d w).events) ∧
    ∀ header : Luks2Header, d.Bounds (recoverMasterKey2 K clk header passphrase d w).events :=
  ⟨fun header keyBytes => UnlockDeadline.bounds_of_inTime (inTime_of_madeOf
      (recoverMasterKey1_traced K clk (permitsDerivation_inTime d) (fun _ => trivial) header
        passphrase keyBytes w)),
    fun header => UnlockDeadline.bounds_of_inTime (inTime_of_madeOf
      (recoverMasterKey2_traced K clk (permitsDerivation_inTime d) (fun _ => trivial) header
        passphrase w))⟩

end Luks
