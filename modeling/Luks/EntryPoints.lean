import Luks.Agreement

/-!
# The ways to start an unlock

A container is opened by one of three entry points: one for each version of the format,
and one that finds out the version (`Luks.EntryPoint`). Each answers what its function
under `Luks.Spec` says (`Luks.EntryPoint.answers`) – but for two kinds of images that stop a
LUKS2 unlock under every clock: those that declare a header which no buffer can hold
(`Luks.EntryPoint.stops`), and those with a keyslot that stops the unlock which comes to it
(`Luks.EntryPoint.halts`).
-/

namespace Luks

open Basis

/-- The ways to start an unlock. -/
inductive EntryPoint where
  /-- Find out the version. -/
  | detect
  /-- As a LUKS1 container. -/
  | luks1
  /-- As a LUKS2 container. -/
  | luks2

namespace EntryPoint

/-- The unlock it starts, within a total budget. -/
def unlock {ρ : Type} [ReadSeek ρ] (K : Crates) (clk : Clock) (passphrase : Bytes)
    (budget : Duration) : EntryPoint → Exec (World ρ) (Unlocked ρ)
  | detect => unlockWithPassphraseWithin K clk passphrase budget
  | luks1 => unlock1WithPassphraseWithin K clk passphrase budget
  | luks2 => unlock2WithPassphraseWithin K clk passphrase budget

/-- The volume it finds in an image. -/
def spec (K : Crates) (img passphrase : Bytes) : EntryPoint → Except LuksError (Unlocked Bytes)
  | detect => Spec.unlock K img passphrase
  | luks1 => Spec.unlock1 K img passphrase
  | luks2 => Spec.unlock2 K img passphrase

/-- The header of the image stops it. -/
def Stopped (img : Bytes) : EntryPoint → Prop
  | detect => beU16 img 6 = 2 ∧ Oversized img
  | luks1 => False
  | luks2 => Oversized img

/-- A keyslot of the image stops it. -/
def Halted (K : Crates) (img passphrase : Bytes) : EntryPoint → Prop
  | detect => beU16 img 6 = 2 ∧ Spec.UnlockStops2 K img passphrase
  | luks1 => False
  | luks2 => Spec.UnlockStops2 K img passphrase

open Classical in
/-- How it ends on an image. -/
noncomputable def ending (K : Crates) (img passphrase : Bytes) (e : EntryPoint) :
    Outcome LuksError (Unlocked Bytes) :=
  if e.Stopped img then .panic .capacityOverflow
  else if e.Halted K img passphrase then .panic .arithmeticOverflow
  else .ofExcept (e.spec K img passphrase)

section Answering

variable {ρ : Type} [ImageReader ρ] (K : Crates) (clk : Clock) {img : Bytes}

/-- **An entry point answers**, unless it is stopped. -/
theorem answers {e : EntryPoint} (h : ¬e.Stopped img) (budget : Duration) (passphrase : Bytes) :
    AnswersUnless (e.Halted K img passphrase) img (Refuses clk budget) (fun _ => True)
      (Unlocked.map ImageReader.image <$> e.unlock (ρ := ρ) K clk passphrase budget)
      (e.spec K img passphrase) := by
  cases e with
  | detect => exact unlock_run K clk (fun htwo hbig => h ⟨htwo, hbig⟩) budget passphrase
  | luks1 => exact unlock1_run K clk budget passphrase
  | luks2 => exact unlock2_run K clk h budget passphrase

/-- **An entry point that the header stops stops**, whatever the clock says. -/
theorem stops {e : EntryPoint} (h : e.Stopped img) (budget : Duration) (passphrase : Bytes)
    {w : World ρ} (hw : Opens img w) :
    (e.unlock K clk passphrase budget w).out = .panic .capacityOverflow := by
  cases e with
  | detect => exact (unlock_stops K clk h.1 h.2 budget passphrase w hw).1
  | luks1 => exact h.elim
  | luks2 => exact (unlock2_stops K clk h budget passphrase w hw).1

/-- **An entry point that a keyslot stops stops**, unless it is refused before for its time. -/
theorem halts {e : EntryPoint} {budget : Duration} {passphrase : Bytes} (hs : ¬e.Stopped img)
    (h : e.Halted K img passphrase) :
    Triple (Opens (ρ := ρ) img) (e.unlock K clk passphrase budget)
      (Halts .arithmeticOverflow (Refuses clk budget)) fun _ => True := by
  cases e with
  | detect =>
    exact unlock_halts K clk h.1 (Nat.le_of_not_lt fun hbig => hs ⟨h.1, h.2.1, hbig⟩) h.2
  | luks1 => exact h.elim
  | luks2 => exact unlock2_halts K clk (Nat.le_of_not_lt fun hbig => hs ⟨h.1, hbig⟩) h

/-- A run that is not refused for its time ends as the image says: it stops, or answers. -/
theorem out_eq {e : EntryPoint} {budget : Duration} {passphrase : Bytes} {w : World ρ}
    (hw : Opens img w)
    (hrun : ∀ err, (e.unlock K clk passphrase budget w).out = .err err → ¬err.IsBudgetRefusal) :
    (e.unlock K clk passphrase budget w).out.map (Unlocked.map ImageReader.image) =
      e.ending K img passphrase := by
  rw [ending]
  split_ifs with hs hh
  · rw [stops K clk hs budget passphrase hw]
    rfl
  · rcases (halts K clk hs hh w hw).1 with hout | ⟨err, herr, hout⟩
    · rw [hout]
      rfl
    · exact absurd herr.1 (hrun err hout)
  · rcases (answers (ρ := ρ) K clk hs budget passphrase).out hh hw with hout | ⟨err, herr, hout⟩
    · exact hout
    · exact absurd herr.1 (hrun err hout)

/-- **An entry point cannot tell two readers of the same bytes apart.** -/
theorem agree {τ : Type} [ImageReader τ] (e : EntryPoint) (passphrase : Bytes)
    (budget : Duration) : Agree SameWorld SameVolume (e.unlock (ρ := ρ) K clk passphrase budget)
      (e.unlock (ρ := τ) K clk passphrase budget) := by
  cases e with
  | detect => exact unlock_agree K clk passphrase budget
  | luks1 => exact unlock1_agree K clk passphrase budget
  | luks2 => exact unlock2_agree K clk passphrase budget

end Answering

end EntryPoint

end Luks
