import Luks.Faltering
import Luks.Variants

/-!
# Larger budgets

How the answer of an unlock depends on its budget, on a machine of a given speed. The
budget decides only how far an unlock goes: with a larger one it answers the same, if it was
not refused for its time, and otherwise it goes on from where it was refused
(`Luks.unlock_within_larger`). So a budget that was enough once stays enough when it is
raised, and there is no budget with which an unlock answers something that it would not
answer with a larger one.
-/

namespace Luks

open Basis

/-- What an event says beside how much time a derivation was given, and what came of it. -/
def Event.untimed : Event → Event
  | derive start _ => derive start 0
  | pbkdf2 run => pbkdf2 { run with allowance := 0, ran := false, finish := 0 }
  | v => v

theorem untimed_untimed : Untimed LuksError.IsBudgetRefusal Event.untimed where
  refusal _ h := h
  derive _ _ _ := rfl
  pbkdf2 r r' hstart hiters hprobe := by
    cases r
    cases r'
    simp only at hstart hiters hprobe
    subst hstart hiters hprobe
    rfl

section Reading

variable {ρ τ : Type} [ImageReader ρ] [ImageReader τ] {F : LuksError → Prop} {μ : Type}
  {view : Event → μ}

/-- Readers of the same bytes give the same everywhere. -/
theorem readsAlike_presents (img : Bytes) : ReadsAlike F view
    (fun (r : ρ) (t : τ) => Presents img r ∧ Presents img t) img fun _ => True where
  fill o n _ := Falters.of_follows (readFillAt_follows o n) (readFillAt_follows o n)
  available o n _ := by
    refine (Falters.of_follows (readAvailableAt_follows o n)
      (readAvailableAt_follows o n)).mono fun ct ct' h => ?_
    exact ⟨h.1, (Except.ok.inj h.2).symm⟩
  start o := (Falters.of_follows (seekTo_start_follows o) (seekTo_start_follows o)).mono
    fun _ _ _ => trivial
  fromEnd := (Falters.of_follows seekTo_end seekTo_end).mono fun _ _ h => h.1

end Reading

/-- **A larger budget changes nothing but refusals.** On the same bytes and under the same
clock, an unlock within a smaller budget ends as within a larger one, with the same volume,
the same error or the same panic, having done the same – or it is refused for its time, having
done the front of that. -/
theorem unlock_within_larger {ρ τ : Type} [ImageReader ρ] [ImageReader τ] (K : Crates)
    (clk : Clock) (e : EntryPoint) (passphrase : Bytes) {a b : Duration} (hab : a ≤ b) {r : ρ}
    {t : τ} (hrt : SameImage r t) :
    (Outcome.Rel SameVolume (e.unlock K clk passphrase a (World.init r)).out
        (e.unlock K clk passphrase b (World.init t)).out ∧
      (e.unlock K clk passphrase a (World.init r)).events.map Event.untimed =
        (e.unlock K clk passphrase b (World.init t)).events.map Event.untimed) ∨
    (∃ err : LuksError, err.IsBudgetRefusal ∧
      (e.unlock K clk passphrase a (World.init r)).out = .err err) ∧
      (e.unlock K clk passphrase a (World.init r)).events.map Event.untimed <+:
        (e.unlock K clk passphrase b (World.init t)).events.map Event.untimed := by
  have hread : ReadsAlike LuksError.IsBudgetRefusal Event.untimed (fun (r' : ρ) (t' : τ) =>
      Presents (ImageReader.image r) r' ∧ Presents (ImageReader.image r) t')
      (ImageReader.image r) fun _ => True := readsAlike_presents _
  rcases e.falters K clk hread (fun _ _ => trivial) (Or.inr ⟨hab, untimed_untimed⟩) passphrase _ _
    (sameTime_init ⟨rfl, hrt.symm⟩) with h | h
  · refine Or.inl ⟨h.out.mono fun u v huv => huv.sameVolume fun _ _ hpresents => ?_, h.events⟩
    exact Eq.trans hpresents.1 hpresents.2.symm
  · exact Or.inr ⟨h.out, h.events⟩

theorem unlock_within_larger_sample : ∃ u v : Unlocked Cursor,
    (EntryPoint.luks2.unlock (Sample.cratesOf Sample.metadata) Sample.clock Sample.passphrase 1
      (World.init (Sample.readerOf Sample.fits_metadata [] (by decide)))).out = .ok u ∧
    (EntryPoint.luks2.unlock (Sample.cratesOf Sample.metadata) Sample.clock Sample.passphrase 7
      (World.init (Sample.readerOf Sample.fits_metadata [] (by decide)))).out = .ok v ∧
    SameVolume u v := by
  obtain ⟨u, hu, -⟩ := Sample.exists_unlock2_imageOf Sample.fits_metadata [] (by decide)
    (by decide) rfl rfl rfl Sample.stands_clock (show (0 : Duration) < 1 by decide)
  rcases unlock_within_larger (Sample.cratesOf Sample.metadata) Sample.clock .luks2
    Sample.passphrase (show (1 : Duration) ≤ 7 by decide)
    (rfl : SameImage (Sample.readerOf Sample.fits_metadata [] (by decide))
      (Sample.readerOf Sample.fits_metadata [] (by decide))) with ⟨hrel, -⟩ | ⟨⟨err, -, herr⟩, -⟩
  · obtain ⟨v, hv, huv⟩ := hrel.exists_ok hu
    exact ⟨u, v, hu, hv, huv⟩
  · cases hu.symm.trans herr

end Luks
