import Luks.EntryPoints
import Luks.PayloadFile
import Luks.Variants

/-!
# How a reader chops its data

A read may return less than it was asked for, or be interrupted, and the loops over a
reader go on until they have what they need. So which pieces the bytes of a container come
in makes no difference: an unlock ends the same way, and what is read from the volume
afterwards is the same (`Luks.unlock_ignores_chopping`).
-/

namespace Luks

open Basis

/-- The bytes a reader has left. -/
def bytesLeft {ρ : Type} [ImageReader ρ] (r : ρ) : ℕ :=
  (ImageReader.image r).length - ImageReader.cursor r

/-- **Reading what there is** ends with as many bytes as fit and are left, and zeros in the
rest of the buffer. -/
theorem readAvailable_out {ρ : Type} [ImageReader ρ] (r : ρ) (n : ℕ) :
    (readAvailable n r).out = .ok (min n (bytesLeft r),
      window (ImageReader.image r) (ImageReader.cursor r) n ++
        List.replicate (n - min n (bytesLeft r)) 0) := by
  have hread : (readUpTo n r).out =
      .ok (window (ImageReader.image r) (ImageReader.cursor r) n) := by
    rw [readUpTo, (fill_eq_window r n).1]
    rfl
  rw [readAvailable, Prog.bind_of_ok hread, Prog.pure_apply, zeroFill, length_window, bytesLeft]

section Calls

variable {ρ τ : Type} [ImageReader ρ] [ImageReader τ] (K : Crates)

/-- A call leaves payloads the same that were. -/
theorem call_samePayload {p : DecryptedPayload ρ} {q : DecryptedPayload τ} (h : SamePayload p q)
    (c : File.Call) : SamePayload (p.call K c).2 (q.call K c).2 := by
  cases c with
  | readAt offset n => exact (readAt_agree K offset n p q h).final
  | read n => exact (read_agree K n p q h).final
  | seek pos => exact (seek_agree pos p q h).final

/-- So does any sequence of calls. -/
theorem replies_samePayload {p : DecryptedPayload ρ} {q : DecryptedPayload τ}
    (h : SamePayload p q) (calls : List File.Call) :
    SamePayload (replies (DecryptedPayload.call K) p calls).2
      (replies (DecryptedPayload.call K) q calls).2 := by
  induction calls generalizing p q with
  | nil => exact h
  | cons c calls ih => exact ih (call_samePayload K h c)

end Calls

/-- **How a reader chops its data makes no difference.** Over two readers of the same bytes
an unlock ends the same way, and after any calls on the volumes it returns a read at an
offset fills the same bytes; for what a reader has left is read whole, and no more is made
up but zeros. -/
theorem unlock_ignores_chopping {ρ τ : Type} [ImageReader ρ] [ImageReader τ] (K : Crates)
    (clk : Clock) (e : EntryPoint) (passphrase : Bytes) (budget : Duration) {r : ρ} {t : τ}
    (hrt : SameImage r t) :
    Outcome.Rel (fun u v => SameVolume u v ∧ ∀ calls offset len,
        (DecryptedPayload.readAt K offset len
          (replies (DecryptedPayload.call K) u.payload calls).2).out =
        (DecryptedPayload.readAt K offset len
          (replies (DecryptedPayload.call K) v.payload calls).2).out)
      (e.unlock K clk passphrase budget (World.init r)).out
      (e.unlock K clk passphrase budget (World.init t)).out ∧
    ∀ (r' : ρ) n, (readAvailable n r').out = .ok (min n (bytesLeft r'),
      window (ImageReader.image r') (ImageReader.cursor r') n ++
        List.replicate (n - min n (bytesLeft r')) 0) := by
  refine ⟨?_, readAvailable_out⟩
  refine ((EntryPoint.agree K clk e passphrase budget) _ _ (sameWorld_init hrt)).out.mono
    fun u v huv => ⟨huv, fun calls offset len => ?_⟩
  have hpayload : SamePayload u.payload v.payload := congrArg Unlocked.payload huv
  exact Outcome.rel_eq_iff.mp
    (readAt_agree K offset len _ _ (replies_samePayload K hpayload calls)).out

namespace Sample

/-- A reader of the container that returns a byte, is interrupted twice, and so on. -/
def choppedReader : Chopped :=
  ⟨readerOf fits_metadata [] (by decide), [some 0, none, none, some 0, some 2, none]⟩

end Sample

theorem unlock_ignores_chopping_sample : Outcome.Rel SameVolume
    (EntryPoint.detect.unlock (Sample.cratesOf Sample.metadata) Sample.clock Sample.passphrase 1
      (World.init Sample.choppedReader)).out
    (EntryPoint.detect.unlock (Sample.cratesOf Sample.metadata) Sample.clock Sample.passphrase 1
      (World.init (Sample.readerOf Sample.fits_metadata [] (by decide)))).out :=
  (unlock_ignores_chopping _ _ _ _ _ (r := Sample.choppedReader)
    (t := Sample.readerOf Sample.fits_metadata [] (by decide)) rfl).1.mono fun _ _ h => h.1

end Luks
