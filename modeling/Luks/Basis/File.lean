import Luks.Basis.Effect
import Luks.Basis.Reader

/-!
# A read-only file

The abstract object that a random-access byte source stands for
(`Basis.File`): fixed contents and one sequential position. It answers three calls
(`Basis.File.Call`) – a read at an offset, which leaves the position alone, a
sequential read, which advances it by what it returned, and a seek, which is
refused when its target is negative.

An implementation answers the same calls from a state of its own. It *simulates*
the file along a relation `R` if every call gives the same reply on both sides and
keeps `R`; then so does every sequence of calls (`Basis.replies_of_simulates`).
-/

namespace Basis

/-! ### Sequences of calls -/

section Calls

variable {σ τ κ υ : Type}

/-- The replies to a sequence of calls, and the state after it. -/
def replies (step : σ → κ → υ × σ) : σ → List κ → List υ × σ
  | s, [] => ([], s)
  | s, c :: cs =>
      ((step s c).1 :: (replies step (step s c).2 cs).1, (replies step (step s c).2 cs).2)

/-- Every call of a sequence is legal when its turn comes. -/
def AllLegal (step : σ → κ → υ × σ) (Legal : σ → κ → Prop) : σ → List κ → Prop
  | _, [] => True
  | s, c :: cs => Legal s c ∧ AllLegal step Legal (step s c).2 cs

/-- **Simulation of sequences**: if each legal call gives the same reply on both
sides and keeps the relation, so does each sequence of legal calls. -/
theorem replies_of_simulates {step : σ → κ → υ × σ} {step' : τ → κ → υ × τ} {R : σ → τ → Prop}
    {Legal : τ → κ → Prop}
    (h : ∀ s t c, R s t → Legal t c → (step s c).1 = (step' t c).1 ∧ R (step s c).2 (step' t c).2) :
    ∀ {s : σ} {t : τ} {cs : List κ}, R s t → AllLegal step' Legal t cs →
      (replies step s cs).1 = (replies step' t cs).1 ∧
        R (replies step s cs).2 (replies step' t cs).2 := by
  intro s t cs
  induction cs generalizing s t with
  | nil => exact fun hR _ => ⟨rfl, hR⟩
  | cons c cs ih =>
    rintro hR ⟨hc, hcs⟩
    obtain ⟨hreply, hR'⟩ := h s t c hR hc
    obtain ⟨hrest, hend⟩ := ih hR' hcs
    exact ⟨by rw [replies, replies, hreply, hrest], hend⟩

/-- What is legal in every state is legal along every sequence. -/
theorem allLegal_congr {step : σ → κ → υ × σ} {P Q : σ → κ → Prop} (h : ∀ s c, P s c ↔ Q s c)
    {s : σ} {cs : List κ} : AllLegal step P s cs ↔ AllLegal step Q s cs := by
  induction cs generalizing s with
  | nil => exact Iff.rfl
  | cons c cs ih => exact and_congr (h s c) ih

end Calls

/-! ### The file -/

/-- A read-only file with a sequential position. -/
structure File where
  /-- The contents. -/
  contents : Bytes
  /-- The position, which may be past the end. -/
  pos : ℕ

namespace File

/-- The calls a file answers. -/
inductive Call where
  /-- Read `n` bytes at an offset. -/
  | readAt (offset : UInt64) (n : ℕ)
  /-- Read on, at most `n` bytes. -/
  | read (n : ℕ)
  /-- Move the position. -/
  | seek (pos : SeekFrom)

/-- What a file answers. -/
inductive Reply where
  /-- These bytes. -/
  | bytes (bs : Bytes)
  /-- The position after a seek. -/
  | position (n : ℕ)
  /-- The call was refused. -/
  | refused
  /-- The call never came back. -/
  | stopped
  deriving DecidableEq

/-- The reply that the outcome of a program stands for. -/
def Reply.ofOutcome {ε α : Type} (f : α → Reply) : Outcome ε α → Reply
  | .ok a => f a
  | .err _ => refused
  | .panic _ => stopped

/-- Where a seek goes, as an unbounded integer. -/
def target (size pos : ℕ) : SeekFrom → ℤ
  | .start o => o.toNat
  | .fromEnd o => size + o.toInt
  | .current o => pos + o.toInt

/-- One call. -/
def step (f : File) : Call → Reply × File
  | .readAt offset n => (.bytes (window f.contents offset.toNat n), f)
  | .read n =>
      (.bytes (window f.contents f.pos n),
        { f with pos := f.pos + min n (f.contents.length - f.pos) })
  | .seek dest =>
      if target f.contents.length f.pos dest < 0 then (.refused, f)
      else
        (.position (target f.contents.length f.pos dest).toNat,
          { f with pos := (target f.contents.length f.pos dest).toNat })

/-- The calls a file of 64-bit positions has to answer: reads at an offset inside
the contents, and seeks to targets that fit. -/
def Legal (f : File) : Call → Prop
  | .readAt offset n => offset.toNat + n ≤ f.contents.length
  | .read _ => True
  | .seek dest => target f.contents.length f.pos dest < 2 ^ 64

@[simp] theorem contents_step (f : File) (c : Call) : (f.step c).2.contents = f.contents := by
  cases c with
  | readAt offset n => rfl
  | read n => rfl
  | seek dest =>
    rw [step]
    split_ifs <;> rfl

end File

end Basis
