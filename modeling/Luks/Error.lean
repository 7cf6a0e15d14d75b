import Luks.Basis.Codec
import Mathlib.Data.Vector.Defs

/-!
# Errors

The failures of parsing and unlocking a container, with the values each one
names. Two of them are the refusals of a run that would take too long
(`Luks.LuksError.IsBudgetRefusal`): they depend on the speed of the machine, and
are the only results of an unlock that do.

Durations are counted in nanoseconds.
-/

namespace Luks

open Basis

/-- A span of time, in nanoseconds. -/
abbrev Duration : Type := ℕ

namespace Duration

/-- A span of whole seconds. -/
def fromSecs (s : ℕ) : Duration := s * 1000000000

/-- The whole seconds of a span. -/
def asSecs (d : Duration) : ℕ := d / 1000000000

end Duration

/-- A failure to parse or unlock a container. -/
inductive LuksError where
  /-- The magic is absent; the first six bytes are these. -/
  | notLuks (found : List.Vector UInt8 6)
  /-- The header version is neither 1 nor 2. -/
  | unsupportedVersion (version : UInt16)
  /-- The cipher, mode or hash has no decrypt path. -/
  | unsupported (what value : String)
  /-- The unlock ran out of its total budget. -/
  | unlockBudgetExceeded (slotsTried budgetSecs : ℕ)
  /-- One derivation would run over its budget. -/
  | derivationBudgetExceeded (iterations projectedSecs budgetSecs : ℕ)
  /-- The anti-forensic stripe count is over the ceiling. -/
  | implausibleStripes (stripes max blockSize : ℕ)
  /-- The memory cost of a keyslot is over the ceiling. -/
  | derivationMemoryExceeded (requestedKib maxKib : ℕ)
  /-- The key length is over the ceiling. -/
  | keyLengthExceeded (requested max : ℕ)
  /-- A field runs past the buffer, or does not parse. -/
  | malformedHeader (what : String) (need got : ℕ)
  /-- No keyslot matched the passphrase. -/
  | authenticationFailed
  /-- There is no keyslot to try. -/
  | noActiveKeyslot
  /-- Reading the container failed. -/
  | io (e : IoError)
  deriving DecidableEq

namespace LuksError

/-- The refusals that depend on time. -/
def IsBudgetRefusal : LuksError → Prop
  | unlockBudgetExceeded .. => True
  | derivationBudgetExceeded .. => True
  | _ => False

instance : DecidablePred IsBudgetRefusal := fun e => by
  cases e <;> unfold IsBudgetRefusal <;> infer_instance

/-- The errors that name something without a decrypt path. -/
def IsUnsupported : LuksError → Prop
  | unsupported .. => True
  | _ => False

instance : DecidablePred IsUnsupported := fun e => by
  cases e <;> unfold IsUnsupported <;> infer_instance

end LuksError

end Luks
