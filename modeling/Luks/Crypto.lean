import Luks.Af
import Luks.Basis.Search

/-!
# Key derivation and sector decryption

The two key-derivation functions, each refused when its projected cost is over the
time it is given, and the decryption of a buffer as AES-XTS data units under
plain64 tweaks.

A derivation looks at the clock only to decide whether to go on. So whatever the
clock says it either computes what its description under `Luks.Spec` computes, or
gives up with a refusal (`Luks.deriveKeyWithin_follows`,
`Luks.deriveKeyArgon2Within_follows`) – or it is stopped at the parameters of Argon2
(`Luks.Argon2Params.Stops`); and the trace of a PBKDF2 call says what its
projection promised (`Luks.Pbkdf2Run.Projected`).
-/

namespace Luks

open Basis

/-- The most time a single derivation may take. -/
def derivationBudget : Duration := Duration.fromSecs 30

/-- The most time an unlock may take by default. -/
def unlockBudget : Duration := Duration.fromSecs 90

/-- Iterations timed to measure the rate of this machine. -/
def calibrationIters : ℕ := 20000

/-- The most memory an Argon2 keyslot may ask for, in KiB. -/
def maxArgon2MemoryKib : ℕ := 4 * 1024 * 1024

/-- The longest key a header may ask a derivation for. -/
def maxKeyBytes : ℕ := 1024

/-- `saturating_mul` on `u128`. -/
def saturatingMul128 (a b : ℕ) : ℕ := min (a * b) (2 ^ 128 - 1)

/-- A span of nanoseconds that fits `u64`, or the longest one. -/
def fromNanosSaturating (n : ℕ) : Duration := min n (2 ^ 64 - 1)

/-- The projected time of `iters` iterations, from the time of a calibration. -/
def projectedPbkdf2 (measured : Duration) (iters : ℕ) : Duration :=
  fromNanosSaturating (saturatingMul128 measured iters / calibrationIters)

/-- The projected time of `time` passes, from the time of one. -/
def projectedArgon2 (measured : Duration) (time : ℕ) : Duration :=
  fromNanosSaturating (saturatingMul128 measured time)

/-- What the trace of a PBKDF2 call says: a count over the calibration was
measured, and run only if its projection fits the allowance; a smaller one was
not measured. -/
structure Pbkdf2Run.Projected (r : Pbkdf2Run) : Prop where
  /-- A large count was measured, and fits if it was run. -/
  measured : calibrationIters < r.iters → ∃ a b, r.probe = some (a, b) ∧
    (r.ran = true → projectedPbkdf2 (b - a) r.iters ≤ r.allowance)
  /-- A small count was not measured. -/
  direct : r.iters ≤ calibrationIters → r.probe = none

variable {ρ σ : Type} (K : Crates) (clk : Clock)

/-! ### PBKDF2 -/

/-- PBKDF2 with the hash that `hashSpec` names. -/
def pbkdf2Into (hashSpec : String) (password salt : Bytes) (iters len : ℕ) :
    Except LuksError Bytes := do
  let hash ← hashOf hashSpec
  return K.pbkdf2Hmac hash password salt iters len

/-- Derive `keyLen` bytes with PBKDF2, within `budget`. -/
def deriveKeyWithin (hashSpec : String) (password salt : Bytes) (iterations : UInt32)
    (keyLen : ℕ) (budget : Duration) : Exec (World ρ) Bytes := do
  let start ← Prog.get World.now
  Prog.emit (.derive start budget)
  if maxKeyBytes < keyLen then Prog.throw (.keyLengthExceeded keyLen maxKeyBytes)
  else
    let _ ← vecZeroed keyLen
    let iters := max iterations.toNat 1
    if calibrationIters < iters then
      let _ ← vecZeroed keyLen
      let started ← instantNow clk
      -- a run of known length is timed, and dropped
      let _ ← Prog.ofExcept (pbkdf2Into K hashSpec password salt calibrationIters keyLen)
      let stopped ← instantNow clk
      let projected := projectedPbkdf2 (stopped - started) iters
      -- refused, and not run with a smaller count
      if budget < projected then
        Prog.emit (.pbkdf2 ⟨start, budget, iters, some (started, stopped), false, stopped⟩)
        Prog.throw (.derivationBudgetExceeded iters projected.asSecs budget.asSecs)
      else
        let out ← Prog.ofExcept (pbkdf2Into K hashSpec password salt iters keyLen)
        let finish ← instantNow clk
        Prog.emit (.pbkdf2 ⟨start, budget, iters, some (started, stopped), true, finish⟩)
        return out
    else
      let out ← Prog.ofExcept (pbkdf2Into K hashSpec password salt iters keyLen)
      let finish ← instantNow clk
      Prog.emit (.pbkdf2 ⟨start, budget, iters, none, true, finish⟩)
      return out

/-! ### Argon2 -/

/-- The Argon2 parameters of a keyslot. -/
structure Argon2Params where
  /-- The variant. -/
  kind : String
  /-- Time cost. -/
  time : UInt32
  /-- Memory cost in KiB. -/
  memory : UInt32
  /-- Lanes. -/
  cpus : UInt32
  /-- Salt. -/
  salt : Bytes

/-- The Argon2 variant a keyslot names. -/
def algorithmOf (kind : String) : Except LuksError Algorithm :=
  if kind = "argon2i" then .ok .argon2i
  else if kind = "argon2id" then .ok .argon2id
  else .error (.unsupported "argon2 variant" kind)

/-- One Argon2 computation with `time` passes. -/
def argon2Run (alg : Algorithm) (p : Argon2Params) (password : Bytes) (keyLen time : ℕ) :
    Exec σ Bytes :=
  match K.argon2Params p.memory.toNat time p.cpus.toNat keyLen with
  | .panic q => Prog.abort q
  | .err e => Prog.throw (.unsupported "argon2 params" e)
  | .ok () =>
      match K.argon2Hash alg p.memory.toNat time p.cpus.toNat password p.salt keyLen with
      | .error e => Prog.throw (.unsupported "argon2" e)
      | .ok out => return out

/-- Derive `keyLen` bytes with Argon2, within `budget`. -/
def deriveKeyArgon2Within (p : Argon2Params) (password : Bytes) (keyLen : ℕ)
    (budget : Duration) : Exec (World ρ) Bytes := do
  let start ← Prog.get World.now
  Prog.emit (.derive start budget)
  let alg ← Prog.ofExcept (algorithmOf p.kind)
  if maxKeyBytes < keyLen then Prog.throw (.keyLengthExceeded keyLen maxKeyBytes)
  else if maxArgon2MemoryKib < p.memory.toNat then
    Prog.throw (.derivationMemoryExceeded p.memory.toNat maxArgon2MemoryKib)
  else
    -- one pass is timed, as more of them cost as much again
    if 1 < p.time.toNat then
      let _ ← vecZeroed keyLen
      let started ← instantNow clk
      let _ ← argon2Run K alg p password keyLen 1
      let stopped ← instantNow clk
      let projected := projectedArgon2 (stopped - started) p.time.toNat
      if budget < projected then
        Prog.throw (.derivationBudgetExceeded p.time.toNat projected.asSecs budget.asSecs)
      else
        let _ ← vecZeroed keyLen
        argon2Run K alg p password keyLen p.time.toNat
    else
      let _ ← vecZeroed keyLen
      argon2Run K alg p password keyLen p.time.toNat

/-! ### AES-XTS -/

/-- The cipher that a key selects by its length, as a function of tweak and unit. -/
def xtsCipher (key : Bytes) : Except LuksError (Bytes → Bytes → Bytes) :=
  if key.length = 32 then .ok (K.xtsDecryptSector .aes128 (key.take 16) (key.drop 16))
  else if key.length = 64 then .ok (K.xtsDecryptSector .aes256 (key.take 32) (key.drop 32))
  else .error (.unsupported "xts key size" (toString key.length ++ " bytes"))

/-- Decrypt a buffer unit by unit; a unit without a whole cipher block stays as it
is. -/
def decryptUnits (dec : Bytes → Bytes → Bytes) (buffer : Bytes) (unitSize base step : ℕ) :
    Exec σ Bytes :=
  if unitSize = 0 then Prog.abort .sliceBounds
  else do
    let units ← (chunks unitSize buffer).zipIdx.mapM fun (chunk, u) => do
      -- less than one block of the cipher
      if chunk.length < 16 then
        Prog.emit (.passed chunk.length)
        return chunk
      else
        let tweak := toLe 16 (← addU128 base (← mulU128 u step))
        Prog.emit (.sector chunk.length tweak)
        return dec tweak chunk
    return units.flatten

/-- How far the tweak goes from one unit to the next: the 512-byte sectors of a
unit, at least one. -/
def tweakStep (unitSize : ℕ) : ℕ := max (unitSize / 512) 1

/-- A unit of sectors has a step of as many. -/
theorem tweakStep_of_le {unitSize : ℕ} (h : 512 ≤ unitSize) :
    tweakStep unitSize = unitSize / 512 := by
  rw [tweakStep]
  omega

/-- Decrypt `buffer` as AES-XTS-plain64 in units of `unitSize` bytes. -/
def xtsDecryptArea (cipherMode : String) (key buffer : Bytes) (unitSize baseSector : ℕ) :
    Exec σ Bytes :=
  if cipherMode ≠ "xts-plain64" then Prog.throw (.unsupported "cipher mode" cipherMode)
  else do
    let dec ← Prog.ofExcept (xtsCipher K key)
    decryptUnits dec buffer unitSize baseSector (tweakStep unitSize)

/-! ### The same without the machine -/

namespace Spec

/-- PBKDF2 with the checks that do not depend on time. -/
def deriveKey (hashSpec : String) (password salt : Bytes) (iterations : UInt32)
    (keyLen : ℕ) : Except LuksError Bytes :=
  if maxKeyBytes < keyLen then .error (.keyLengthExceeded keyLen maxKeyBytes)
  else pbkdf2Into K hashSpec password salt (max iterations.toNat 1) keyLen

/-- One Argon2 computation. Where the crate is stopped at the parameters there is no answer,
and some error stands for it. -/
def argon2Run (alg : Algorithm) (p : Argon2Params) (password : Bytes) (keyLen time : ℕ) :
    Except LuksError Bytes :=
  match K.argon2Params p.memory.toNat time p.cpus.toNat keyLen with
  | .panic _ => .error (.unsupported "argon2 params" "")
  | .err e => .error (.unsupported "argon2 params" e)
  | .ok () =>
      match K.argon2Hash alg p.memory.toNat time p.cpus.toNat password p.salt keyLen with
      | .error e => .error (.unsupported "argon2" e)
      | .ok out => .ok out

/-- A computation returns exactly when the crate takes its parameters and computes it. -/
theorem argon2Run_eq_ok_iff {alg : Algorithm} {p : Argon2Params} {password out : Bytes}
    {keyLen time : ℕ} : argon2Run K alg p password keyLen time = .ok out ↔
      K.argon2Params p.memory.toNat time p.cpus.toNat keyLen = .ok () ∧
        K.argon2Hash alg p.memory.toNat time p.cpus.toNat password p.salt keyLen = .ok out := by
  rw [argon2Run]
  rcases K.argon2Params p.memory.toNat time p.cpus.toNat keyLen with ⟨⟩ | e | q
  · rcases K.argon2Hash alg p.memory.toNat time p.cpus.toNat password p.salt keyLen with e | out'
    · simp
    · simp
  · simp
  · simp

/-- Argon2 with the checks that do not depend on time. -/
def deriveKeyArgon2 (p : Argon2Params) (password : Bytes) (keyLen : ℕ) :
    Except LuksError Bytes := do
  let alg ← algorithmOf p.kind
  if maxKeyBytes < keyLen then .error (.keyLengthExceeded keyLen maxKeyBytes)
  else if maxArgon2MemoryKib < p.memory.toNat then
    .error (.derivationMemoryExceeded p.memory.toNat maxArgon2MemoryKib)
  else if 1 < p.time.toNat then do
    let _ ← argon2Run K alg p password keyLen 1
    argon2Run K alg p password keyLen p.time.toNat
  else argon2Run K alg p password keyLen p.time.toNat

/-- Data unit `u` of a buffer, decrypted. -/
def decryptUnit (dec : Bytes → Bytes → Bytes) (base step u : ℕ) (unit : Bytes) : Bytes :=
  if unit.length < 16 then unit else dec (toLe 16 (base + u * step)) unit

/-- A buffer decrypted unit by unit. -/
def decryptUnits (dec : Bytes → Bytes → Bytes) (buffer : Bytes) (unitSize base step : ℕ) :
    Bytes :=
  mapUnits (decryptUnit dec base step) unitSize buffer

/-- A buffer decrypted as AES-XTS-plain64. -/
def xtsDecryptArea (cipherMode : String) (key buffer : Bytes) (unitSize baseSector : ℕ) :
    Except LuksError Bytes :=
  if cipherMode ≠ "xts-plain64" then .error (.unsupported "cipher mode" cipherMode)
  else do
    let dec ← xtsCipher K key
    return decryptUnits dec buffer unitSize baseSector (tweakStep unitSize)

theorem xtsDecryptArea_eq_ok_iff {cipherMode : String} {key buffer out : Bytes}
    {unitSize base : ℕ} : xtsDecryptArea K cipherMode key buffer unitSize base = .ok out ↔
      cipherMode = "xts-plain64" ∧ ∃ dec, xtsCipher K key = .ok dec ∧
        decryptUnits dec buffer unitSize base (tweakStep unitSize) = out := by
  rw [xtsDecryptArea]
  by_cases hmode : cipherMode = "xts-plain64"
  · rw [if_neg (not_not_intro hmode), bind_eq_ok_iff]
    simp [hmode, pure, Except.pure]
  · rw [if_pos hmode]
    simp [hmode]

/-- What Argon2 derives is a computation of the crate with the costs asked for. -/
theorem exists_argon2Hash_of_deriveKeyArgon2 {p : Argon2Params} {password out : Bytes}
    {keyLen : ℕ} (h : deriveKeyArgon2 K p password keyLen = .ok out) :
    ∃ alg, algorithmOf p.kind = .ok alg ∧ K.argon2Hash alg p.memory.toNat p.time.toNat
      p.cpus.toNat password p.salt keyLen = .ok out := by
  obtain ⟨alg, halg, h⟩ := bind_eq_ok_iff.mp h
  split_ifs at h
  · -- a trial with one pass comes first, and its result is dropped
    obtain ⟨trial, -, h⟩ := bind_eq_ok_iff.mp h
    exact ⟨alg, halg, (argon2Run_eq_ok_iff K).mp h |>.2⟩
  · exact ⟨alg, halg, (argon2Run_eq_ok_iff K).mp h |>.2⟩

end Spec

/-- Decryption works in place. -/
theorem length_of_xtsCipher {key : Bytes} {dec : Bytes → Bytes → Bytes}
    (h : xtsCipher K key = .ok dec) (tweak unit : Bytes) :
    (dec tweak unit).length = unit.length := by
  rw [xtsCipher] at h
  split_ifs at h
  · obtain rfl := Except.ok.inj h
    exact K.length_xtsDecryptSector ..
  · obtain rfl := Except.ok.inj h
    exact K.length_xtsDecryptSector ..

namespace Spec

theorem length_decryptUnit {dec : Bytes → Bytes → Bytes}
    (hdec : ∀ t u, (dec t u).length = u.length) (base step u : ℕ) (unit : Bytes) :
    (decryptUnit dec base step u unit).length = unit.length := by
  rw [decryptUnit]
  split_ifs
  · rfl
  · exact hdec _ _

end Spec

/-! ### The code follows it -/

section Following

variable {I : World ρ → Prop} {G : LuksError → Prop} {E : Event → Prop}

/-- An invariant that does not look at the clock. -/
def IgnoresTime (I : World ρ → Prop) : Prop :=
  ∀ w n t, I w → I { w with ticks := n, now := t }

theorem instantNow_yields (hI : IgnoresTime I) :
    Triple I (instantNow clk) (Yields I G fun t _ => ∃ n, t = clk.now n) E :=
  fun w hw => ⟨⟨hI w _ _ hw, Or.inl ⟨_, rfl, w.ticks, rfl⟩⟩, by simp [instantNow]⟩

/-- Sequencing after a reading of the clock: whichever one it is. -/
theorem bind_instantNow_follows {α : Type} {f : ℕ → Exec (World ρ) α} {x : Except LuksError α}
    {S : Prop} (hI : IgnoresTime I)
    (hf : ∀ n, Triple I (f (clk.now n)) (FollowsUnless S I G x) E) :
    Triple I (instantNow clk >>= f) (FollowsUnless S I G x) E := by
  refine Triple.bind_yields (instantNow_yields clk hI) fun t w hw => ?_
  obtain ⟨hw, n, rfl⟩ := hw
  exact hf n w hw

/-- The end of a PBKDF2 call: the clock is read, and the call recorded. -/
theorem record_follows {α : Type} {a : α} {run : ℕ → Pbkdf2Run} (hI : IgnoresTime I)
    (hE : ∀ t, E (.pbkdf2 (run t))) :
    Triple I (do
      let finish ← instantNow clk
      Prog.emit (.pbkdf2 (run finish))
      return a : Exec (World ρ) α) (Follows I G (.ok a)) E :=
  bind_instantNow_follows clk hI fun n =>
    Triple.bind_ok_follows (Triple.emit_follows (hE (clk.now n))) Triple.pure_follows

/-- Running the calibration first changes no result: it fails exactly when the full
run does. -/
theorem pbkdf2Into_bind (hashSpec : String) (password salt : Bytes) (iters iters' len : ℕ) :
    (pbkdf2Into K hashSpec password salt iters' len >>= fun _ =>
      pbkdf2Into K hashSpec password salt iters len) =
      pbkdf2Into K hashSpec password salt iters len := by
  rw [pbkdf2Into, pbkdf2Into]
  cases hashOf hashSpec <;> rfl

/-- The clock **affords** any derivation within a budget: whatever is measured on it, no count
of 32 bits is projected over that. -/
def Clock.Affords (clk : Clock) (budget : Duration) : Prop :=
  ∀ m n, (clk.now n - clk.now m) * 2 ^ 32 ≤ budget

theorem Clock.Stands.affords {clk : Clock} (h : clk.Stands) (budget : Duration) :
    clk.Affords budget := by
  intro m n
  rw [h n m, Nat.sub_self, Nat.zero_mul]
  exact Nat.zero_le budget

variable {clk} in
theorem not_lt_projectedArgon2 {budget : Duration} (h : clk.Affords budget) (m n : ℕ) {time : ℕ}
    (htime : time < 2 ^ 32) : ¬budget < projectedArgon2 (clk.now n - clk.now m) time := by
  have hmul : (clk.now n - clk.now m) * time ≤ budget :=
    (Nat.mul_le_mul_left _ htime.le).trans (h m n)
  exact Nat.not_lt_of_le ((min_le_left _ _).trans ((min_le_left _ _).trans hmul))

variable {clk} in
theorem not_lt_projectedPbkdf2 {budget : Duration} (h : clk.Affords budget) (m n : ℕ) {iters : ℕ}
    (hiters : iters < 2 ^ 32) : ¬budget < projectedPbkdf2 (clk.now n - clk.now m) iters := by
  have hmul : (clk.now n - clk.now m) * iters ≤ budget :=
    (Nat.mul_le_mul_left _ hiters.le).trans (h m n)
  have hdiv := Nat.div_le_self (saturatingMul128 (clk.now n - clk.now m) iters) calibrationIters
  exact Nat.not_lt_of_le
    ((min_le_left _ _).trans (hdiv.trans ((min_le_left _ _).trans hmul)))

/-- The buffer of a key is allocated, once its length is within the ceiling. -/
theorem vecZeroed_key_follows (hAlloc : ∀ n ≤ maxKeyBytes, E (.alloc n)) {keyLen : ℕ}
    (hlen : keyLen ≤ maxKeyBytes) :
    Triple I (vecZeroed keyLen) (Follows I G (.ok (List.replicate keyLen 0))) E := by
  have hfit : keyLen ≤ isizeMax := hlen.trans (by decide)
  exact vecZeroed_follows hfit (hAlloc keyLen hlen)

/-- **PBKDF2 follows its description, or is refused on its budget**, whatever the
clock says. Its buffers are within the key-length ceiling, and the trace records
the start it was given, its allowance, and an honest account of the run. -/
theorem deriveKeyWithin_follows (hI : IgnoresTime I) {start : ℕ} {budget : Duration}
    (hG : ∀ e, LuksError.IsBudgetRefusal e → ¬clk.Affords budget → G e)
    (hAlloc : ∀ n ≤ maxKeyBytes, E (.alloc n)) (hDerive : E (.derive start budget))
    (hRun : ∀ r : Pbkdf2Run, r.start = start → r.allowance = budget → r.Projected →
      E (.pbkdf2 r))
    (hashSpec : String) (password salt : Bytes) (iterations : UInt32) (keyLen : ℕ) :
    Triple (fun w => I w ∧ w.now = start)
      (deriveKeyWithin K clk hashSpec password salt iterations keyLen budget)
      (Follows I G (Spec.deriveKey K hashSpec password salt iterations keyLen)) E := by
  rw [deriveKeyWithin, Spec.deriveKey]
  refine Triple.bind_get ?_
  refine Triple.bind_ok_follows (Triple.emit_follows hDerive) ?_
  by_cases hlen : maxKeyBytes < keyLen
  · rw [if_pos hlen, if_pos hlen]
    exact Triple.throw_follows
  rw [if_neg hlen, if_neg hlen]
  have hbuf : Triple I (vecZeroed keyLen) (Follows I G (.ok (List.replicate keyLen 0))) E :=
    vecZeroed_key_follows hAlloc (Nat.le_of_not_lt hlen)
  refine Triple.bind_ok_follows hbuf ?_
  by_cases hcal : calibrationIters < max iterations.toNat 1
  · -- the count is projected first
    simp only [if_pos hcal]
    refine Triple.bind_ok_follows hbuf ?_
    refine bind_instantNow_follows clk hI fun m => ?_
    refine Triple.bind_trial_follows (Triple.ofExcept_follows _)
      (pbkdf2Into_bind K hashSpec password salt _ calibrationIters keyLen) fun _ _ => ?_
    refine bind_instantNow_follows clk hI fun n => ?_
    have hiters : max iterations.toNat 1 < 2 ^ 32 := max_lt iterations.toNat_lt (by decide)
    by_cases hover : budget < projectedPbkdf2 (clk.now n - clk.now m) (max iterations.toNat 1)
    · simp only [if_pos hover]
      refine Triple.bind_ok_follows (Triple.emit_follows ?_) (Triple.throw_giveUp
        (hG _ trivial fun h => not_lt_projectedPbkdf2 h _ _ hiters hover))
      exact hRun _ rfl rfl ⟨fun _ => ⟨_, _, rfl, by simp⟩,
        fun h => absurd hcal (Nat.not_lt_of_le h)⟩
    · simp only [if_neg hover]
      refine Triple.bind_keep_follows (Triple.ofExcept_follows _) fun out _ => ?_
      refine record_follows clk hI fun t => hRun _ rfl rfl ⟨fun _ => ⟨_, _, rfl,
        fun _ => Nat.le_of_not_lt hover⟩, fun h => absurd hcal (Nat.not_lt_of_le h)⟩
  · simp only [if_neg hcal]
    refine Triple.bind_keep_follows (Triple.ofExcept_follows _) fun out _ => ?_
    exact record_follows clk hI fun t => hRun _ rfl rfl ⟨fun h => absurd h hcal, fun _ => rfl⟩

/-- The parameters **stop** Argon2: nothing refuses them before the crate checks them, and the
crate is stopped at it, as eight times the lanes leaves 32 bits. -/
structure Argon2Params.Stops (p : Argon2Params) (keyLen : ℕ) : Prop where
  /-- The variant is wired. -/
  wired : ∃ alg, algorithmOf p.kind = .ok alg
  /-- The key is within the ceiling. -/
  key_le : keyLen ≤ maxKeyBytes
  /-- So is the memory. -/
  memory_le : p.memory.toNat ≤ maxArgon2MemoryKib
  /-- The memory is not too small. -/
  le_memory : 8 ≤ p.memory.toNat
  /-- The product leaves its type. -/
  overflows : 2 ^ 32 ≤ p.cpus.toNat * 8

/-- A computation follows its description, unless the crate is stopped at its parameters. -/
theorem argon2Run_follows {S : Prop} (alg : Algorithm) (p : Argon2Params) (password : Bytes)
    (keyLen time : ℕ) (hS : 8 ≤ p.memory.toNat ∧ 2 ^ 32 ≤ p.cpus.toNat * 8 → S) :
    Triple I (argon2Run K alg p password keyLen time)
      (FollowsUnless S I G (Spec.argon2Run K alg p password keyLen time)) E := by
  rw [argon2Run, Spec.argon2Run]
  cases hparams : K.argon2Params p.memory.toNat time p.cpus.toNat keyLen with
  | panic q =>
    exact Triple.abort_follows (hS (K.argon2Params_eq_panic_iff.mp hparams).2) ⟨_, rfl⟩
  | err e => exact Triple.throw_follows
  | ok _ =>
    dsimp only
    cases K.argon2Hash alg p.memory.toNat time p.cpus.toNat password p.salt keyLen with
    | error e => exact Triple.throw_follows
    | ok out => exact Triple.pure_follows

/-- A computation leaves nothing. -/
theorem leaves_argon2Run (alg : Algorithm) (p : Argon2Params) (password : Bytes)
    (keyLen time : ℕ) : Leaves E (argon2Run K alg p password keyLen time : Exec σ Bytes) := by
  rw [argon2Run]
  split
  · exact Leaves.abort _
  · exact Leaves.throw _
  · split
    · exact Leaves.throw _
    · exact Leaves.pure _

/-- And it leaves the state alone. -/
theorem argon2Run_final (alg : Algorithm) (p : Argon2Params) (password : Bytes)
    (keyLen time : ℕ) (s : σ) : (argon2Run K alg p password keyLen time s).final = s := by
  rw [argon2Run]
  cases K.argon2Params p.memory.toNat time p.cpus.toNat keyLen with
  | panic q => rfl
  | err e => rfl
  | ok _ =>
    dsimp only
    cases K.argon2Hash alg p.memory.toNat time p.cpus.toNat password p.salt keyLen <;> rfl

/-- Where the crate is not stopped, a computation is its description. -/
theorem argon2Run_eq_ofExcept {p : Argon2Params}
    (h : ¬(8 ≤ p.memory.toNat ∧ 2 ^ 32 ≤ p.cpus.toNat * 8)) (alg : Algorithm) (password : Bytes)
    (keyLen time : ℕ) : (argon2Run K alg p password keyLen time : Exec σ Bytes) =
      Prog.ofExcept (Spec.argon2Run K alg p password keyLen time) := by
  rw [argon2Run, Spec.argon2Run]
  cases hparams : K.argon2Params p.memory.toNat time p.cpus.toNat keyLen with
  | panic q => exact absurd (K.argon2Params_eq_panic_iff.mp hparams).2 h
  | err e => rfl
  | ok _ =>
    dsimp only
    cases K.argon2Hash alg p.memory.toNat time p.cpus.toNat password p.salt keyLen <;> rfl

/-- There is no answer where the parameters stop Argon2. -/
theorem Argon2Params.Stops.not_derived {p : Argon2Params} {keyLen : ℕ} (h : p.Stops keyLen)
    (password out : Bytes) : Spec.deriveKeyArgon2 K p password keyLen ≠ .ok out := by
  obtain ⟨alg, halg⟩ := h.wired
  have hrun : ∀ time out, Spec.argon2Run K alg p password keyLen time ≠ .ok out := by
    intro time out hok
    have hparams := ((Spec.argon2Run_eq_ok_iff K).mp hok).1
    rw [K.argon2Params_eq_panic_iff.mpr ⟨rfl, h.le_memory, h.overflows⟩] at hparams
    cases hparams
  intro hok
  rw [Spec.deriveKeyArgon2, halg, ok_bind, if_neg (Nat.not_lt_of_le h.key_le),
    if_neg (Nat.not_lt_of_le h.memory_le)] at hok
  split_ifs at hok
  · obtain ⟨trial, htrial, -⟩ := bind_eq_ok_iff.mp hok
    exact hrun _ _ htrial
  · exact hrun _ _ hok

/-- **Argon2 follows its description, or is refused on its budget**, unless its parameters stop
it. -/
theorem deriveKeyArgon2Within_follows (hI : IgnoresTime I) {start : ℕ} {budget : Duration}
    (hG : ∀ e, LuksError.IsBudgetRefusal e → ¬clk.Affords budget → G e)
    (hAlloc : ∀ n ≤ maxKeyBytes, E (.alloc n)) (hDerive : E (.derive start budget))
    (p : Argon2Params) (password : Bytes) (keyLen : ℕ) :
    Triple (fun w => I w ∧ w.now = start) (deriveKeyArgon2Within K clk p password keyLen budget)
      (FollowsUnless (p.Stops keyLen) I G (Spec.deriveKeyArgon2 K p password keyLen)) E := by
  rw [deriveKeyArgon2Within, Spec.deriveKeyArgon2]
  refine Triple.bind_get ?_
  refine Triple.bind_ok_follows (Triple.emit_follows hDerive) ?_
  refine Triple.bind_follows (Triple.ofExcept_follows _) fun alg halg => ?_
  by_cases hlen : maxKeyBytes < keyLen
  · rw [if_pos hlen, if_pos hlen]
    exact Triple.throw_follows
  rw [if_neg hlen, if_neg hlen]
  by_cases hmem : maxArgon2MemoryKib < p.memory.toNat
  · rw [if_pos hmem, if_pos hmem]
    exact Triple.throw_follows
  rw [if_neg hmem, if_neg hmem]
  have hbuf : Triple I (vecZeroed keyLen)
      (FollowsUnless (p.Stops keyLen) I G (.ok (List.replicate keyLen 0))) E :=
    (vecZeroed_key_follows hAlloc (Nat.le_of_not_lt hlen)).unstopped
  -- every computation is made of the same parameters
  have hrun : ∀ time, Triple I (argon2Run K alg p password keyLen time)
      (FollowsUnless (p.Stops keyLen) I G (Spec.argon2Run K alg p password keyLen time)) E :=
    fun time => argon2Run_follows K alg p password keyLen time fun h =>
      ⟨⟨alg, halg⟩, Nat.le_of_not_lt hlen, Nat.le_of_not_lt hmem, h.1, h.2⟩
  by_cases htime : 1 < p.time.toNat
  · -- one pass is measured first
    rw [if_pos htime, if_pos htime]
    refine Triple.bind_ok_follows hbuf ?_
    refine bind_instantNow_follows clk hI fun m => ?_
    refine Triple.bind_follows (hrun 1) fun _ _ => ?_
    refine bind_instantNow_follows clk hI fun n => ?_
    by_cases hover : budget < projectedArgon2 (clk.now n - clk.now m) p.time.toNat
    · simp only [if_pos hover]
      exact Triple.throw_giveUp
        (hG _ trivial fun h => not_lt_projectedArgon2 h _ _ p.time.toNat_lt hover)
    · simp only [if_neg hover]
      exact Triple.bind_ok_follows hbuf (hrun _)
  · rw [if_neg htime, if_neg htime]
    exact Triple.bind_ok_follows hbuf (hrun _)

/-- **Parameters that stop Argon2 stop the derivation**, before anything is refused. -/
theorem deriveKeyArgon2Within_halts {p : Argon2Params} {keyLen : ℕ} (h : p.Stops keyLen)
    (password : Bytes) (budget : Duration) : Triple (fun _ => True)
      (deriveKeyArgon2Within (ρ := ρ) K clk p password keyLen budget)
      (Halts .arithmeticOverflow G) fun _ => True := by
  obtain ⟨alg, halg⟩ := h.wired
  have hrun : ∀ time, Triple (fun _ => True) (argon2Run (σ := World ρ) K alg p password keyLen time)
      (Halts .arithmeticOverflow G) fun _ => True := by
    intro time
    rw [argon2Run, K.argon2Params_eq_panic_iff.mpr ⟨rfl, h.le_memory, h.overflows⟩]
    exact Triple.abort_halts
  -- the steps before it return
  have hbuf : Triple (fun _ : World ρ => True) (vecZeroed keyLen)
      (Follows (fun _ => True) G (.ok (List.replicate keyLen 0))) fun _ => True :=
    vecZeroed_key_follows (fun _ _ => trivial) h.key_le
  have hstart : Triple (fun _ => True) (Prog.get World.now : Exec (World ρ) ℕ)
      (Yields (fun _ => True) G fun _ _ => True) fun _ => True :=
    Triple.get fun _ _ => ⟨trivial, Or.inl ⟨_, rfl, trivial⟩⟩
  rw [deriveKeyArgon2Within, halg]
  refine Triple.bind_yields_halts hstart fun start => Triple.pre ?_ fun _ _ => trivial
  refine Triple.bind_halts (Triple.emit_follows trivial) ?_
  refine Triple.bind_halts (Triple.ofExcept_follows _) ?_
  rw [if_neg (Nat.not_lt_of_le h.key_le), if_neg (Nat.not_lt_of_le h.memory_le)]
  by_cases htime : 1 < p.time.toNat
  · rw [if_pos htime]
    refine Triple.bind_halts hbuf ?_
    refine Triple.bind_yields_halts (instantNow_yields clk fun _ _ _ hw => hw) fun started =>
      Triple.pre ?_ fun _ _ => trivial
    exact Triple.bind_left_halts (hrun 1)
  · rw [if_neg htime]
    exact Triple.bind_halts hbuf (hrun _)

end Following

section Decrypting

variable {I : σ → Prop} {G : LuksError → Prop} {E : Event → Prop}

/-- **Decrypting follows its description** as long as no tweak leaves 128 bits. -/
theorem decryptUnits_follows (dec : Bytes → Bytes → Bytes) {buffer : Bytes}
    {unitSize base step : ℕ} (hunit : 0 < unitSize)
    (hfit : ∀ u < (chunks unitSize buffer).length, base + u * step < 2 ^ 128)
    (hSector : ∀ p ∈ (chunks unitSize buffer).zipIdx, 16 ≤ p.1.length →
      E (.sector p.1.length (toLe 16 (base + p.2 * step))))
    (hPassed : ∀ p ∈ (chunks unitSize buffer).zipIdx, p.1.length < 16 →
      E (.passed p.1.length)) :
    Triple I (decryptUnits dec buffer unitSize base step)
      (Follows I G (.ok (Spec.decryptUnits dec buffer unitSize base step))) E := by
  rw [decryptUnits, if_neg (by omega), Spec.decryptUnits]
  refine Triple.bind_ok_follows
    (Triple.mapM (g := fun p => Spec.decryptUnit dec base step p.2 p.1) fun p hp => ?_)
    Triple.pure_follows
  obtain ⟨unit, u⟩ := p
  have hu : u < (chunks unitSize buffer).length := by
    simpa using List.snd_lt_of_mem_zipIdx hp
  have hlt := hfit u hu
  simp only [Spec.decryptUnit]
  by_cases hshort : unit.length < 16
  · rw [if_pos hshort, if_pos hshort]
    exact Triple.bind_ok_follows (Triple.emit_follows (hPassed _ hp hshort)) Triple.pure_follows
  · rw [if_neg hshort, if_neg hshort, mulU128_of_lt (by omega), pure_bind,
      addU128_of_lt (by omega), pure_bind]
    exact Triple.bind_ok_follows (Triple.emit_follows (hSector _ hp (Nat.le_of_not_lt hshort)))
      Triple.pure_follows

/-- Where decrypting returned, no tweak left 128 bits. -/
theorem tweak_lt_of_decryptUnits {dec : Bytes → Bytes → Bytes} {buffer out : Bytes}
    {unitSize base step k : ℕ} {s : σ} (hunit : 16 ≤ unitSize)
    (hlen : buffer.length = k * unitSize)
    (h : (decryptUnits dec buffer unitSize base step s).out = .ok out) :
    ∀ u < k, base + u * step < 2 ^ 128 := by
  have hpos : 0 < unitSize := by omega
  rw [decryptUnits, if_neg (by omega)] at h
  obtain ⟨units, hunits, -⟩ := Prog.bind_out_eq_ok_iff.mp h
  intro u hu
  have hlt : u < (chunks unitSize buffer).length := by rwa [length_chunks_of_dvd hpos hlen]
  have hmem : ((chunks unitSize buffer)[u], u) ∈ (chunks unitSize buffer).zipIdx := by
    rw [List.mem_zipIdx_iff_getElem?]
    exact List.getElem?_eq_getElem hlt
  obtain ⟨s', b, hb⟩ := Prog.exists_ok_of_mapM hunits _ hmem
  have hlong : ¬((chunks unitSize buffer)[u]).length < 16 := by
    rw [length_of_mem_chunks hpos hlen (List.getElem_mem hlt)]
    omega
  simp only [if_neg hlong] at hb
  obtain ⟨product, hproduct, hb⟩ := Prog.bind_out_eq_ok_iff.mp hb
  obtain ⟨sum, hsum, -⟩ := Prog.bind_out_eq_ok_iff.mp hb
  have hmul := checked_out_eq_ok hproduct
  obtain rfl : u * step = product := by
    rw [mulU128_of_lt hmul] at hproduct
    simpa using hproduct
  exact checked_out_eq_ok hsum

/-- Decrypting a whole number of units: none is passed through, and unit `u` is
decrypted under the tweak `base + u * step`. -/
theorem xtsDecryptArea_follows (cipherMode : String) (key : Bytes) {buffer : Bytes}
    {unitSize base k : ℕ} (hunit : 16 ≤ unitSize) (hlen : buffer.length = k * unitSize)
    (hfit : ∀ u < k, base + u * tweakStep unitSize < 2 ^ 128)
    (hSector : ∀ u < k, E (.sector unitSize (toLe 16 (base + u * tweakStep unitSize)))) :
    Triple I (xtsDecryptArea K cipherMode key buffer unitSize base)
      (Follows I G (Spec.xtsDecryptArea K cipherMode key buffer unitSize base)) E := by
  have hpos : 0 < unitSize := by omega
  have hchunks := length_chunks_of_dvd hpos hlen
  have hmem : ∀ p ∈ (chunks unitSize buffer).zipIdx, p.1.length = unitSize ∧ p.2 < k := by
    intro p hp
    have hlt := List.snd_lt_of_mem_zipIdx hp
    exact ⟨length_of_mem_chunks hpos hlen (List.fst_mem_of_mem_zipIdx hp), by omega⟩
  rw [xtsDecryptArea, Spec.xtsDecryptArea]
  by_cases hmode : cipherMode ≠ "xts-plain64"
  · rw [if_pos hmode, if_pos hmode]
    exact Triple.throw_follows
  · rw [if_neg hmode, if_neg hmode]
    refine Triple.bind_follows (Triple.ofExcept_follows _) fun dec _ =>
      decryptUnits_follows dec hpos (by rwa [hchunks]) (fun p hp _ => ?_) (fun p hp hshort => ?_)
    · rw [(hmem p hp).1]
      exact hSector p.2 (hmem p hp).2
    · rw [(hmem p hp).1] at hshort
      omega

/-- A bulk decryption ends as its description says, if no tweak leaves 128 bits. -/
theorem xtsDecryptArea_out (cipherMode : String) (key : Bytes) {buffer : Bytes}
    {unitSize base k : ℕ} (s : σ) (hunit : 16 ≤ unitSize) (hlen : buffer.length = k * unitSize)
    (hfit : ∀ u < k, base + u * tweakStep unitSize < 2 ^ 128) :
    (xtsDecryptArea K cipherMode key buffer unitSize base s).out =
      .ofExcept (Spec.xtsDecryptArea K cipherMode key buffer unitSize base) :=
  ((xtsDecryptArea_follows (I := fun _ : σ => True) (E := fun _ => True) K cipherMode key hunit hlen
    hfit fun _ _ => trivial).sure trivial).1

/-- What a bulk decryption returned is what its description says, and no tweak left 128
bits. -/
theorem xtsDecryptArea_eq_ok {cipherMode : String} {key buffer out : Bytes}
    {unitSize base k : ℕ} {s : σ} (hunit : 16 ≤ unitSize) (hlen : buffer.length = k * unitSize)
    (h : (xtsDecryptArea K cipherMode key buffer unitSize base s).out = .ok out) :
    Spec.xtsDecryptArea K cipherMode key buffer unitSize base = .ok out ∧
      ∀ u < k, base + u * tweakStep unitSize < 2 ^ 128 := by
  have htweak : ∀ u < k, base + u * tweakStep unitSize < 2 ^ 128 := by
    rw [xtsDecryptArea] at h
    by_cases hmode : cipherMode ≠ "xts-plain64"
    · rw [if_pos hmode] at h
      cases h
    · rw [if_neg hmode] at h
      obtain ⟨dec, -, hdec⟩ := Prog.bind_out_eq_ok_iff.mp h
      exact tweak_lt_of_decryptUnits hunit hlen hdec
  refine ⟨?_, htweak⟩
  rw [xtsDecryptArea_out K cipherMode key s hunit hlen htweak] at h
  cases hs : Spec.xtsDecryptArea K cipherMode key buffer unitSize base with
  | ok out' =>
    obtain rfl : out' = out := by simpa [hs] using h
    rfl
  | error e => simp [hs] at h

/-- Decrypting leaves the units it goes through. -/
theorem leaves_decryptUnits (hPassed : ∀ n, E (.passed n))
    (hSector : ∀ n tweak, E (.sector n tweak)) (dec : Bytes → Bytes → Bytes) (buffer : Bytes)
    (unitSize base step : ℕ) :
    Leaves E (decryptUnits dec buffer unitSize base step : Exec σ Bytes) := by
  rw [decryptUnits]
  split_ifs
  · exact Leaves.abort _
  · refine (Leaves.mapM fun p _ => ?_).bind fun _ => Leaves.pure _
    obtain ⟨chunk, u⟩ := p
    dsimp only
    split_ifs
    · exact (Leaves.emit (hPassed _)).bind fun _ => Leaves.pure _
    · exact (leaves_checked _ _).bind fun _ => (leaves_checked _ _).bind fun _ =>
        (Leaves.emit (hSector _ _)).bind fun _ => Leaves.pure _

theorem leaves_xtsDecryptArea (hPassed : ∀ n, E (.passed n))
    (hSector : ∀ n tweak, E (.sector n tweak)) (cipherMode : String) (key buffer : Bytes)
    (unitSize base : ℕ) :
    Leaves E (xtsDecryptArea K cipherMode key buffer unitSize base : Exec σ Bytes) := by
  rw [xtsDecryptArea]
  by_cases hmode : cipherMode ≠ "xts-plain64"
  · rw [if_pos hmode]
    exact Leaves.throw _
  · rw [if_neg hmode]
    exact (Leaves.ofExcept _).bind fun dec => leaves_decryptUnits hPassed hSector _ _ _ _ _

end Decrypting

end Luks
