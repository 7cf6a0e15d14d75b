import Luks.Recovery
import Luks.Tables
import Mathlib.Order.MinMax

/-!
# The projection is exact where it matters

A derivation of a large cost is measured with a small one, and refused if the projection is
over its budget. The projection is a product that saturates at 128 bits, scaled down, and cut
to 64 bits of nanoseconds. None of this changes the decision: where a derivation is given no
more than one may take, it is refused exactly when the scaled time itself is over the budget
(`Luks.refuses_iff_over_budget`). So for one measurement a cost that is refused stays so when
it is raised.
-/

namespace Luks

open Basis

/-! ### The arithmetic -/

section Arithmetic

variable {measured n budget k : ℕ}

/-- Cutting a span to 64 bits of nanoseconds does not bring it below a budget. -/
theorem lt_fromNanosSaturating_iff (hb : budget ≤ derivationBudget) :
    budget < fromNanosSaturating n ↔ budget < n := by
  have hfits : budget < 2 ^ 64 - 1 := lt_of_le_of_lt hb (by decide)
  rw [fromNanosSaturating, lt_min_iff, and_iff_left hfits]

/-- Nor does a product that saturates, scaled down by no more than the calibration. -/
theorem lt_saturatingMul128_div_iff (hb : budget ≤ derivationBudget)
    (hk : derivationBudget < (2 ^ 128 - 1) / k) :
    budget < saturatingMul128 measured n / k ↔ budget < measured * n / k := by
  have hmono : Monotone (· / k) := fun _ _ h => Nat.div_le_div_right h
  have hscaled : saturatingMul128 measured n / k = min (measured * n / k) ((2 ^ 128 - 1) / k) :=
    hmono.map_min
  rw [hscaled, lt_min_iff, and_iff_left (lt_of_le_of_lt hb hk)]

/-- **The projection of iterations is over a budget** when the calibration scaled to them
is. -/
theorem lt_projectedPbkdf2_iff (hb : budget ≤ derivationBudget) :
    budget < projectedPbkdf2 measured n ↔ budget < measured * n / calibrationIters := by
  rw [projectedPbkdf2, lt_fromNanosSaturating_iff hb, lt_saturatingMul128_div_iff hb (by decide)]

/-- **The projection of passes is over a budget** when so many times one pass is. -/
theorem lt_projectedArgon2_iff (hb : budget ≤ derivationBudget) :
    budget < projectedArgon2 measured n ↔ budget < measured * n := by
  have hscaled : budget < saturatingMul128 measured n / 1 ↔ budget < measured * n / 1 :=
    lt_saturatingMul128_div_iff hb (by decide)
  rw [Nat.div_one, Nat.div_one] at hscaled
  rw [projectedArgon2, lt_fromNanosSaturating_iff hb, hscaled]

end Arithmetic

/-! ### The runs -/

section Runs

variable {ρ : Type} (K : Crates) (clk : Clock)

/-- What a derivation that starts now measures: the time between two readings. -/
def measuredFrom (w : World ρ) : Duration := clk.now (w.ticks + 1) - clk.now w.ticks

/-- A derivation was refused because of a count. -/
def RefusesCount (budget : Duration) (n : ℕ) (o : Outcome LuksError Bytes) : Prop :=
  ∃ secs, o = .err (.derivationBudgetExceeded n secs budget.asSecs)

/-- A computation that goes on only if a projection of its cost is not over the budget. -/
def guarded (budget projected : Duration) (n : ℕ) (x : Except LuksError Bytes) :
    Except LuksError Bytes :=
  if budget < projected then .error (.derivationBudgetExceeded n projected.asSecs budget.asSecs)
  else x

variable {K clk}

/-! #### The steps of a derivation -/

section Steps

variable {σ α β : Type} {f : α → Exec (World ρ) β} {w : World ρ}

theorem get_bind_out (g : World ρ → α) : ((Prog.get g >>= f) w).out = (f (g w) w).out := rfl

theorem emit_bind_out {f : Unit → Exec (World ρ) β} (v : Event) :
    ((Prog.emit v >>= f) w).out = (f () w).out := rfl

theorem instantNow_bind_out {f : ℕ → Exec (World ρ) β} : ((instantNow clk >>= f) w).out =
    (f (clk.now w.ticks) { w with ticks := w.ticks + 1, now := clk.now w.ticks }).out := rfl

theorem ofExcept_bind_out (x : Except LuksError α) : ((Prog.ofExcept x >>= f) w).out =
    match x with
    | .ok a => (f a w).out
    | .error e => .err e := by
  cases x <;> rfl

theorem vecZeroed_bind_out {f : Bytes → Exec (World ρ) β} {n : ℕ} (hn : n ≤ maxKeyBytes) :
    ((vecZeroed n >>= f) w).out = (f (List.replicate n 0) w).out := by
  have hfit : n ≤ isizeMax := hn.trans (by decide)
  rw [vecZeroed, if_neg (Nat.not_lt_of_le hfit)]
  rfl

theorem ite_out {c : Prop} [Decidable c] {m m' : Exec (World ρ) α} :
    ((if c then m else m') w).out = if c then (m w).out else (m' w).out := by
  split_ifs <;> rfl

end Steps

/-- **How a PBKDF2 call of a large count ends**: as the derivation does, but for what the
projection refuses. -/
theorem deriveKeyWithin_out {hashSpec : String} {password salt : Bytes} {iterations : UInt32}
    {keyLen : ℕ} {budget : Duration} {w : World ρ} (hlarge : calibrationIters < iterations.toNat) :
    (deriveKeyWithin K clk hashSpec password salt iterations keyLen budget w).out =
      .ofExcept (Spec.deriveKey K hashSpec password salt iterations keyLen >>= fun key =>
        guarded budget (projectedPbkdf2 (measuredFrom clk w) iterations.toNat) iterations.toNat
          (.ok key)) := by
  have hiters : max iterations.toNat 1 = iterations.toNat := max_eq_left (by omega)
  rw [deriveKeyWithin, get_bind_out, emit_bind_out, Spec.deriveKey]
  by_cases hlen : maxKeyBytes < keyLen
  · rw [if_pos hlen, if_pos hlen]
    rfl
  have hfit := Nat.le_of_not_lt hlen
  rw [if_neg hlen, if_neg hlen, vecZeroed_bind_out hfit, hiters, if_pos hlarge,
    vecZeroed_bind_out hfit, instantNow_bind_out, ofExcept_bind_out]
  cases hhash : hashOf hashSpec with
  | error e =>
    rw [pbkdf2Into, pbkdf2Into, hhash]
    rfl
  | ok h =>
    have hinto : ∀ n, pbkdf2Into K hashSpec password salt n keyLen =
        .ok (K.pbkdf2Hmac h password salt n keyLen) := fun n => by
      rw [pbkdf2Into, hhash]
      rfl
    rw [hinto, hinto, ok_bind, guarded]
    dsimp only
    rw [instantNow_bind_out, ite_out, apply_ite Outcome.ofExcept]
    rfl

/-- **How an Argon2 call of more than one pass ends**, unless its parameters stop it: as one
pass does, and after it as the derivation does, but for what the projection refuses. -/
theorem deriveKeyArgon2Within_out {p : Argon2Params} {password : Bytes} {keyLen : ℕ}
    {budget : Duration} {w : World ρ} (hlarge : 1 < p.time.toNat) (hgoes : ¬p.Stops keyLen) :
    (deriveKeyArgon2Within K clk p password keyLen budget w).out =
      .ofExcept (Spec.deriveKeyArgon2 K { p with time := 1 } password keyLen >>= fun _ =>
        guarded budget (projectedArgon2 (measuredFrom clk w) p.time.toNat) p.time.toNat
          (Spec.deriveKeyArgon2 K p password keyLen)) := by
  rw [deriveKeyArgon2Within, get_bind_out, emit_bind_out, ofExcept_bind_out, Spec.deriveKeyArgon2,
    Spec.deriveKeyArgon2]
  cases halg : algorithmOf p.kind with
  | error e => rfl
  | ok alg =>
    simp only [ok_bind]
    by_cases hlen : maxKeyBytes < keyLen
    · simp only [if_pos hlen]
      rfl
    by_cases hmem : maxArgon2MemoryKib < p.memory.toNat
    · simp only [if_neg hlen, if_pos hmem]
      rfl
    have hone : ¬1 < (1 : UInt32).toNat := by decide
    simp only [if_neg hlen, if_neg hmem, if_pos hlarge, if_neg hone]
    rw [vecZeroed_bind_out (Nat.le_of_not_lt hlen), instantNow_bind_out]
    have hparams : ¬(8 ≤ p.memory.toNat ∧ 2 ^ 32 ≤ p.cpus.toNat * 8) := fun h => hgoes
      ⟨⟨alg, halg⟩, Nat.le_of_not_lt hlen, Nat.le_of_not_lt hmem, h.1, h.2⟩
    have hrun : Spec.argon2Run K alg { p with time := 1 } password keyLen (1 : UInt32).toNat =
        Spec.argon2Run K alg p password keyLen 1 := rfl
    rw [argon2Run_eq_ofExcept K hparams, argon2Run_eq_ofExcept K hparams, ofExcept_bind_out, hrun]
    cases Spec.argon2Run K alg p password keyLen 1 with
    | error e => rfl
    | ok out =>
      dsimp only
      rw [instantNow_bind_out, ite_out, vecZeroed_bind_out (Nat.le_of_not_lt hlen), ok_bind,
        ok_bind, guarded, apply_ite Outcome.ofExcept]
      cases Spec.argon2Run K alg p password keyLen p.time.toNat <;> rfl

/-- **A guarded computation is refused for its count** exactly where it gets to its guard, and
the projection is over the budget. -/
theorem refusesCount_guarded_iff {α : Type} {x : Except LuksError α} {budget projected : Duration}
    {n : ℕ} {y : α → Except LuksError Bytes} (hx : Spec.OnlyRefuses x)
    (hy : ∀ a, Spec.OnlyRefuses (y a)) :
    RefusesCount budget n (.ofExcept (x >>= fun a => guarded budget projected n (y a))) ↔
      (∃ a, x = .ok a) ∧ budget < projected := by
  cases x with
  | error e =>
    refine iff_of_false ?_ (by simp)
    rintro ⟨secs, h⟩
    obtain rfl := Outcome.err.inj h
    exact hx.isRefusal _ rfl
  | ok a =>
    rw [ok_bind, guarded]
    split_ifs with hover
    · exact iff_of_true ⟨_, rfl⟩ ⟨⟨a, rfl⟩, hover⟩
    · refine iff_of_false ?_ fun h => hover h.2
      rintro ⟨secs, h⟩
      exact (hy a).isRefusal _ (Outcome.ofExcept_eq_err_iff.mp h)

section Refusing

variable {budget : Duration} (hb : budget ≤ derivationBudget)

include hb

/-- **A PBKDF2 call** is refused for its count exactly when it gets to the measurement, and
the measured time, scaled to the count, is over the budget. -/
theorem refusesCount_pbkdf2_iff {hashSpec : String} {password salt : Bytes} {iterations : UInt32}
    {keyLen : ℕ} {w : World ρ} (hlarge : calibrationIters < iterations.toNat) :
    RefusesCount budget iterations.toNat
        (deriveKeyWithin K clk hashSpec password salt iterations keyLen budget w).out ↔
      (keyLen ≤ maxKeyBytes ∧ SupportedHash hashSpec) ∧
        budget < measuredFrom clk w * iterations.toNat / calibrationIters := by
  rw [deriveKeyWithin_out hlarge, refusesCount_guarded_iff (Spec.onlyRefuses_deriveKey K ..)
    fun key => Spec.onlyRefuses_ok key, Spec.exists_deriveKey_iff, lt_projectedPbkdf2_iff hb]

/-- **An Argon2 call** is refused for its time cost exactly when it gets past the measurement,
and so many times the measured time is over the budget. -/
theorem refusesCount_argon2_iff {p : Argon2Params} {password : Bytes} {keyLen : ℕ} {w : World ρ}
    (hlarge : 1 < p.time.toNat) :
    RefusesCount budget p.time.toNat
        (deriveKeyArgon2Within K clk p password keyLen budget w).out ↔
      (∃ pass, Spec.deriveKeyArgon2 K { p with time := 1 } password keyLen = .ok pass) ∧
        budget < measuredFrom clk w * p.time.toNat := by
  by_cases hstops : p.Stops keyLen
  · -- it is stopped at the measurement
    have hone : Argon2Params.Stops { p with time := 1 } keyLen :=
      ⟨hstops.wired, hstops.key_le, hstops.memory_le, hstops.le_memory, hstops.overflows⟩
    refine iff_of_false ?_ fun h => h.1.elim (hone.not_derived K password)
    rintro ⟨secs, hout⟩
    rcases (deriveKeyArgon2Within_halts K clk (G := fun _ => False) hstops password budget w
      trivial).1 with hpanic | ⟨_, he, -⟩
    · rw [hpanic] at hout
      cases hout
    · exact he
  · rw [deriveKeyArgon2Within_out hlarge hstops, refusesCount_guarded_iff
      (Spec.onlyRefuses_deriveKeyArgon2 K ..) fun _ => Spec.onlyRefuses_deriveKeyArgon2 K ..,
      lt_projectedArgon2_iff hb]

variable {clk' : Clock} {w w' : World ρ} (hmeasured : measuredFrom clk' w' = measuredFrom clk w)

include hmeasured

/-- For one measurement a refused iteration count stays refused when it is raised. -/
theorem RefusesCount.pbkdf2_mono {hashSpec : String} {password salt : Bytes}
    {iterations iterations' : UInt32} {keyLen : ℕ} (hlarge : calibrationIters < iterations.toNat)
    (hle : iterations ≤ iterations') (h : RefusesCount budget iterations.toNat
      (deriveKeyWithin K clk hashSpec password salt iterations keyLen budget w).out) :
    RefusesCount budget iterations'.toNat
      (deriveKeyWithin K clk' hashSpec password salt iterations' keyLen budget w').out := by
  have hcount : iterations.toNat ≤ iterations'.toNat := UInt32.le_iff_toNat_le.mp hle
  obtain ⟨hmeasures, hover⟩ := (refusesCount_pbkdf2_iff hb hlarge).mp h
  refine (refusesCount_pbkdf2_iff hb (lt_of_lt_of_le hlarge hcount)).mpr ⟨hmeasures, ?_⟩
  rw [hmeasured]
  exact lt_of_lt_of_le hover (Nat.div_le_div_right (Nat.mul_le_mul_left _ hcount))

/-- And so does a refused time cost. -/
theorem RefusesCount.argon2_mono {p : Argon2Params} {time : UInt32} {password : Bytes}
    {keyLen : ℕ} (hlarge : 1 < p.time.toNat) (hle : p.time ≤ time)
    (h : RefusesCount budget p.time.toNat
      (deriveKeyArgon2Within K clk p password keyLen budget w).out) :
    RefusesCount budget time.toNat
      (deriveKeyArgon2Within K clk' { p with time := time } password keyLen budget w').out := by
  have hcount : p.time.toNat ≤ time.toNat := UInt32.le_iff_toNat_le.mp hle
  obtain ⟨hmeasures, hover⟩ := (refusesCount_argon2_iff hb hlarge).mp h
  refine (refusesCount_argon2_iff (p := { p with time := time }) hb
    (lt_of_lt_of_le hlarge hcount)).mpr ⟨hmeasures, ?_⟩
  rw [hmeasured]
  exact lt_of_lt_of_le hover (Nat.mul_le_mul_left _ hcount)

end Refusing

end Runs

/-- **The cost projection is exact.** With a budget of at most what one derivation may take, a
PBKDF2 call with a count above the calibration is refused for it exactly when the measured
time, scaled to the count, is over the budget, and an Argon2 call of more than one pass exactly
when so many times the measured time is – each as far as it gets to the measurement. And for
one measurement, a count that is refused is refused when it is raised. -/
theorem refuses_iff_over_budget {ρ : Type} (K : Crates) (clk : Clock) {budget : Duration}
    (hb : budget ≤ derivationBudget) (w : World ρ) :
    (∀ hashSpec password salt iterations keyLen, calibrationIters < iterations.toNat →
      (RefusesCount budget iterations.toNat
          (deriveKeyWithin K clk hashSpec password salt iterations keyLen budget w).out ↔
        (keyLen ≤ maxKeyBytes ∧ SupportedHash hashSpec) ∧
          budget < measuredFrom clk w * iterations.toNat / calibrationIters)) ∧
    (∀ p password keyLen, 1 < p.time.toNat →
      (RefusesCount budget p.time.toNat
          (deriveKeyArgon2Within K clk p password keyLen budget w).out ↔
        (∃ pass, Spec.deriveKeyArgon2 K { p with time := 1 } password keyLen = .ok pass) ∧
          budget < measuredFrom clk w * p.time.toNat)) ∧
    ∀ clk' (w' : World ρ), measuredFrom clk' w' = measuredFrom clk w →
      (∀ hashSpec password salt iterations iterations' keyLen,
        calibrationIters < iterations.toNat → iterations ≤ iterations' →
        RefusesCount budget iterations.toNat
          (deriveKeyWithin K clk hashSpec password salt iterations keyLen budget w).out →
        RefusesCount budget iterations'.toNat
          (deriveKeyWithin K clk' hashSpec password salt iterations' keyLen budget w').out) ∧
      ∀ p time password keyLen, 1 < p.time.toNat → p.time ≤ time →
        RefusesCount budget p.time.toNat
          (deriveKeyArgon2Within K clk p password keyLen budget w).out →
        RefusesCount budget time.toNat
          (deriveKeyArgon2Within K clk' { p with time := time } password keyLen budget w').out :=
  ⟨fun _ _ _ _ _ hlarge => refusesCount_pbkdf2_iff hb hlarge,
    fun _ _ _ hlarge => refusesCount_argon2_iff hb hlarge,
    fun _ _ hmeasured => ⟨fun _ _ _ _ _ _ hlarge hle h => h.pbkdf2_mono hb hmeasured hlarge hle,
      fun _ _ _ _ hlarge hle h => h.argon2_mono hb hmeasured hlarge hle⟩⟩

/-- A clock that goes on by a second from one reading to the next. -/
def Sample.ticking : Clock := ⟨fun n => Duration.fromSecs n, fun _ _ h => Nat.mul_le_mul_right _ h⟩

theorem refuses_iff_over_budget_ticking : RefusesCount derivationBudget (620000 : UInt32).toNat
    (deriveKeyWithin (Sample.tables []).crates Sample.ticking "sha1" Sample.passphrase Sample.salt
      620000 32 derivationBudget (World.init ())).out :=
  ((refuses_iff_over_budget _ Sample.ticking (le_refl derivationBudget) (World.init ())).1 _ _ _ _
    _ (by decide)).mpr ⟨⟨by decide, Or.inl rfl⟩, by decide⟩

end Luks
