import Luks.Basis.Falter
import Luks.EntryPoints
import Luks.PayloadFile
import Luks.Sound

/-!
# Unlocks that are cut short

Two runs of an unlock under one clock: the second over a reader that gives, wherever the
first one asks and gets an answer, the same answer (`Luks.ReadsAlike`), and with as much
time or more (`Luks.Loosens`). Then the first falters behind the second
(`Luks.unlock1_falters`, `Luks.unlock2_falters`, `Luks.unlock_falters`): it is cut short by
a failure of its reader or by its budget, or the two cannot be told apart.

The readers have to give the same only where an unlock looks: at the header, and at the key
material of the keyslots. So one chain of lemmas says what a failing reader, a smaller
budget and another payload do to a run, each by a choice of what is related.
-/

namespace Luks

open Basis

variable {μ : Type} {F : LuksError → Prop} {view : Event → μ}

/-! ### More time -/

/-- A run may be refused for its time, and a view does not tell what it was given. -/
structure Untimed (F : LuksError → Prop) (view : Event → μ) : Prop where
  /-- A refusal for time is one of the errors that cut a run short. -/
  refusal : ∀ e : LuksError, e.IsBudgetRefusal → F e
  /-- An allowance is not seen. -/
  derive : ∀ start a b, view (.derive start a) = view (.derive start b)
  /-- What came of a derivation is not seen. -/
  pbkdf2 : ∀ r r' : Pbkdf2Run, r.start = r'.start → r.iters = r'.iters → r.probe = r'.probe →
    view (.pbkdf2 r) = view (.pbkdf2 r')

/-- The second run has as much time as the first, or it has more and the two are compared as
runs that may be refused for it. -/
def Loosens (F : LuksError → Prop) (view : Event → μ) (a b : Duration) : Prop :=
  a = b ∨ a ≤ b ∧ Untimed F view

theorem Loosens.refl (a : Duration) : Loosens F view a a := Or.inl rfl

theorem Loosens.min {a b : Duration} (h : Loosens F view a b) (c : Duration) :
    Loosens F view (min a c) (min b c) := by
  rcases h with rfl | ⟨hle, huntimed⟩
  · exact Loosens.refl _
  · exact Or.inr ⟨min_le_min_right c hle, huntimed⟩

theorem Loosens.sub {a b : Duration} (h : Loosens F view a b) (c : Duration) :
    Loosens F view (a - c) (b - c) := by
  rcases h with rfl | ⟨hle, huntimed⟩
  · exact Loosens.refl _
  · exact Or.inr ⟨Nat.sub_le_sub_right hle c, huntimed⟩

/-- The allowance of the second run is not seen in the event that a derivation starts. -/
theorem Loosens.view_derive {a b : Duration} (h : Loosens F view a b) (start : ℕ) :
    view (.derive start a) = view (.derive start b) := by
  rcases h with rfl | ⟨-, huntimed⟩
  · rfl
  · exact huntimed.derive start a b

theorem Loosens.view_pbkdf2 {a b : Duration} (h : Loosens F view a b) (start iters : ℕ)
    (probe : Option (ℕ × ℕ)) (ran : Bool) (finish : ℕ) :
    view (.pbkdf2 ⟨start, a, iters, probe, ran, finish⟩) =
      view (.pbkdf2 ⟨start, b, iters, probe, ran, finish⟩) := by
  rcases h with rfl | ⟨-, huntimed⟩
  · rfl
  · exact huntimed.pbkdf2 _ _ rfl rfl rfl

/-- The second deadline is as long or longer. -/
structure UnlockDeadline.LoosenedTo (F : LuksError → Prop) (view : Event → μ)
    (d d' : UnlockDeadline) : Prop where
  /-- They started together. -/
  started : d.started = d'.started
  /-- One total loosens the other. -/
  total : Loosens F view d.total d'.total

/-! ### The same time -/

section Worlds

variable {ρ τ : Type} {R : ρ → τ → Prop}

/-- Two worlds with related readers, at the same time. -/
structure SameTime (R : ρ → τ → Prop) (w : World ρ) (v : World τ) : Prop where
  /-- The readers are related. -/
  reader : R w.reader v.reader
  /-- The clock was read as often. -/
  ticks : w.ticks = v.ticks
  /-- The last reading is the same. -/
  now : w.now = v.now

theorem sameTime_init {r : ρ} {t : τ} (h : R r t) :
    SameTime R (World.init r) (World.init t) := ⟨h, rfl, rfl⟩

theorem onReader_falters {α β : Type} {S : α → β → Prop} {m : Exec ρ α} {n : Exec τ β}
    (h : Falters F view R S m n) : Falters F view (SameTime R) S (onReader m) (onReader n) :=
  h.zoom (fun _ _ hR => hR.reader) fun _ _ hR _ _ hxy => ⟨hxy, hR.ticks, hR.now⟩

variable (K : Crates) (clk : Clock)

theorem instantNow_falters : Falters F view (SameTime R) Eq (instantNow clk) (instantNow clk) := by
  intro w v hR
  have hnow : clk.now w.ticks = clk.now v.ticks := by rw [hR.ticks]
  refine Or.inl ⟨?_, rfl, ⟨hR.reader, congrArg (· + 1) hR.ticks, hnow⟩⟩
  simp only [instantNow, hnow]
  exact .ok rfl

theorem new_falters {a b : Duration} (h : Loosens F view a b) : Falters F view (SameTime R)
    (UnlockDeadline.LoosenedTo F view) (UnlockDeadline.new clk a) (UnlockDeadline.new clk b) :=
  Falters.bind_eq (instantNow_falters clk) fun _ => Falters.pure ⟨rfl, h⟩

/-- **What is left of a deadline** is as much in the second run or more, if anything is left
in the first. -/
theorem remaining_falters {d d' : UnlockDeadline} (h : d.LoosenedTo F view d') (tried : ℕ) :
    Falters F view (SameTime R) (Loosens F view) (d.remaining clk tried)
      (d'.remaining clk tried) := by
  intro w v hR
  have hnow : clk.now v.ticks = clk.now w.ticks := by rw [hR.ticks]
  have hworld : SameTime R { w with ticks := w.ticks + 1, now := clk.now w.ticks }
      { v with ticks := v.ticks + 1, now := clk.now w.ticks } :=
    ⟨hR.reader, congrArg (· + 1) hR.ticks, rfl⟩
  rw [d.remaining_eq, d'.remaining_eq, hnow, ← h.started]
  by_cases hlt : clk.now w.ticks - d.started < d.total
  · have hle : d.total ≤ d'.total := by
      rcases h.total with heq | ⟨hle, -⟩
      · exact heq.le
      · exact hle
    rw [if_pos hlt, if_pos (lt_of_lt_of_le hlt hle)]
    exact Or.inl ⟨.ok ((h.total.sub _).min _), rfl, hworld⟩
  · rw [if_neg hlt]
    rcases h.total with heq | ⟨-, huntimed⟩
    · rw [← heq, if_neg hlt]
      exact Or.inl ⟨.err _, rfl, hworld⟩
    · exact Or.inr ⟨⟨_, huntimed.refusal (.unlockBudgetExceeded tried d.total.asSecs) trivial, rfl⟩,
        List.nil_prefix, _, hworld⟩

/-! ### Derivations -/

/-- **Refused where the other run goes on**: the first gives up in a named error after one
event, and the second leaves one that looks the same. -/
theorem giveUp_after {σ σ' α β : Type} {Q : σ → σ' → Prop} {S : α → β → Prop} {v : Event}
    {e : LuksError} {n : Exec σ' β} (he : F e)
    (hn : ∀ t, ∃ v' rest, (n t).events = v' :: rest ∧ view v = view v') :
    Falters F view Q S (Prog.emit v >>= fun _ => Prog.throw e : Exec σ α) n := by
  intro s t hR
  obtain ⟨v', rest, hevents, hv⟩ := hn t
  refine Or.inr ⟨⟨e, he, rfl⟩, ?_, t, hR⟩
  rw [hevents, List.map_cons, ← hv]
  exact ⟨rest.map view, rfl⟩

/-- A projection over the first allowance: refused in both runs, or in the first only. -/
theorem projected_falters {α β : Type} {S : α → β → Prop} {a b projected : Duration}
    {m m' : Exec (World ρ) α} {n n' : Exec (World τ) β} (h : Loosens F view a b)
    (hboth : b < projected → Falters F view (SameTime R) S m n)
    (hfirst : Untimed F view → Falters F view (SameTime R) S m n')
    (hneither : Falters F view (SameTime R) S m' n') :
    Falters F view (SameTime R) S (if a < projected then m else m')
      (if b < projected then n else n') := by
  have hle : a ≤ b := by
    rcases h with rfl | ⟨hle, -⟩
    · exact le_refl _
    · exact hle
  by_cases ha : a < projected
  · rw [if_pos ha]
    by_cases hb : b < projected
    · rw [if_pos hb]
      exact hboth hb
    · rw [if_neg hb]
      rcases h with rfl | ⟨-, huntimed⟩
      · exact absurd ha hb
      · exact hfirst huntimed
  · rw [if_neg ha, if_neg fun hb => ha (lt_of_le_of_lt hle hb)]
    exact hneither

/-- A refusal of the first run for its time, over the same in the second. -/
theorem refusal_falters {α β : Type} {S : α → β → Prop} {a b : Duration} (h : Loosens F view a b)
    (iters projected : ℕ) : Falters F view (SameTime R) S
      (Prog.throw (.derivationBudgetExceeded iters projected a.asSecs) : Exec (World ρ) α)
      (Prog.throw (.derivationBudgetExceeded iters projected b.asSecs) : Exec (World τ) β) := by
  rcases h with rfl | ⟨-, huntimed⟩
  · exact Falters.throw _
  · exact Falters.giveUp (huntimed.refusal _ trivial)

/-- Whether a PBKDF2 call returns does not depend on the count. -/
theorem exists_pbkdf2Into {hashSpec : String} {password salt out : Bytes} {iters len : ℕ}
    (h : pbkdf2Into K hashSpec password salt iters len = .ok out) (iters' : ℕ) :
    ∃ out', pbkdf2Into K hashSpec password salt iters' len = .ok out' := by
  obtain ⟨hash, hhash, -⟩ := bind_eq_ok_iff.mp h
  exact ⟨_, by rw [pbkdf2Into, hhash]; rfl⟩

theorem deriveKeyWithin_falters (hashSpec : String) (password salt : Bytes) (iterations : UInt32)
    (keyLen : ℕ) {a b : Duration} (h : Loosens F view a b) : Falters F view (SameTime R) Eq
      (deriveKeyWithin (ρ := ρ) K clk hashSpec password salt iterations keyLen a)
      (deriveKeyWithin (ρ := τ) K clk hashSpec password salt iterations keyLen b) := by
  have hbuf : Falters F view (SameTime R) Eq (vecZeroed keyLen) (vecZeroed keyLen) :=
    Falters.of_agree (vecZeroed_agree keyLen)
  refine Falters.bind_eq (Falters.of_agree (Agree.get fun _ _ hR => hR.now)) fun start => ?_
  refine Falters.bind_eq (Falters.emit (h.view_derive start)) fun _ => ?_
  refine Falters.ite (fun _ => Falters.throw _) fun _ => ?_
  refine Falters.bind_eq hbuf fun _ => ?_
  refine Falters.ite (fun _ => ?_) fun _ => ?_
  · refine Falters.bind_eq hbuf fun _ => Falters.bind_eq (instantNow_falters clk) fun started => ?_
    refine Falters.bind (Falters.ofExcept _) fun _ _ hprobe => ?_
    obtain ⟨-, hprobe⟩ := hprobe
    -- what the calibration did for the hash, the full count does too
    obtain ⟨out, hout⟩ := exists_pbkdf2Into K hprobe (max iterations.toNat 1)
    refine Falters.bind_eq (instantNow_falters clk) fun stopped => ?_
    refine projected_falters h (fun _ => ?_) (fun huntimed => ?_) ?_
    · exact Falters.bind_eq (Falters.emit (h.view_pbkdf2 ..)) fun _ => refusal_falters h _ _
    · refine giveUp_after (huntimed.refusal _ trivial) fun v => ?_
      rw [hout]
      exact ⟨_, [], rfl, huntimed.pbkdf2 _ _ rfl rfl rfl⟩
    · rw [hout]
      refine Falters.bind_eq (Falters.pure rfl) fun out => ?_
      refine Falters.bind_eq (instantNow_falters clk) fun finish => ?_
      exact Falters.bind_eq (Falters.emit (h.view_pbkdf2 ..)) fun _ => Falters.pure rfl
  · refine Falters.bind_eq (Falters.of_agree (Agree.ofExcept _)) fun out => ?_
    refine Falters.bind_eq (instantNow_falters clk) fun finish => ?_
    exact Falters.bind_eq (Falters.emit (h.view_pbkdf2 ..)) fun _ => Falters.pure rfl

theorem deriveKeyArgon2Within_falters (p : Argon2Params) (password : Bytes) (keyLen : ℕ)
    {a b : Duration} (h : Loosens F view a b) : Falters F view (SameTime R) Eq
      (deriveKeyArgon2Within (ρ := ρ) K clk p password keyLen a)
      (deriveKeyArgon2Within (ρ := τ) K clk p password keyLen b) := by
  have hbuf : Falters F view (SameTime R) Eq (vecZeroed keyLen) (vecZeroed keyLen) :=
    Falters.of_agree (vecZeroed_agree keyLen)
  refine Falters.bind_eq (Falters.of_agree (Agree.get fun _ _ hR => hR.now)) fun start => ?_
  refine Falters.bind_eq (Falters.emit (h.view_derive start)) fun _ => ?_
  refine Falters.bind_eq (Falters.of_agree (Agree.ofExcept _)) fun alg => ?_
  refine Falters.ite (fun _ => Falters.throw _) fun _ => ?_
  refine Falters.ite (fun _ => Falters.throw _) fun _ => ?_
  refine Falters.ite (fun _ => ?_) fun _ => ?_
  · refine Falters.bind_eq hbuf fun _ => Falters.bind_eq (instantNow_falters clk) fun started => ?_
    refine Falters.bind_eq (Falters.of_agree (argon2Run_agree K _ _ _ _ _)) fun _ => ?_
    refine Falters.bind_eq (instantNow_falters clk) fun stopped => ?_
    refine projected_falters h (fun _ => refusal_falters h _ _)
      (fun huntimed => Falters.giveUp (huntimed.refusal _ trivial)) ?_
    exact Falters.bind_eq hbuf fun _ => Falters.of_agree (argon2Run_agree K _ _ _ _ _)
  · exact Falters.bind_eq hbuf fun _ => Falters.of_agree (argon2Run_agree K _ _ _ _ _)

theorem verify_falters {d d' : UnlockDeadline} (h : d.LoosenedTo F view d') (tried : ℕ)
    (hashSpec : String) (candidate salt : Bytes) (iterations : UInt32) (expected : Bytes) :
    Falters F view (SameTime R) Eq
      (verify (ρ := ρ) K clk d tried hashSpec candidate salt iterations expected)
      (verify (ρ := τ) K clk d' tried hashSpec candidate salt iterations expected) := by
  refine Falters.bind (remaining_falters clk h tried) fun left left' hleft => ?_
  exact Falters.bind_eq (deriveKeyWithin_falters K clk _ _ _ _ _ hleft) fun digest =>
    Falters.pure rfl

theorem deriveSlotKey_falters {d d' : UnlockDeadline} (hd : d.LoosenedTo F view d')
    (passphrase : Bytes) (slot : Luks2Keyslot) (tried : ℕ) : Falters F view (SameTime R) Eq
      (deriveSlotKey (ρ := ρ) K clk passphrase d slot tried)
      (deriveSlotKey (ρ := τ) K clk passphrase d' slot tried) := by
  rw [deriveSlotKey, deriveSlotKey]
  cases slot.kdf with
  | argon2 kind time memory cpus salt =>
    exact Falters.bind (remaining_falters clk hd tried) fun left left' hleft =>
      deriveKeyArgon2Within_falters K clk _ _ _ hleft
  | pbkdf2 hash iterations salt =>
    exact Falters.bind (remaining_falters clk hd tried) fun left left' hleft =>
      deriveKeyWithin_falters K clk _ _ _ _ _ hleft

theorem tryDigest_falters {d d' : UnlockDeadline} (hd : d.LoosenedTo F view d')
    (slot : Luks2Keyslot) (tried : ℕ) (candidate : Bytes) (dig : Luks2Digest) :
    Falters F view (SameTime R) Eq
      (tryDigest (ρ := ρ) K clk d slot tried candidate dig)
      (tryDigest (ρ := τ) K clk d' slot tried candidate dig) := by
  refine Falters.ite (fun _ => ?_) fun _ => Falters.pure rfl
  refine Falters.bind_eq (verify_falters K clk hd tried _ _ _ _ _) fun verified => ?_
  exact Falters.ite (fun _ => Falters.pure rfl) fun _ => Falters.pure rfl

end Worlds

/-! ### What an unlock reads -/

/-- The bytes that a LUKS1 unlock reads: the header, and the key material of the active
keyslots. -/
def Touches1 (img : Bytes) (i : ℕ) : Prop :=
  i < luks1PhdrLen ∨ ∃ header, Spec.header1 img = .ok header ∧ ∃ slot ∈ header.activeKeyslots,
    slot.materialOffset ≤ i ∧ i < slot.materialOffset + slot.materialSize header

/-- The bytes that a LUKS2 unlock reads: the header, and the key material of the keyslots. -/
def Touches2 (K : Crates) (img : Bytes) (i : ℕ) : Prop :=
  i < Spec.hdrSize img ∨ ∃ header, Spec.header2 K img = .ok header ∧ ∃ slot ∈ header.keyslots,
    slot.areaOffset.toNat ≤ i ∧ i < slot.areaOffset.toNat + slot.materialSize

/-- The bytes that an unlock reads. -/
def EntryPoint.Touches (K : Crates) (img : Bytes) : EntryPoint → ℕ → Prop
  | detect, i => i < 8 ∨ beU16 img 6 = 1 ∧ Touches1 img i ∨ beU16 img 6 = 2 ∧ Touches2 K img i
  | luks1, i => Touches1 img i
  | luks2, i => Touches2 K img i

section Reading

variable {ρ τ : Type} [ReadSeek ρ] [ReadSeek τ] {R : ρ → τ → Prop} {img : Bytes}
  {touched : ℕ → Prop}

/-- **The second reader gives what the first does**, where that gives anything: the bytes of
`img` at the places that are touched, and its length. -/
structure ReadsAlike (F : LuksError → Prop) (view : Event → μ) (R : ρ → τ → Prop) (img : Bytes)
    (touched : ℕ → Prop) : Prop where
  /-- Reading exactly so many bytes. -/
  fill : ∀ (o : UInt64) n, (∀ i < n, touched (o.toNat + i)) →
    Falters F view R (fun bs bs' => bs = bs' ∧ Spec.readFill img o.toNat n = .ok bs')
      (readFillAt o n) (readFillAt o n)
  /-- Reading what there is. -/
  available : ∀ (o : UInt64) n, (∀ i < n, touched (o.toNat + i)) →
    Falters F view R (fun ct ct' => ct = ct' ∧
      ct' = ((window img o.toNat n).length, zeroFill (window img o.toNat n) n))
      (readAvailableAt o n) (readAvailableAt o n)
  /-- Seeking from the start. -/
  start : ∀ o, Falters F view R (fun _ _ => True) (seekTo (.start o)) (seekTo (.start o))
  /-- Seeking to the end. -/
  fromEnd : Falters F view R Eq (seekTo (.fromEnd 0)) (seekTo (.fromEnd 0))

variable (K : Crates) (clk : Clock) {d d' : UnlockDeadline}

theorem openMaterial_falters (hread : ReadsAlike F view R img touched)
    (cipherMode hashSpec : String) (slotKey : Bytes) (offset : UInt64) (blockSize stripes : ℕ)
    (harea : ∀ i < Spec.sectorRounded (blockSize * stripes), touched (offset.toNat + i)) :
    Falters F view (SameTime R) Eq
      (openMaterial (ρ := ρ) K cipherMode hashSpec slotKey offset blockSize stripes)
      (openMaterial (ρ := τ) K cipherMode hashSpec slotKey offset blockSize stripes) := by
  rw [openMaterial, openMaterial, materialLen, materialLen]
  split_ifs with hs hprod
  · exact Falters.throw _
  · exact Falters.throw _
  rw [mulU64, mulU64, checked, checked]
  split_ifs with hlen
  · simp only [pure_bind]
    refine Falters.bind_eq (Falters.of_agree (vecZeroed_agree _)) fun _ => ?_
    refine Falters.bind (onReader_falters (hread.available _ _ harea))
      fun material _ hmaterial => ?_
    obtain ⟨rfl, -⟩ := hmaterial
    refine Falters.ite (fun _ => Falters.pure rfl) fun _ => ?_
    refine Falters.bind_eq (Falters.emit rfl) fun _ => ?_
    refine Falters.bind_eq (Falters.of_agree (xtsDecryptArea_agree K _ _ _ _ _)) fun plain => ?_
    exact Falters.bind_eq (Falters.of_agree (merge_agree K _ _ _ _)) fun _ => Falters.pure rfl
  · exact Falters.of_agree (Agree.abort _)

/-! ### LUKS1 -/

theorem tryKeyslot1_falters (hread : ReadsAlike F view R img touched)
    (hd : d.LoosenedTo F view d') (header : Luks1Header) (passphrase : Bytes) (slot : Keyslot)
    (tried : ℕ) (harea : ∀ i < slot.materialSize header, touched (slot.materialOffset + i)) :
    Falters F view (SameTime R) Eq
      (tryKeyslot1 (ρ := ρ) K clk header passphrase header.keyBytes.toNat d slot tried)
      (tryKeyslot1 (ρ := τ) K clk header passphrase header.keyBytes.toNat d' slot tried) := by
  refine Falters.bind (remaining_falters clk hd tried) fun left left' hleft => ?_
  refine Falters.bind_eq (deriveKeyWithin_falters K clk _ _ _ _ _ hleft) fun slotKey => ?_
  refine Falters.bind_eq (openMaterial_falters K hread _ _ _ _ _ _ ?_) fun candidate? => ?_
  · rw [toNat_materialOffset]
    exact harea
  cases candidate? with
  | none => exact Falters.pure rfl
  | some candidate =>
    refine Falters.bind_eq (verify_falters K clk hd tried _ _ _ _ _) fun verified => ?_
    exact Falters.ite (fun _ => Falters.pure rfl) fun _ => Falters.pure rfl

theorem recoverMasterKey1_falters (hread : ReadsAlike F view R img touched)
    (hd : d.LoosenedTo F view d') (header : Luks1Header) (passphrase : Bytes)
    (harea : ∀ slot ∈ header.activeKeyslots, ∀ i < slot.materialSize header,
      touched (slot.materialOffset + i)) : Falters F view (SameTime R) Eq
      (recoverMasterKey1 (ρ := ρ) K clk header passphrase header.keyBytes.toNat d)
      (recoverMasterKey1 (ρ := τ) K clk header passphrase header.keyBytes.toNat d') := by
  refine Falters.bind_eq (Falters.findSomeM? fun a ha => tryKeyslot1_falters K clk hread hd header
    passphrase a.1 a.2 (harea a.1 (List.fst_mem_of_mem_zipIdx ha))) fun found? => ?_
  cases found? with
  | none => exact Falters.throw _
  | some found => exact Falters.pure rfl

/-! ### LUKS2 -/

theorem tryKeyslot2_falters (hread : ReadsAlike F view R img touched)
    (hd : d.LoosenedTo F view d') (header : Luks2Header) (passphrase : Bytes)
    (slot : Luks2Keyslot) (tried : ℕ)
    (harea : ∀ i < slot.materialSize, touched (slot.areaOffset.toNat + i)) :
    Falters F view (SameTime R) Eq
      (tryKeyslot2 (ρ := ρ) K clk header passphrase d slot tried)
      (tryKeyslot2 (ρ := τ) K clk header passphrase d' slot tried) := by
  refine Falters.bind_eq (deriveSlotKey_falters K clk hd passphrase slot tried) fun slotKey => ?_
  refine Falters.bind_eq (openMaterial_falters K hread _ _ _ _ _ _ harea) fun candidate? => ?_
  cases candidate? with
  | none => exact Falters.pure rfl
  | some candidate =>
    exact Falters.findSomeM? fun dig _ => tryDigest_falters K clk hd slot tried candidate dig

theorem recoverMasterKey2_falters (hread : ReadsAlike F view R img touched)
    (hd : d.LoosenedTo F view d') (header : Luks2Header) (passphrase : Bytes)
    (harea : ∀ slot ∈ header.keyslots, ∀ i < slot.materialSize,
      touched (slot.areaOffset.toNat + i)) : Falters F view (SameTime R) Eq
      (recoverMasterKey2 (ρ := ρ) K clk header passphrase d)
      (recoverMasterKey2 (ρ := τ) K clk header passphrase d') := by
  refine Falters.bind_eq (Falters.findSomeM? fun a ha => tryKeyslot2_falters K clk hread hd header
    passphrase a.1 a.2 (harea a.1 (List.fst_mem_of_mem_zipIdx ha))) fun found? => ?_
  cases found? with
  | none => exact Falters.throw _
  | some found => exact Falters.pure rfl

/-! ### Volumes -/

/-- Two volumes over related readers, and otherwise the same. -/
structure SameBut (R : ρ → τ → Prop) (u : Unlocked ρ) (v : Unlocked τ) : Prop where
  /-- Their readers are related. -/
  reader : R u.payload.reader v.payload.reader
  /-- All else is the same. -/
  rest : (u.map fun _ => ()) = v.map fun _ => ()

/-- The end of an unlock: the container is measured, and the volume put together. -/
theorem finish_falters (hread : ReadsAlike F view R img touched) {volume : ρ → ℕ → Unlocked ρ}
    {volume' : τ → ℕ → Unlocked τ} (h : ∀ r t n, R r t → SameBut R (volume r n) (volume' t n)) :
    Falters F view (SameTime R) (SameBut R)
      (do
        let totalSize ← onReader (seekTo (.fromEnd 0))
        let reader ← Prog.get World.reader
        return volume reader totalSize)
      (do
        let totalSize ← onReader (seekTo (.fromEnd 0))
        let reader ← Prog.get World.reader
        return volume' reader totalSize) := by
  refine Falters.bind_eq (onReader_falters hread.fromEnd) fun totalSize => ?_
  refine Falters.bind (Falters.of_agree (Agree.get fun _ _ hR => hR.reader)) fun r t hrt => ?_
  exact Falters.pure (h r t totalSize hrt)

theorem unlock1Inner_falters (hread : ReadsAlike F view R img touched)
    (htouched : ∀ i, Touches1 img i → touched i) (hd : d.LoosenedTo F view d')
    (passphrase : Bytes) : Falters F view (SameTime R) (SameBut R)
      (unlock1Inner (ρ := ρ) K clk passphrase d) (unlock1Inner (ρ := τ) K clk passphrase d') := by
  refine Falters.bind_eq (Falters.of_agree (vecZeroed_agree _)) fun _ => ?_
  refine Falters.bind (onReader_falters (hread.fill _ _ fun i hi => htouched _ (Or.inl ?_)))
    fun hdrBuf _ hhdr => ?_
  · exact lt_of_eq_of_lt (Nat.zero_add i) hi
  obtain ⟨rfl, hhdr⟩ := hhdr
  refine Falters.bind (Falters.ofExcept _) fun header _ hheader => ?_
  obtain ⟨rfl, hheader⟩ := hheader
  have hparse : Spec.header1 img = .ok header := bind_eq_ok_iff.mpr ⟨hdrBuf, hhdr, hheader⟩
  refine Falters.ite (fun _ => Falters.throw _) fun _ => ?_
  refine Falters.bind_eq (recoverMasterKey1_falters K clk hread hd header passphrase
    fun slot hslot i hi => htouched _ (Or.inr ⟨header, hparse, slot, hslot, ?_⟩)) fun found => ?_
  · exact ⟨Nat.le_add_right _ _, Nat.add_lt_add_left hi _⟩
  exact finish_falters hread fun r t n hrt => ⟨hrt, rfl⟩

theorem unlock2Inner_falters (hread : ReadsAlike F view R img touched)
    (htouched : ∀ i, Touches2 K img i → touched i) (hd : d.LoosenedTo F view d')
    (passphrase : Bytes) : Falters F view (SameTime R) (SameBut R)
      (unlock2Inner (ρ := ρ) K clk passphrase d) (unlock2Inner (ρ := τ) K clk passphrase d') := by
  have hfront : ∀ i < Spec.hdrSize img, touched ((0 : UInt64).toNat + i) := fun i hi =>
    htouched _ (Or.inl (lt_of_eq_of_lt (Nat.zero_add i) hi))
  refine Falters.bind_eq (Falters.of_agree (vecZeroed_agree _)) fun _ => ?_
  refine Falters.bind (onReader_falters (hread.fill _ _ fun i hi => hfront i ?_))
    fun bin _ hbin => ?_
  · exact lt_of_lt_of_le hi (le_max_right _ _)
  obtain ⟨rfl, hbin⟩ := hbin
  -- the size that the header names is read off the same bytes
  simp only [Spec.hdrSize_of_readFill hbin]
  refine Falters.bind_eq (Falters.of_agree (vecZeroed_agree _)) fun _ => ?_
  refine Falters.bind (onReader_falters (hread.available _ _ hfront)) fun full _ hfull => ?_
  obtain ⟨rfl, rfl⟩ := hfull
  refine Falters.bind (Falters.ofExcept _) fun header _ hheader => ?_
  obtain ⟨rfl, hheader⟩ := hheader
  have hparse : Spec.header2 K img = .ok header := hheader
  refine Falters.bind_eq (Falters.of_agree (vecsCollected_agree _)) fun _ => ?_
  cases header.cryptSegment with
  | none => exact Falters.throw _
  | some segment =>
    refine Falters.ite (fun _ => Falters.throw _) fun _ => ?_
    refine Falters.bind_eq (recoverMasterKey2_falters K clk hread hd header passphrase
      fun slot hslot i hi => htouched _ (Or.inr ⟨header, hparse, slot, hslot, ?_⟩)) fun found => ?_
    · exact ⟨Nat.le_add_right _ _, Nat.add_lt_add_left hi _⟩
    exact finish_falters hread fun r t n hrt => ⟨hrt, rfl⟩

variable {a b : Duration}

theorem unlock1_falters (hread : ReadsAlike F view R img touched)
    (htouched : ∀ i, Touches1 img i → touched i) (hd : Loosens F view a b) (passphrase : Bytes) :
    Falters F view (SameTime R) (SameBut R)
      (unlock1WithPassphraseWithin (ρ := ρ) K clk passphrase a)
      (unlock1WithPassphraseWithin (ρ := τ) K clk passphrase b) :=
  Falters.bind (new_falters clk hd) fun _ _ h =>
    unlock1Inner_falters K clk hread htouched h passphrase

theorem unlock2_falters (hread : ReadsAlike F view R img touched)
    (htouched : ∀ i, Touches2 K img i → touched i) (hd : Loosens F view a b) (passphrase : Bytes) :
    Falters F view (SameTime R) (SameBut R)
      (unlock2WithPassphraseWithin (ρ := ρ) K clk passphrase a)
      (unlock2WithPassphraseWithin (ρ := τ) K clk passphrase b) :=
  Falters.bind (new_falters clk hd) fun _ _ h =>
    unlock2Inner_falters K clk hread htouched h passphrase

/-- **An unlock falters behind one with a reader that does not fail where its own does, and
with as much time.** -/
theorem EntryPoint.falters (e : EntryPoint) (hread : ReadsAlike F view R img touched)
    (htouched : ∀ i, e.Touches K img i → touched i) (hd : Loosens F view a b)
    (passphrase : Bytes) : Falters F view (SameTime R) (SameBut R)
      (e.unlock (ρ := ρ) K clk passphrase a) (e.unlock (ρ := τ) K clk passphrase b) := by
  cases e with
  | luks1 => exact unlock1_falters K clk hread htouched hd passphrase
  | luks2 => exact unlock2_falters K clk hread htouched hd passphrase
  | detect =>
    refine Falters.bind (onReader_falters (hread.fill _ _ fun i hi => htouched _ (Or.inl ?_)))
      fun ver _ hver => ?_
    · exact lt_of_eq_of_lt (Nat.zero_add i) hi
    obtain ⟨rfl, hver⟩ := hver
    obtain ⟨rfl, hlen⟩ := Spec.readFill_eq_ok hver
    rw [length_window] at hlen
    have hversion : beU16 (window img 0 8) 6 = beU16 img 6 :=
      beU16_window (by decide) (by omega)
    refine Falters.bind (onReader_falters (hread.start _)) fun _ _ _ => ?_
    refine Falters.ite (fun h => ?_) fun _ => Falters.ite (fun h => ?_) fun _ => ?_
    · exact unlock1_falters K clk hread
        (fun i hi => htouched i (Or.inr (Or.inl ⟨hversion.symm.trans h, hi⟩))) hd passphrase
    · exact unlock2_falters K clk hread
        (fun i hi => htouched i (Or.inr (Or.inr ⟨hversion.symm.trans h, hi⟩))) hd passphrase
    · exact Falters.ite (fun _ => Falters.throw _) fun _ => Falters.throw _

end Reading

/-! ### Payloads -/

section Payloads

variable {ρ τ : Type} {R : ρ → τ → Prop} {p : DecryptedPayload ρ} {q : DecryptedPayload τ}

/-- Two payloads over related readers, and otherwise the same. -/
structure PayloadsBut (R : ρ → τ → Prop) (p : DecryptedPayload ρ) (q : DecryptedPayload τ) :
    Prop where
  /-- Their readers are related. -/
  reader : R p.reader q.reader
  /-- All else is the same. -/
  rest : (p.map fun _ => ()) = q.map fun _ => ()

theorem SameBut.payloadsBut {u : Unlocked ρ} {v : Unlocked τ} (h : SameBut R u v) :
    PayloadsBut R u.payload v.payload := ⟨h.reader, congrArg Unlocked.payload h.rest⟩

namespace PayloadsBut

/-- Readers may be exchanged, and the position moved on both sides. -/
theorem movedTo {R' : ρ → τ → Prop} (h : PayloadsBut R p q) {r : ρ} {t : τ} (hrt : R' r t)
    (pos : UInt64) : PayloadsBut R' (p.movedTo r pos) (q.movedTo t pos) :=
  ⟨hrt, congrArg (fun p : DecryptedPayload Unit => p.movedTo () pos) h.rest⟩

theorem position_eq (h : PayloadsBut R p q) : p.position = q.position :=
  congrArg DecryptedPayload.position h.rest

theorem payloadSize_eq (h : PayloadsBut R p q) : p.payloadSize = q.payloadSize :=
  congrArg DecryptedPayload.payloadSize h.rest

theorem unitSize_eq (h : PayloadsBut R p q) : p.unitSize = q.unitSize :=
  congrArg DecryptedPayload.unitSize h.rest

/-- They ask for the same units. -/
theorem readUnit_eq {υ : Type} [ReadSeek υ] (K : Crates) (h : PayloadsBut R p q) (pos : ℕ) :
    p.readUnit (ρ := υ) K pos = q.readUnit K pos :=
  congrArg (fun p : DecryptedPayload Unit => p.readUnit K pos) h.rest

end PayloadsBut

end Payloads

/-- Volumes over readers of the same bytes, and otherwise the same. -/
theorem SameBut.sameVolume {ρ τ : Type} [ImageReader ρ] [ImageReader τ] {R : ρ → τ → Prop}
    {u : Unlocked ρ} {v : Unlocked τ}
    (h : SameBut R u v) (hR : ∀ r t, R r t → SameImage r t) : SameVolume u v := by
  have hmap : u.map ImageReader.image =
      (u.map fun _ => ()).map fun _ => ImageReader.image u.payload.reader := rfl
  rw [SameVolume, hmap, h.rest, hR _ _ h.reader]
  rfl

end Luks
