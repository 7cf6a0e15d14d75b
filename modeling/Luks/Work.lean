import Luks.Basis.Schedule
import Luks.EntryPoints
import Luks.Slots
import Luks.WholeUnits

/-!
# The work of an unlock

What an unlock costs is its derivations. The bytes of the container lay them down, before the
passphrase plays a part: one for each keyslot that is tried, and where the key material is
all there, one for the digest – in LUKS2 for each digest that lists the keyslot
(`Luks.EntryPoint.work`).

An unlock works this off in order, and where it stops, for whatever reason, it stops there.
A passphrase is rejected when all of it is done (`Luks.unlock_work`). So rejections cost the
same for every passphrase, and no unlock of a LUKS1 container makes more than 16 derivations.
-/

namespace Luks

open Basis

/-- What is seen of the work of an unlock. -/
inductive Work where
  /-- A derivation is started. -/
  | derivation
  /-- PBKDF2 is asked for so many iterations. -/
  | iterations (n : ℕ)
  deriving DecidableEq

/-- The work that an event shows. -/
def Event.work : Event → Option Work
  | .derive _ _ => some .derivation
  | .pbkdf2 run => some (.iterations run.iters)
  | _ => none

/-! ### What there is to do -/

/-- A PBKDF2 derivation of so many iterations, but at least one. -/
def pbkdf2Work (iterations : UInt32) : List Work :=
  [.derivation, .iterations (max iterations.toNat 1)]

/-- The derivation of a LUKS2 keyslot. -/
def Luks2Kdf.work : Luks2Kdf → List Work
  | argon2 _ _ _ _ _ => [.derivation]
  | pbkdf2 _ iterations _ => pbkdf2Work iterations

namespace Spec

instance (img : Bytes) (offset len : ℕ) : Decidable (Inside img offset len) :=
  decidable_of_iff _ inside_iff.symm

instance (dig : Luks2Digest) (slot : Luks2Keyslot) : Decidable (Applies dig slot) :=
  inferInstanceAs (Decidable (_ ∧ _))

/-- What a LUKS1 keyslot takes: its key, and if the key material is there, the digest. -/
def slotWork1 (img : Bytes) (header : Luks1Header) (slot : Keyslot) : List Work :=
  pbkdf2Work slot.iterations ++
    if Inside img slot.materialOffset (slot.materialSize header) then
      pbkdf2Work header.mkDigestIter
    else []

/-- What a digest of a LUKS2 header takes for a keyslot. -/
def digestWork (slot : Luks2Keyslot) (dig : Luks2Digest) : List Work :=
  if Applies dig slot then pbkdf2Work dig.iterations else []

/-- What a LUKS2 keyslot takes: its key, and if the key material is there, the digests. -/
def slotWork2 (img : Bytes) (header : Luks2Header) (slot : Luks2Keyslot) : List Work :=
  slot.kdf.work ++
    if Inside img slot.areaOffset.toNat slot.materialSize then
      header.digests.flatMap (digestWork slot)
    else []

/-- What a LUKS1 container takes. -/
def work1 (img : Bytes) : List Work :=
  match header1 img with
  | .ok header => header.activeKeyslots.flatMap (slotWork1 img header)
  | .error _ => []

/-- What a LUKS2 container takes. -/
def work2 (K : Crates) (img : Bytes) : List Work :=
  match header2 K img with
  | .ok header =>
      if header.cryptSegment.isSome then header.keyslots.flatMap (slotWork2 img header) else []
  | .error _ => []

end Spec

/-- What an unlock takes, from the bytes of the container. -/
def EntryPoint.work (K : Crates) (img : Bytes) : EntryPoint → List Work
  | luks1 => Spec.work1 img
  | luks2 => Spec.work2 K img
  | detect =>
      if beU16 img 6 = 1 then Spec.work1 img
      else if beU16 img 6 = 2 then Spec.work2 K img
      else []

/-! ### The steps of a recovery -/

section Steps

variable {ρ : Type} (K : Crates) (clk : Clock) {I : World ρ → Prop} {d : UnlockDeadline}

/-- An event that shows no work. -/
abbrev Unseen (v : Event) : Prop := v.work = none

theorem leaves_buffer {σ : Type} (n : ℕ) : Leaves Unseen (vecZeroed n : Exec σ Bytes) :=
  leaves_vecZeroed rfl

theorem leaves_instantNow : Leaves Unseen (instantNow clk : Exec (World ρ) ℕ) :=
  fun _ _ => ⟨trivial, by simp [instantNow]⟩

theorem leaves_get {α : Type} (g : World ρ → α) :
    Leaves Unseen (Prog.get g : Exec (World ρ) α) :=
  fun _ _ => ⟨trivial, by simp [Prog.get]⟩

theorem leaves_remaining (tried : ℕ) :
    Leaves Unseen (d.remaining clk tried : Exec (World ρ) Duration) := by
  rw [UnlockDeadline.remaining]
  refine (leaves_instantNow clk).bind fun now => ?_
  split
  · exact Leaves.pure _
  · exact Leaves.throw _

/-- **A PBKDF2 derivation shows its count**, unless it is refused before it comes to it. -/
theorem deriveKeyWithin_scheduled (hashSpec : String) (password salt : Bytes)
    (iterations : UInt32) (keyLen : ℕ) (budget : Duration) :
    Scheduled I Event.work Outcome.IsOk (pbkdf2Work iterations)
      (deriveKeyWithin K clk hashSpec password salt iterations keyLen budget) := by
  have hok : ∀ o : Outcome LuksError Bytes, o.IsOk → o.IsOk := fun _ h => h
  -- what is left after the full count: the clock is read, and the call recorded
  have hrecord : ∀ (out : Bytes) (probe : Option (ℕ × ℕ)) (start : ℕ),
      Scheduled (fun _ => True) Event.work Outcome.IsOk [.iterations (max iterations.toNat 1)] (do
        let finish ← instantNow clk
        Prog.emit (.pbkdf2 ⟨start, budget, max iterations.toNat 1, probe, true, finish⟩)
        return out : Exec (World ρ) Bytes) := fun out probe start =>
    .andThen_leaves (leaves_instantNow clk) (fun finish =>
      .emit_andThen rfl (fun _ => .pure out) hok) hok
  have hinto : ∀ n, Leaves Unseen (Prog.ofExcept (pbkdf2Into K hashSpec password salt n keyLen) :
      Exec (World ρ) Bytes) := fun n => Leaves.ofExcept _
  have hthrow : ∀ e : LuksError, ¬(.err e : Outcome LuksError Bytes).IsOk := by
    rintro e ⟨a, ha⟩
    cases ha
  rw [deriveKeyWithin]
  refine Scheduled.bind_get fun start => ?_
  refine Scheduled.emit_andThen rfl (fun _ => ?_) hok
  split_ifs with hlen
  · exact Scheduled.throw (hthrow _)
  refine Scheduled.andThen_leaves (leaves_buffer _) (fun _ => ?_) hok
  by_cases hcal : calibrationIters < max iterations.toNat 1
  · simp only [if_pos hcal]
    refine Scheduled.andThen_leaves (leaves_buffer _) (fun _ => ?_) hok
    refine Scheduled.andThen_leaves (leaves_instantNow clk) (fun started => ?_) hok
    refine Scheduled.andThen_leaves (hinto _) (fun _ => ?_) hok
    refine Scheduled.andThen_leaves (leaves_instantNow clk) (fun stopped => ?_) hok
    split_ifs with hover
    · -- refused, with its count recorded
      exact Scheduled.emit_andThen rfl (fun _ => .throw (hthrow _)) hok
    · exact Scheduled.andThen_leaves (hinto _) (fun out => hrecord out _ start) hok
  · simp only [if_neg hcal]
    exact Scheduled.andThen_leaves (hinto _) (fun out => hrecord out _ start) hok

/-- **An Argon2 derivation shows its start.** -/
theorem deriveKeyArgon2Within_scheduled (p : Argon2Params) (password : Bytes) (keyLen : ℕ)
    (budget : Duration) : Scheduled I Event.work Outcome.IsOk [.derivation]
      (deriveKeyArgon2Within K clk p password keyLen budget) := by
  have hok : ∀ o : Outcome LuksError Bytes, o.IsOk → o.IsOk := fun _ h => h
  have hrun : ∀ alg n, Leaves Unseen (argon2Run K alg p password keyLen n :
      Exec (World ρ) Bytes) := fun alg n => leaves_argon2Run K alg p password keyLen n
  rw [deriveKeyArgon2Within]
  refine Scheduled.bind_get fun start => ?_
  refine Scheduled.emit_andThen rfl (fun _ => ?_) hok
  refine Scheduled.of_leaves ((Leaves.ofExcept _).bind fun alg => ?_)
  split_ifs
  · exact Leaves.throw _
  · exact Leaves.throw _
  · refine (leaves_buffer _).bind fun _ => (leaves_instantNow clk).bind fun started => ?_
    refine (hrun _ _).bind fun _ => (leaves_instantNow clk).bind fun stopped => ?_
    dsimp only
    split_ifs
    · exact Leaves.throw _
    · exact (leaves_buffer _).bind fun _ => hrun _ _
  · exact (leaves_buffer _).bind fun _ => hrun _ _

/-- A verification shows the derivation of the digest. -/
theorem verify_scheduled (tried : ℕ) (hashSpec : String) (candidate salt : Bytes)
    (iterations : UInt32) (expected : Bytes) :
    Scheduled I Event.work Outcome.IsOk (pbkdf2Work iterations)
      (verify K clk d tried hashSpec candidate salt iterations expected) := by
  have hok : ∀ o : Outcome LuksError Bool, o.IsOk → o.IsOk := fun _ h => h
  rw [verify, ← List.append_nil (pbkdf2Work iterations)]
  refine Scheduled.andThen_leaves (leaves_remaining clk tried) (fun left => ?_) hok
  exact Scheduled.andThen (deriveKeyWithin_scheduled K clk _ _ _ _ _ _)
    (fun digest => Scheduled.pure _) hok

/-- The derivation of a LUKS2 keyslot. -/
theorem deriveSlotKey_scheduled (passphrase : Bytes) (slot : Luks2Keyslot) (tried : ℕ) :
    Scheduled I Event.work Outcome.IsOk slot.kdf.work
      (deriveSlotKey K clk passphrase d slot tried) := by
  have hok : ∀ o : Outcome LuksError Bytes, o.IsOk → o.IsOk := fun _ h => h
  rw [deriveSlotKey]
  cases slot.kdf with
  | argon2 kind time memory cpus salt =>
    exact Scheduled.andThen_leaves (leaves_remaining clk tried)
      (fun left => deriveKeyArgon2Within_scheduled K clk _ _ _ _) hok
  | pbkdf2 hash iterations salt =>
    exact Scheduled.andThen_leaves (leaves_remaining clk tried)
      (fun left => deriveKeyWithin_scheduled K clk _ _ _ _ _ _) hok

/-- Key material is opened without a derivation. -/
theorem leaves_openMaterial [ReadSeek ρ] (cipherMode hashSpec : String) (slotKey : Bytes)
    (offset : UInt64) (blockSize stripes : ℕ) : Leaves Unseen
      (openMaterial (ρ := ρ) K cipherMode hashSpec slotKey offset blockSize stripes) := by
  rw [openMaterial]
  refine (leaves_materialLen _ _).bind fun len => (leaves_buffer _).bind fun _ => ?_
  refine (leaves_readAvailableAt _ _).zoom.bind fun material => ?_
  split_ifs
  · exact Leaves.pure _
  · refine (Leaves.emit (E := Unseen) rfl).bind fun _ => ?_
    refine (leaves_xtsDecryptArea K (fun _ => rfl) (fun _ _ => rfl) _ _ _ _ _).bind fun plain => ?_
    exact (leaves_merge K (fun _ => rfl) _ _ _ _).bind fun candidate => Leaves.pure _

end Steps

/-! ### The recoveries -/

section Recovering

variable {ρ : Type} [ImageReader ρ] (K : Crates) (clk : Clock) {img : Bytes}
  {d : UnlockDeadline}

/-- **A LUKS1 keyslot is worked off**, and passed over only after that. -/
theorem tryKeyslot1_scheduled (header : Luks1Header) (passphrase : Bytes) (slot : Keyslot)
    (tried : ℕ) :
    Scheduled (Opens img) Event.work (· = .ok none) (Spec.slotWork1 img header slot)
      (tryKeyslot1 (ρ := ρ) K clk header passphrase header.keyBytes.toNat d slot tried) := by
  have hE := permits_true img d
  rw [tryKeyslot1, Spec.slotWork1, ← bind_assoc]
  refine Scheduled.bind_follows (G := d.Refuses clk) (.andThen_leaves (leaves_remaining clk tried)
    (fun left => deriveKeyWithin_scheduled K clk _ _ _ _ _ _) fun _ h => h)
    (bind_remaining_answers clk (fun _ h => h) tried fun start left hgrants =>
      deriveKeyWithin_answers K clk hE.derivation (fun _ h => h) hgrants)
    (fun slotKey hkey => ?_) (by simp) (by simp)
  have hb := Spec.le_of_deriveKey_eq_ok K hkey
  refine Scheduled.bind_follows_leaves (G := d.Refuses clk) (leaves_openMaterial K _ _ _ _ _ _)
    (openMaterial_answers K hE _ _ _ _ _ hb) (fun candidate? hopen => ?_) (by simp) (by simp)
  rw [toNat_materialOffset] at hopen
  cases candidate? with
  | none =>
    have hout : ¬Inside img slot.materialOffset (slot.materialSize header) :=
      (Spec.openMaterial_eq_none_iff.mp hopen).2
    rw [if_neg hout]
    exact Scheduled.pure none
  | some candidate =>
    have hin : Inside img slot.materialOffset (slot.materialSize header) :=
      (Spec.openMaterial_eq_some_iff.mp hopen).2.1
    rw [if_pos hin, ← List.append_nil (pbkdf2Work header.mkDigestIter)]
    refine Scheduled.andThen (verify_scheduled K clk _ _ _ _ _ _) (fun verified => ?_)
      fun _ h => ⟨_, h⟩
    cases verified <;> exact Scheduled.pure _

omit [ImageReader ρ] in
/-- A digest is worked off, if it is one that lists the keyslot. -/
theorem tryDigest_scheduled {I : World ρ → Prop} (slot : Luks2Keyslot) (tried : ℕ)
    (candidate : Bytes) (dig : Luks2Digest) :
    Scheduled I Event.work (· = .ok none) (Spec.digestWork slot dig)
      (tryDigest K clk d slot tried candidate dig) := by
  rw [tryDigest, Spec.digestWork]
  by_cases happlies : Spec.Applies dig slot
  · have hlists : dig.kind = "pbkdf2" ∧ slot.id ∈ dig.keyslots := happlies
    rw [if_pos hlists, if_pos happlies, ← List.append_nil (pbkdf2Work dig.iterations)]
    refine Scheduled.andThen (verify_scheduled K clk _ _ _ _ _ _) (fun verified => ?_)
      fun _ h => ⟨_, h⟩
    cases verified <;> exact Scheduled.pure _
  · have hlists : ¬(dig.kind = "pbkdf2" ∧ slot.id ∈ dig.keyslots) := happlies
    rw [if_neg hlists, if_neg happlies]
    exact Scheduled.pure none

/-- **A LUKS2 keyslot is worked off**, and passed over only after that. -/
theorem tryKeyslot2_scheduled (header : Luks2Header) (passphrase : Bytes) (slot : Luks2Keyslot)
    (tried : ℕ) :
    Scheduled (Opens img) Event.work (· = .ok none) (Spec.slotWork2 img header slot)
      (tryKeyslot2 (ρ := ρ) K clk header passphrase d slot tried) := by
  have hE := permits_true img d
  rw [tryKeyslot2, Spec.slotWork2]
  refine Scheduled.bind_follows (G := d.Refuses clk) (deriveSlotKey_scheduled K clk _ _ _)
    (deriveSlotKey_answers K clk hE.derivation (fun _ h => h) _ _ _) (fun slotKey hkey => ?_)
    (by simp) (by simp)
  have hb := Spec.le_of_deriveSlotKey_eq_ok K hkey
  refine Scheduled.bind_follows_leaves (G := d.Refuses clk) (leaves_openMaterial K _ _ _ _ _ _)
    (openMaterial_answers K hE _ _ _ _ _ hb) (fun candidate? hopen => ?_) (by simp) (by simp)
  cases candidate? with
  | none =>
    have hout : ¬Inside img slot.areaOffset.toNat slot.materialSize :=
      (Spec.openMaterial_eq_none_iff.mp hopen).2
    rw [if_neg hout]
    exact Scheduled.pure none
  | some candidate =>
    have hin : Inside img slot.areaOffset.toNat slot.materialSize :=
      (Spec.openMaterial_eq_some_iff.mp hopen).2.1
    rw [if_pos hin]
    refine Scheduled.findSomeM? (fun dig _ => tryDigest_scheduled K clk slot tried candidate dig)
      fun dig _ w hw _ _ => ?_
    exact (tryDigest_answers K clk hE.derivation (fun _ h => h) slot tried candidate dig w hw).1.1

/-- A recovery fails to find the key when it has worked off all keyslots. -/
theorem recover_scheduled {α : Type} {l : List α} {plan : α → List Work}
    {f : α × ℕ → Exec (World ρ) (Option Recovered)} {g : α → Except LuksError (Option Recovered)}
    (hf : ∀ a n, Scheduled (Opens img) Event.work (· = .ok none) (plan a) (f (a, n)))
    (hg : ∀ a n, AnswersUnless True img (d.Refuses clk) (fun _ => True) (f (a, n)) (g a))
    (hrefuses : ∀ a, Spec.OnlyRefuses (g a)) :
    Scheduled (Opens img) Event.work (· = .err .authenticationFailed) (l.flatMap plan) (do
      match ← l.zipIdx.findSomeM? f with
      | some found => return found
      | none => Prog.throw .authenticationFailed) := by
  have hplan : l.flatMap plan = l.zipIdx.flatMap fun a => plan a.1 := by
    rw [← List.flatMap_map Prod.fst plan, List.zipIdx_map_fst]
  rw [hplan]
  refine Scheduled.orThrow (Scheduled.findSomeM? (fun a _ => hf a.1 a.2)
    fun a _ w hw _ _ => (hg a.1 a.2 w hw).1.1) (fun w hw herr => ?_) rfl
    (fun a => Leaves.pure a) (fun a w h => by cases h)
  -- the search itself is refused, if it fails
  have hsearch : Triple (Opens img) (l.zipIdx.findSomeM? f) (FollowsUnless True (Opens img)
      (d.Refuses clk) (l.zipIdx.findSomeM? fun a => g a.1)) fun _ => True :=
    Triple.findSomeM? fun l₁ a l₂ hl hpass => hg a.1 a.2
  have hfollows := (hsearch w hw).1
  rw [herr] at hfollows
  rcases hfollows.eq_error with hspec | hrefused
  · exact (Spec.OnlyRefuses.findSomeM? fun a _ => hrefuses a.1).isRefusal _ hspec
  · exact hrefused.1

/-- **LUKS1 recovery works off the keyslots that are active.** -/
theorem recoverMasterKey1_scheduled (header : Luks1Header) (passphrase : Bytes) :
    Scheduled (Opens img) Event.work (· = .err .authenticationFailed)
      (header.activeKeyslots.flatMap (Spec.slotWork1 img header))
      (recoverMasterKey1 (ρ := ρ) K clk header passphrase header.keyBytes.toNat d) :=
  recover_scheduled clk (fun slot tried => tryKeyslot1_scheduled K clk header passphrase slot tried)
    (fun slot tried => (tryKeyslot1_answers K clk (permits_true img d) (fun _ h => h) header
      passphrase slot tried).unstopped)
    fun slot => Spec.onlyRefuses_tryKeyslot1 K img header passphrase slot

/-- **LUKS2 recovery works off the keyslots.** -/
theorem recoverMasterKey2_scheduled (header : Luks2Header) (passphrase : Bytes) :
    Scheduled (Opens img) Event.work (· = .err .authenticationFailed)
      (header.keyslots.flatMap (Spec.slotWork2 img header))
      (recoverMasterKey2 (ρ := ρ) K clk header passphrase d) :=
  recover_scheduled clk (fun slot tried => tryKeyslot2_scheduled K clk header passphrase slot tried)
    (fun slot tried => (tryKeyslot2_answers K clk (permits_true img d) (fun _ h => h) header
      passphrase slot tried).orStopped fun _ => trivial)
    fun slot => Spec.onlyRefuses_tryKeyslot2 K img header.digests passphrase slot

end Recovering

/-! ### The entry points -/

section Unlocking

variable {ρ : Type} [ImageReader ρ] (K : Crates) (clk : Clock) {img : Bytes}
  {d : UnlockDeadline}

/-- The unlock rejects the passphrase. -/
abbrev Rejects {α : Type} (o : Outcome LuksError α) : Prop := o = .err .authenticationFailed

theorem Spec.parse1_ne_failed (data : Bytes) :
    Luks1Header.parse data ≠ .error .authenticationFailed := by
  simp only [Luks1Header.parse]
  split_ifs <;> simp

theorem Spec.parse2_ne_failed (data : Bytes) :
    Luks2Header.parse K data ≠ .error .authenticationFailed := by
  simp only [Luks2Header.parse]
  split_ifs
  · simp
  · simp
  · split
    · simp
    · split <;> simp

omit [ImageReader ρ] in
/-- Nothing is seen of a buffer, whether there can be one or not. -/
theorem bind_vecZeroed_scheduled {α : Type} {I : World ρ → Prop} {plan : List Work} {n : ℕ}
    {f : Bytes → Exec (World ρ) α}
    (hf : Scheduled I Event.work Rejects plan (f (List.replicate n 0))) :
    Scheduled I Event.work Rejects plan (vecZeroed n >>= f) := by
  by_cases hfit : isizeMax < n
  · rw [vecZeroed, if_pos hfit, Prog.abort_bind]
    exact fun w hw => ⟨List.nil_prefix, fun hend => by cases hend⟩
  · refine Scheduled.bind_follows_leaves (G := fun _ => False) (leaves_buffer n)
      (vecZeroed_follows (E := fun _ => True) (Nat.le_of_not_lt hfit) trivial)
      (fun buf hbuf => ?_) (by simp) (by simp)
    obtain rfl := Except.ok.inj hbuf
    exact hf

/-- The end of an unlock rejects nothing. -/
theorem finish_scheduled {plan : List Work} {m : Exec (World ρ) Recovered}
    {volume : Recovered → ρ → ℕ → Unlocked ρ}
    (hm : Scheduled (Opens img) Event.work Rejects plan m) :
    Scheduled (Opens img) Event.work Rejects plan (do
      let found ← m
      let totalSize ← onReader (seekTo (.fromEnd 0))
      let reader ← Prog.get World.reader
      return volume found reader totalSize) := by
  refine Scheduled.bind_leaves hm (fun found => ?_) fun found w hend => ?_
  · refine (leaves_seekTo _).zoom.bind fun totalSize => ?_
    exact (leaves_get World.reader).bind fun reader => Leaves.pure _
  · cases hout : (onReader (seekTo (.fromEnd 0)) w).out with
    | ok totalSize =>
      rw [Prog.bind_of_ok hout] at hend
      cases hend
    | err e =>
      rw [Prog.bind_of_err hout] at hend
      obtain rfl := Outcome.err.inj hend
      -- what fails here is the reader
      simp only [onReader, Prog.zoom, seekTo] at hout
      cases hseek : (ReadSeek.seek w.reader (.fromEnd 0)).1 with
      | ok n =>
        rw [hseek] at hout
        cases hout
      | error io =>
        rw [hseek] at hout
        cases hout
    | panic r =>
      rw [Prog.bind_of_panic hout] at hend
      cases hend

/-- Reading and parsing reject nothing. -/
theorem not_rejects {α β : Type} {x : Except LuksError α} (hx : x ≠ .error .authenticationFailed) :
    ∀ e, x = .error e ∨ False → ¬Rejects (.err e : Outcome LuksError β) := by
  rintro e (he | he) hrejects
  · obtain rfl := Outcome.err.inj hrejects
    exact hx he
  · exact he

/-- **A LUKS1 unlock works off what the container takes.** -/
theorem unlock1Inner_scheduled (passphrase : Bytes) :
    Scheduled (Opens img) Event.work Rejects (Spec.work1 img)
      (unlock1Inner (ρ := ρ) K clk passphrase d) := by
  rw [unlock1Inner]
  refine bind_vecZeroed_scheduled ?_
  refine Scheduled.bind_follows_leaves (leaves_readFillAt _ _).zoom
    (onReader_answers (E := fun _ => True) (readFillAt_follows _ _)) (fun hdrBuf hbuf => ?_)
    (not_rejects (Spec.readFill_ne_failed 0 _)) (by simp)
  refine Scheduled.bind_follows_leaves (Leaves.ofExcept _)
    (Triple.ofExcept_follows (S := False) (E := fun _ => True) _) (fun header hparse => ?_)
    (not_rejects (Spec.parse1_ne_failed _)) (by simp)
  have hheader : Spec.header1 img = .ok header := by
    rw [Spec.header1]
    exact bind_eq_ok_iff.mpr ⟨hdrBuf, hbuf, hparse⟩
  rw [Spec.work1, hheader]
  split_ifs with hslots
  · exact Scheduled.throw (by simp)
  · exact finish_scheduled (recoverMasterKey1_scheduled K clk header passphrase)

/-- **A LUKS2 unlock works off what the container takes.** -/
theorem unlock2Inner_scheduled (passphrase : Bytes) :
    Scheduled (Opens img) Event.work Rejects (Spec.work2 K img)
      (unlock2Inner (ρ := ρ) K clk passphrase d) := by
  rw [unlock2Inner]
  refine bind_vecZeroed_scheduled ?_
  refine Scheduled.bind_follows_leaves (leaves_readFillAt _ _).zoom
    (onReader_answers (E := fun _ => True) (readFillAt_follows _ _)) (fun bin hbin => ?_)
    (not_rejects (Spec.readFill_ne_failed 0 _)) (by simp)
  simp only [Spec.hdrSize_of_readFill hbin]
  refine bind_vecZeroed_scheduled ?_
  refine Scheduled.bind_follows_leaves (leaves_readAvailableAt _ _).zoom
    (onReader_answers (E := fun _ => True) (readAvailableAt_follows _ _)) (fun full hfull => ?_)
    (not_rejects (by simp)) (by simp)
  obtain rfl := Except.ok.inj hfull
  refine Scheduled.bind_follows_leaves (Leaves.ofExcept _)
    (Triple.ofExcept_follows (S := False) (E := fun _ => True) _) (fun header hparse => ?_)
    (not_rejects (Spec.parse2_ne_failed K _)) (by simp)
  have hheader : Spec.header2 K img = .ok header := hparse
  refine Scheduled.bind_follows_leaves (leaves_vecsCollected fun _ _ => rfl)
    (vecsCollected_follows (S := False) (E := fun _ => True) fun _ _ => trivial) (fun _ _ => ?_)
    (not_rejects (by simp)) (by simp)
  rw [Spec.work2, hheader]
  cases hsegment : header.cryptSegment with
  | none => exact Scheduled.throw (by simp)
  | some segment =>
    dsimp only
    rw [hsegment, Option.isSome_some, if_pos rfl]
    split_ifs with hslots
    · exact Scheduled.throw (by simp)
    · exact finish_scheduled (recoverMasterKey2_scheduled K clk header passphrase)

/-- What an unlock does before its deadline starts is seen no more than the start itself. -/
theorem bind_new_scheduled {α : Type} {plan : List Work} {f : UnlockDeadline → Exec (World ρ) α}
    (budget : Duration) (hf : ∀ d, Scheduled (Opens img) Event.work Rejects plan (f d)) :
    Scheduled (Opens img) Event.work Rejects plan (UnlockDeadline.new clk budget >>= f) := by
  refine Scheduled.bind (p := []) (Q := fun _ => Opens img) (.of_leaves ?_) (fun w hw _ _ => hw)
    hf (fun w hw e herr => ?_) (by simp)
  · exact (leaves_instantNow clk).bind fun started => Leaves.pure _
  · cases herr

/-- **An unlock works off what the container takes**, at each entry point. -/
theorem EntryPoint.scheduled (e : EntryPoint) (passphrase : Bytes) (budget : Duration) :
    Scheduled (Opens img) Event.work Rejects (e.work K img)
      (e.unlock (ρ := ρ) K clk passphrase budget) := by
  have hone : Scheduled (Opens img) Event.work Rejects (Spec.work1 img)
      (unlock1WithPassphraseWithin (ρ := ρ) K clk passphrase budget) :=
    bind_new_scheduled clk budget fun d => unlock1Inner_scheduled K clk passphrase
  have htwo : Scheduled (Opens img) Event.work Rejects (Spec.work2 K img)
      (unlock2WithPassphraseWithin (ρ := ρ) K clk passphrase budget) :=
    bind_new_scheduled clk budget fun d => unlock2Inner_scheduled K clk passphrase
  cases e with
  | luks1 => exact hone
  | luks2 => exact htwo
  | detect =>
    rw [EntryPoint.unlock, unlockWithPassphraseWithin, EntryPoint.work]
    refine Scheduled.bind_follows_leaves (leaves_readFillAt _ _).zoom
      (onReader_answers (E := fun _ => True) (readFillAt_follows _ _)) (fun ver hver => ?_)
      (not_rejects (Spec.readFill_ne_failed 0 _)) (by simp)
    have hsix : beU16 ver 6 = beU16 img 6 := by
      obtain ⟨rfl, hlen⟩ := Spec.readFill_eq_ok hver
      rw [length_window] at hlen
      exact beU16_window (by decide) (by omega)
    refine Scheduled.bind_follows_leaves (leaves_seekTo _).zoom
      (onReader_answers (E := fun _ => True) (seekTo_start_follows _)) (fun _ _ => ?_)
      (not_rejects (by simp)) (by simp)
    rw [hsix]
    split_ifs with h1 h2 hmagic
    · exact hone
    · exact htwo
    · exact Scheduled.throw (by simp)
    · exact Scheduled.throw (by simp)

end Unlocking

/-! ### How much it is -/

theorem count_flatMap_le {α : Type} {l : List α} {f : α → List Work} {k : Work} {n : ℕ}
    (h : ∀ a ∈ l, (f a).count k ≤ n) : (l.flatMap f).count k ≤ l.length * n := by
  induction l with
  | nil => simp
  | cons a l ih =>
    have hfirst := h a (by simp)
    have hrest := ih fun b hb => h b (by simp [hb])
    rw [List.flatMap_cons, List.count_append, List.length_cons, Nat.succ_mul]
    omega

/-- A LUKS1 container takes two derivations for each active keyslot at most. -/
theorem Spec.count_work1_le_of_header {img : Bytes} {header : Luks1Header}
    (h : header1 img = .ok header) :
    (work1 img).count .derivation ≤ header.activeKeyslots.length * 2 := by
  rw [work1, h]
  refine count_flatMap_le fun slot _ => ?_
  rw [slotWork1]
  split_ifs <;> simp [pbkdf2Work]

theorem Spec.count_work1_le (img : Bytes) : (work1 img).count .derivation ≤ 16 := by
  cases h : header1 img with
  | error e =>
    rw [work1, h]
    exact Nat.zero_le _
  | ok header =>
    have hcount := count_work1_le_of_header h
    have height := header.length_activeKeyslots_le
    rw [luksNumKeys] at height
    omega

/-- **An unlock works off what the bytes of the container lay down, and rejects a passphrase
when all of it is done.** Whatever the passphrase, the budget and the clock, the derivations of
a run and the iterations they ask for are a beginning of the ones laid down, in their order;
and where the run ends in a rejection, they are all of them. Of a LUKS1 container, these are
no more than 16 derivations. -/
theorem unlock_work {ρ : Type} [ImageReader ρ] (K : Crates) (clk : Clock) (e : EntryPoint)
    (passphrase : Bytes) (budget : Duration) (r : ρ) :
    (e.unlock K clk passphrase budget (World.init r)).events.filterMap Event.work <+:
      e.work K (ImageReader.image r) ∧
    ((e.unlock K clk passphrase budget (World.init r)).out = .err .authenticationFailed →
      (e.unlock K clk passphrase budget (World.init r)).events.filterMap Event.work =
        e.work K (ImageReader.image r)) ∧
    ((unlock1WithPassphraseWithin K clk passphrase budget
      (World.init r)).events.filterMap Event.work).count .derivation ≤ 16 := by
  have hrun := e.scheduled K clk passphrase budget _ (opens_init r)
  have hone := EntryPoint.luks1.scheduled K clk passphrase budget _ (opens_init r)
  exact ⟨hrun.isPrefix, hrun.whole,
    (hone.isPrefix.sublist.count_le _).trans (Spec.count_work1_le _)⟩

end Luks
