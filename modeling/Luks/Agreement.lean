import Luks.Answer
import Luks.Basis.Agree

/-!
# The reader makes no difference

A reader may return its bytes in pieces of any length, and be interrupted. Two readers of
the same bytes are told apart by that alone, and no program of the container code can
tell: from worlds that differ in such a reader only, each one ends the same way, leaves
the same events, and looks at the clock as often (`Luks.unlock_agree`,
`Luks.readAt_agree`).

Unlike an answer (`Luks.Answers`), this says something about each run, also about one
that is refused for its time.
-/

namespace Luks

open Basis

/-! ### Programs that do not look at the state -/

section Stateless

variable {σ τ : Type} {R : σ → τ → Prop} (K : Crates)

theorem vecZeroed_agree (n : ℕ) : Agree R Eq (vecZeroed n) (vecZeroed n) :=
  Agree.ite (fun _ => Agree.abort _) fun _ => Agree.bind_eq (Agree.emit _) fun _ => Agree.pure rfl

theorem vecsCollected_agree (sizes : List ℕ) :
    Agree R Eq (vecsCollected sizes) (vecsCollected sizes) :=
  Agree.foldlM (fun _ _ _ => Agree.emit _) ()

theorem checked_agree (bound n : ℕ) : Agree R Eq (checked bound n) (checked bound n) :=
  Agree.ite (fun _ => Agree.pure rfl) fun _ => Agree.abort _

theorem diffuse_agree (D : Digest) (data : Bytes) :
    Agree R Eq (diffuse D data) (diffuse D data) :=
  Agree.bind_eq (vecZeroed_agree _) fun _ => Agree.pure rfl

theorem afMerge_agree (D : Digest) (material : Bytes) (blockSize stripes : ℕ) :
    Agree R Eq (afMerge D material blockSize stripes) (afMerge D material blockSize stripes) := by
  refine Agree.bind_eq (vecZeroed_agree _) fun acc => ?_
  refine Agree.bind_eq (Agree.foldlM (fun acc i _ => ?_) acc) fun acc => ?_
  · refine Agree.bind_eq (checked_agree _ _) fun start => ?_
    refine Agree.bind_eq (checked_agree _ _) fun stop => ?_
    split
    · exact diffuse_agree _ _
    · exact Agree.pure rfl
  · refine Agree.bind_eq (checked_agree _ _) fun last => ?_
    refine Agree.bind_eq (checked_agree _ _) fun stop => ?_
    split
    · exact Agree.pure rfl
    · exact Agree.pure rfl

theorem merge_agree (hashSpec : String) (material : Bytes) (blockSize stripes : ℕ) :
    Agree R Eq (merge K hashSpec material blockSize stripes)
      (merge K hashSpec material blockSize stripes) :=
  Agree.ite (fun _ => Agree.throw _) fun _ =>
    Agree.bind_eq (Agree.ofExcept _) fun _ => afMerge_agree _ _ _ _

theorem materialLen_agree (blockSize stripes : ℕ) :
    Agree R Eq (materialLen blockSize stripes) (materialLen blockSize stripes) :=
  Agree.ite (fun _ => Agree.throw _) fun _ =>
    Agree.ite (fun _ => Agree.throw _) fun _ => checked_agree _ _

theorem decryptUnits_agree (dec : Bytes → Bytes → Bytes) (buffer : Bytes)
    (unitSize base step : ℕ) : Agree R Eq (decryptUnits dec buffer unitSize base step)
      (decryptUnits dec buffer unitSize base step) := by
  refine Agree.ite (fun _ => Agree.abort _) fun _ => ?_
  refine Agree.bind_eq (Agree.mapM fun a _ => ?_) fun units => Agree.pure rfl
  refine Agree.ite (fun _ => ?_) fun _ => ?_
  · exact Agree.bind_eq (Agree.emit _) fun _ => Agree.pure rfl
  · refine Agree.bind_eq (checked_agree _ _) fun _ => ?_
    refine Agree.bind_eq (checked_agree _ _) fun _ => ?_
    exact Agree.bind_eq (Agree.emit _) fun _ => Agree.pure rfl

theorem xtsDecryptArea_agree (cipherMode : String) (key buffer : Bytes)
    (unitSize baseSector : ℕ) :
    Agree R Eq (xtsDecryptArea K cipherMode key buffer unitSize baseSector)
      (xtsDecryptArea K cipherMode key buffer unitSize baseSector) :=
  Agree.ite (fun _ => Agree.throw _) fun _ =>
    Agree.bind_eq (Agree.ofExcept _) fun _ => decryptUnits_agree _ _ _ _ _

theorem argon2Run_agree (alg : Algorithm) (p : Argon2Params) (password : Bytes)
    (keyLen time : ℕ) : Agree R Eq (argon2Run K alg p password keyLen time)
      (argon2Run K alg p password keyLen time) := by
  rw [argon2Run, argon2Run]
  split
  · exact Agree.abort _
  · exact Agree.throw _
  · split
    · exact Agree.throw _
    · exact Agree.pure rfl

end Stateless

/-! ### Programs that read -/

section Readers

variable {ρ τ : Type} [ImageReader ρ] [ImageReader τ]

/-- Two readers present the same bytes. -/
def SameImage (r : ρ) (t : τ) : Prop := ImageReader.image r = ImageReader.image t

/-- What reads an image only, on both sides, agrees. -/
theorem agree_of_follows {α : Type} {m : Exec ρ α} {n : Exec τ α} {x : Bytes → Except LuksError α}
    (hm : ∀ img, Triple (Presents img) m (Follows (Presents img) (fun _ => False) (x img))
      fun _ => False)
    (hn : ∀ img, Triple (Presents img) n (Follows (Presents img) (fun _ => False) (x img))
      fun _ => False) : Agree SameImage Eq m n := by
  intro r t hRt
  obtain ⟨hout, hr⟩ := (hm (ImageReader.image r)).sure rfl
  obtain ⟨hout', ht⟩ := (hn (ImageReader.image r)).sure hRt.symm
  have hev := (hm (ImageReader.image r) r rfl).2
  have hev' := (hn (ImageReader.image r) t hRt.symm).2
  refine ⟨Outcome.rel_eq_iff.mpr (hout.trans hout'.symm), ?_, Eq.trans hr (Eq.symm ht)⟩
  rw [List.eq_nil_iff_forall_not_mem.mpr hev, List.eq_nil_iff_forall_not_mem.mpr hev']

theorem readFillAt_agree (o : UInt64) (n : ℕ) :
    Agree SameImage Eq (readFillAt (ρ := ρ) o n) (readFillAt (ρ := τ) o n) :=
  agree_of_follows (fun _ => readFillAt_follows o n) fun _ => readFillAt_follows o n

theorem readAvailableAt_agree (o : UInt64) (n : ℕ) :
    Agree SameImage Eq (readAvailableAt (ρ := ρ) o n) (readAvailableAt (ρ := τ) o n) :=
  agree_of_follows (x := fun img => .ok ((window img o.toNat n).length,
    zeroFill (window img o.toNat n) n)) (fun _ => readAvailableAt_follows o n)
    fun _ => readAvailableAt_follows o n

theorem seekTo_start_agree (o : UInt64) :
    Agree SameImage Eq (seekTo (ρ := ρ) (.start o)) (seekTo (ρ := τ) (.start o)) :=
  agree_of_follows (x := fun _ => .ok o.toNat) (fun _ => seekTo_start_follows o)
    fun _ => seekTo_start_follows o

theorem seekTo_end_agree :
    Agree SameImage Eq (seekTo (ρ := ρ) (.fromEnd 0)) (seekTo (ρ := τ) (.fromEnd 0)) :=
  agree_of_follows (x := fun img => .ok img.length) (fun _ => seekTo_end) fun _ => seekTo_end

/-! ### Programs of an unlock -/

/-- Two worlds differ in nothing but how their readers present the same bytes. -/
structure SameWorld (w : World ρ) (v : World τ) : Prop where
  /-- The readers present the same bytes. -/
  image : SameImage w.reader v.reader
  /-- The clock was read as often. -/
  ticks : w.ticks = v.ticks
  /-- The last reading is the same. -/
  now : w.now = v.now

theorem sameWorld_init {r : ρ} {t : τ} (h : SameImage r t) :
    SameWorld (World.init r) (World.init t) := ⟨h, rfl, rfl⟩

theorem onReader_agree {α : Type} {m : Exec ρ α} {n : Exec τ α} (h : Agree SameImage Eq m n) :
    Agree SameWorld Eq (onReader m) (onReader n) :=
  h.zoom (fun _ _ hR => hR.image) fun _ _ hR _ _ hxy => ⟨hxy, hR.ticks, hR.now⟩

variable (K : Crates) (clk : Clock)

theorem instantNow_agree :
    Agree SameWorld Eq (instantNow (ρ := ρ) clk) (instantNow (ρ := τ) clk) := by
  intro w v hR
  have hnow : clk.now w.ticks = clk.now v.ticks := by rw [hR.ticks]
  refine ⟨?_, rfl, ⟨hR.image, congrArg (· + 1) hR.ticks, hnow⟩⟩
  simp only [instantNow, hnow]
  exact .ok rfl

theorem new_agree (total : Duration) : Agree SameWorld Eq
    (UnlockDeadline.new (ρ := ρ) clk total) (UnlockDeadline.new (ρ := τ) clk total) :=
  Agree.bind_eq (instantNow_agree clk) fun _ => Agree.pure rfl

theorem remaining_agree (d : UnlockDeadline) (slotsTried : ℕ) : Agree SameWorld Eq
    (d.remaining (ρ := ρ) clk slotsTried) (d.remaining (ρ := τ) clk slotsTried) := by
  refine Agree.bind_eq (instantNow_agree clk) fun now => ?_
  split
  · exact Agree.pure rfl
  · exact Agree.throw _

theorem deriveKeyWithin_agree (hashSpec : String) (password salt : Bytes) (iterations : UInt32)
    (keyLen : ℕ) (budget : Duration) : Agree SameWorld Eq
      (deriveKeyWithin (ρ := ρ) K clk hashSpec password salt iterations keyLen budget)
      (deriveKeyWithin (ρ := τ) K clk hashSpec password salt iterations keyLen budget) := by
  refine Agree.bind_eq (Agree.get fun _ _ hR => hR.now) fun start => ?_
  refine Agree.bind_eq (Agree.emit _) fun _ => ?_
  refine Agree.ite (fun _ => Agree.throw _) fun _ => ?_
  refine Agree.bind_eq (vecZeroed_agree _) fun _ => ?_
  -- both runs take the same branch: the clock is the same for both
  refine Agree.ite (fun _ => ?_) fun _ => ?_
  · refine Agree.bind_eq (vecZeroed_agree _) fun _ => ?_
    refine Agree.bind_eq (instantNow_agree clk) fun started => ?_
    refine Agree.bind_eq (Agree.ofExcept _) fun _ => ?_
    refine Agree.bind_eq (instantNow_agree clk) fun stopped => ?_
    refine Agree.ite (fun _ => ?_) fun _ => ?_
    · exact Agree.bind_eq (Agree.emit _) fun _ => Agree.throw _
    · refine Agree.bind_eq (Agree.ofExcept _) fun out => ?_
      refine Agree.bind_eq (instantNow_agree clk) fun finish => ?_
      exact Agree.bind_eq (Agree.emit _) fun _ => Agree.pure rfl
  · refine Agree.bind_eq (Agree.ofExcept _) fun out => ?_
    refine Agree.bind_eq (instantNow_agree clk) fun finish => ?_
    exact Agree.bind_eq (Agree.emit _) fun _ => Agree.pure rfl

theorem deriveKeyArgon2Within_agree (p : Argon2Params) (password : Bytes) (keyLen : ℕ)
    (budget : Duration) : Agree SameWorld Eq
      (deriveKeyArgon2Within (ρ := ρ) K clk p password keyLen budget)
      (deriveKeyArgon2Within (ρ := τ) K clk p password keyLen budget) := by
  refine Agree.bind_eq (Agree.get fun _ _ hR => hR.now) fun start => ?_
  refine Agree.bind_eq (Agree.emit _) fun _ => ?_
  refine Agree.bind_eq (Agree.ofExcept _) fun alg => ?_
  refine Agree.ite (fun _ => Agree.throw _) fun _ => ?_
  refine Agree.ite (fun _ => Agree.throw _) fun _ => ?_
  refine Agree.ite (fun _ => ?_) fun _ => ?_
  · refine Agree.bind_eq (vecZeroed_agree _) fun _ => ?_
    refine Agree.bind_eq (instantNow_agree clk) fun started => ?_
    refine Agree.bind_eq (argon2Run_agree K _ _ _ _ _) fun _ => ?_
    refine Agree.bind_eq (instantNow_agree clk) fun stopped => ?_
    refine Agree.ite (fun _ => Agree.throw _) fun _ => ?_
    exact Agree.bind_eq (vecZeroed_agree _) fun _ => argon2Run_agree K _ _ _ _ _
  · exact Agree.bind_eq (vecZeroed_agree _) fun _ => argon2Run_agree K _ _ _ _ _

theorem openMaterial_agree (cipherMode hashSpec : String) (slotKey : Bytes) (offset : UInt64)
    (blockSize stripes : ℕ) : Agree SameWorld Eq
      (openMaterial (ρ := ρ) K cipherMode hashSpec slotKey offset blockSize stripes)
      (openMaterial (ρ := τ) K cipherMode hashSpec slotKey offset blockSize stripes) := by
  refine Agree.bind_eq (materialLen_agree _ _) fun len => ?_
  refine Agree.bind_eq (vecZeroed_agree _) fun _ => ?_
  refine Agree.bind_eq (onReader_agree (readAvailableAt_agree _ _)) fun material => ?_
  refine Agree.ite (fun _ => Agree.pure rfl) fun _ => ?_
  refine Agree.bind_eq (Agree.emit _) fun _ => ?_
  refine Agree.bind_eq (xtsDecryptArea_agree K _ _ _ _ _) fun plain => ?_
  exact Agree.bind_eq (merge_agree K _ _ _ _) fun candidate => Agree.pure rfl

theorem verify_agree (d : UnlockDeadline) (tried : ℕ) (hashSpec : String) (candidate salt : Bytes)
    (iterations : UInt32) (expected : Bytes) : Agree SameWorld Eq
      (verify (ρ := ρ) K clk d tried hashSpec candidate salt iterations expected)
      (verify (ρ := τ) K clk d tried hashSpec candidate salt iterations expected) := by
  refine Agree.bind_eq (remaining_agree clk d tried) fun left => ?_
  exact Agree.bind_eq (deriveKeyWithin_agree K clk _ _ _ _ _ _) fun digest => Agree.pure rfl

theorem tryKeyslot1_agree (header : Luks1Header) (passphrase : Bytes) (keyBytes : ℕ)
    (d : UnlockDeadline) (slot : Keyslot) (tried : ℕ) : Agree SameWorld Eq
      (tryKeyslot1 (ρ := ρ) K clk header passphrase keyBytes d slot tried)
      (tryKeyslot1 (ρ := τ) K clk header passphrase keyBytes d slot tried) := by
  refine Agree.bind_eq (remaining_agree clk d tried) fun left => ?_
  refine Agree.bind_eq (deriveKeyWithin_agree K clk _ _ _ _ _ _) fun slotKey => ?_
  refine Agree.bind_eq (openMaterial_agree K _ _ _ _ _ _) fun candidate? => ?_
  cases candidate? with
  | none => exact Agree.pure rfl
  | some candidate =>
    refine Agree.bind_eq (verify_agree K clk d tried _ _ _ _ _) fun verified => ?_
    exact Agree.ite (fun _ => Agree.pure rfl) fun _ => Agree.pure rfl

theorem recoverMasterKey1_agree (header : Luks1Header) (passphrase : Bytes) (keyBytes : ℕ)
    (d : UnlockDeadline) : Agree SameWorld Eq
      (recoverMasterKey1 (ρ := ρ) K clk header passphrase keyBytes d)
      (recoverMasterKey1 (ρ := τ) K clk header passphrase keyBytes d) := by
  refine Agree.bind_eq (Agree.findSomeM? fun a _ =>
    tryKeyslot1_agree K clk header passphrase keyBytes d a.1 a.2) fun found? => ?_
  cases found? with
  | none => exact Agree.throw _
  | some found => exact Agree.pure rfl

theorem deriveSlotKey_agree (passphrase : Bytes) (d : UnlockDeadline) (slot : Luks2Keyslot)
    (tried : ℕ) : Agree SameWorld Eq (deriveSlotKey (ρ := ρ) K clk passphrase d slot tried)
      (deriveSlotKey (ρ := τ) K clk passphrase d slot tried) := by
  rw [deriveSlotKey, deriveSlotKey]
  cases slot.kdf with
  | argon2 kind time memory cpus salt =>
    exact Agree.bind_eq (remaining_agree clk d tried) fun left =>
      deriveKeyArgon2Within_agree K clk _ _ _ _
  | pbkdf2 hash iterations salt =>
    exact Agree.bind_eq (remaining_agree clk d tried) fun left =>
      deriveKeyWithin_agree K clk _ _ _ _ _ _

theorem tryDigest_agree (d : UnlockDeadline) (slot : Luks2Keyslot) (tried : ℕ) (candidate : Bytes)
    (dig : Luks2Digest) : Agree SameWorld Eq
      (tryDigest (ρ := ρ) K clk d slot tried candidate dig)
      (tryDigest (ρ := τ) K clk d slot tried candidate dig) := by
  refine Agree.ite (fun _ => ?_) fun _ => Agree.pure rfl
  refine Agree.bind_eq (verify_agree K clk d tried _ _ _ _ _) fun verified => ?_
  exact Agree.ite (fun _ => Agree.pure rfl) fun _ => Agree.pure rfl

theorem tryKeyslot2_agree (header : Luks2Header) (passphrase : Bytes) (d : UnlockDeadline)
    (slot : Luks2Keyslot) (tried : ℕ) : Agree SameWorld Eq
      (tryKeyslot2 (ρ := ρ) K clk header passphrase d slot tried)
      (tryKeyslot2 (ρ := τ) K clk header passphrase d slot tried) := by
  refine Agree.bind_eq (deriveSlotKey_agree K clk passphrase d slot tried) fun slotKey => ?_
  refine Agree.bind_eq (openMaterial_agree K _ _ _ _ _ _) fun candidate? => ?_
  cases candidate? with
  | none => exact Agree.pure rfl
  | some candidate =>
    exact Agree.findSomeM? fun dig _ => tryDigest_agree K clk d slot tried candidate dig

theorem recoverMasterKey2_agree (header : Luks2Header) (passphrase : Bytes) (d : UnlockDeadline) :
    Agree SameWorld Eq (recoverMasterKey2 (ρ := ρ) K clk header passphrase d)
      (recoverMasterKey2 (ρ := τ) K clk header passphrase d) := by
  refine Agree.bind_eq (Agree.findSomeM? fun a _ =>
    tryKeyslot2_agree K clk header passphrase d a.1 a.2) fun found? => ?_
  cases found? with
  | none => exact Agree.throw _
  | some found => exact Agree.pure rfl

/-! ### Volumes -/

/-- Two payloads differ in nothing but how their readers present the same bytes. -/
def SamePayload (p : DecryptedPayload ρ) (q : DecryptedPayload τ) : Prop :=
  p.map ImageReader.image = q.map ImageReader.image

theorem SamePayload.withPosition {p : DecryptedPayload ρ} {q : DecryptedPayload τ}
    (h : SamePayload p q) (pos : UInt64) :
    SamePayload { p with position := pos } { q with position := pos } :=
  congrArg (fun p : DecryptedPayload Bytes =>
    ({ p with position := pos } : DecryptedPayload Bytes)) h

/-- Two volumes differ in nothing but how their readers present the same bytes. -/
def SameVolume (u : Unlocked ρ) (v : Unlocked τ) : Prop :=
  u.map ImageReader.image = v.map ImageReader.image

theorem unlock1Inner_agree (passphrase : Bytes) (d : UnlockDeadline) : Agree SameWorld SameVolume
    (unlock1Inner (ρ := ρ) K clk passphrase d) (unlock1Inner (ρ := τ) K clk passphrase d) := by
  refine Agree.bind_eq (vecZeroed_agree _) fun _ => ?_
  refine Agree.bind_eq (onReader_agree (readFillAt_agree _ _)) fun hdrBuf => ?_
  refine Agree.bind_eq (Agree.ofExcept _) fun header => ?_
  refine Agree.ite (fun _ => Agree.throw _) fun _ => ?_
  refine Agree.bind_eq (recoverMasterKey1_agree K clk header passphrase _ d) fun found => ?_
  refine Agree.bind_eq (onReader_agree seekTo_end_agree) fun totalSize => ?_
  refine Agree.bind (Agree.get fun _ _ hR => hR.image) fun r t hrt => Agree.pure ?_
  exact congrArg (fun img => (⟨header.payload img found.key totalSize, found.acceptedBy⟩ :
    Unlocked Bytes)) hrt

theorem unlock2Inner_agree (passphrase : Bytes) (d : UnlockDeadline) : Agree SameWorld SameVolume
    (unlock2Inner (ρ := ρ) K clk passphrase d) (unlock2Inner (ρ := τ) K clk passphrase d) := by
  refine Agree.bind_eq (vecZeroed_agree _) fun _ => ?_
  refine Agree.bind_eq (onReader_agree (readFillAt_agree _ _)) fun bin => ?_
  refine Agree.bind_eq (vecZeroed_agree _) fun _ => ?_
  refine Agree.bind_eq (onReader_agree (readAvailableAt_agree _ _)) fun full => ?_
  refine Agree.bind_eq (Agree.ofExcept _) fun header => ?_
  refine Agree.bind_eq (vecsCollected_agree _) fun _ => ?_
  cases header.cryptSegment with
  | none => exact Agree.throw _
  | some segment =>
    refine Agree.ite (fun _ => Agree.throw _) fun _ => ?_
    refine Agree.bind_eq (recoverMasterKey2_agree K clk header passphrase d) fun found => ?_
    refine Agree.bind_eq (onReader_agree seekTo_end_agree) fun totalSize => ?_
    refine Agree.bind (Agree.get fun _ _ hR => hR.image) fun r t hrt => Agree.pure ?_
    exact congrArg (fun img => (⟨segment.payload img found.key totalSize, found.acceptedBy⟩ :
      Unlocked Bytes)) hrt

theorem unlock1_agree (passphrase : Bytes) (budget : Duration) : Agree SameWorld SameVolume
    (unlock1WithPassphraseWithin (ρ := ρ) K clk passphrase budget)
    (unlock1WithPassphraseWithin (ρ := τ) K clk passphrase budget) :=
  Agree.bind_eq (new_agree clk budget) fun d => unlock1Inner_agree K clk passphrase d

theorem unlock2_agree (passphrase : Bytes) (budget : Duration) : Agree SameWorld SameVolume
    (unlock2WithPassphraseWithin (ρ := ρ) K clk passphrase budget)
    (unlock2WithPassphraseWithin (ρ := τ) K clk passphrase budget) :=
  Agree.bind_eq (new_agree clk budget) fun d => unlock2Inner_agree K clk passphrase d

/-- **An unlock cannot tell the readers apart.** -/
theorem unlock_agree (passphrase : Bytes) (budget : Duration) : Agree SameWorld SameVolume
    (unlockWithPassphraseWithin (ρ := ρ) K clk passphrase budget)
    (unlockWithPassphraseWithin (ρ := τ) K clk passphrase budget) := by
  refine Agree.bind_eq (onReader_agree (readFillAt_agree _ _)) fun ver => ?_
  refine Agree.bind_eq (onReader_agree (seekTo_start_agree _)) fun _ => ?_
  refine Agree.ite (fun _ => unlock1_agree K clk passphrase budget) fun _ => ?_
  refine Agree.ite (fun _ => unlock2_agree K clk passphrase budget) fun _ => ?_
  exact Agree.ite (fun _ => Agree.throw _) fun _ => Agree.throw _

/-- A pass of a read cannot tell the readers apart. -/
theorem readUnit_agree {p : DecryptedPayload ρ} {q : DecryptedPayload τ} (h : SamePayload p q)
    (pos : ℕ) : Agree SameImage Eq (p.readUnit (ρ := ρ) K pos) (q.readUnit (ρ := τ) K pos) := by
  have hunit : p.unitSize = q.unitSize := congrArg DecryptedPayload.unitSize h
  have hoffset : p.payloadOffset = q.payloadOffset := congrArg DecryptedPayload.payloadOffset h
  have htweak : p.ivTweak = q.ivTweak := congrArg DecryptedPayload.ivTweak h
  have hmode : p.cipherMode = q.cipherMode := congrArg DecryptedPayload.cipherMode h
  have hkey : p.masterKey = q.masterKey := congrArg DecryptedPayload.masterKey h
  rw [DecryptedPayload.readUnit, DecryptedPayload.readUnit, hunit, hoffset, htweak, hmode, hkey]
  refine Agree.bind_eq (checked_agree _ _) fun skipped => ?_
  refine Agree.bind_eq (checked_agree _ _) fun physical => ?_
  refine Agree.bind_eq (vecZeroed_agree _) fun _ => ?_
  refine Agree.bind_eq (readAvailableAt_agree _ _) fun ct => ?_
  refine Agree.bind_eq (Agree.emit _) fun _ => ?_
  refine Agree.bind_eq (checked_agree _ _) fun shift => ?_
  refine Agree.bind_eq (checked_agree _ _) fun tweak => ?_
  exact xtsDecryptArea_agree K _ _ _ _ _

/-- Nor can the loop. -/
theorem readUnits_agree {p : DecryptedPayload ρ} {q : DecryptedPayload τ} (h : SamePayload p q)
    (offset len done : ℕ) : Agree SameImage Eq (p.readUnits (ρ := ρ) K offset len done)
      (q.readUnits (ρ := τ) K offset len done) := by
  have hunit : p.unitSize = q.unitSize := congrArg DecryptedPayload.unitSize h
  -- the two volumes ask their readers for the same units
  induction done using q.loop_induct len with
  | stop done hdone =>
    rw [DecryptedPayload.readUnits, DecryptedPayload.readUnits, dif_pos hdone, dif_pos hdone]
    exact Agree.pure rfl
  | pass done hdone ih =>
    rw [p.readUnits_of_lt K hdone, q.readUnits_of_lt K hdone, hunit]
    refine Agree.bind_eq (checked_agree _ _) fun pos => ?_
    refine Agree.bind_eq (readUnit_agree K h pos) fun plain => ?_
    exact Agree.bind_eq (ih pos) fun rest => Agree.pure rfl

/-- **A read at an offset cannot tell the readers apart.** -/
theorem readAt_agree (offset : UInt64) (len : ℕ) : Agree SamePayload Eq
    (DecryptedPayload.readAt (ρ := ρ) K offset len)
    (DecryptedPayload.readAt (ρ := τ) K offset len) := by
  refine Agree.bind (Agree.get fun _ _ hR => hR) fun p q hpq => ?_
  refine Agree.zoom (readUnits_agree K hpq _ _ _) (fun _ _ hR => ?_) fun s t hR x y hxy => ?_
  · exact congrArg DecryptedPayload.reader hR
  · exact congrArg₂ (fun (x : Bytes) (p : DecryptedPayload Bytes) => { p with reader := x }) hxy hR

/-- Nor can a sequential read. -/
theorem read_agree (len : ℕ) : Agree SamePayload Eq (DecryptedPayload.read (ρ := ρ) K len)
    (DecryptedPayload.read (ρ := τ) K len) := by
  refine Agree.bind (Agree.get fun _ _ hR => hR) fun p q hpq => ?_
  have hsize : p.payloadSize = q.payloadSize := congrArg DecryptedPayload.payloadSize hpq
  have hpos : p.position = q.position := congrArg DecryptedPayload.position hpq
  simp only [hsize, hpos]
  refine Agree.ite (fun _ => Agree.pure rfl) fun _ => ?_
  refine Agree.bind_eq (readAt_agree K _ _) fun bs => ?_
  refine Agree.bind_eq (checked_agree _ _) fun position => ?_
  exact Agree.bind_eq (Agree.modify fun _ _ hR => hR.withPosition _) fun _ => Agree.pure rfl

/-- Nor can a seek. -/
theorem seek_agree (pos : SeekFrom) : Agree SamePayload Eq
    (DecryptedPayload.seek (ρ := ρ) pos) (DecryptedPayload.seek (ρ := τ) pos) := by
  refine Agree.bind (Agree.get fun _ _ hR => hR) fun p q hpq => ?_
  have hsize : p.payloadSize = q.payloadSize := congrArg DecryptedPayload.payloadSize hpq
  have hpos : p.position = q.position := congrArg DecryptedPayload.position hpq
  simp only [hsize, hpos]
  refine Agree.ite (fun _ => Agree.throw _) fun _ => ?_
  exact Agree.bind_eq (Agree.modify fun _ _ hR => hR.withPosition _) fun _ => Agree.pure rfl

end Readers

end Luks
