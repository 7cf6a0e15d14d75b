import Luks.Crypto
import Luks.Reading

/-!
# The payload of an unlocked container

A decrypted view of the data of a container. It reads one data unit at a time:
seek to it, read what there is of it, decrypt the whole unit under the tweak of its
number, and copy out the part that was asked for.

The size of a data unit is at least a sector in every payload the code builds; the
structure carries that, so that dividing by it is always possible.
-/

namespace Luks

open Basis

/-- What is known about an unlocked volume. -/
structure VolumeInfo where
  /-- LUKS version. -/
  version : UInt16
  /-- Cipher name. -/
  cipherName : String
  /-- Cipher mode. -/
  cipherMode : String
  /-- Master-key length. -/
  keyBytes : UInt32
  /-- Encryption sector size. -/
  sectorSize : UInt64
  deriving DecidableEq

/-- A plaintext view of an unlocked payload. -/
structure DecryptedPayload (ρ : Type) where
  /-- The reader of the container. -/
  reader : ρ
  /-- The master key. -/
  masterKey : Bytes
  /-- The cipher mode. -/
  cipherMode : String
  /-- Where the payload starts in the container. -/
  payloadOffset : UInt64
  /-- The size of a data unit. -/
  sectorSize : UInt64
  /-- The tweak of data unit 0. -/
  ivTweak : BitVec 128
  /-- The size of the container. -/
  totalSize : UInt64
  /-- The sequential position. -/
  position : UInt64
  /-- Facts about the volume. -/
  info : VolumeInfo
  /-- A data unit is at least a sector. -/
  sector_le : 512 ≤ sectorSize.toNat

namespace DecryptedPayload

variable {ρ τ : Type}

/-- The same view over another reader. -/
def map (f : ρ → τ) (p : DecryptedPayload ρ) : DecryptedPayload τ where
  reader := f p.reader
  masterKey := p.masterKey
  cipherMode := p.cipherMode
  payloadOffset := p.payloadOffset
  sectorSize := p.sectorSize
  ivTweak := p.ivTweak
  totalSize := p.totalSize
  position := p.position
  info := p.info
  sector_le := p.sector_le

/-- The size of the encrypted payload. -/
def payloadSize (p : DecryptedPayload ρ) : ℕ := p.totalSize.toNat - p.payloadOffset.toNat

/-- The size of a data unit, as a number of bytes. -/
def unitSize (p : DecryptedPayload ρ) : ℕ := p.sectorSize.toNat

theorem unitSize_pos (p : DecryptedPayload ρ) : 0 < p.unitSize :=
  lt_of_lt_of_le (by omega) p.sector_le

theorem payloadSize_lt (p : DecryptedPayload ρ) : p.payloadSize < 2 ^ 64 := by
  have hlt := p.totalSize.toNat_lt
  rw [payloadSize]
  omega

/-- The part of one unit that a read of `len` bytes takes when `done` are there
already. It is not empty. -/
theorem take_pos (p : DecryptedPayload ρ) (pos : ℕ) {len done : ℕ} (h : ¬len ≤ done) :
    0 < min (p.unitSize - pos % p.unitSize) (len - done) := by
  have hmod := Nat.mod_lt pos p.unitSize_pos
  omega

/-- **Induction on the bytes left**: a pass of the loop goes on with fewer of them,
whatever the position it is for. -/
@[elab_as_elim]
theorem loop_induct (p : DecryptedPayload ρ) (len : ℕ) {motive : ℕ → Prop}
    (stop : ∀ done, len ≤ done → motive done)
    (pass : ∀ done, done < len →
      (∀ pos, motive (done + min (p.unitSize - pos % p.unitSize) (len - done))) → motive done)
    (done : ℕ) : motive done := by
  induction hm : len - done using Nat.strong_induction_on generalizing done with
  | _ m ih =>
    rcases Nat.lt_or_ge done len with hlt | hge
    · refine pass done hlt fun pos => ?_
      have htake := p.take_pos pos (Nat.not_le_of_lt hlt)
      exact ih _ (by omega) _ rfl
    · exact stop done hge

/-- Where the data unit of a position stands in the container. -/
def unitAddress (p : DecryptedPayload ρ) (pos : ℕ) : ℕ :=
  p.payloadOffset.toNat + pos / p.unitSize * p.unitSize

section Programs

variable [ReadSeek ρ] (K : Crates)

/-- The bytes that a read of `len` bytes at payload-relative `offset` puts in the
buffer from `done` on. -/
def readUnits (p : DecryptedPayload τ) (offset len done : ℕ) : Exec ρ Bytes :=
  if _h : len ≤ done then return []
  else do
    let pos ← addU64 offset done
    let unit := pos / p.unitSize
    let within := pos % p.unitSize
    let physical ← addU64 p.payloadOffset.toNat (← mulU64 unit p.unitSize)
    let _ ← vecZeroed p.unitSize
    let ct ← readAvailableAt (UInt64.ofNat physical) p.unitSize
    Prog.emit (.unit physical)
    let tweak ← addU128 p.ivTweak.toNat (← mulU128 unit (tweakStep p.unitSize))
    let plain ← xtsDecryptArea K p.cipherMode p.masterKey ct.2 p.unitSize tweak
    -- the part of the unit that the read asks for: less than all of it at either end
    let take := min (p.unitSize - within) (len - done)
    let rest ← readUnits p offset len (done + take)
    return window plain within take ++ rest
termination_by len - done
decreasing_by
  have := p.take_pos pos _h
  omega

/-- One pass of the loop: the data unit at a position, read and decrypted. -/
def readUnit (p : DecryptedPayload τ) (pos : ℕ) : Exec ρ Bytes := do
  let physical ← addU64 p.payloadOffset.toNat (← mulU64 (pos / p.unitSize) p.unitSize)
  let _ ← vecZeroed p.unitSize
  let ct ← readAvailableAt (UInt64.ofNat physical) p.unitSize
  Prog.emit (.unit physical)
  let tweak ← addU128 p.ivTweak.toNat (← mulU128 (pos / p.unitSize) (tweakStep p.unitSize))
  xtsDecryptArea K p.cipherMode p.masterKey ct.2 p.unitSize tweak

/-- The loop goes on with the unit it stands in. -/
theorem readUnits_of_lt (p : DecryptedPayload τ) {offset len done : ℕ} (h : done < len) :
    p.readUnits (ρ := ρ) K offset len done = do
      let pos ← addU64 offset done
      let plain ← p.readUnit K pos
      let take := min (p.unitSize - pos % p.unitSize) (len - done)
      let rest ← p.readUnits K offset len (done + take)
      return window plain (pos % p.unitSize) take ++ rest := by
  rw [readUnits, dif_neg (Nat.not_le_of_lt h)]
  simp only [readUnit, bind_assoc]

/-- Read `len` decrypted bytes at payload-relative `offset`. -/
def readAt (offset : UInt64) (len : ℕ) : Exec (DecryptedPayload ρ) Bytes := do
  let p ← Prog.get id
  Prog.zoom reader (fun r p => { p with reader := r }) (readUnits K p offset.toNat len 0)

/-- Read on from the position, at most `len` bytes. The failure of the read is
reported as it is. -/
def read (len : ℕ) : Exec (DecryptedPayload ρ) Bytes := do
  let p ← Prog.get id
  if p.payloadSize ≤ p.position.toNat then return []
  else
    let n := min len (p.payloadSize - p.position.toNat)
    -- the position moves only if the read succeeds
    let bs ← readAt K p.position n
    let position ← addU64 p.position.toNat n
    Prog.modify fun p => { p with position := UInt64.ofNat position }
    return bs

/-- Move the position. A target that is not negative is cut to 64 bits. -/
def seek (pos : SeekFrom) : Exec (DecryptedPayload ρ) UInt64 := do
  let p ← Prog.get id
  let new : ℤ := match pos with
    | .start o => o.toNat
    | .fromEnd o => p.payloadSize + o.toInt
    | .current o => p.position.toNat + o.toInt
  if new < 0 then Prog.throw (.io (.invalidInput "seek before start"))
  else
    Prog.modify fun p => { p with position := UInt64.ofNat new.toNat }
    return UInt64.ofNat new.toNat

end Programs

end DecryptedPayload

/-! ### The same over the image -/

namespace Spec

variable (K : Crates)

/-- Data unit `u`, decrypted. -/
def decryptedUnit (p : DecryptedPayload Bytes) (u : ℕ) : Except LuksError Bytes :=
  xtsDecryptArea K p.cipherMode p.masterKey
    (zeroFill (window p.reader (p.payloadOffset.toNat + u * p.unitSize) p.unitSize) p.unitSize)
    p.unitSize (p.ivTweak.toNat + u * tweakStep p.unitSize)

/-- The bytes that a read of `len` bytes at payload-relative `offset` puts in the
buffer from `done` on. -/
def readUnits (p : DecryptedPayload Bytes) (offset len done : ℕ) : Except LuksError Bytes :=
  if _h : len ≤ done then .ok []
  else do
    let plain ← decryptedUnit K p ((offset + done) / p.unitSize)
    let take := min (p.unitSize - (offset + done) % p.unitSize) (len - done)
    let rest ← readUnits p offset len (done + take)
    return window plain ((offset + done) % p.unitSize) take ++ rest
termination_by len - done
decreasing_by
  have := p.take_pos (offset + done) _h
  omega

end Spec

/-! ### The code follows it -/

section Following

variable {ρ τ : Type} [ImageReader ρ] (K : Crates) {img : Bytes} {G : LuksError → Prop}
  {E : Event → Prop}

/-- **A pass of the loop follows the image**, when the unit can be addressed and has a
tweak: it reads the unit, or what there is of it, and decrypts it. -/
theorem readUnit_follows (p : DecryptedPayload τ) {pos : ℕ} (hfit : p.unitAddress pos < 2 ^ 64)
    (hss : p.unitSize ≤ isizeMax)
    (htweak : p.ivTweak.toNat + pos / p.unitSize * tweakStep p.unitSize < 2 ^ 128)
    (hAlloc : E (.alloc p.unitSize)) (hUnit : E (.unit (p.unitAddress pos)))
    (hSector : E (.sector p.unitSize
      (toLe 16 (p.ivTweak.toNat + pos / p.unitSize * tweakStep p.unitSize)))) :
    Triple (Presents img) (p.readUnit (ρ := ρ) K pos)
      (Follows (Presents img) G
        (Spec.decryptedUnit K (p.map fun _ => img) (pos / p.unitSize))) E := by
  rw [DecryptedPayload.unitAddress] at hfit hUnit
  rw [DecryptedPayload.readUnit, mulU64_of_lt (by omega), pure_bind, addU64_of_lt hfit, pure_bind]
  refine Triple.bind_ok_follows (vecZeroed_follows hss hAlloc) ?_
  refine Triple.bind_ok_follows (readAvailableAt_follows _ _) ?_
  refine Triple.bind_ok_follows (Triple.emit_follows hUnit) ?_
  rw [mulU128_of_lt (by omega), pure_bind, addU128_of_lt htweak, pure_bind,
    UInt64.toNat_ofNat_of_lt' hfit]
  -- the buffer is one unit, whether or not the image goes so far
  refine xtsDecryptArea_follows K _ _ (k := 1) ?_ ?_ ?_ ?_
  · exact le_trans (by omega) p.sector_le
  · rw [length_zeroFill_window, Nat.one_mul]
  · intro u hu
    obtain rfl : u = 0 := by omega
    omega
  · intro u hu
    obtain rfl : u = 0 := by omega
    rw [Nat.zero_mul, Nat.add_zero]
    exact hSector

/-- **Reading follows the image**, when every unit the range touches can be
addressed and has a tweak: each pass of the loop decrypts one unit. -/
theorem readUnits_follows_of_lt (p : DecryptedPayload τ) {offset len : ℕ}
    (hfit : ∀ u, u * p.unitSize < offset + len → p.payloadOffset.toNat + u * p.unitSize < 2 ^ 64)
    (hss : p.unitSize ≤ isizeMax)
    (htweak : ∀ u, u * p.unitSize < offset + len →
      p.ivTweak.toNat + u * tweakStep p.unitSize < 2 ^ 128)
    (hAlloc : E (.alloc p.unitSize))
    (hUnit : ∀ u, u * p.unitSize < offset + len →
      E (.unit (p.payloadOffset.toNat + u * p.unitSize)))
    (hSector : ∀ u, u * p.unitSize < offset + len →
      E (.sector p.unitSize (toLe 16 (p.ivTweak.toNat + u * tweakStep p.unitSize))))
    (done : ℕ) (hpos : done < len → offset + done < 2 ^ 64) :
    Triple (Presents img) (p.readUnits (ρ := ρ) K offset len done)
      (Follows (Presents img) G
        (Spec.readUnits K (p.map fun _ => img) offset len done)) E := by
  induction done using p.loop_induct len with
  | stop done hdone =>
    rw [DecryptedPayload.readUnits, Spec.readUnits, dif_pos hdone, dif_pos hdone]
    exact Triple.pure_follows
  | pass done hdone ih =>
    have hunit : (offset + done) / p.unitSize * p.unitSize < offset + len :=
      lt_of_le_of_lt (Nat.div_mul_le_self _ _) (by omega)
    rw [p.readUnits_of_lt K hdone, Spec.readUnits, dif_neg (Nat.not_le_of_lt hdone),
      addU64_of_lt (hpos hdone), pure_bind]
    refine Triple.bind_follows (readUnit_follows K p (hfit _ hunit) hss (htweak _ hunit) hAlloc
      (hUnit _ hunit) (hSector _ hunit)) fun plain _ => ?_
    refine Triple.bind_follows (ih _ fun hless => ?_) fun rest _ => Triple.pure_follows
    -- the next position, if there is one, is the front of the next unit
    have hnext : offset + (done + min (p.unitSize - (offset + done) % p.unitSize) (len - done)) =
        ((offset + done) / p.unitSize + 1) * p.unitSize := by
      have hdiv := Nat.div_add_mod' (offset + done) p.unitSize
      have hmod := Nat.mod_lt (offset + done) p.unitSize_pos
      rw [Nat.succ_mul]
      omega
    have hlt := hfit ((offset + done) / p.unitSize + 1) (by omega)
    omega

/-- Reading below the last address follows the image. -/
theorem readUnits_follows (p : DecryptedPayload τ) {offset len : ℕ}
    (hfit : p.payloadOffset.toNat + offset + len < 2 ^ 64) (hss : p.unitSize ≤ isizeMax)
    (htweak : ∀ u, u * p.unitSize < offset + len →
      p.ivTweak.toNat + u * tweakStep p.unitSize < 2 ^ 128)
    (hAlloc : E (.alloc p.unitSize))
    (hUnit : ∀ u, u * p.unitSize < offset + len →
      E (.unit (p.payloadOffset.toNat + u * p.unitSize)))
    (hSector : ∀ u, u * p.unitSize < offset + len →
      E (.sector p.unitSize (toLe 16 (p.ivTweak.toNat + u * tweakStep p.unitSize))))
    (done : ℕ) :
    Triple (Presents img) (p.readUnits (ρ := ρ) K offset len done)
      (Follows (Presents img) G
        (Spec.readUnits K (p.map fun _ => img) offset len done)) E :=
  readUnits_follows_of_lt K p (fun u hu => by omega) hss htweak hAlloc hUnit hSector done
    fun hdone => by omega

/-- **What a read leaves**: the buffer of a unit, where the unit stands, and how it was
decrypted. -/
theorem leaves_readUnits {ρ : Type} [ReadSeek ρ] (p : DecryptedPayload τ) {offset len : ℕ}
    (hAlloc : E (.alloc p.unitSize))
    (hUnit : ∀ done < len, E (.unit (p.unitAddress (offset + done))))
    (hPassed : ∀ n, E (.passed n)) (hSector : ∀ n tweak, E (.sector n tweak)) (done : ℕ) :
    Leaves E (p.readUnits (ρ := ρ) K offset len done) := by
  induction done using p.loop_induct len with
  | stop done hdone =>
    rw [DecryptedPayload.readUnits, dif_pos hdone]
    exact Leaves.pure _
  | pass done hdone ih =>
    rw [p.readUnits_of_lt K hdone]
    refine leaves_checked_bind fun _ => Leaves.bind ?_ fun plain => ?_
    · rw [DecryptedPayload.readUnit]
      refine leaves_checked_bind fun _ => leaves_checked_bind fun _ => ?_
      refine (leaves_vecZeroed hAlloc).bind fun _ => (leaves_readAvailableAt _ _).bind fun ct => ?_
      refine (Leaves.emit (hUnit done hdone)).bind fun _ => ?_
      refine (leaves_checked _ _).bind fun _ => (leaves_checked _ _).bind fun tweak => ?_
      exact leaves_xtsDecryptArea K hPassed hSector _ _ _ _ _
    · exact (ih _).bind fun rest => Leaves.pure _

end Following

end Luks
