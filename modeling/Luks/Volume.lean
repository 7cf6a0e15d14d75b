import Luks.Header2
import Luks.Payload

/-!
# Unlocking a container

The two key-recovery loops and the entry points above them. Both versions of the
format are opened the same way: parse the header, and for each keyslot derive a
key from the passphrase, read and decrypt the key material, merge it to a candidate
master key, and verify the candidate against a digest. The first candidate that
verifies is the master key.

All of it runs against one deadline. Before every derivation what is left of the
total is read off the clock again (`Luks.UnlockDeadline.remaining`).

For the statements, a recovery also says which keyslot, and in LUKS2 which digest,
accepted the key it returns (`Luks.Recovered`).
-/

namespace Luks

open Basis

/-- Split an encryption string at its first hyphen, into cipher name and mode. -/
def splitEncryption (enc : String) : String × String :=
  match enc.toList.span (· ≠ '-') with
  | (name, _ :: mode) => (String.ofList name, String.ofList mode)
  | (_, []) => (enc, "")

/-! ### The deadline -/

/-- The total time of an unlock, from when it started. -/
structure UnlockDeadline where
  /-- The instant it started. -/
  started : ℕ
  /-- The time it may take. -/
  total : Duration

/-- `Duration::checked_sub`. -/
def checkedSub (a b : Duration) : Option Duration := if b ≤ a then some (a - b) else none

section Programs

variable {ρ : Type} (K : Crates) (clk : Clock)

/-- A deadline that starts now. -/
def UnlockDeadline.new (total : Duration) : Exec (World ρ) UnlockDeadline := do
  let started ← instantNow clk
  return { started := started, total := total }

/-- The time left, but no more than a single derivation may take; refused when
there is none. -/
def UnlockDeadline.remaining (d : UnlockDeadline) (slotsTried : ℕ) :
    Exec (World ρ) Duration := do
  let now ← instantNow clk
  match (checkedSub d.total (now - d.started)).filter (0 < ·) with
  -- both ceilings hold: the total does not widen that of one derivation
  | some left => return min left derivationBudget
  | none => Prog.throw (.unlockBudgetExceeded slotsTried d.total.asSecs)

/-! ### Recovering the master key -/

/-- What accepted a master key. -/
inductive Accepted where
  /-- A LUKS1 keyslot, under the digest of the header. -/
  | luks1 (slot : Keyslot)
  /-- A LUKS2 keyslot, under a digest that lists it. -/
  | luks2 (slot : Luks2Keyslot) (digest : Luks2Digest)

/-- A recovered master key, and what accepted it. -/
structure Recovered where
  /-- The master key. -/
  key : Bytes
  /-- The keyslot and digest, for the statements only. -/
  acceptedBy : Accepted

variable [ReadSeek ρ]

/-- Read the key material of a keyslot, decrypt it and merge it to a candidate;
nothing if the container ends before the material does. -/
def openMaterial (cipherMode hashSpec : String) (slotKey : Bytes) (offset : UInt64)
    (blockSize stripes : ℕ) : Exec (World ρ) (Option Bytes) := do
  let len ← materialLen blockSize stripes
  let _ ← vecZeroed len
  let material ← onReader (readAvailableAt offset len)
  -- `continue`: the container ends before the key material does
  if material.1 < len then return none
  else
    Prog.emit (.material offset.toNat len)
    let plain ← xtsDecryptArea K cipherMode slotKey material.2 512 0
    let candidate ← merge K hashSpec plain blockSize stripes
    return some candidate

/-- Derive from a candidate as many bytes as a digest has, and compare. -/
def verify (deadline : UnlockDeadline) (tried : ℕ) (hashSpec : String) (candidate salt : Bytes)
    (iterations : UInt32) (expected : Bytes) : Exec (World ρ) Bool := do
  let left ← deadline.remaining clk tried
  let digest ← deriveKeyWithin K clk hashSpec candidate salt iterations expected.length left
  return digest = expected

/-- Try a LUKS1 keyslot, after `tried` others. -/
def tryKeyslot1 (header : Luks1Header) (passphrase : Bytes) (keyBytes : ℕ)
    (deadline : UnlockDeadline) (slot : Keyslot) (tried : ℕ) :
    Exec (World ρ) (Option Recovered) := do
  let left ← deadline.remaining clk tried
  let slotKey ← deriveKeyWithin K clk header.hashSpec passphrase slot.salt.toList
    slot.iterations keyBytes left
  let offset := slot.keyMaterialOffset.toUInt64 * UInt64.ofNat sector
  match ← openMaterial K header.cipherMode header.hashSpec slotKey offset keyBytes
    slot.stripes.toNat with
  | none => return none
  | some candidate =>
      -- another digest: the loop goes on to the next keyslot
      if ← verify K clk deadline tried header.hashSpec candidate header.mkDigestSalt.toList
        header.mkDigestIter header.mkDigest.toList then
        return some ⟨candidate, .luks1 slot⟩
      else return none

/-- LUKS1: try each active keyslot. -/
def recoverMasterKey1 (header : Luks1Header) (passphrase : Bytes) (keyBytes : ℕ)
    (deadline : UnlockDeadline) : Exec (World ρ) Recovered := do
  match ← header.activeKeyslots.zipIdx.findSomeM? fun (slot, tried) =>
    tryKeyslot1 K clk header passphrase keyBytes deadline slot tried with
  | some found => return found
  | none => Prog.throw .authenticationFailed

/-- Derive the key of a LUKS2 keyslot, with whichever function it names. -/
def deriveSlotKey (passphrase : Bytes) (deadline : UnlockDeadline) (slot : Luks2Keyslot)
    (tried : ℕ) : Exec (World ρ) Bytes :=
  match slot.kdf with
  | .argon2 kind time memory cpus salt => do
      let left ← deadline.remaining clk tried
      deriveKeyArgon2Within K clk ⟨kind, time, memory, cpus, salt⟩ passphrase
        slot.keySize.toNat left
  | .pbkdf2 hash iterations salt => do
      let left ← deadline.remaining clk tried
      deriveKeyWithin K clk hash passphrase salt iterations slot.keySize.toNat left

/-- Verify the candidate of a LUKS2 keyslot against a digest, if the digest is one
that lists it. -/
def tryDigest (deadline : UnlockDeadline) (slot : Luks2Keyslot) (tried : ℕ) (candidate : Bytes)
    (dig : Luks2Digest) : Exec (World ρ) (Option Recovered) :=
  if dig.kind = "pbkdf2" ∧ slot.id ∈ dig.keyslots then do
    if ← verify K clk deadline tried dig.hash candidate dig.salt dig.iterations dig.digest then
      return some ⟨candidate, .luks2 slot dig⟩
    -- a digest of another keyslot, or of another type
    else return none
  else return none

/-- Try a LUKS2 keyslot, after `tried` others. -/
def tryKeyslot2 (header : Luks2Header) (passphrase : Bytes) (deadline : UnlockDeadline)
    (slot : Luks2Keyslot) (tried : ℕ) : Exec (World ρ) (Option Recovered) := do
  let slotKey ← deriveSlotKey K clk passphrase deadline slot tried
  match ← openMaterial K (splitEncryption slot.areaEncryption).2 slot.afHash slotKey
    slot.areaOffset slot.keySize.toNat slot.afStripes.toNat with
  | none => return none
  | some candidate =>
      header.digests.findSomeM? (tryDigest K clk deadline slot tried candidate)

/-- LUKS2: try each keyslot. -/
def recoverMasterKey2 (header : Luks2Header) (passphrase : Bytes) (deadline : UnlockDeadline) :
    Exec (World ρ) Recovered := do
  match ← header.keyslots.zipIdx.findSomeM? fun (slot, tried) =>
    tryKeyslot2 K clk header passphrase deadline slot tried with
  | some found => return found
  | none => Prog.throw .authenticationFailed

end Programs

/-! ### Opening the volume -/

/-- The payload a LUKS1 header describes. -/
def Luks1Header.payload {ρ : Type} (h : Luks1Header) (reader : ρ) (key : Bytes)
    (totalSize : ℕ) : DecryptedPayload ρ where
  reader := reader
  masterKey := key
  cipherMode := h.cipherMode
  payloadOffset := UInt64.ofNat h.payloadByteOffset
  sectorSize := UInt64.ofNat sector
  ivTweak := 0
  totalSize := UInt64.ofNat totalSize
  position := 0
  info := {
    version := 1
    cipherName := h.cipherName
    cipherMode := h.cipherMode
    keyBytes := h.keyBytes
    sectorSize := UInt64.ofNat sector }
  sector_le := by decide

theorem toNat_max_sector (s : UInt64) : (max s 512).toNat = max s.toNat 512 := by
  change (if s ≤ 512 then 512 else s : UInt64).toNat = _
  split_ifs with h
  · have hle : s.toNat ≤ 512 := UInt64.le_iff_toNat_le.mp h
    change 512 = _
    omega
  · have hle : ¬s.toNat ≤ 512 := fun h' => h (UInt64.le_iff_toNat_le.mpr h')
    omega

/-- The payload a LUKS2 segment describes. -/
def Luks2Segment.payload {ρ : Type} (s : Luks2Segment) (reader : ρ) (key : Bytes)
    (totalSize : ℕ) : DecryptedPayload ρ where
  reader := reader
  masterKey := key
  cipherMode := (splitEncryption s.encryption).2
  payloadOffset := s.offset
  sectorSize := max s.sectorSize 512
  ivTweak := s.ivTweak
  totalSize := UInt64.ofNat totalSize
  position := 0
  info := {
    version := 2
    cipherName := (splitEncryption s.encryption).1
    cipherMode := (splitEncryption s.encryption).2
    keyBytes := UInt32.ofNat key.length
    sectorSize := max s.sectorSize 512 }
  sector_le := by
    rw [toNat_max_sector]
    omega

/-- An unlocked volume, and what accepted its key. -/
structure Unlocked (ρ : Type) where
  /-- The volume. -/
  payload : DecryptedPayload ρ
  /-- The keyslot and digest, for the statements only. -/
  acceptedBy : Accepted

/-- The same volume over another reader. -/
def Unlocked.map {ρ τ : Type} (f : ρ → τ) (u : Unlocked ρ) : Unlocked τ :=
  ⟨u.payload.map f, u.acceptedBy⟩

/-- What a volume has of the segment it was unlocked from. -/
theorem Unlocked.segment_of_map_eq {ρ τ : Type} {f : ρ → τ} {u : Unlocked ρ} {s : Luks2Segment}
    {reader : τ} {key : Bytes} {totalSize : ℕ} {acceptedBy : Accepted}
    (h : u.map f = ⟨s.payload reader key totalSize, acceptedBy⟩) :
    u.payload.cipherMode = (splitEncryption s.encryption).2 ∧
      u.payload.payloadOffset = s.offset ∧ u.payload.unitSize = (max s.sectorSize 512).toNat ∧
        u.payload.ivTweak = s.ivTweak := by
  have hpayload : u.payload.map f = s.payload reader key totalSize := congrArg Unlocked.payload h
  exact ⟨congrArg DecryptedPayload.cipherMode hpayload,
    congrArg DecryptedPayload.payloadOffset hpayload,
    congrArg DecryptedPayload.unitSize hpayload, congrArg DecryptedPayload.ivTweak hpayload⟩

/-- What the vectors take that a header was collected in: its keyslots, its segments, the names
in each digest, and the digests. -/
def Luks2Header.vecs (K : Crates) (h : Luks2Header) : List ℕ :=
  [K.elementSize .keyslot * vecCapacity h.keyslots.length,
    K.elementSize .segment * vecCapacity h.segments.length] ++
  (h.digests.map fun dig => K.elementSize .name * vecCapacity dig.keyslots.length) ++
  [K.elementSize .digest * vecCapacity h.digests.length]

section Programs

variable {ρ : Type} [ReadSeek ρ] (K : Crates) (clk : Clock)

/-- Unlock a LUKS1 container before a deadline. -/
def unlock1Inner (passphrase : Bytes) (deadline : UnlockDeadline) :
    Exec (World ρ) (Unlocked ρ) := do
  let _ ← vecZeroed luks1PhdrLen
  let hdrBuf ← onReader (readFillAt 0 luks1PhdrLen)
  let header ← Prog.ofExcept (Luks1Header.parse hdrBuf)
  if header.activeKeyslots.isEmpty then Prog.throw .noActiveKeyslot
  else
    let found ← recoverMasterKey1 K clk header passphrase header.keyBytes.toNat deadline
    -- the payload goes up to the end of the container
    let totalSize ← onReader (seekTo (.fromEnd 0))
    let reader ← Prog.get World.reader
    return ⟨header.payload reader found.key totalSize, found.acceptedBy⟩

/-- Unlock a LUKS1 container within a total budget. -/
def unlock1WithPassphraseWithin (passphrase : Bytes) (budget : Duration) :
    Exec (World ρ) (Unlocked ρ) := do
  let deadline ← UnlockDeadline.new clk budget
  unlock1Inner K clk passphrase deadline

/-- Unlock a LUKS1 container. -/
def unlock1WithPassphrase (passphrase : Bytes) : Exec (World ρ) (Unlocked ρ) :=
  unlock1WithPassphraseWithin K clk passphrase unlockBudget

/-- Unlock a LUKS2 container before a deadline. -/
def unlock2Inner (passphrase : Bytes) (deadline : UnlockDeadline) :
    Exec (World ρ) (Unlocked ρ) := do
  let _ ← vecZeroed luks2BinHdrLen
  let bin ← onReader (readFillAt 0 luks2BinHdrLen)
  -- the header says how long it is, and the buffer for it is as long
  let hdrSize := max (beU64 bin 8).toNat luks2BinHdrLen
  let _ ← vecZeroed hdrSize
  let full ← onReader (readAvailableAt 0 hdrSize)
  let header ← Prog.ofExcept (Luks2Header.parse K full.2)
  vecsCollected (header.vecs K)
  match header.cryptSegment with
  | none => Prog.throw .noActiveKeyslot
  | some segment =>
      if header.keyslots.isEmpty then Prog.throw .noActiveKeyslot
      else
        let found ← recoverMasterKey2 K clk header passphrase deadline
        let totalSize ← onReader (seekTo (.fromEnd 0))
        let reader ← Prog.get World.reader
        return ⟨segment.payload reader found.key totalSize, found.acceptedBy⟩

/-- Unlock a LUKS2 container within a total budget. -/
def unlock2WithPassphraseWithin (passphrase : Bytes) (budget : Duration) :
    Exec (World ρ) (Unlocked ρ) := do
  let deadline ← UnlockDeadline.new clk budget
  unlock2Inner K clk passphrase deadline

/-- Unlock a LUKS2 container. -/
def unlock2WithPassphrase (passphrase : Bytes) : Exec (World ρ) (Unlocked ρ) :=
  unlock2WithPassphraseWithin K clk passphrase unlockBudget

/-- Unlock a container of the version its header names, within a total budget. -/
def unlockWithPassphraseWithin (passphrase : Bytes) (budget : Duration) :
    Exec (World ρ) (Unlocked ρ) := do
  let ver ← onReader (readFillAt 0 8)
  let _ ← onReader (seekTo (.start 0))
  if beU16 ver 6 = 1 then unlock1WithPassphraseWithin K clk passphrase budget
  else if beU16 ver 6 = 2 then unlock2WithPassphraseWithin K clk passphrase budget
  -- neither version: the magic tells what the error is
  else if luksMagic.toList.isPrefixOf ver then
    Prog.throw (.unsupportedVersion (beU16 ver 6))
  else Prog.throw (.notLuks (bytesN 6 ver 0))

/-- Unlock a container of the version its header names. -/
def unlockWithPassphrase (passphrase : Bytes) : Exec (World ρ) (Unlocked ρ) :=
  unlockWithPassphraseWithin K clk passphrase unlockBudget

end Programs

end Luks
