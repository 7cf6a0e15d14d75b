import Luks.Bytes
import Mathlib.Data.List.OfFn

/-!
# The LUKS1 header

The 592 bytes at the front of a LUKS1 container: the cipher, the hash, where the
payload starts, the digest of the master key, and eight keyslots of 48 bytes
each. `Luks.Luks1Header.parse` reads them.
-/

namespace Luks

open Basis

/-- The magic signature. -/
def luksMagic : List.Vector UInt8 6 := ⟨[0x4C, 0x55, 0x4B, 0x53, 0xBA, 0xBE], rfl⟩

/-- Total size of the LUKS1 header. -/
def luks1PhdrLen : ℕ := 592

/-- Number of keyslots in a LUKS1 header. -/
def luksNumKeys : ℕ := 8

/-- Size of a keyslot record. -/
def keyslotLen : ℕ := 48

/-- Size of the master-key digest. -/
def mkDigestLen : ℕ := 20

/-- Size of a salt field. -/
def saltLen : ℕ := 32

/-- The marker of an enabled keyslot. -/
def keyEnabled : UInt32 := 0x00AC71F3

/-- The marker of a disabled keyslot. -/
def keyDisabled : UInt32 := 0x0000DEAD

/-- The sector size. -/
def sector : ℕ := 512

/-- One LUKS1 keyslot. -/
structure Keyslot where
  /-- The marker: `keyEnabled`, `keyDisabled`, or a corrupt one. -/
  active : UInt32
  /-- PBKDF2 iteration count. -/
  iterations : UInt32
  /-- PBKDF2 salt. -/
  salt : List.Vector UInt8 saltLen
  /-- Where the key material starts, in sectors. -/
  keyMaterialOffset : UInt32
  /-- Number of anti-forensic stripes. -/
  stripes : UInt32
  deriving DecidableEq

/-- Whether a keyslot holds usable key material. -/
def Keyslot.isActive (k : Keyslot) : Bool := k.active == keyEnabled

/-- Whether a keyslot is explicitly disabled. -/
def Keyslot.isDisabled (k : Keyslot) : Bool := k.active == keyDisabled

/-- A parsed LUKS1 header. -/
structure Luks1Header where
  /-- Header version. -/
  version : UInt16
  /-- Cipher name. -/
  cipherName : String
  /-- Cipher mode. -/
  cipherMode : String
  /-- The hash of PBKDF2 and of the anti-forensic splitter. -/
  hashSpec : String
  /-- Where the payload starts, in sectors. -/
  payloadOffset : UInt32
  /-- Master-key length. -/
  keyBytes : UInt32
  /-- Master-key digest. -/
  mkDigest : List.Vector UInt8 mkDigestLen
  /-- Salt of the master-key digest. -/
  mkDigestSalt : List.Vector UInt8 saltLen
  /-- Iteration count of the master-key digest. -/
  mkDigestIter : UInt32
  /-- Volume UUID. -/
  uuid : String
  /-- The eight keyslots. -/
  keyslots : Fin luksNumKeys → Keyslot

namespace Luks1Header

/-- The keyslot record at `base`. -/
def parseKeyslotAt (data : Bytes) (base : ℕ) : Keyslot where
  active := beU32 data base
  iterations := beU32 data (base + 4)
  salt := bytesN saltLen data (base + 8)
  keyMaterialOffset := beU32 data (base + 40)
  stripes := beU32 data (base + 44)

/-- Parse a LUKS1 header from the front of `data`. -/
def parse (data : Bytes) : Except LuksError Luks1Header :=
  let magic := bytesN 6 data 0
  -- the magic first: a short buffer without it is no container
  if magic ≠ luksMagic then .error (.notLuks magic)
  else if data.length < luks1PhdrLen then
    .error (.malformedHeader "phdr" luks1PhdrLen data.length)
  else
    let version := beU16 data 6
    if version ≠ 1 then .error (.unsupportedVersion version)
    else .ok {
      version := version
      cipherName := cstr data 8 32
      cipherMode := cstr data 40 32
      hashSpec := cstr data 72 32
      payloadOffset := beU32 data 104
      keyBytes := beU32 data 108
      mkDigest := bytesN mkDigestLen data 112
      mkDigestSalt := bytesN saltLen data 132
      mkDigestIter := beU32 data 164
      uuid := cstr data 168 40
      keyslots := fun i => parseKeyslotAt data (208 + i * keyslotLen) }

/-- The active keyslots, in slot order. -/
def activeKeyslots (h : Luks1Header) : List Keyslot :=
  (List.ofFn h.keyslots).filter Keyslot.isActive

/-- Where the payload starts, in bytes. -/
def payloadByteOffset (h : Luks1Header) : ℕ := h.payloadOffset.toNat * sector

/-- The offset in bytes of 32-bit sectors fits 64 bits. -/
theorem payloadByteOffset_lt (h : Luks1Header) : h.payloadByteOffset < 2 ^ 41 := by
  have hlt := h.payloadOffset.toNat_lt
  rw [payloadByteOffset, sector]
  omega

theorem length_activeKeyslots_le (h : Luks1Header) :
    h.activeKeyslots.length ≤ luksNumKeys := by
  have hle := List.length_filter_le Keyslot.isActive (List.ofFn h.keyslots)
  rwa [List.length_ofFn] at hle

/-- An active keyslot is one of the eight, and is marked enabled. -/
theorem mem_activeKeyslots {h : Luks1Header} {k : Keyslot} :
    k ∈ h.activeKeyslots ↔ (∃ i, h.keyslots i = k) ∧ k.active = keyEnabled := by
  simp [activeKeyslots, List.mem_ofFn, Keyslot.isActive]

end Luks1Header

end Luks
