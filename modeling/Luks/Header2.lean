import Luks.Crates
import Luks.Header

/-!
# The LUKS2 header

A LUKS2 container starts with a small binary header, of which the magic, the
version and the size of the whole header are read, and a JSON document that
describes keyslots, data segments and digests. `Luks.Luks2Header.parse` reads both.

Numbers in the document may be written as numbers or as decimal strings, and a
field of either kind that cannot be read as an unsigned 64-bit integer counts as
zero (`Luks.asU64`); a base64 field that cannot be read counts as empty
(`Luks.b64`).
-/

namespace Luks

open Basis

/-- Size of the LUKS2 binary header before the JSON area. -/
def luks2BinHdrLen : ℕ := 4096

/-- A keyslot's key-derivation function. -/
inductive Luks2Kdf where
  /-- Argon2: variant, time cost, memory cost in KiB, lanes, salt. -/
  | argon2 (kind : String) (time memory cpus : UInt32) (salt : Bytes)
  /-- PBKDF2: hash, iteration count, salt. -/
  | pbkdf2 (hash : String) (iterations : UInt32) (salt : Bytes)
  deriving DecidableEq

/-- A LUKS2 keyslot. -/
structure Luks2Keyslot where
  /-- The key of the slot in the document. -/
  id : String
  /-- Master-key size in bytes. -/
  keySize : UInt64
  /-- Anti-forensic stripe count. -/
  afStripes : UInt32
  /-- Anti-forensic hash. -/
  afHash : String
  /-- Where the key-material area starts. -/
  areaOffset : UInt64
  /-- Length of the key-material area. -/
  areaSize : UInt64
  /-- Cipher and mode of the area. -/
  areaEncryption : String
  /-- The key-derivation function. -/
  kdf : Luks2Kdf
  deriving DecidableEq

/-- A LUKS2 data segment. -/
structure Luks2Segment where
  /-- The key of the segment in the document. -/
  id : String
  /-- Where the encrypted data starts. -/
  offset : UInt64
  /-- Cipher and mode. -/
  encryption : String
  /-- Encryption sector size. -/
  sectorSize : UInt64
  /-- IV tweak base, added to the sector number. -/
  ivTweak : BitVec 128
  deriving DecidableEq

/-- A LUKS2 digest: what verifies a master key. -/
structure Luks2Digest where
  /-- Digest type. -/
  kind : String
  /-- Hash. -/
  hash : String
  /-- PBKDF2 iteration count. -/
  iterations : UInt32
  /-- Salt. -/
  salt : Bytes
  /-- The expected bytes. -/
  digest : Bytes
  /-- The keyslots this digest verifies. -/
  keyslots : List String
  deriving DecidableEq

/-- A parsed LUKS2 header. -/
structure Luks2Header where
  /-- Version. -/
  version : UInt16
  /-- Size of the binary header and the JSON area. -/
  hdrSize : UInt64
  /-- Keyslots. -/
  keyslots : List Luks2Keyslot
  /-- Data segments. -/
  segments : List Luks2Segment
  /-- Digests. -/
  digests : List Luks2Digest

/-- A value that may be written as a string or a number, zero if it is neither. -/
def asU64 : Value → UInt64
  | .string s => (parseU64 s).getD 0
  | .number (.posInt n) => n
  -- a float, a negative number, or no scalar at all
  | _ => 0

variable (K : Crates)

/-- A base64 field, empty if it is not one. -/
def b64 (v : Value) : Bytes := (v.asStr.bind K.base64Decode).getD []

/-- The key-derivation function of a keyslot object. -/
def parseKdf (v : Value) : Option Luks2Kdf := do
  let kind ← (v.get "type").bind Value.asStr
  if kind = "pbkdf2" then
    return .pbkdf2 (((v.get "hash").bind Value.asStr).getD "sha256")
      (asU64 (← v.get "iterations")).toUInt32 (b64 K (← v.get "salt"))
  else if kind = "argon2i" ∨ kind = "argon2id" then
    return .argon2 kind (asU64 (← v.get "time")).toUInt32 (asU64 (← v.get "memory")).toUInt32
      (asU64 (← v.get "cpus")).toUInt32 (b64 K (← v.get "salt"))
  else none

/-- A keyslot object; nothing if a field it needs is missing. -/
def parseKeyslot (id : String) (v : Value) : Option Luks2Keyslot := do
  let af ← v.get "af"
  let area ← v.get "area"
  let kdf ← parseKdf K (← v.get "kdf")
  return {
    id := id
    keySize := asU64 (← v.get "key_size")
    afStripes := (asU64 (← af.get "stripes")).toUInt32
    afHash := ((af.get "hash").bind Value.asStr).getD "sha256"
    areaOffset := asU64 (← area.get "offset")
    areaSize := asU64 (← area.get "size")
    areaEncryption := ← (area.get "encryption").bind Value.asStr
    kdf := kdf }

/-- A segment object; nothing if a field it needs is missing. -/
def parseSegment (id : String) (v : Value) : Option Luks2Segment := do
  return {
    id := id
    offset := asU64 (← v.get "offset")
    encryption := ← (v.get "encryption").bind Value.asStr
    sectorSize := asU64 (← v.get "sector_size")
    ivTweak := (asU64 ((v.get "iv_tweak").getD .null)).toBitVec.setWidth 128 }

/-- A digest object; nothing if a field it needs is missing. -/
def parseDigest (v : Value) : Option Luks2Digest := do
  return {
    kind := ← (v.get "type").bind Value.asStr
    hash := ((v.get "hash").bind Value.asStr).getD "sha256"
    iterations := (asU64 ((v.get "iterations").getD .null)).toUInt32
    salt := b64 K (← v.get "salt")
    digest := b64 K (← v.get "digest")
    keyslots := (((v.get "keyslots").bind Value.asArray).getD []).filterMap Value.asStr }

/-- The entries of the object under `key`, none if there is no such object. -/
def Value.entries (root : Value) (key : String) : List (String × Value) :=
  ((root.get key).bind Value.asObject).getD []

namespace Luks2Header

/-- The header a document describes. -/
def ofDocument (version : UInt16) (hdrSize : UInt64) (root : Value) : Luks2Header where
  version := version
  hdrSize := hdrSize
  keyslots := (root.entries "keyslots").filterMap fun e => parseKeyslot K e.1 e.2
  segments := (root.entries "segments").filterMap fun e => parseSegment e.1 e.2
  digests := (root.entries "digests").filterMap fun e => parseDigest K e.2

/-- The JSON text in a header buffer: from the end of the binary header up to the
declared size or the end of the buffer, and in there up to the first NUL. -/
def jsonArea (data : Bytes) : Option Bytes :=
  slice? data luks2BinHdrLen (min (beU64 data 8).toNat data.length)

/-- Parse a LUKS2 header from a buffer that covers the binary header and the JSON
area. -/
def parse (data : Bytes) : Except LuksError Luks2Header :=
  let magic := bytesN 6 data 0
  if magic ≠ luksMagic then .error (.notLuks magic)
  else
    let version := beU16 data 6
    if version ≠ 2 then .error (.unsupportedVersion version)
    else match jsonArea data with
      | none => .error (.malformedHeader "json area" luks2BinHdrLen data.length)
      | some area =>
          -- the text is padded with NULs
          let text := area.takeWhile (· ≠ 0)
          match K.fromSlice text with
          | none => .error (.malformedHeader "json parse" text.length area.length)
          | some root => .ok (ofDocument K version (beU64 data 8) root)

/-- The first data segment that is encrypted. -/
def cryptSegment (h : Luks2Header) : Option Luks2Segment :=
  h.segments.find? fun s => !s.encryption.isEmpty

end Luks2Header

end Luks
