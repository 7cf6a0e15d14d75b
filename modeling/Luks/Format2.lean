import Luks.Basis.Base64
import Luks.Formatter
import Luks.HeaderArea
import Luks.Stored

/-!
# A formatted LUKS2 container

The container a formatter makes (`Luks.Format2`): a binary header, a JSON document
that describes everything, the key material of each keyslot, and a payload encrypted
unit by unit. The document is written in any spelling (`Luks.Spelling`): a number may
stand as a number or as a decimal string, field by field.

### The round trip

* the document describes the keyslots, the segment and the digest that were put in
  (`Luks.Format2.ofDocument_document`);
* every keyslot holds the master key, under its passphrase, and some candidate under
  any other; so an unlock with one of the passphrases finds the master key, and the
  payload it returns shows the plaintext (`Luks.format2_roundtrip`).
-/

namespace Luks

open Basis

/-! ### The document -/

/-- How a formatter spells out a document: a number as a number or as a decimal
string, bytes in base64. -/
structure Spelling (K : Crates) where
  /-- The number `n` in the field `key`. -/
  number : String → ℕ → Value
  /-- Bytes as text. -/
  base64 : Bytes → String
  /-- A number is written in one of the two ways. -/
  number_eq : ∀ key n, number key n = .number (.posInt (UInt64.ofNat n)) ∨
    number key n = .string n.repr
  /-- Bytes are read back from their text. -/
  base64Decode : ∀ bs, K.base64Decode (base64 bs) = some bs

namespace Spelling

variable {K : Crates} (S : Spelling K)

/-- A number is written, whichever way. -/
theorem storesNumber {v : Value} {key : String} {n : ℕ} (hn : n < 2 ^ 64)
    (h : v.get key = some (S.number key n)) : StoresNumber v key n := by
  refine ⟨_, h, ?_⟩
  rcases S.number_eq key n with heq | heq
  · rw [heq]
    exact .number hn
  · rw [heq]
    exact .repr hn

theorem storesBytes {v : Value} {key : String} {bs : Bytes}
    (h : v.get key = some (.string (S.base64 bs))) : StoresBytes K v key bs :=
  ⟨_, h, S.base64Decode bs⟩

end Spelling

/-- The name a document gives a variant of Argon2. -/
def Algorithm.name : Algorithm → String
  | argon2i => "argon2i"
  | argon2id => "argon2id"

theorem algorithmOf_name (a : Algorithm) : algorithmOf a.name = .ok a := by
  cases a <;> rfl

/-- A key-derivation function of a keyslot. -/
inductive Kdf where
  /-- PBKDF2. -/
  | pbkdf2 (hash : Hash) (iterations : UInt32) (salt : Bytes)
  /-- Argon2. -/
  | argon2 (alg : Algorithm) (time memory cpus : UInt32) (salt : Bytes)

namespace Kdf

/-- The function as a header has it. -/
def record : Kdf → Luks2Kdf
  | pbkdf2 hash iterations salt => .pbkdf2 hash.name iterations salt
  | argon2 alg time memory cpus salt => .argon2 alg.name time memory cpus salt

/-- The function as a document has it. -/
def document {K : Crates} (S : Spelling K) : Kdf → Value
  | pbkdf2 hash iterations salt => .object [("hash", .string hash.name),
      ("iterations", S.number "iterations" iterations.toNat), ("salt", .string (S.base64 salt)),
      ("type", .string "pbkdf2")]
  | argon2 alg time memory cpus salt => .object [("cpus", S.number "cpus" cpus.toNat),
      ("memory", S.number "memory" memory.toNat), ("salt", .string (S.base64 salt)),
      ("time", S.number "time" time.toNat), ("type", .string alg.name)]

/-- The key it gives. -/
def derive (K : Crates) (passphrase : Bytes) (keyLen : ℕ) : Kdf → Bytes
  | pbkdf2 hash iterations salt => K.pbkdf2Hmac hash passphrase salt iterations.toNat keyLen
  | argon2 alg time memory cpus salt =>
      (K.argon2Hash alg memory.toNat time.toNat cpus.toNat passphrase salt keyLen).toOption.getD []

/-- The function can be run on a passphrase: there is an iteration, and Argon2 stays
under the ceiling on memory, takes its parameters, and has salt and passphrase of a
length it takes. -/
def WellFormed (K : Crates) (keyLen : ℕ) (passphrase : Bytes) : Kdf → Prop
  | pbkdf2 _ iterations _ => 1 ≤ iterations.toNat
  | argon2 _ time memory cpus salt => memory.toNat ≤ maxArgon2MemoryKib ∧
      K.argon2Params memory.toNat time.toNat cpus.toNat keyLen = .ok () ∧ 8 ≤ salt.length ∧
      salt.length < 2 ^ 32 ∧ passphrase.length < 2 ^ 32

end Kdf

/-- What is known of the Argon2 crate: parameters it takes it also takes with a single
pass, and under parameters it takes only the lengths of salt and password can make it
fail. -/
structure Argon2Law (K : Crates) : Prop where
  /-- A single pass is taken when any number is. -/
  params_one : ∀ {memory time cpus len}, K.argon2Params memory time cpus len = .ok () →
    K.argon2Params memory 1 cpus len = .ok ()
  /-- A hash is computed when the lengths are in range. -/
  hash_ok : ∀ alg {memory time cpus len salt password},
    K.argon2Params memory time cpus len = .ok () → 8 ≤ salt.length → salt.length < 2 ^ 32 →
    password.length < 2 ^ 32 →
    ∃ out, K.argon2Hash alg memory time cpus password salt len = .ok out

/-! ### The container -/

/-- A keyslot. -/
structure FormattedSlot (keyLen : ℕ) where
  /-- The key of the slot in the document. -/
  id : String
  /-- The passphrase it is opened with. -/
  passphrase : Bytes
  /-- The key-derivation function. -/
  kdf : Kdf
  /-- The hash of the splitter. -/
  afHash : Hash
  /-- What the key is split with. -/
  stripes : Stripes keyLen
  /-- Where the key material starts. -/
  areaOffset : UInt64
  /-- The size the document declares for its area. -/
  areaSize : UInt64

namespace FormattedSlot

variable {keyLen : ℕ} (s : FormattedSlot keyLen)

/-- The slot as a header has it. -/
def record : Luks2Keyslot where
  id := s.id
  keySize := UInt64.ofNat keyLen
  afStripes := UInt32.ofNat s.stripes.count
  afHash := s.afHash.name
  areaOffset := s.areaOffset
  areaSize := s.areaSize
  areaEncryption := "aes-xts-plain64"
  kdf := s.kdf.record

/-- The slot as a document has it. -/
def document {K : Crates} (S : Spelling K) : Value :=
  .object [
    ("af", .object [("hash", .string s.afHash.name),
      ("stripes", S.number "stripes" s.stripes.count), ("type", .string "luks1")]),
    ("area", .object [("encryption", .string "aes-xts-plain64"),
      ("key_size", S.number "key_size" keyLen), ("offset", S.number "offset" s.areaOffset.toNat),
      ("size", S.number "size" s.areaSize.toNat), ("type", .string "raw")]),
    ("kdf", s.kdf.document S),
    ("key_size", S.number "key_size" keyLen)]

/-- Where the key material stands. -/
def extent : Extent where
  offset := s.areaOffset.toNat
  len := Spec.sectorRounded (keyLen * s.stripes.count)

theorem toNat_afStripes : s.record.afStripes.toNat = s.stripes.count := by
  have hle : s.stripes.count ≤ 2 ^ 20 := s.stripes.count_le
  exact UInt32.toNat_ofNat_of_lt' (lt_of_le_of_lt hle (by decide))

end FormattedSlot

/-- What goes into a LUKS2 container. -/
structure Contents2 where
  /-- The master key. -/
  masterKey : Bytes
  /-- The keyslots. -/
  slots : List (FormattedSlot masterKey.length)
  /-- The hash of the digest. -/
  digestHash : Hash
  /-- The iteration count of the digest. -/
  digestIter : UInt32
  /-- The salt of the digest. -/
  digestSalt : Bytes
  /-- Where the payload starts. -/
  segmentOffset : UInt64
  /-- The size of a data unit. -/
  sectorSize : UInt64
  /-- The sector number of the first data unit. -/
  ivTweak : UInt64
  /-- The header area. -/
  headerArea : HeaderArea
  /-- The plaintext. -/
  plain : Bytes
  /-- What the container holds elsewhere. -/
  rest : Bytes

namespace Contents2

variable (F : Contents2)

/-- Where the payload stands. -/
def payloadExtent : Extent := ⟨F.segmentOffset.toNat, F.plain.length⟩

/-- The parts of the container that are written: header, payload, key material. -/
def extents : List Extent :=
  ⟨0, F.headerArea.size⟩ :: F.payloadExtent :: F.slots.map FormattedSlot.extent

/-- The digest of the master key. -/
def digest (K : Crates) : Bytes :=
  K.pbkdf2Hmac F.digestHash F.masterKey F.digestSalt F.digestIter.toNat F.digestHash.outputSize

/-- The digest as a header has it. -/
def digestRecord (K : Crates) : Luks2Digest where
  kind := "pbkdf2"
  hash := F.digestHash.name
  iterations := F.digestIter
  salt := F.digestSalt
  digest := F.digest K
  keyslots := F.slots.map FormattedSlot.id

/-- The segment as a header has it. -/
def segmentRecord : Luks2Segment where
  id := "0"
  offset := F.segmentOffset
  encryption := "aes-xts-plain64"
  sectorSize := F.sectorSize
  ivTweak := F.ivTweak.toBitVec.setWidth 128

/-- **The metadata document.** The entries of each object stand in the order of their
keys, as the map that is read has them. -/
def document {K : Crates} (S : Spelling K) : Value :=
  .object [
    ("digests", .object [("0", .object [("digest", .string (S.base64 (F.digest K))),
      ("hash", .string F.digestHash.name),
      ("iterations", S.number "iterations" F.digestIter.toNat),
      ("keyslots", .array (F.slots.map fun s => .string s.id)),
      ("salt", .string (S.base64 F.digestSalt)), ("segments", .array [.string "0"]),
      ("type", .string "pbkdf2")])]),
    ("keyslots", .object (F.slots.map fun s => (s.id, s.document S))),
    ("segments", .object [("0", .object [("encryption", .string "aes-xts-plain64"),
      ("iv_tweak", S.number "iv_tweak" F.ivTweak.toNat),
      ("offset", S.number "offset" F.segmentOffset.toNat),
      ("sector_size", S.number "sector_size" F.sectorSize.toNat), ("size", .string "dynamic"),
      ("type", .string "crypt")])])]

end Contents2

/-- **A LUKS2 container as a formatter makes it.** -/
structure Format2 extends Contents2 where
  /-- The master key has a size for AES-XTS. -/
  isXtsKey : IsXtsKey masterKey
  /-- There is an iteration of the digest. -/
  digestIter_pos : 1 ≤ digestIter.toNat
  /-- The size of a data unit is one of four. -/
  sectorSize_mem : sectorSize ∈ ([512, 1024, 2048, 4096] : List UInt64)
  /-- The plaintext is a whole number of data units. -/
  units : ∃ k, plain.length = k * sectorSize.toNat
  /-- The container has room for everything. -/
  fits : ∀ e ∈ toContents2.extents, e.stop ≤ rest.length
  /-- Nothing overlaps. -/
  apart : toContents2.extents.Pairwise Extent.Apart

/-! ### Reading the document -/

section Documents

variable {K : Crates} (S : Spelling K)

theorem storesNumber32 {v : Value} {key : String} {x : UInt32}
    (h : v.get key = some (S.number key x.toNat)) : StoresNumber v key x.toNat :=
  S.storesNumber (lt_trans x.toNat_lt (by decide)) h

/-- A key-derivation function is stored. -/
theorem storesKdf_document (kdf : Kdf) : StoresKdf K (kdf.document S) kdf.record := by
  cases kdf with
  | pbkdf2 hash iterations salt =>
    exact .pbkdf2 rfl (Or.inl rfl) (storesNumber32 S rfl) (S.storesBytes rfl)
  | argon2 alg time memory cpus salt =>
    have hkind : alg.name = "argon2i" ∨ alg.name = "argon2id" := by
      cases alg with
      | argon2i => exact Or.inl rfl
      | argon2id => exact Or.inr rfl
    exact .argon2 hkind rfl (storesNumber32 S rfl) (storesNumber32 S rfl) (storesNumber32 S rfl)
      (S.storesBytes rfl)

/-- A keyslot is stored. -/
theorem storesKeyslot_document {keyLen : ℕ} (hlen : keyLen ≤ 64) (s : FormattedSlot keyLen) :
    StoresKeyslot K (s.document S) s.record := by
  have hcount : s.stripes.count ≤ 2 ^ 20 := s.stripes.count_le
  have hkey : (UInt64.ofNat keyLen).toNat = keyLen :=
    UInt64.toNat_ofNat_of_lt' (lt_of_le_of_lt hlen (by decide))
  have hstripes : s.record.afStripes.toNat = s.stripes.count := s.toNat_afStripes
  refine ⟨?_, ⟨_, rfl, ?_, Or.inl rfl⟩, ⟨_, rfl, S.storesNumber s.areaOffset.toNat_lt rfl,
    S.storesNumber s.areaSize.toNat_lt rfl, rfl⟩, _, rfl, storesKdf_document S s.kdf⟩
  · change StoresNumber _ "key_size" (UInt64.ofNat keyLen).toNat
    rw [hkey]
    exact S.storesNumber (lt_of_le_of_lt hlen (by decide)) rfl
  · rw [hstripes]
    exact S.storesNumber (lt_of_le_of_lt hcount (by decide)) rfl

end Documents

namespace Format2

variable {K : Crates} {enc : Encipher} {F : Format2}

/-- **The document stores what was put in**: the keyslots, the one segment and the one
digest. -/
theorem storesMetadata_document (S : Spelling K) : StoresMetadata K (F.document S)
    ⟨F.slots.map FormattedSlot.record, [F.segmentRecord], [F.digestRecord K]⟩ where
  keyslots := by
    refine List.forall₂_map_right_iff.mpr (List.forall₂_map_left_iff.mpr ?_)
    refine List.forall₂_same.mpr fun s _ => ⟨rfl, ?_⟩
    exact storesKeyslot_document S F.isXtsKey.length_le s
  segments := .cons ⟨rfl, S.storesNumber F.segmentOffset.toNat_lt rfl, rfl,
    S.storesNumber F.sectorSize.toNat_lt rfl, Or.inl (by
      have htweak : F.segmentRecord.ivTweak.toNat = F.ivTweak.toNat := by
        change (F.ivTweak.toBitVec.setWidth 128).toNat = _
        rw [BitVec.toNat_setWidth, UInt64.toNat_toBitVec]
        exact Nat.mod_eq_of_lt (lt_trans F.ivTweak.toNat_lt (by decide))
      rw [htweak]
      exact S.storesNumber F.ivTweak.toNat_lt rfl)⟩ .nil
  digests := .cons ⟨rfl, Or.inl rfl, Or.inl (storesNumber32 S rfl), S.storesBytes rfl,
    S.storesBytes rfl, Or.inl (by
      change some (Value.array (F.slots.map fun s => .string s.id)) = _
      rw [Contents2.digestRecord, List.map_map]
      rfl)⟩ .nil

/-- So a parser that reads the document has them. -/
theorem ofDocument_document (S : Spelling K) (version : UInt16) (hdrSize : UInt64) :
    Luks2Header.ofDocument K version hdrSize (F.document S) =
      ⟨version, hdrSize, F.slots.map FormattedSlot.record, [F.segmentRecord],
        [F.digestRecord K]⟩ :=
  Luks2Header.ofDocument_of_stores (storesMetadata_document S) version hdrSize

/-! ### Finding what was written -/

variable (K enc F)

/-- The key that a keyslot derives from its passphrase. -/
def slotKey (s : FormattedSlot F.masterKey.length) : Bytes :=
  s.kdf.derive K s.passphrase F.masterKey.length

/-- What is written: the header area, the payload, and the key material of each
keyslot. -/
def regions : List (Region UInt8) :=
  ⟨0, F.headerArea.bytes⟩ ::
    ⟨F.payloadExtent.offset,
      encryptArea enc F.masterKey F.plain F.sectorSize.toNat F.ivTweak.toNat⟩ ::
    F.slots.map fun s =>
      ⟨s.extent.offset, s.stripes.material (K.digest s.afHash) enc (slotKey K F s)⟩

/-- **The bytes of the container.** -/
def image : Bytes := writeAll F.rest (regions K enc F)

/-- No wrong candidate is accepted: what a keyslot gives under the passphrase of
another is the master key, if the digest verifies it. -/
def NoCollision : Prop :=
  ∀ s ∈ F.slots, ∀ t ∈ F.slots, ∀ c,
    Spec.candidate2 K (image K enc F) t.passphrase s.record = .ok (some c) →
      Spec.Verifies2 K (F.digestRecord K) c → c = F.masterKey

/-- The key derivation of every keyslot can be run on every passphrase. -/
def KdfsWellFormed : Prop :=
  ∀ s ∈ F.slots, ∀ t ∈ F.slots, s.kdf.WellFormed K F.masterKey.length t.passphrase

variable {K enc F}

theorem sectorSize_ge : 512 ≤ F.sectorSize.toNat := by
  have hmem := F.sectorSize_mem
  simp only [List.mem_cons, List.not_mem_nil, or_false] at hmem
  rcases hmem with h | h | h | h <;> rw [h] <;> decide

section Regions

variable (h : Inverts K enc)

include h

theorem length_payload :
    (encryptArea enc F.masterKey F.plain F.sectorSize.toNat F.ivTweak.toNat).length =
      F.plain.length := by
  obtain ⟨k, hk⟩ := F.units
  have hge := sectorSize_ge (F := F)
  rw [h.length_encryptArea (by omega) hk, hk]

theorem map_extent_regions : (regions K enc F).map Region.extent = F.extents := by
  rw [regions, Contents2.extents, List.map_cons, List.map_cons, List.map_map]
  refine congr_arg₂ _ (congrArg (Extent.mk 0) F.headerArea.length_bytes) (congr_arg₂ _
    (congrArg (Extent.mk _) (length_payload h)) (List.map_congr_left fun s _ => ?_))
  exact congrArg (Extent.mk _) (s.stripes.length_material h _ _)

theorem laidOut : LaidOut F.rest (regions K enc F) :=
  .of_extents (map_extent_regions h) F.fits F.apart

theorem length_image : (image K enc F).length = F.rest.length := (laidOut h).length_writeAll

theorem extent_stop_le {s : FormattedSlot F.masterKey.length} (hs : s ∈ F.slots) :
    s.extent.offset + s.extent.len ≤ (image K enc F).length := by
  rw [length_image h]
  refine F.fits s.extent ?_
  simp only [Contents2.extents, List.mem_cons]
  exact Or.inr (Or.inr (List.mem_map_of_mem hs))

theorem window_material {s : FormattedSlot F.masterKey.length} (hs : s ∈ F.slots) :
    window (image K enc F) s.extent.offset
      (Spec.sectorRounded (F.masterKey.length * s.stripes.count)) =
        s.stripes.material (K.digest s.afHash) enc (slotKey K F s) := by
  refine (laidOut h).window_writeAll ?_ (s.stripes.length_material h _ _)
  simp only [regions, List.mem_cons]
  exact Or.inr (Or.inr (List.mem_map_of_mem hs))

theorem window_payload : window (image K enc F) F.payloadExtent.offset F.plain.length =
    encryptArea enc F.masterKey F.plain F.sectorSize.toNat F.ivTweak.toNat :=
  (laidOut h).window_writeAll (by simp [regions]) (length_payload h)

theorem headerArea_size_le : F.headerArea.size ≤ (image K enc F).length := by
  rw [length_image h, ← Nat.zero_add F.headerArea.size]
  exact F.fits ⟨0, F.headerArea.size⟩ (by simp [Contents2.extents])

theorem window_headerArea : window (image K enc F) 0 F.headerArea.size = F.headerArea.bytes :=
  (laidOut h).window_writeAll (by simp [regions]) F.headerArea.length_bytes

end Regions

/-! ### Opening the keyslots -/

theorem toNat_keySize (s : FormattedSlot F.masterKey.length) :
    s.record.keySize.toNat = F.masterKey.length := by
  have hle := F.isXtsKey.length_le
  exact UInt64.toNat_ofNat_of_lt' (lt_of_le_of_lt hle (by decide))

/-- **The code derives what the formatter derived**, under any passphrase. -/
theorem deriveSlotKey_record (hlaw : Argon2Law K) {passphrase : Bytes}
    (s : FormattedSlot F.masterKey.length)
    (hkdf : s.kdf.WellFormed K F.masterKey.length passphrase) :
    Spec.deriveSlotKey K passphrase s.record =
        .ok (s.kdf.derive K passphrase F.masterKey.length) ∧
      (s.kdf.derive K passphrase F.masterKey.length).length = F.masterKey.length := by
  have hlen : F.masterKey.length ≤ maxKeyBytes := F.isXtsKey.length_le.trans (by decide)
  have hsize := toNat_keySize s
  rw [Spec.deriveSlotKey, hsize, FormattedSlot.record]
  cases hs : s.kdf with
  | pbkdf2 hash iterations salt =>
    rw [hs] at hkdf
    exact ⟨Spec.deriveKey_name hash _ _ hkdf hlen, K.length_pbkdf2Hmac ..⟩
  | argon2 alg time memory cpus salt =>
    rw [hs] at hkdf
    obtain ⟨hmem, hparams, hsalt, hsalt', hpass⟩ := hkdf
    obtain ⟨out, hout⟩ := hlaw.hash_ok alg hparams hsalt hsalt' hpass
    obtain ⟨trial, htrial⟩ := hlaw.hash_ok alg (hlaw.params_one hparams) hsalt hsalt' hpass
    have hrun := (Spec.argon2Run_eq_ok_iff K (p := ⟨alg.name, time, memory, cpus, salt⟩)).mpr
      ⟨hparams, hout⟩
    have hone := (Spec.argon2Run_eq_ok_iff K (p := ⟨alg.name, time, memory, cpus, salt⟩)).mpr
      ⟨hlaw.params_one hparams, htrial⟩
    have hderive : (Kdf.argon2 alg time memory cpus salt).derive K passphrase
        F.masterKey.length = out := by
      rw [Kdf.derive, hout]
      rfl
    rw [hderive]
    refine ⟨?_, K.length_argon2Hash hout⟩
    simp only [Kdf.record, Spec.deriveKeyArgon2]
    rw [algorithmOf_name, ok_bind, if_neg (Nat.not_lt_of_le hlen), if_neg (Nat.not_lt_of_le hmem)]
    -- where more passes are asked for, the one that is timed returns too
    split_ifs
    · rw [hone, hrun]
      rfl
    · exact hrun

/-- The candidate of a keyslot is in its key material, under the key its derivation
gives. -/
theorem candidate2_record (hlaw : Argon2Law K) (img : Bytes) {passphrase : Bytes}
    (s : FormattedSlot F.masterKey.length)
    (hkdf : s.kdf.WellFormed K F.masterKey.length passphrase) :
    Spec.candidate2 K img passphrase s.record =
      Spec.openMaterial K img "xts-plain64" s.afHash.name
        (s.kdf.derive K passphrase F.masterKey.length) s.extent.offset F.masterKey.length
        s.stripes.count := by
  have hmode : (splitEncryption s.record.areaEncryption).2 = "xts-plain64" := by
    change (splitEncryption "aes-xts-plain64").2 = "xts-plain64"
    decide
  rw [Spec.candidate2, (deriveSlotKey_record hlaw s hkdf).1, toNat_keySize,
    s.toNat_afStripes, hmode]
  rfl

theorem isXtsKey_derive (hlaw : Argon2Law K) {passphrase : Bytes}
    (s : FormattedSlot F.masterKey.length)
    (hkdf : s.kdf.WellFormed K F.masterKey.length passphrase) :
    IsXtsKey (s.kdf.derive K passphrase F.masterKey.length) := by
  rw [IsXtsKey, (deriveSlotKey_record hlaw s hkdf).2]
  exact F.isXtsKey

/-- **A keyslot holds the master key**, under its passphrase. -/
theorem candidate2_self (h : Inverts K enc) (hlaw : Argon2Law K)
    {s : FormattedSlot F.masterKey.length} (hs : s ∈ F.slots)
    (hkdf : s.kdf.WellFormed K F.masterKey.length s.passphrase) :
    Spec.candidate2 K (image K enc F) s.passphrase s.record = .ok (some F.masterKey) := by
  rw [candidate2_record hlaw _ s hkdf]
  exact Spec.openMaterial_of_material h s.stripes s.afHash (isXtsKey_derive hlaw s hkdf)
    (window_material h hs)

/-- A keyslot holds some candidate under any passphrase. -/
theorem exists_candidate2 (h : Inverts K enc) (hlaw : Argon2Law K) {passphrase : Bytes}
    {s : FormattedSlot F.masterKey.length} (hs : s ∈ F.slots)
    (hkdf : s.kdf.WellFormed K F.masterKey.length passphrase) :
    ∃ c, Spec.candidate2 K (image K enc F) passphrase s.record = .ok (some c) := by
  rw [candidate2_record hlaw _ s hkdf]
  exact Spec.exists_openMaterial s.afHash (isXtsKey_derive hlaw s hkdf)
    s.stripes.count_le (inside_of_le (extent_stop_le h hs))

/-- The digest applies to every keyslot. -/
theorem applies_digestRecord {s : FormattedSlot F.masterKey.length} (hs : s ∈ F.slots) :
    Spec.Applies (F.digestRecord K) s.record :=
  ⟨rfl, List.mem_map_of_mem hs⟩

theorem outputSize_le (hash : Hash) : hash.outputSize ≤ maxKeyBytes := by
  cases hash <;> decide

theorem length_digest : (F.digest K).length = F.digestHash.outputSize := K.length_pbkdf2Hmac ..

/-- The digest verifies the master key. -/
theorem verifies2_masterKey : Spec.Verifies2 K (F.digestRecord K) F.masterKey := by
  change Spec.deriveKey K F.digestHash.name F.masterKey F.digestSalt F.digestIter
    (F.digest K).length = .ok (F.digest K)
  rw [length_digest, Spec.deriveKey_name _ _ _ F.digestIter_pos (outputSize_le _)]
  rfl

/-- What the one digest makes of a candidate: it verifies it, or passes. -/
theorem tryDigest_record {s : FormattedSlot F.masterKey.length} (hs : s ∈ F.slots) (c : Bytes) :
    (Spec.Verifies2 K (F.digestRecord K) c ∧
      Spec.tryDigest K s.record c (F.digestRecord K) =
        .ok (some ⟨c, .luks2 s.record (F.digestRecord K)⟩)) ∨
      Spec.tryDigest K s.record c (F.digestRecord K) = .ok none := by
  by_cases hverifies : Spec.Verifies2 K (F.digestRecord K) c
  · exact Or.inl ⟨hverifies,
      Spec.tryDigest_eq_some_iff.mpr ⟨applies_digestRecord hs, hverifies, rfl⟩⟩
  · refine Or.inr (Spec.tryDigest_eq_none_iff.mpr fun _ => Spec.verify_eq_false_iff.mpr
      ⟨?_, supportedHash_name _, hverifies⟩)
    change (F.digest K).length ≤ maxKeyBytes
    rw [length_digest]
    exact outputSize_le _

/-- What a keyslot gives under the passphrase of another: a key, which is the master
key, or nothing. -/
theorem tryKeyslot2_record (h : Inverts K enc) (hlaw : Argon2Law K)
    (hkdfs : KdfsWellFormed K F) (hcoll : NoCollision K enc F)
    {s t : FormattedSlot F.masterKey.length} (hs : s ∈ F.slots) (ht : t ∈ F.slots) :
    Spec.tryKeyslot2 K (image K enc F) [F.digestRecord K] t.passphrase s.record = .ok none ∨
      ∃ r, Spec.tryKeyslot2 K (image K enc F) [F.digestRecord K] t.passphrase s.record =
        .ok (some r) ∧ r.key = F.masterKey := by
  obtain ⟨c, hc⟩ := exists_candidate2 h hlaw hs (hkdfs s hs t ht)
  rcases tryDigest_record hs c with ⟨hverifies, -⟩ | hpass
  · exact Or.inr ⟨⟨c, .luks2 s.record (F.digestRecord K)⟩, Spec.tryKeyslot2_eq_some_iff.mpr
      ⟨hc, [], _, [], rfl, by simp, applies_digestRecord hs, hverifies, rfl⟩,
      hcoll s hs t ht c hc hverifies⟩
  · exact Or.inl (Spec.tryKeyslot2_eq_none_iff.mpr (Or.inr ⟨c, hc, by simpa using hpass⟩))

/-- The header of the container, as its document describes it. -/
def header (K : Crates) (F : Format2) : Luks2Header :=
  ⟨2, UInt64.ofNat F.headerArea.size, F.slots.map FormattedSlot.record, [F.segmentRecord],
    [F.digestRecord K]⟩

/-- **The recovery finds the master key** under the passphrase of any keyslot: the ones
before it pass, or hold it too. -/
theorem recoverMasterKey2_image (h : Inverts K enc) (hlaw : Argon2Law K)
    (hkdfs : KdfsWellFormed K F) (hcoll : NoCollision K enc F)
    {t : FormattedSlot F.masterKey.length} (ht : t ∈ F.slots) :
    ∃ r, Spec.recoverMasterKey2 K (image K enc F) (header K F) t.passphrase = .ok r ∧
      r.key = F.masterKey := by
  -- each keyslot is passed over or gives the master key, and `t` gives one
  have hstep : ∀ k ∈ (header K F).keyslots,
      Spec.tryKeyslot2 K (image K enc F) [F.digestRecord K] t.passphrase k = .ok none ∨
        ∃ r, Spec.tryKeyslot2 K (image K enc F) [F.digestRecord K] t.passphrase k =
          .ok (some r) ∧ r.key = F.masterKey := by
    intro k hk
    obtain ⟨s, hs, rfl⟩ := List.mem_map.mp hk
    exact tryKeyslot2_record h hlaw hkdfs hcoll hs ht
  have hstop : ∃ k ∈ (header K F).keyslots,
      Spec.tryKeyslot2 K (image K enc F) [F.digestRecord K] t.passphrase k ≠ .ok none := by
    have hself : Spec.tryKeyslot2 K (image K enc F) [F.digestRecord K] t.passphrase t.record =
        .ok (some ⟨F.masterKey, .luks2 t.record (F.digestRecord K)⟩) :=
      Spec.tryKeyslot2_eq_some_iff.mpr ⟨candidate2_self h hlaw ht (hkdfs t ht t ht), [], _, [], rfl,
        by simp, applies_digestRecord ht, verifies2_masterKey, rfl⟩
    refine ⟨t.record, List.mem_map_of_mem ht, ?_⟩
    rw [hself]
    intro hnone
    cases hnone
  obtain ⟨r, hr, hkey⟩ := exists_findSomeM?_eq_some hstep hstop
  refine ⟨r, ?_, hkey⟩
  change (header K F).keyslots.findSomeM?
    (Spec.tryKeyslot2 K (image K enc F) [F.digestRecord K] t.passphrase) >>= _ = _
  rw [hr]
  rfl

/-! ### Unlocking -/

section Unlocking

variable {S : Spelling K}

/-- The header of the image is the one its document describes. -/
theorem header2_image (h : Inverts K enc)
    (hjson : K.fromSlice F.headerArea.json = some (F.document S)) :
    Spec.header2 K (image K enc F) = .ok (header K F) := by
  rw [HeaderArea.header2_eq (headerArea_size_le h) (window_headerArea h) hjson,
    ofDocument_document]
  rfl

/-- The container unlocks to its payload, under the master key. -/
theorem unlock_image (h : Inverts K enc) (hlaw : Argon2Law K) (hkdfs : KdfsWellFormed K F)
    (hcoll : NoCollision K enc F)
    (hjson : K.fromSlice F.headerArea.json = some (F.document S))
    {t : FormattedSlot F.masterKey.length} (ht : t ∈ F.slots) :
    ∃ acceptedBy, Spec.unlock K (image K enc F) t.passphrase = .ok
      ⟨F.segmentRecord.payload (image K enc F) F.masterKey (image K enc F).length,
        acceptedBy⟩ := by
  obtain ⟨⟨key, acceptedBy⟩, hr, rfl⟩ := recoverMasterKey2_image h hlaw hkdfs hcoll ht
  have hbin : luks2BinHdrLen ≤ (image K enc F).length :=
    F.headerArea.luks2BinHdrLen_le_size.trans (headerArea_size_le h)
  have hsegment : (header K F).cryptSegment = some F.segmentRecord := by
    rw [Luks2Header.cryptSegment, header, List.find?_cons]
    have hname : F.segmentRecord.encryption.isEmpty = false := by
      change "aes-xts-plain64".isEmpty = false
      decide
    rw [hname]
    rfl
  have hunlock := Spec.unlock2_eq_ok_iff.mpr
    ⟨hbin, header K F, _, _, header2_image h hjson, hsegment, hr, rfl⟩
  have hle : 8 ≤ (image K enc F).length := le_trans (by decide) hbin
  refine ⟨acceptedBy, ?_⟩
  rw [Spec.unlock_eq_of_le hle,
    HeaderArea.beU16_eq (headerArea_size_le h) (window_headerArea h), if_neg (by decide),
    if_pos rfl]
  exact hunlock

/-- A volume over the payload of the container shows the plaintext. -/
theorem shows_payload {ρ : Type} [ImageReader ρ] (h : Inverts K enc) {p : DecryptedPayload ρ}
    {total : ℕ} (hp : p.map ImageReader.image =
      F.segmentRecord.payload (image K enc F) F.masterKey total) :
    ∃ k, DecryptedPayload.Shows K p (image K enc F) F.plain k := by
  obtain ⟨k, hk⟩ := F.units
  have hfit : F.payloadExtent.offset + F.plain.length ≤ (image K enc F).length := by
    rw [length_image h]
    exact F.fits F.payloadExtent (by simp [Contents2.extents])
  have hlt : (image K enc F).length < 2 ^ 63 := by
    have himg : ImageReader.image p.reader = image K enc F := congrArg DecryptedPayload.reader hp
    exact himg ▸ ImageReader.image_lt p.reader
  have hge := sectorSize_ge (F := F)
  have hunit : (F.segmentRecord.payload (image K enc F) F.masterKey total).unitSize =
      F.sectorSize.toNat := by
    change (max F.sectorSize 512).toNat = _
    rw [toNat_max_sector, max_eq_left hge]
  have htweak : (F.segmentRecord.payload (image K enc F) F.masterKey total).ivTweak.toNat =
      F.ivTweak.toNat := by
    change (F.ivTweak.toBitVec.setWidth 128).toNat = _
    rw [BitVec.toNat_setWidth]
    exact Nat.mod_eq_of_lt (lt_trans F.ivTweak.toNat_lt (by decide))
  have hmode : (splitEncryption F.segmentRecord.encryption).2 = "xts-plain64" := by
    change (splitEncryption "aes-xts-plain64").2 = "xts-plain64"
    decide
  refine ⟨k, DecryptedPayload.shows_of_encryptArea h hp hmode F.isXtsKey ?_ hfit ?_
    fun u hu => ?_⟩
  · rw [hunit, hk]
  · rw [hunit, htweak]
    exact window_payload h
  · -- the sector numbers stay far below the 128 bits of a tweak
    have hstep : tweakStep F.sectorSize.toNat ≤ F.sectorSize.toNat := by
      rw [tweakStep]
      omega
    have hmul : u * tweakStep F.sectorSize.toNat ≤ k * F.sectorSize.toNat :=
      Nat.mul_le_mul hu.le hstep
    have hiv := F.ivTweak.toNat_lt
    rw [hunit, htweak]
    omega

end Unlocking

end Format2

/-- **The LUKS2 round trip.** A container a formatter made unlocks with the passphrase
of every keyslot, to a volume with the master key that was put in, of which every read
in range gives the plaintext that was put in – unless it is refused on its budget. -/
theorem format2_roundtrip {ρ : Type} [ImageReader ρ] {K : Crates} {enc : Encipher}
    (h : Inverts K enc) (hlaw : Argon2Law K) (S : Spelling K) (F : Format2)
    (hkdfs : Format2.KdfsWellFormed K F) (hcoll : Format2.NoCollision K enc F)
    (hjson : K.fromSlice F.headerArea.json = some (F.document S))
    {t : FormattedSlot F.masterKey.length} (ht : t ∈ F.slots) (clk : Clock) (budget : Duration)
    (r : ρ) (hr : ImageReader.image r = Format2.image K enc F)
    (hbudget : ∀ e, (unlockWithPassphraseWithin K clk t.passphrase budget (World.init r)).out =
      .err e → ¬e.IsBudgetRefusal) :
    ∃ u, (unlockWithPassphraseWithin K clk t.passphrase budget (World.init r)).out = .ok u ∧
      u.payload.masterKey = F.masterKey ∧
      ∀ offset len, offset.toNat + len ≤ F.plain.length →
        (DecryptedPayload.readAt K offset len u.payload).out =
          .ok (window F.plain offset.toNat len) := by
  obtain ⟨acceptedBy, hspec⟩ := Format2.unlock_image h hlaw hkdfs hcoll hjson ht
  -- the header is part of the image, and so no larger than a buffer can be
  have hsane : ¬Oversized (Format2.image K enc F) := HeaderArea.not_oversized
    (Format2.headerArea_size_le h) (Format2.window_headerArea h) (hr ▸ ImageReader.image_lt r)
  have hrun := unlock_run (ρ := ρ) K clk (fun _ => hsane) budget t.passphrase
  rw [hspec] at hrun
  rcases hrun.ok_or_refused (hr ▸ opens_init r) with ⟨u, hu, himg⟩ | ⟨e, he, hout⟩
  · obtain ⟨k, hshows⟩ := Format2.shows_payload h (congrArg Unlocked.payload himg)
    exact ⟨u, hu, congrArg (fun v : Unlocked Bytes => v.payload.masterKey) himg,
      fun offset len hrange => hshows.readAt hrange⟩
  · exact absurd he.1 (hbudget e hout)

/-! ### One container -/

/-- The usual spelling: positions and sizes as strings, all other numbers as numbers. -/
def Tables.spelling (T : Tables) : Spelling T.crates where
  number key n := if key ∈ ["iv_tweak", "offset", "size"] then .string n.repr
    else .number (.posInt (UInt64.ofNat n))
  base64 := base64Encode
  number_eq key n := by
    split_ifs
    · exact Or.inr rfl
    · exact Or.inl rfl
  base64Decode := base64Decode_base64Encode

theorem Tables.argon2Law (T : Tables) : Argon2Law T.crates where
  params_one := by
    intro memory time cpus len h
    change argon2Check memory time cpus len = _ at h
    change argon2Check memory 1 cpus len = _
    rw [argon2Check] at h ⊢
    split_ifs at h ⊢
    · omega
    · rfl
  hash_ok := by
    intro alg memory time cpus len salt password _ hsalt hsalt' hpass
    refine ⟨fitTo len [], ?_⟩
    change (if _ then _ else if _ then _ else if _ then _ else _) = _
    rw [if_neg (by omega), if_neg (by omega), if_neg (by omega)]

namespace Sample

/-- A keyslot of the master key. -/
def slot2 : FormattedSlot masterKey.length where
  id := "0"
  passphrase := passphrase
  kdf := .pbkdf2 .sha1 1000 salt
  afHash := .sha1
  stripes := stripes
  areaOffset := 8192
  areaSize := 512

/-- The contents of a LUKS2 container. -/
def contents2 : Contents2 where
  masterKey := masterKey
  slots := [slot2]
  digestHash := .sha1
  digestIter := 1000
  digestSalt := digestSalt
  segmentOffset := 12288
  sectorSize := 512
  ivTweak := 0
  headerArea := headerArea fits_metadata
  plain := plain
  rest := List.replicate 12800 0

theorem length_rest2 : contents2.rest.length = 12800 := List.length_replicate

theorem extents_contents2 :
    contents2.extents = [⟨0, 8192⟩, ⟨12288, 512⟩, ⟨8192, 512⟩] := by
  have hplain : contents2.plain.length = 512 := List.length_replicate
  have hsize : contents2.headerArea.size = 8192 := size_headerArea fits_metadata
  have hslot : slot2.extent = ⟨8192, 512⟩ := by decide
  have hlist : contents2.slots.map FormattedSlot.extent = [slot2.extent] := rfl
  rw [Contents2.extents, Contents2.payloadExtent, hplain, hsize, hlist, hslot]
  rfl

/-- A LUKS2 container. -/
def format2 : Format2 where
  toContents2 := contents2
  isXtsKey := isXtsKey_masterKey
  digestIter_pos := one_le_iterations
  sectorSize_mem := List.mem_cons_self
  units := ⟨1, length_plain⟩
  fits := by
    rw [extents_contents2, length_rest2]
    decide
  apart := by
    rw [extents_contents2]
    decide

/-- The tables with the document of the container. -/
def tables2 : Tables := tables [(json metadata, document metadata)]

theorem inverts2 : Inverts tables2.crates tables2.xtsSector := tables2.inverts

/-- The document in the tables is the one that describes the container. -/
theorem fromSlice_format2 : tables2.crates.fromSlice format2.headerArea.json =
    some (format2.document tables2.spelling) := by
  have hdoc : document metadata = contents2.document tables2.spelling := by
    rw [metadata, ← base64Encode_mkDigest]
    rfl
  exact (fromSlice_single _ _).trans (congrArg some hdoc)

theorem kdfs_format2 : Format2.KdfsWellFormed tables2.crates format2 := by
  intro s hs t _
  obtain rfl : s = slot2 := List.mem_singleton.mp hs
  exact one_le_iterations

theorem slot2_mem : slot2 ∈ format2.slots := List.mem_singleton_self slot2

theorem noCollision_format2 :
    Format2.NoCollision tables2.crates tables2.xtsSector format2 := by
  intro s hs t ht c hc _
  obtain rfl : s = slot2 := List.mem_singleton.mp hs
  obtain rfl : t = slot2 := List.mem_singleton.mp ht
  rw [Format2.candidate2_self inverts2 tables2.argon2Law slot2_mem
    (kdfs_format2 _ slot2_mem _ slot2_mem)] at hc
  exact (Option.some.inj (Except.ok.inj hc)).symm

theorem image2_lt : (Format2.image tables2.crates tables2.xtsSector format2).length < 2 ^ 63 := by
  have hrest : format2.rest.length = 12800 := length_rest2
  rw [Format2.length_image inverts2, hrest]
  decide

/-- A reader of the container. -/
def reader2 : Cursor :=
  Cursor.new (Format2.image tables2.crates tables2.xtsSector format2) image2_lt

/-- The clock and the budget suffice. -/
theorem unlock2_not_refused (e : LuksError)
    (he : (unlockWithPassphraseWithin tables2.crates clock slot2.passphrase 1
      (World.init reader2)).out = .err e) : ¬e.IsBudgetRefusal := by
  obtain ⟨acceptedBy, hspec⟩ := Format2.unlock_image inverts2 tables2.argon2Law kdfs_format2
    noCollision_format2 fromSlice_format2 slot2_mem
  refine absurd he (unlock_ne_err _ clock (fun _ => ?_) (fun _ _ => rfl) Nat.one_pos hspec
    (opens_init reader2) e)
  exact HeaderArea.not_oversized (Format2.headerArea_size_le inverts2)
    (Format2.window_headerArea inverts2) image2_lt

end Sample

theorem format2_roundtrip_sample :
    ∃ u, (unlockWithPassphraseWithin Sample.tables2.crates Sample.clock Sample.passphrase 1
        (World.init Sample.reader2)).out = .ok u ∧ u.payload.masterKey = Sample.masterKey ∧
      ∀ offset len, offset.toNat + len ≤ Sample.plain.length →
        (DecryptedPayload.readAt Sample.tables2.crates offset len u.payload).out =
          .ok (window Sample.plain offset.toNat len) :=
  format2_roundtrip Sample.inverts2 Sample.tables2.argon2Law Sample.tables2.spelling
    Sample.format2 Sample.kdfs_format2 Sample.noCollision_format2 Sample.fromSlice_format2
    Sample.slot2_mem Sample.clock 1 Sample.reader2 rfl Sample.unlock2_not_refused

end Luks
