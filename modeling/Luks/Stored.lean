import Luks.Header2
import Mathlib.Data.List.Forall2

/-!
# What a document stores

A writer of LUKS2 metadata has some freedom: a number may be written as a number or as a
string of decimal digits, each one as the writer likes, a field may be left out where it
has its default, and an object may have fields that nobody reads. What a document stores
(`Luks.StoresMetadata`) is said here field by field, without a look at the parser.

The parser reads back just that: from each object the record it stores, and from the
document all of them, in order (`Luks.Luks2Header.ofDocument_of_stores`).
-/

namespace Luks

open Basis

/-! ### Numbers -/

/-- A value writes a number: as a JSON number, or as a string of decimal digits. -/
inductive Writes : Value → ℕ → Prop
  /-- As a number. -/
  | number {n : ℕ} (h : n < 2 ^ 64) : Writes (.number (.posInt (UInt64.ofNat n))) n
  /-- As a string of digits. -/
  | string {s : String} (hne : s ≠ "") (hd : ∀ c ∈ s.toList, c.isDigit)
      (h : Nat.ofDigitChars 10 s.toList 0 < 2 ^ 64) :
      Writes (.string s) (Nat.ofDigitChars 10 s.toList 0)

namespace Writes

variable {v : Value}

theorem asU64_eq {n : ℕ} (h : Writes v n) : asU64 v = UInt64.ofNat n := by
  cases h with
  | number h => rfl
  | string hne hd h => rw [asU64, parseU64_of_digits hne hd h, Option.getD_some]

theorem lt {n : ℕ} (h : Writes v n) : n < 2 ^ 64 := by
  cases h with
  | number h => exact h
  | string hne hd h => exact h

/-- The decimal numeral of a number writes it. -/
theorem repr {n : ℕ} (h : n < 2 ^ 64) : Writes (.string n.repr) n := by
  have hval := ofDigitChars_repr n
  have hwrites := string (repr_ne_empty n) (fun _ => isDigit_of_mem_repr) (by rwa [hval])
  rwa [hval] at hwrites

/-- A number of 64 bits is read back. -/
theorem asU64_toNat {x : UInt64} (h : Writes v x.toNat) : asU64 v = x := by
  rw [h.asU64_eq, UInt64.ofNat_toNat]

/-- A number of 32 bits is read back. -/
theorem toUInt32_asU64 {x : UInt32} (h : Writes v x.toNat) : (asU64 v).toUInt32 = x := by
  refine UInt32.toNat_inj.mp ?_
  rw [h.asU64_eq, UInt64.toNat_toUInt32, UInt64.toNat_ofNat_of_lt' h.lt]
  exact Nat.mod_eq_of_lt x.toNat_lt

end Writes

/-! ### Fields -/

section Fields

variable (K : Crates) (v : Value) (key : String)

/-- A field stores a number. -/
def StoresNumber (n : ℕ) : Prop := ∃ x, v.get key = some x ∧ Writes x n

/-- A field stores a text. -/
def StoresText (s : String) : Prop := v.get key = some (.string s)

/-- A field stores a text, or is left out where the text is its default. -/
def StoresTextOr (default s : String) : Prop :=
  StoresText v key s ∨ v.get key = none ∧ s = default

/-- A field stores bytes: a text that decodes to them. -/
def StoresBytes (bs : Bytes) : Prop := ∃ s, StoresText v key s ∧ K.base64Decode s = some bs

end Fields

variable {K : Crates} {v : Value} {key : String}

theorem StoresText.asStr {s : String} (h : StoresText v key s) :
    (v.get key).bind Value.asStr = some s := by
  rw [h]
  rfl

theorem StoresTextOr.getD {default s : String} (h : StoresTextOr v key default s) :
    ((v.get key).bind Value.asStr).getD default = s := by
  rcases h with h | ⟨hnone, rfl⟩
  · rw [h.asStr, Option.getD_some]
  · rw [hnone]
    rfl

theorem StoresBytes.b64 {bs : Bytes} (h : StoresBytes K v key bs) :
    ∃ x, v.get key = some x ∧ b64 K x = bs := by
  obtain ⟨s, hs, hdecode⟩ := h
  exact ⟨.string s, hs, by rw [Luks.b64, Value.asStr, Option.bind_some, hdecode, Option.getD_some]⟩

/-! ### Objects -/

/-- An object stores a key-derivation function. -/
inductive StoresKdf (K : Crates) (v : Value) : Luks2Kdf → Prop
  /-- PBKDF2. -/
  | pbkdf2 {hash : String} {iterations : UInt32} {salt : Bytes}
      (htype : StoresText v "type" "pbkdf2") (hhash : StoresTextOr v "hash" "sha256" hash)
      (hiterations : StoresNumber v "iterations" iterations.toNat)
      (hsalt : StoresBytes K v "salt" salt) : StoresKdf K v (.pbkdf2 hash iterations salt)
  /-- Argon2. -/
  | argon2 {kind : String} {time memory cpus : UInt32} {salt : Bytes}
      (hkind : kind = "argon2i" ∨ kind = "argon2id") (htype : StoresText v "type" kind)
      (htime : StoresNumber v "time" time.toNat) (hmemory : StoresNumber v "memory" memory.toNat)
      (hcpus : StoresNumber v "cpus" cpus.toNat) (hsalt : StoresBytes K v "salt" salt) :
      StoresKdf K v (.argon2 kind time memory cpus salt)

/-- An object stores a keyslot: some of it in objects of its own. -/
structure StoresKeyslot (K : Crates) (v : Value) (slot : Luks2Keyslot) : Prop where
  /-- The size of the master key. -/
  keySize : StoresNumber v "key_size" slot.keySize.toNat
  /-- The anti-forensic splitter. -/
  af : ∃ af, v.get "af" = some af ∧ StoresNumber af "stripes" slot.afStripes.toNat ∧
    StoresTextOr af "hash" "sha256" slot.afHash
  /-- The area of the key material. -/
  area : ∃ area, v.get "area" = some area ∧ StoresNumber area "offset" slot.areaOffset.toNat ∧
    StoresNumber area "size" slot.areaSize.toNat ∧
    StoresText area "encryption" slot.areaEncryption
  /-- The key-derivation function. -/
  kdf : ∃ kdf, v.get "kdf" = some kdf ∧ StoresKdf K kdf slot.kdf

/-- An object stores a segment. -/
structure StoresSegment (v : Value) (s : Luks2Segment) : Prop where
  /-- Where the data starts. -/
  offset : StoresNumber v "offset" s.offset.toNat
  /-- Cipher and mode. -/
  encryption : StoresText v "encryption" s.encryption
  /-- The size of a data unit. -/
  sectorSize : StoresNumber v "sector_size" s.sectorSize.toNat
  /-- The first tweak, or nothing where it is zero. -/
  ivTweak : StoresNumber v "iv_tweak" s.ivTweak.toNat ∨ v.get "iv_tweak" = none ∧ s.ivTweak = 0

/-- An object stores a digest. -/
structure StoresDigest (K : Crates) (v : Value) (d : Luks2Digest) : Prop where
  /-- Its type. -/
  kind : StoresText v "type" d.kind
  /-- The hash. -/
  hash : StoresTextOr v "hash" "sha256" d.hash
  /-- The iteration count, or nothing where it is zero. -/
  iterations : StoresNumber v "iterations" d.iterations.toNat ∨
    v.get "iterations" = none ∧ d.iterations = 0
  /-- The salt. -/
  salt : StoresBytes K v "salt" d.salt
  /-- The expected bytes. -/
  digest : StoresBytes K v "digest" d.digest
  /-- The keyslots, or nothing where there are none. -/
  keyslots : v.get "keyslots" = some (.array (d.keyslots.map .string)) ∨
    v.get "keyslots" = none ∧ d.keyslots = []

/-! ### The document -/

/-- The metadata of a LUKS2 container. -/
structure Luks2Metadata where
  /-- The keyslots. -/
  keyslots : List Luks2Keyslot
  /-- The data segments. -/
  segments : List Luks2Segment
  /-- The digests. -/
  digests : List Luks2Digest

/-- A document stores metadata: each record in an entry of its own, in order, and keyslots
and segments under their ids. -/
structure StoresMetadata (K : Crates) (root : Value) (m : Luks2Metadata) : Prop where
  /-- The keyslots. -/
  keyslots : List.Forall₂ (fun e slot => e.1 = slot.id ∧ StoresKeyslot K e.2 slot)
    (root.entries "keyslots") m.keyslots
  /-- The segments. -/
  segments : List.Forall₂ (fun e s => e.1 = s.id ∧ StoresSegment e.2 s)
    (root.entries "segments") m.segments
  /-- The digests. -/
  digests : List.Forall₂ (fun e d => StoresDigest K e.2 d) (root.entries "digests") m.digests

/-! ### Reading it back -/

theorem StoresKdf.parseKdf_eq {kdf : Luks2Kdf} (h : StoresKdf K v kdf) :
    parseKdf K v = some kdf := by
  cases h with
  | pbkdf2 htype hhash hiterations hsalt =>
    obtain ⟨x, hx, hwrites⟩ := hiterations
    obtain ⟨y, hy, hbytes⟩ := hsalt.b64
    simp [parseKdf, htype.asStr, hhash.getD, hx, hwrites.toUInt32_asU64, hy, hbytes]
  | @argon2 kind time memory cpus salt hkind htype htime hmemory hcpus hsalt =>
    obtain ⟨x, hx, htime⟩ := htime
    obtain ⟨y, hy, hmemory⟩ := hmemory
    obtain ⟨z, hz, hcpus⟩ := hcpus
    obtain ⟨s, hs, hbytes⟩ := hsalt.b64
    -- neither variant has the name of PBKDF2
    have hne : ¬kind = "pbkdf2" := by
      rcases hkind with rfl | rfl
      · decide
      · decide
    simp [parseKdf, htype.asStr, hne, hkind, hx, htime.toUInt32_asU64, hy, hmemory.toUInt32_asU64,
      hz, hcpus.toUInt32_asU64, hs, hbytes]

theorem StoresKeyslot.parseKeyslot_eq {slot : Luks2Keyslot} (h : StoresKeyslot K v slot) :
    parseKeyslot K slot.id v = some slot := by
  obtain ⟨⟨x, hx, hsize⟩, ⟨af, haf, ⟨y, hy, hstripes⟩, hhash⟩,
    ⟨area, harea, ⟨z, hz, hoffset⟩, ⟨s, hs, hlen⟩, henc⟩, kdfv, hkdfv, hkdf⟩ := h
  simp [parseKeyslot, haf, harea, hkdfv, hkdf.parseKdf_eq, hx, hsize.asU64_toNat, hy,
    hstripes.toUInt32_asU64, hhash.getD, hz, hoffset.asU64_toNat, hs, hlen.asU64_toNat, henc.asStr]

theorem StoresSegment.parseSegment_eq {s : Luks2Segment} (h : StoresSegment v s) :
    parseSegment s.id v = some s := by
  obtain ⟨⟨x, hx, hoffset⟩, henc, ⟨y, hy, hsize⟩, htweak⟩ := h
  have hiv : (asU64 ((v.get "iv_tweak").getD .null)).toBitVec.setWidth 128 = s.ivTweak := by
    rcases htweak with ⟨z, hz, hwrites⟩ | ⟨hnone, hzero⟩
    · refine BitVec.eq_of_toNat_eq ?_
      rw [hz, Option.getD_some, hwrites.asU64_eq, BitVec.toNat_setWidth]
      change (UInt64.ofNat s.ivTweak.toNat).toNat % 2 ^ 128 = _
      rw [UInt64.toNat_ofNat_of_lt' hwrites.lt, Nat.mod_eq_of_lt s.ivTweak.isLt]
    · rw [hnone, hzero]
      rfl
  simp [parseSegment, hx, hoffset.asU64_toNat, henc.asStr, hy, hsize.asU64_toNat, hiv]

theorem StoresDigest.parseDigest_eq {d : Luks2Digest} (h : StoresDigest K v d) :
    parseDigest K v = some d := by
  obtain ⟨hkind, hhash, hiterations, hsalt, hdigest, hkeyslots⟩ := h
  obtain ⟨x, hx, hsaltBytes⟩ := hsalt.b64
  obtain ⟨y, hy, hdigestBytes⟩ := hdigest.b64
  have hcount : (asU64 ((v.get "iterations").getD .null)).toUInt32 = d.iterations := by
    rcases hiterations with ⟨z, hz, hwrites⟩ | ⟨hnone, hzero⟩
    · rw [hz, Option.getD_some, hwrites.toUInt32_asU64]
    · rw [hnone, hzero]
      rfl
  have hnames : (((v.get "keyslots").bind Value.asArray).getD []).filterMap Value.asStr =
      d.keyslots := by
    rcases hkeyslots with heq | ⟨hnone, hnil⟩
    · simp [heq, Value.asArray, List.filterMap_map, Function.comp_def, Value.asStr]
    · rw [hnone, hnil]
      rfl
  simp [parseDigest, hkind.asStr, hhash.getD, hcount, hx, hsaltBytes, hy, hdigestBytes, hnames]

/-- Entries that are all read are read in order. -/
theorem filterMap_of_forall₂ {α β : Type} {f : α → Option β} {R : α → β → Prop} {l : List α}
    {l' : List β} (hR : ∀ a b, R a b → f a = some b) (h : List.Forall₂ R l l') :
    l.filterMap f = l' := by
  induction h with
  | nil => rfl
  | cons hab _ ih => rw [List.filterMap_cons_some (hR _ _ hab), ih]

/-- **A document describes what it stores.** -/
theorem Luks2Header.ofDocument_of_stores {root : Value} {m : Luks2Metadata}
    (h : StoresMetadata K root m) (version : UInt16) (hdrSize : UInt64) :
    ofDocument K version hdrSize root = ⟨version, hdrSize, m.keyslots, m.segments, m.digests⟩ := by
  rw [ofDocument, filterMap_of_forall₂ (fun e slot he => ?_) h.keyslots,
    filterMap_of_forall₂ (fun e s he => ?_) h.segments,
    filterMap_of_forall₂ (fun e d he => ?_) h.digests]
  · exact he.parseDigest_eq
  · rw [he.1]
    exact he.2.parseSegment_eq
  · rw [he.1]
    exact he.2.parseKeyslot_eq

end Luks
