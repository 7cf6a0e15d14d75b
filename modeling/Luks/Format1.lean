import Luks.Basis.Region
import Luks.Formatter

/-!
# A formatted LUKS1 container

The container a formatter makes (`Luks.Format1`): a header, a master key split into
the key material of each enabled keyslot, and a payload encrypted sector by sector.
What a description leaves open – which slots are enabled, what the stripes are filled
with, where the areas stand, what the container holds elsewhere – is arbitrary.

### The round trip

* the header reads back (`Luks.Luks1Header.parse_encode`);
* every enabled keyslot holds the master key, under its passphrase
  (`Luks.Layout1.candidate1_self`), and some candidate under any other;
* so an unlock with one of the passphrases finds the master key, and the payload it
  returns shows the plaintext (`Luks.format1_roundtrip`).
-/

namespace Luks

open Basis

/-! ### Writing the header -/

namespace Keyslot

/-- The fields of a keyslot record, in the order they stand in. -/
def fields (k : Keyslot) : List Bytes :=
  [toBe 4 k.active.toNat, toBe 4 k.iterations.toNat, k.salt.toList,
    toBe 4 k.keyMaterialOffset.toNat, toBe 4 k.stripes.toNat]

/-- The record of a keyslot. -/
def encode (k : Keyslot) : Bytes := k.fields.flatten

theorem map_length_fields (k : Keyslot) : k.fields.map List.length = [4, 4, 32, 4, 4] := by
  have hsalt : k.salt.toList.length = 32 := k.salt.toList_length
  simp [fields, hsalt]

@[simp] theorem length_encode (k : Keyslot) : k.encode.length = keyslotLen := by
  rw [encode, List.length_flatten, map_length_fields]
  rfl

/-- Each field of a record is found at its offset. -/
theorem window_encode {k : Keyslot} {i off n : ℕ} {field : Bytes}
    (hi : k.fields[i]? = some field) (hoff : (([4, 4, 32, 4, 4] : List ℕ).take i).sum = off)
    (hn : field.length = n) : window k.encode off n = field :=
  window_fields hi (by rw [map_length_fields, hoff]) hn

end Keyslot

namespace Luks1Header

/-- The fields of a header, in the order they stand in. -/
def fields (h : Luks1Header) : List Bytes :=
  [luksMagic.toList, toBe 2 h.version.toNat, textField 32 h.cipherName, textField 32 h.cipherMode,
    textField 32 h.hashSpec, toBe 4 h.payloadOffset.toNat, toBe 4 h.keyBytes.toNat,
    h.mkDigest.toList, h.mkDigestSalt.toList, toBe 4 h.mkDigestIter.toNat, textField 40 h.uuid,
    (List.ofFn fun i => (h.keyslots i).encode).flatten]

/-- The bytes of a header. -/
def encode (h : Luks1Header) : Bytes := h.fields.flatten

/-- A header of version 1 whose texts fit their fields. -/
structure Encodable (h : Luks1Header) : Prop where
  /-- It has version 1. -/
  version : h.version = 1
  /-- The cipher name fits. -/
  cipherName : TextFits 32 h.cipherName
  /-- The cipher mode fits. -/
  cipherMode : TextFits 32 h.cipherMode
  /-- The hash name fits. -/
  hashSpec : TextFits 32 h.hashSpec
  /-- The UUID fits. -/
  uuid : TextFits 40 h.uuid

variable {h : Luks1Header}

theorem length_of_mem_keyslots {bs : Bytes}
    (hbs : bs ∈ List.ofFn fun i => (h.keyslots i).encode) : bs.length = keyslotLen := by
  obtain ⟨i, rfl⟩ := (List.mem_ofFn' _ _).mp hbs
  exact Keyslot.length_encode _

theorem map_length_fields (h : Luks1Header) :
    h.fields.map List.length = [6, 2, 32, 32, 32, 4, 4, 20, 32, 4, 40, 384] := by
  have hslots := length_flatten_of_length fun _ => length_of_mem_keyslots (h := h)
  rw [List.length_ofFn] at hslots
  have hdigest : h.mkDigest.toList.length = 20 := h.mkDigest.toList_length
  have hsalt : h.mkDigestSalt.toList.length = 32 := h.mkDigestSalt.toList_length
  simp only [fields, List.map_cons, List.map_nil, hslots, hdigest, hsalt]
  simp [luksNumKeys, keyslotLen]

@[simp] theorem length_encode (h : Luks1Header) : h.encode.length = luks1PhdrLen := by
  rw [encode, List.length_flatten, map_length_fields]
  rfl

/-- Each field of a header is found at its offset. -/
theorem window_encode {i off n : ℕ} {field : Bytes} (hi : h.fields[i]? = some field)
    (hoff : (([6, 2, 32, 32, 32, 4, 4, 20, 32, 4, 40, 384] : List ℕ).take i).sum = off)
    (hn : field.length = n) : window h.encode off n = field :=
  window_fields hi (by rw [map_length_fields, hoff]) hn

/-- Each keyslot record is found at its offset. -/
theorem window_encode_keyslot (i : Fin luksNumKeys) {w k : ℕ} (hw : w + k ≤ keyslotLen) :
    window h.encode (208 + i * keyslotLen + w) k = window (h.keyslots i).encode w k := by
  have hflat := length_flatten_of_length fun _ => length_of_mem_keyslots (h := h)
  rw [List.length_ofFn] at hflat
  have hslots : window h.encode 208 384 = (List.ofFn fun i => (h.keyslots i).encode).flatten :=
    window_encode (i := 11) rfl rfl hflat
  have hmul : i * keyslotLen + (w + k) ≤ 384 := by
    have hle := Nat.mul_le_mul_right keyslotLen (Nat.succ_le_of_lt i.isLt)
    rw [Nat.succ_mul] at hle
    exact le_trans (by omega) (hle.trans (by decide))
  have hunit := window_flatten (w := w) (k := k) (u := i)
    (fun bs hbs => length_of_mem_keyslots (h := h) hbs) (by simp) hw
  rw [← hslots, window_window _ (by omega), List.getElem_ofFn] at hunit
  rw [Nat.add_assoc]
  exact hunit

/-- A keyslot record reads back. -/
theorem parseKeyslotAt_encode (i : Fin luksNumKeys) :
    parseKeyslotAt h.encode (208 + i * keyslotLen) = h.keyslots i := by
  have hfit : 208 + i * keyslotLen + keyslotLen ≤ h.encode.length := by
    have hle := Nat.mul_le_mul_right keyslotLen (Nat.succ_le_of_lt i.isLt)
    rw [Nat.succ_mul] at hle
    rw [length_encode]
    exact le_trans (by omega) (Nat.add_le_add_left hle 208)
  have hfield : ∀ {w k j field}, (h.keyslots i).fields[j]? = some field →
      (([4, 4, 32, 4, 4] : List ℕ).take j).sum = w → field.length = k → w + k ≤ keyslotLen →
      window h.encode (208 + i * keyslotLen + w) k = field := fun hj hw hk hle => by
    rw [window_encode_keyslot i hle, Keyslot.window_encode hj hw hk]
  -- four of the five fields are integers
  have hint : ∀ {w j} {x : UInt32}, (h.keyslots i).fields[j]? = some (toBe 4 x.toNat) →
      (([4, 4, 32, 4, 4] : List ℕ).take j).sum = w → w + 4 ≤ keyslotLen →
      beU32 h.encode (208 + i * keyslotLen + w) = x := fun hj hw hle =>
    beU32_of_window (by omega) (hfield hj hw (length_toBe _ _) hle)
  have hsalt : bytesN saltLen h.encode (208 + i * keyslotLen + 8) = (h.keyslots i).salt :=
    bytesN_of_window (le_trans (show _ + 8 + 32 ≤ _ + 48 by omega) hfit)
      (hfield (j := 2) rfl rfl (List.Vector.toList_length _) (by decide))
  rw [parseKeyslotAt, hint (w := 4) (j := 1) rfl rfl (by decide), hsalt,
    hint (w := 40) (j := 3) rfl rfl (by decide), hint (w := 44) (j := 4) rfl rfl (by decide),
    ← Nat.add_zero (208 + i * keyslotLen), hint (w := 0) (j := 0) rfl rfl (by decide)]

/-- **A header reads back.** -/
theorem parse_encode (hfits : h.Encodable) : parse h.encode = .ok h := by
  have hlen : h.encode.length = 592 := length_encode h
  -- field by field: the window of the field is what was written there
  have hmagic : bytesN 6 h.encode 0 = luksMagic :=
    bytesN_of_window (by omega) (window_encode (i := 0) rfl rfl rfl)
  have hversion : beU16 h.encode 6 = h.version :=
    beU16_of_window (by omega) (window_encode (i := 1) rfl rfl (length_toBe _ _))
  have hname : cstr h.encode 8 32 = h.cipherName := cstr_of_window (by omega) hfits.cipherName
    (window_encode (i := 2) rfl rfl (length_textField _ _))
  have hmode : cstr h.encode 40 32 = h.cipherMode := cstr_of_window (by omega) hfits.cipherMode
    (window_encode (i := 3) rfl rfl (length_textField _ _))
  have hhash : cstr h.encode 72 32 = h.hashSpec := cstr_of_window (by omega) hfits.hashSpec
    (window_encode (i := 4) rfl rfl (length_textField _ _))
  have hpayload : beU32 h.encode 104 = h.payloadOffset :=
    beU32_of_window (by omega) (window_encode (i := 5) rfl rfl (length_toBe _ _))
  have hkey : beU32 h.encode 108 = h.keyBytes :=
    beU32_of_window (by omega) (window_encode (i := 6) rfl rfl (length_toBe _ _))
  have hdigest : bytesN mkDigestLen h.encode 112 = h.mkDigest := bytesN_of_window
    (by rw [hlen]; decide) (window_encode (i := 7) rfl rfl (List.Vector.toList_length _))
  have hsalt : bytesN saltLen h.encode 132 = h.mkDigestSalt := bytesN_of_window
    (by rw [hlen]; decide) (window_encode (i := 8) rfl rfl (List.Vector.toList_length _))
  have hiter : beU32 h.encode 164 = h.mkDigestIter :=
    beU32_of_window (by omega) (window_encode (i := 9) rfl rfl (length_toBe _ _))
  have huuid : cstr h.encode 168 40 = h.uuid := cstr_of_window (by omega) hfits.uuid
    (window_encode (i := 10) rfl rfl (length_textField _ _))
  rw [parse]
  simp only [hmagic, hversion, hname, hmode, hhash, hpayload, hkey, hdigest, hsalt, hiter, huuid,
    parseKeyslotAt_encode, hfits.version, ne_eq, not_true_eq_false, if_false]
  rw [if_neg (by rw [hlen]; decide), ← hfits.version]

end Luks1Header

/-! ### The container -/

/-- An enabled keyslot. -/
structure EnabledSlot (keyLen : ℕ) where
  /-- The passphrase it is opened with. -/
  passphrase : Bytes
  /-- PBKDF2 iteration count. -/
  iterations : UInt32
  /-- PBKDF2 salt. -/
  salt : List.Vector UInt8 saltLen
  /-- Where the key material starts, in sectors. -/
  keyMaterialOffset : UInt32
  /-- What the key is split with. -/
  stripes : Stripes keyLen
  /-- There is an iteration. -/
  iterations_pos : 1 ≤ iterations.toNat

namespace EnabledSlot

variable {keyLen : ℕ} (s : EnabledSlot keyLen)

/-- The record of the slot in the header. -/
def record : Keyslot where
  active := keyEnabled
  iterations := s.iterations
  salt := s.salt
  keyMaterialOffset := s.keyMaterialOffset
  stripes := UInt32.ofNat s.stripes.count

/-- Where the key material stands. -/
def extent : Extent where
  offset := s.keyMaterialOffset.toNat * sector
  len := Spec.sectorRounded (keyLen * s.stripes.count)

theorem toNat_stripes : s.record.stripes.toNat = s.stripes.count := by
  have hle : s.stripes.count ≤ 2 ^ 20 := s.stripes.count_le
  exact UInt32.toNat_ofNat_of_lt' (lt_of_le_of_lt hle (by decide))

end EnabledSlot

/-- What goes into a LUKS1 container. -/
structure Contents1 where
  /-- The name of the cipher. -/
  cipherName : String
  /-- The hash of every derivation and of the splitter. -/
  hash : Hash
  /-- The master key. -/
  masterKey : Bytes
  /-- The salt of its digest. -/
  mkDigestSalt : List.Vector UInt8 saltLen
  /-- The iteration count of its digest. -/
  mkDigestIter : UInt32
  /-- Where the payload starts, in sectors. -/
  payloadOffset : UInt32
  /-- The UUID. -/
  uuid : String
  /-- The enabled keyslots, at their positions. -/
  slots : Fin luksNumKeys → Option (EnabledSlot masterKey.length)
  /-- What the record at a position without an enabled keyslot holds. -/
  unused : Fin luksNumKeys → Keyslot
  /-- The plaintext. -/
  plain : Bytes
  /-- What the container holds elsewhere. -/
  rest : Bytes

namespace Contents1

variable (F : Contents1)

/-- The enabled keyslots. -/
def enabled : List (EnabledSlot F.masterKey.length) := (List.ofFn F.slots).filterMap id

/-- Where the payload stands. -/
def payloadExtent : Extent := ⟨F.payloadOffset.toNat * sector, F.plain.length⟩

/-- The parts of the container that are written: header, payload, key material. -/
def extents : List Extent :=
  ⟨0, luks1PhdrLen⟩ :: F.payloadExtent :: F.enabled.map EnabledSlot.extent

theorem mem_enabled {s : EnabledSlot F.masterKey.length} :
    s ∈ F.enabled ↔ ∃ i, F.slots i = some s := by
  simp [enabled, List.mem_ofFn]

end Contents1

/-- The contents of a LUKS1 container with a place for everything. -/
structure Layout1 extends Contents1 where
  /-- The master key has a size for AES-XTS. -/
  isXtsKey : IsXtsKey masterKey
  /-- There is an iteration of the digest. -/
  mkDigestIter_pos : 1 ≤ mkDigestIter.toNat
  /-- The cipher name fits its field. -/
  cipherName_fits : TextFits 32 cipherName
  /-- The UUID fits its field. -/
  uuid_fits : TextFits 40 uuid
  /-- The plaintext is a whole number of sectors. -/
  sectors : ∃ k, plain.length = k * sector
  /-- The container has room for everything. -/
  fits : ∀ e ∈ toContents1.extents, e.stop ≤ rest.length
  /-- Nothing overlaps. -/
  apart : toContents1.extents.Pairwise Extent.Apart

namespace Layout1

variable (K : Crates) (enc : Encipher) (F : Layout1)

/-- The digest of the master key. -/
def mkDigest : List.Vector UInt8 mkDigestLen :=
  ⟨K.pbkdf2Hmac F.hash F.masterKey F.mkDigestSalt.toList F.mkDigestIter.toNat mkDigestLen,
    K.length_pbkdf2Hmac ..⟩

/-- The header. -/
def header : Luks1Header where
  version := 1
  cipherName := F.cipherName
  cipherMode := "xts-plain64"
  hashSpec := F.hash.name
  payloadOffset := F.payloadOffset
  keyBytes := UInt32.ofNat F.masterKey.length
  mkDigest := F.mkDigest K
  mkDigestSalt := F.mkDigestSalt
  mkDigestIter := F.mkDigestIter
  uuid := F.uuid
  keyslots := fun i => (F.slots i).elim (F.unused i) EnabledSlot.record

/-- The key that a keyslot derives from its passphrase. -/
def slotKey (s : EnabledSlot F.masterKey.length) : Bytes :=
  K.pbkdf2Hmac F.hash s.passphrase s.salt.toList s.iterations.toNat F.masterKey.length

/-- What is written: the header, the payload, and the key material of each enabled
keyslot. -/
def regions : List (Region UInt8) :=
  ⟨0, (F.header K).encode⟩ ::
    ⟨F.payloadExtent.offset, encryptArea enc F.masterKey F.plain sector 0⟩ ::
    F.enabled.map fun s =>
      ⟨s.extent.offset, s.stripes.material (K.digest F.hash) enc (F.slotKey K s)⟩

/-- **The bytes of the container.** -/
def image : Bytes := writeAll F.rest (F.regions K enc)

/-- No wrong candidate is accepted: what an enabled keyslot gives under the passphrase
of another is the master key, if the digest verifies it. -/
def NoCollision : Prop :=
  ∀ s ∈ F.enabled, ∀ t ∈ F.enabled, ∀ c,
    Spec.candidate1 K (F.image K enc) (F.header K) t.passphrase s.record = .ok (some c) →
      Spec.Verifies1 K (F.header K) c → c = F.masterKey

variable {K enc F}

theorem toNat_keyBytes : (F.header K).keyBytes.toNat = F.masterKey.length := by
  have hle := F.isXtsKey.length_le
  exact UInt32.toNat_ofNat_of_lt' (lt_of_le_of_lt hle (by decide))

/-! ### Finding what was written -/

section Regions

variable (h : Inverts K enc)

include h

theorem map_extent_regions : (F.regions K enc).map Region.extent = F.extents := by
  obtain ⟨k, hk⟩ := F.sectors
  have hpayload : (encryptArea enc F.masterKey F.plain sector 0).length = F.plain.length := by
    rw [h.length_encryptArea (by decide) hk, hk]
  rw [regions, Contents1.extents, List.map_cons, List.map_cons, List.map_map]
  refine congr_arg₂ _ (congrArg (Extent.mk 0) (Luks1Header.length_encode _)) (congr_arg₂ _
    (congrArg (Extent.mk _) hpayload) (List.map_congr_left fun s _ => ?_))
  exact congrArg (Extent.mk _) (s.stripes.length_material h _ _)

theorem laidOut : LaidOut F.rest (F.regions K enc) :=
  .of_extents (map_extent_regions h) F.fits F.apart

theorem length_image : (F.image K enc).length = F.rest.length := (laidOut h).length_writeAll

theorem extent_stop_le {s : EnabledSlot F.masterKey.length} (hs : s ∈ F.enabled) :
    s.extent.offset + s.extent.len ≤ (F.image K enc).length := by
  rw [length_image h]
  refine F.fits s.extent ?_
  simp only [Contents1.extents, List.mem_cons]
  exact Or.inr (Or.inr (List.mem_map_of_mem hs))

theorem window_material {s : EnabledSlot F.masterKey.length} (hs : s ∈ F.enabled) :
    window (F.image K enc) s.extent.offset
      (Spec.sectorRounded (F.masterKey.length * s.stripes.count)) =
        s.stripes.material (K.digest F.hash) enc (F.slotKey K s) := by
  refine (laidOut h).window_writeAll ?_ (s.stripes.length_material h _ _)
  simp only [regions, List.mem_cons]
  exact Or.inr (Or.inr (List.mem_map_of_mem hs))

theorem window_payload : window (F.image K enc) F.payloadExtent.offset F.plain.length =
    encryptArea enc F.masterKey F.plain sector 0 := by
  obtain ⟨k, hk⟩ := F.sectors
  exact (laidOut h).window_writeAll (by simp [regions])
    (by rw [h.length_encryptArea (by decide) hk, hk])

theorem phdrLen_le : luks1PhdrLen ≤ (F.image K enc).length := by
  rw [length_image h, ← Nat.zero_add luks1PhdrLen]
  exact F.fits ⟨0, luks1PhdrLen⟩ (by simp [Contents1.extents])

theorem window_header : window (F.image K enc) 0 luks1PhdrLen = (F.header K).encode :=
  (laidOut h).window_writeAll (by simp [regions]) (Luks1Header.length_encode _)

end Regions

/-! ### Reading the header -/

theorem encodable_header : (F.header K).Encodable where
  version := rfl
  cipherName := F.cipherName_fits
  cipherMode := by
    change TextFits 32 "xts-plain64"
    decide
  hashSpec := by
    change TextFits 32 F.hash.name
    cases F.hash <;> decide
  uuid := F.uuid_fits

/-- The header of the container is the one that was written. -/
theorem header1_image (h : Inverts K enc) :
    Spec.header1 (F.image K enc) = .ok (F.header K) := by
  rw [Spec.header1, Spec.readFill_front (phdrLen_le h), window_header h, ok_bind]
  exact Luks1Header.parse_encode encodable_header

theorem beU16_image (h : Inverts K enc) : beU16 (F.image K enc) 6 = 1 := by
  have hle := phdrLen_le h (F := F)
  rw [← beU16_window (n := luks1PhdrLen) (by decide) hle, window_header h]
  exact beU16_of_window (by rw [Luks1Header.length_encode]; decide)
    (Luks1Header.window_encode (i := 1) rfl rfl (length_toBe _ _))

/-- The records at the other positions are not marked enabled. -/
def UnusedInactive (F : Layout1) : Prop := ∀ i, (F.unused i).active ≠ keyEnabled

/-- The active keyslots of the header are the records of the enabled ones. -/
theorem mem_activeKeyslots (hunused : F.UnusedInactive) {k : Keyslot} :
    k ∈ (F.header K).activeKeyslots ↔ ∃ s ∈ F.enabled, k = s.record := by
  rw [Luks1Header.mem_activeKeyslots]
  constructor
  · rintro ⟨⟨i, rfl⟩, hactive⟩
    cases hs : F.slots i with
    | none =>
      refine absurd ?_ (hunused i)
      simpa [header, hs] using hactive
    | some s => exact ⟨s, F.mem_enabled.mpr ⟨i, hs⟩, by simp [header, hs]⟩
  · rintro ⟨s, hs, rfl⟩
    obtain ⟨i, hi⟩ := F.mem_enabled.mp hs
    exact ⟨⟨i, by simp [header, hi]⟩, rfl⟩

/-! ### Opening the keyslots -/

theorem isXtsKey_pbkdf2Hmac (hash : Hash) (password salt : Bytes) (iterations : ℕ) :
    IsXtsKey (K.pbkdf2Hmac hash password salt iterations F.masterKey.length) := by
  rw [IsXtsKey, K.length_pbkdf2Hmac]
  exact F.isXtsKey

/-- The candidate of an enabled keyslot is in its key material, under the key that
PBKDF2 gives. -/
theorem candidate1_record (img passphrase : Bytes) (s : EnabledSlot F.masterKey.length) :
    Spec.candidate1 K img (F.header K) passphrase s.record =
      Spec.openMaterial K img "xts-plain64" F.hash.name
        (K.pbkdf2Hmac F.hash passphrase s.salt.toList s.iterations.toNat F.masterKey.length)
        s.extent.offset F.masterKey.length s.stripes.count := by
  have hlen : F.masterKey.length ≤ maxKeyBytes := F.isXtsKey.length_le.trans (by decide)
  rw [Spec.candidate1, toNat_keyBytes, s.toNat_stripes]
  change Spec.deriveKey K F.hash.name passphrase s.salt.toList s.iterations _ >>= _ = _
  rw [Spec.deriveKey_name F.hash _ _ s.iterations_pos hlen]
  rfl

/-- **An enabled keyslot holds the master key**, under its passphrase. -/
theorem candidate1_self (h : Inverts K enc) {s : EnabledSlot F.masterKey.length}
    (hs : s ∈ F.enabled) :
    Spec.candidate1 K (F.image K enc) (F.header K) s.passphrase s.record =
      .ok (some F.masterKey) := by
  rw [candidate1_record]
  exact Spec.openMaterial_of_material h s.stripes F.hash (isXtsKey_pbkdf2Hmac ..)
    (window_material h hs)

/-- An enabled keyslot holds some candidate under any passphrase. -/
theorem exists_candidate1 (h : Inverts K enc) (passphrase : Bytes)
    {s : EnabledSlot F.masterKey.length} (hs : s ∈ F.enabled) :
    ∃ c, Spec.candidate1 K (F.image K enc) (F.header K) passphrase s.record = .ok (some c) := by
  rw [candidate1_record]
  exact Spec.exists_openMaterial F.hash (isXtsKey_pbkdf2Hmac ..) s.stripes.count_le
    (inside_of_le (extent_stop_le h hs))

/-- The digest of the header verifies the master key. -/
theorem verifies1_masterKey : Spec.Verifies1 K (F.header K) F.masterKey := by
  have hlen : (F.mkDigest K).toList.length = mkDigestLen := List.Vector.toList_length _
  change Spec.deriveKey K F.hash.name F.masterKey F.mkDigestSalt.toList F.mkDigestIter
    (F.mkDigest K).toList.length = .ok (F.mkDigest K).toList
  rw [hlen, Spec.deriveKey_name F.hash _ _ F.mkDigestIter_pos (by decide)]
  rfl

/-- A candidate is verified or refuted, nothing else. -/
theorem verify1_of_not_verifies {c : Bytes} (hc : ¬Spec.Verifies1 K (F.header K) c) :
    Spec.verify1 K (F.header K) c = .ok false := by
  have hlen : (F.mkDigest K).toList.length = mkDigestLen := List.Vector.toList_length _
  refine Spec.verify_eq_false_iff.mpr ⟨?_, supportedHash_name F.hash, hc⟩
  change (F.mkDigest K).toList.length ≤ maxKeyBytes
  rw [hlen]
  decide

/-- With one keyslot there is no other passphrase to collide with. -/
theorem noCollision_of_single (h : Inverts K enc) {t : EnabledSlot F.masterKey.length}
    (ht : F.enabled = [t]) : F.NoCollision K enc := by
  intro s hs t' ht' c hc _
  have hmem : t ∈ F.enabled := by simp [ht]
  obtain rfl : s = t := by simpa [ht] using hs
  obtain rfl : t' = s := by simpa [ht] using ht'
  rw [candidate1_self h hmem] at hc
  exact (Option.some.inj (Except.ok.inj hc)).symm

/-- **The recovery finds the master key** under the passphrase of any enabled
keyslot: the ones before it pass, or hold it too. -/
theorem recoverMasterKey1_image (h : Inverts K enc) (hunused : F.UnusedInactive)
    (hcoll : F.NoCollision K enc) {t : EnabledSlot F.masterKey.length} (ht : t ∈ F.enabled) :
    ∃ r, Spec.recoverMasterKey1 K (F.image K enc) (F.header K) t.passphrase = .ok r ∧
      r.key = F.masterKey := by
  -- each keyslot is passed over or gives the master key, and `t` gives one
  have hstep : ∀ k ∈ (F.header K).activeKeyslots,
      Spec.tryKeyslot1 K (F.image K enc) (F.header K) t.passphrase k = .ok none ∨
        ∃ r, Spec.tryKeyslot1 K (F.image K enc) (F.header K) t.passphrase k = .ok (some r) ∧
          r.key = F.masterKey := by
    intro k hk
    obtain ⟨s, hs, rfl⟩ := (mem_activeKeyslots hunused).mp hk
    obtain ⟨c, hc⟩ := exists_candidate1 h t.passphrase hs
    by_cases hverifies : Spec.Verifies1 K (F.header K) c
    · exact Or.inr ⟨⟨c, .luks1 s.record⟩,
        Spec.tryKeyslot1_eq_some_iff.mpr ⟨hc, hverifies, rfl⟩, hcoll s hs t ht c hc hverifies⟩
    · exact Or.inl (Spec.tryKeyslot1_eq_none_iff.mpr
        (Or.inr ⟨c, hc, verify1_of_not_verifies hverifies⟩))
  have hstop : ∃ k ∈ (F.header K).activeKeyslots,
      Spec.tryKeyslot1 K (F.image K enc) (F.header K) t.passphrase k ≠ .ok none := by
    have hself := Spec.tryKeyslot1_eq_some_iff (r := ⟨F.masterKey, .luks1 t.record⟩) |>.mpr
      ⟨candidate1_self h ht, verifies1_masterKey, rfl⟩
    refine ⟨t.record, (mem_activeKeyslots hunused).mpr ⟨t, ht, rfl⟩, ?_⟩
    rw [hself]
    intro hnone
    cases hnone
  obtain ⟨r, hr, hkey⟩ := exists_findSomeM?_eq_some hstep hstop
  refine ⟨r, ?_, hkey⟩
  rw [Spec.recoverMasterKey1, hr]
  rfl

/-- The container unlocks to its payload, under the master key. -/
theorem unlock_image (h : Inverts K enc) (hunused : F.UnusedInactive)
    (hcoll : F.NoCollision K enc) {t : EnabledSlot F.masterKey.length} (ht : t ∈ F.enabled) :
    ∃ acceptedBy, Spec.unlock K (F.image K enc) t.passphrase = .ok
      ⟨(F.header K).payload (F.image K enc) F.masterKey (F.image K enc).length, acceptedBy⟩ := by
  obtain ⟨⟨key, acceptedBy⟩, hr, rfl⟩ := recoverMasterKey1_image h hunused hcoll ht
  have hunlock := Spec.unlock1_eq_ok_iff.mpr ⟨F.header K, _, header1_image h, hr, rfl⟩
  have hle : 8 ≤ (F.image K enc).length := le_trans (by decide) (phdrLen_le h)
  refine ⟨acceptedBy, ?_⟩
  rw [Spec.unlock_eq_of_le hle, if_pos (beU16_image h)]
  exact hunlock

/-- **A wrong passphrase is refused**: one under which no enabled keyslot holds a key that the
digest verifies. -/
theorem unlock_image_of_wrong (h : Inverts K enc) (hunused : F.UnusedInactive)
    (hne : F.enabled ≠ []) {p : Bytes} (hwrong : ∀ s ∈ F.enabled, ∀ c,
      Spec.candidate1 K (F.image K enc) (F.header K) p s.record = .ok (some c) →
        ¬Spec.Verifies1 K (F.header K) c) :
    Spec.unlock K (F.image K enc) p = .error .authenticationFailed := by
  have hfailed : Spec.recoverMasterKey1 K (F.image K enc) (F.header K) p =
      .error .authenticationFailed := by
    refine Spec.recoverMasterKey1_eq_failed_iff.mpr fun k hk => ?_
    obtain ⟨s, hs, rfl⟩ := (mem_activeKeyslots hunused).mp hk
    obtain ⟨c, hc⟩ := exists_candidate1 h p hs
    exact Spec.tryKeyslot1_eq_none_iff.mpr
      (Or.inr ⟨c, hc, verify1_of_not_verifies (hwrong s hs c hc)⟩)
  have hactive : (F.header K).activeKeyslots ≠ [] := by
    obtain ⟨s, hs⟩ := List.exists_mem_of_ne_nil _ hne
    exact List.ne_nil_of_mem ((mem_activeKeyslots hunused).mpr ⟨s, hs, rfl⟩)
  have hle : 8 ≤ (F.image K enc).length := le_trans (by decide) (phdrLen_le h)
  rw [Spec.unlock_eq_of_le hle, if_pos (beU16_image h),
    Spec.unlock1_eq (header1_image h) hactive, hfailed]
  rfl

/-- A volume over the payload of the container shows the plaintext. -/
theorem shows_payload {ρ : Type} [ImageReader ρ] (h : Inverts K enc) {p : DecryptedPayload ρ}
    {total : ℕ} (hp : p.map ImageReader.image =
      (F.header K).payload (F.image K enc) F.masterKey total) :
    ∃ k, DecryptedPayload.Shows K p (F.image K enc) F.plain k := by
  obtain ⟨k, hk⟩ := F.sectors
  have hfit : F.payloadExtent.offset + F.plain.length ≤ (F.image K enc).length := by
    rw [length_image h]
    exact F.fits F.payloadExtent (by simp [Contents1.extents])
  have hoffset : ((F.header K).payload (F.image K enc) F.masterKey total).payloadOffset.toNat =
      F.payloadExtent.offset :=
    UInt64.toNat_ofNat_of_lt' (lt_of_lt_of_le (Luks1Header.payloadByteOffset_lt _) (by decide))
  have hlt : (F.image K enc).length < 2 ^ 63 := by
    have himg : ImageReader.image p.reader = F.image K enc := congrArg DecryptedPayload.reader hp
    exact himg ▸ ImageReader.image_lt p.reader
  have hsector : k ≤ k * sector := Nat.le_mul_of_pos_right k (by decide)
  refine ⟨k, DecryptedPayload.shows_of_encryptArea h hp rfl F.isXtsKey hk ?_ ?_ fun u hu => ?_⟩
  · rw [hoffset]
    exact hfit
  · rw [hoffset]
    exact window_payload h
  · have hunit : ((F.header K).payload (F.image K enc) F.masterKey total).unitSize = 512 := rfl
    have htweak : ((F.header K).payload (F.image K enc) F.masterKey total).ivTweak.toNat = 0 := rfl
    rw [hunit, htweak, show tweakStep 512 = 1 from rfl]
    omega

end Layout1

/-- **A LUKS1 container as a formatter makes it.** -/
structure Format1 extends Layout1 where
  /-- Only the enabled keyslots are marked enabled. -/
  unusedInactive : toLayout1.UnusedInactive

/-- **The LUKS1 round trip.** A container a formatter made unlocks with the passphrase
of every enabled keyslot, to a volume with the master key that was put in, of which
every read in range gives the plaintext that was put in – unless it is refused on its
budget. -/
theorem format1_roundtrip {ρ : Type} [ImageReader ρ] {K : Crates} {enc : Encipher}
    (h : Inverts K enc) (F : Format1) (hcoll : F.NoCollision K enc)
    {t : EnabledSlot F.masterKey.length} (ht : t ∈ F.enabled) (clk : Clock) (budget : Duration)
    (r : ρ) (hr : ImageReader.image r = F.image K enc)
    (hbudget : ∀ e, (unlockWithPassphraseWithin K clk t.passphrase budget (World.init r)).out =
      .err e → ¬e.IsBudgetRefusal) :
    ∃ u, (unlockWithPassphraseWithin K clk t.passphrase budget (World.init r)).out = .ok u ∧
      u.payload.masterKey = F.masterKey ∧
      ∀ offset len, offset.toNat + len ≤ F.plain.length →
        (DecryptedPayload.readAt K offset len u.payload).out =
          .ok (window F.plain offset.toNat len) := by
  obtain ⟨acceptedBy, hspec⟩ := Layout1.unlock_image h F.unusedInactive hcoll ht
  -- the image says version 1
  have hsane : beU16 (F.image K enc) 6 = 2 → ¬Oversized (F.image K enc) := by
    intro htwo
    rw [Layout1.beU16_image h] at htwo
    cases htwo
  have hrun := unlock_run (ρ := ρ) K clk hsane budget t.passphrase
  rw [hspec] at hrun
  rcases hrun.ok_or_refused (hr ▸ opens_init r) with ⟨u, hu, himg⟩ | ⟨e, he, hout⟩
  · obtain ⟨k, hshows⟩ := Layout1.shows_payload h (congrArg Unlocked.payload himg)
    exact ⟨u, hu, congrArg (fun v : Unlocked Bytes => v.payload.masterKey) himg,
      fun offset len hrange => hshows.readAt hrange⟩
  · exact absurd he.1 (hbudget e hout)

/-! ### One container -/

namespace Sample

/-- A keyslot of the master key. -/
def slot1 : EnabledSlot masterKey.length where
  passphrase := passphrase
  iterations := 1000
  salt := ⟨salt, rfl⟩
  keyMaterialOffset := 8
  stripes := stripes
  iterations_pos := by decide

/-- The contents of a LUKS1 container with the keyslot in position 3, for a cipher of
some name and with some records in the other positions. -/
def contents1 (cipherName : String) (unused : Keyslot) : Contents1 where
  cipherName := cipherName
  hash := .sha1
  masterKey := masterKey
  mkDigestSalt := ⟨digestSalt, rfl⟩
  mkDigestIter := 1000
  payloadOffset := 16
  uuid := "e4d1a6f0-3b1c-4b6e-9a57-6f1d0c2b8e11"
  slots := fun i => if i.val = 3 then some slot1 else none
  unused := fun _ => unused
  plain := plain
  rest := List.replicate 8704 0

section

variable (cipherName : String) (unused : Keyslot)

theorem enabled_contents1 : (contents1 cipherName unused).enabled = [slot1] := rfl

theorem length_rest1 : (contents1 cipherName unused).rest.length = 8704 := List.length_replicate

theorem extents_contents1 :
    (contents1 cipherName unused).extents = [⟨0, 592⟩, ⟨8192, 512⟩, ⟨4096, 512⟩] := by
  have hplain : (contents1 cipherName unused).plain.length = 512 := List.length_replicate
  have hoffset : (contents1 cipherName unused).payloadOffset.toNat * sector = 8192 :=
    show (16 : UInt32).toNat * sector = 8192 by decide
  have hslot : slot1.extent = ⟨4096, 512⟩ := by decide
  have hlist : [slot1].map EnabledSlot.extent = [slot1.extent] := rfl
  rw [Contents1.extents, Contents1.payloadExtent, enabled_contents1, hplain, hoffset, luks1PhdrLen,
    ← hslot]
  exact congrArg _ (congrArg _ hlist)

theorem textFits_uuid : TextFits 40 "e4d1a6f0-3b1c-4b6e-9a57-6f1d0c2b8e11" := by decide

/-- The container has a place for everything. -/
def layout1 (hname : TextFits 32 cipherName) : Layout1 where
  toContents1 := contents1 cipherName unused
  isXtsKey := isXtsKey_masterKey
  mkDigestIter_pos := one_le_iterations
  cipherName_fits := hname
  uuid_fits := textFits_uuid
  sectors := ⟨1, length_plain⟩
  fits := by
    rw [extents_contents1, length_rest1]
    decide
  apart := by
    rw [extents_contents1]
    decide

end

/-- A record that is not in use. -/
def unusedRecord : Keyslot := ⟨keyDisabled, 0, ⟨List.replicate 32 0, rfl⟩, 0, 4000⟩

theorem textFits_aes : TextFits 32 "aes" := by decide

/-- A LUKS1 container. -/
def format1 : Format1 where
  toLayout1 := layout1 "aes" unusedRecord textFits_aes
  unusedInactive := fun _ => show keyDisabled ≠ keyEnabled by decide

/-- The crates, without any document. -/
abbrev crates1 : Crates := (tables []).crates

/-- Encryption. -/
abbrev enc1 : Encipher := (tables []).xtsSector

theorem inverts1 : Inverts crates1 enc1 := (tables []).inverts

theorem image1_lt (F : Layout1) (hrest : F.rest.length = 8704) :
    (F.image crates1 enc1).length < 2 ^ 63 := by
  rw [Layout1.length_image inverts1, hrest]
  decide

/-- A reader of a container. -/
def reader1 (F : Layout1) (hrest : F.rest.length = 8704) : Cursor :=
  Cursor.new (F.image crates1 enc1) (image1_lt F hrest)

theorem slot1_mem : slot1 ∈ format1.enabled := List.mem_singleton_self slot1

theorem noCollision_format1 : format1.NoCollision crates1 enc1 :=
  Layout1.noCollision_of_single (F := format1.toLayout1) (t := slot1) inverts1 rfl

/-- The clock and the budget suffice. -/
theorem unlock1_not_refused (e : LuksError)
    (he : (unlockWithPassphraseWithin crates1 clock slot1.passphrase 1
      (World.init (reader1 format1.toLayout1 List.length_replicate))).out = .err e) :
    ¬e.IsBudgetRefusal := by
  obtain ⟨acceptedBy, hspec⟩ := Layout1.unlock_image inverts1 format1.unusedInactive
    noCollision_format1 slot1_mem
  refine absurd he (unlock_ne_err crates1 clock (fun htwo => ?_) (fun _ _ => rfl) Nat.one_pos hspec
    (opens_init _) e)
  rw [Layout1.beU16_image inverts1] at htwo
  cases htwo

end Sample

theorem format1_roundtrip_sample :
    ∃ u, (unlockWithPassphraseWithin Sample.crates1 Sample.clock Sample.passphrase 1
        (World.init (Sample.reader1 Sample.format1.toLayout1 List.length_replicate))).out = .ok u ∧
      u.payload.masterKey = Sample.masterKey ∧
      ∀ offset len, offset.toNat + len ≤ Sample.plain.length →
        (DecryptedPayload.readAt Sample.crates1 offset len u.payload).out =
          .ok (window Sample.plain offset.toNat len) :=
  format1_roundtrip Sample.inverts1 Sample.format1 Sample.noCollision_format1 Sample.slot1_mem
    Sample.clock 1 _ rfl Sample.unlock1_not_refused

end Luks
