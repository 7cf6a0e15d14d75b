import Luks.Document
import Luks.Formatter
import Luks.HeaderArea

/-!
# LUKS2 containers of one shape

The containers that the statements about single inputs use: an 8 KiB header area with
some metadata (`Luks.Sample.Metadata`), a sector of key material, and a sector of payload
(`Luks.Sample.imageOf`). Each is a LUKS2 container (`Luks.Sample.isLuks2_imageOf`), and if
its metadata keep digest, stripes and iterations, the passphrase gets the master key
accepted (`Luks.Sample.accepts2_imageOf`).
-/

namespace Luks

open Basis

namespace Sample

/-! ### The header -/

namespace Metadata

variable (K : Crates) (m : Metadata)

/-- The keyslot of the document. -/
def slotRecord : Luks2Keyslot where
  id := "0"
  keySize := 32
  afStripes := (UInt64.ofNat m.stripes).toUInt32
  afHash := "sha1"
  areaOffset := 8192
  areaSize := 512
  areaEncryption := "aes-xts-plain64"
  kdf := .pbkdf2 "sha1" (UInt64.ofNat m.iterations).toUInt32
    (b64 K (.string "WlpaWlpaWlpaWlpaWlpaWlpaWlpaWlpaWlpaWlpaWlo="))

/-- The segment of the document. -/
def segmentRecord : Luks2Segment := ⟨"0", 12288, m.encryption, 512, 0⟩

/-- The digest of the document. -/
def digestRecord : Luks2Digest where
  kind := "pbkdf2"
  hash := "sha1"
  iterations := 1000
  salt := b64 K (.string "IiIiIiIiIiIiIiIiIiIiIiIiIiIiIiIiIiIiIiIiIiI=")
  digest := b64 K (.string m.digest)
  keyslots := ["0"]

/-- The header of the document. -/
def header : Luks2Header :=
  ⟨2, UInt64.ofNat 8192, [m.slotRecord K], [m.segmentRecord], [m.digestRecord K]⟩

/-- **The document describes the header.** -/
theorem ofDocument_document :
    Luks2Header.ofDocument K 2 (UInt64.ofNat 8192) (document m) = m.header K := rfl

end Metadata

/-! ### The container -/

section Containers

variable (m : Metadata)

/-- The tables with the document. -/
def tablesOf : Tables := tables [(json m, document m)]

/-- The crates with the document. -/
abbrev cratesOf : Crates := (tablesOf m).crates

theorem fromSlice_json : (cratesOf m).fromSlice (json m) = some (document m) :=
  fromSlice_single _ _

theorem b64_text {bs : Bytes} {s : String} (h : base64Encode bs = s) :
    b64 (cratesOf m) (.string s) = bs := by
  have hdecode : (cratesOf m).base64Decode s = some bs := by
    rw [← h]
    exact base64Decode_base64Encode bs
  simp [b64, Value.asStr, hdecode]

theorem pbkdf2_mkDigest : (cratesOf m).pbkdf2Hmac .sha1 masterKey digestSalt
    (1000 : UInt32).toNat mkDigest.length = mkDigest := by
  rfl

/-- The key material of the container. -/
@[irreducible] def keyMaterial : Bytes :=
  stripes.material ((cratesOf m).digest .sha1) (tables []).xtsSector
    ((cratesOf m).pbkdf2Hmac .sha1 passphrase salt 1000 32)

theorem length_keyMaterial : (keyMaterial m).length = 512 := by
  unfold keyMaterial
  exact (stripes.length_material (K := cratesOf m) (tablesOf m).inverts _ _).trans (by decide)

variable {m} (h : m.Fits)

/-- The header area parses to the header. -/
theorem parse_headerArea : Luks2Header.parse (cratesOf m) (headerArea h).bytes =
    .ok (m.header (cratesOf m)) := by
  rw [HeaderArea.parse_bytes (A := headerArea h) (fromSlice_json m), size_headerArea,
    Metadata.ofDocument_document]

/-- The document of the header area is the one in the tables. -/
theorem document_headerArea :
    Luks2Header.document (cratesOf m) (headerArea h).bytes = some (document m) := by
  rw [Luks2Header.document, HeaderArea.jsonArea_bytes, Option.bind_some, HeaderArea.takeWhile_json]
  exact fromSlice_json m

/-- The container: header area, key material, a gap up to the payload, the payload, and
more. -/
def imageOf (rest : Bytes) : Bytes :=
  (headerArea h).bytes ++ (keyMaterial m ++ (List.replicate 3584 0 ++ (payload ++ rest)))

variable (rest : Bytes)

theorem length_imageOf : (imageOf h rest).length = 12800 + rest.length := by
  have hpayload : payload.length = 512 := by decide +kernel
  simp only [imageOf, List.length_append, HeaderArea.length_bytes, size_headerArea,
    length_keyMaterial, List.length_replicate, hpayload]
  omega

theorem window_headerArea_imageOf :
    window (imageOf h rest) 0 (headerArea h).size = (headerArea h).bytes := by
  rw [imageOf, window_append_left (by simp)]
  exact window_of_length (by simp)

theorem window_keyMaterial_imageOf : window (imageOf h rest) 8192 512 = keyMaterial m := by
  have hlen : (headerArea h).bytes.length = 8192 := by simp [size_headerArea]
  rw [imageOf, window_append_right (by omega), hlen, Nat.sub_self,
    window_append_left (by rw [length_keyMaterial])]
  exact window_of_length (length_keyMaterial m)

theorem not_oversized_imageOf (hrest : rest.length < 2 ^ 62) : ¬Oversized (imageOf h rest) := by
  refine HeaderArea.not_oversized (A := headerArea h) ?_ (window_headerArea_imageOf h rest) ?_
  · rw [size_headerArea, length_imageOf]
    omega
  · rw [length_imageOf]
    omega

/-- **The container is a LUKS2 container** with the header of its document. -/
theorem isLuks2_imageOf (henc : m.encryption.isEmpty = false) (hrest : rest.length < 2 ^ 62) :
    Spec.IsLuks2 (cratesOf m) (imageOf h rest) (m.header (cratesOf m)) m.segmentRecord where
  length_le := by
    rw [length_imageOf, luks2BinHdrLen]
    omega
  not_oversized := not_oversized_imageOf h rest hrest
  parses := by
    rw [HeaderArea.header2_eq (A := headerArea h) (by rw [size_headerArea, length_imageOf]; omega)
      (window_headerArea_imageOf h rest) (fromSlice_json m), size_headerArea,
      Metadata.ofDocument_document]
  chosen := by
    change List.find? _ [m.segmentRecord] = _
    rw [List.find?_cons_of_pos]
    change (!m.encryption.isEmpty) = true
    rw [henc]
    rfl

/-- The document of the container is the one in the tables. -/
theorem document_imageOf : Spec.document (cratesOf m) (imageOf h rest) = some (document m) := by
  rw [Spec.document, HeaderArea.hdrSize_eq (A := headerArea h)
    (by rw [size_headerArea, length_imageOf]; omega) (window_headerArea_imageOf h rest),
    window_headerArea_imageOf, zeroFill_of_length (headerArea h).length_bytes]
  exact document_headerArea h

/-- The only keyslot is reached. -/
theorem reached2_imageOf (p : Bytes) :
    Spec.Reached2 (cratesOf m) (imageOf h rest) (m.header (cratesOf m)) p
      (m.slotRecord (cratesOf m)) := ⟨[], [], rfl, by simp⟩

/-- The only digest is reached. -/
theorem reachedDigest_header (K : Crates) (slot : Luks2Keyslot) (key : Bytes) :
    Spec.ReachedDigest K (m.header K) slot key (m.digestRecord K) := ⟨[], [], rfl, by simp⟩

omit h in
/-- **The passphrase opens the keyslot** of every image with its key material, if its
stripes and iterations are kept. -/
theorem candidate2_of_window {img : Bytes} (hw : window img 8192 512 = keyMaterial m)
    (hstripes : m.stripes = 2) (hiterations : m.iterations = 1000) :
    Spec.candidate2 (cratesOf m) img passphrase (m.slotRecord (cratesOf m)) =
      .ok (some masterKey) := by
  have hslotKey : Spec.deriveSlotKey (cratesOf m) passphrase (m.slotRecord (cratesOf m)) =
      .ok ((cratesOf m).pbkdf2Hmac .sha1 passphrase salt 1000 32) := by
    rw [Spec.deriveSlotKey]
    change Spec.deriveKey (cratesOf m) Hash.sha1.name passphrase (b64 (cratesOf m) (.string _))
      (UInt64.ofNat m.iterations).toUInt32 32 = _
    rw [hiterations, b64_text m base64Encode_salt,
      Spec.deriveKey_name _ _ _ (by decide) (by decide)]
    rfl
  have hmode : (splitEncryption (m.slotRecord (cratesOf m)).areaEncryption).2 = "xts-plain64" :=
    show (splitEncryption "aes-xts-plain64").2 = _ by decide
  have hkeySize : (m.slotRecord (cratesOf m)).keySize.toNat = masterKey.length :=
    show (32 : UInt64).toNat = _ by decide
  have hoffset : (m.slotRecord (cratesOf m)).areaOffset.toNat = 8192 :=
    show (8192 : UInt64).toNat = _ by decide
  have hcount : (m.slotRecord (cratesOf m)).afStripes.toNat = stripes.count := by
    change (UInt64.ofNat m.stripes).toUInt32.toNat = _
    rw [hstripes]
    decide
  have hopen : Spec.openMaterial (cratesOf m) img "xts-plain64" Hash.sha1.name
      ((cratesOf m).pbkdf2Hmac .sha1 passphrase salt 1000 32) 8192 masterKey.length
      stripes.count = .ok (some masterKey) := Spec.openMaterial_of_material
    (tablesOf m).inverts stripes .sha1
    (by rw [IsXtsKey, Crates.length_pbkdf2Hmac]; exact Or.inl rfl) (by
      refine hw.trans ?_
      unfold keyMaterial
      rfl)
  refine bind_eq_ok_iff.mpr ⟨_, hslotKey, ?_⟩
  rw [hmode, hkeySize, hoffset, hcount]
  exact hopen

theorem candidate2_imageOf (hstripes : m.stripes = 2) (hiterations : m.iterations = 1000) :
    Spec.candidate2 (cratesOf m) (imageOf h rest) passphrase (m.slotRecord (cratesOf m)) =
      .ok (some masterKey) :=
  candidate2_of_window (window_keyMaterial_imageOf h rest) hstripes hiterations

/-- Any passphrase gets some candidate from the keyslot. -/
theorem exists_candidate2_imageOf (hstripes : m.stripes = 2) (p : Bytes) :
    ∃ key, Inside (imageOf h rest) (m.slotRecord (cratesOf m)).areaOffset.toNat
      (m.slotRecord (cratesOf m)).materialSize ∧
      IsCandidate2 (cratesOf m) (imageOf h rest) p (m.slotRecord (cratesOf m)) key := by
  obtain ⟨slotKey, hslotKey⟩ : ∃ k, Spec.deriveSlotKey (cratesOf m) p (m.slotRecord (cratesOf m)) =
      .ok k := (Spec.exists_deriveKey_iff _).mpr
        ⟨show (32 : UInt64).toNat ≤ maxKeyBytes by decide, supportedHash_name .sha1⟩
  have hcount : (m.slotRecord (cratesOf m)).afStripes.toNat = 2 := by
    change (UInt64.ofNat m.stripes).toUInt32.toNat = _
    rw [hstripes]
    decide
  have hin : Inside (imageOf h rest) 8192 512 :=
    inside_of_le (by rw [length_imageOf]; omega)
  -- any slot key of the right length decrypts the material to something
  obtain ⟨key, hkey⟩ : ∃ key, Spec.openMaterial (cratesOf m) (imageOf h rest) "xts-plain64" "sha1"
      slotKey 8192 32 2 = .ok (some key) :=
    Spec.exists_openMaterial_iff.mpr ⟨by decide, hin, rfl, by decide, by
      rw [Spec.length_of_deriveSlotKey_eq_ok hslotKey]
      exact Or.inl rfl⟩
  have hmode : (splitEncryption (m.slotRecord (cratesOf m)).areaEncryption).2 = "xts-plain64" :=
    show (splitEncryption "aes-xts-plain64").2 = _ by decide
  have hcand : Spec.candidate2 (cratesOf m) (imageOf h rest) p (m.slotRecord (cratesOf m)) =
      .ok (some key) := by
    refine bind_eq_ok_iff.mpr ⟨slotKey, hslotKey, ?_⟩
    rw [hmode, hcount]
    exact hkey
  exact ⟨key, (Spec.candidate2_eq_some_iff.mp hcand).2⟩

theorem verifies2_digestRecord (hdigest : m.digest = digestText) :
    Spec.Verifies2 (cratesOf m) (m.digestRecord (cratesOf m)) masterKey := by
  have hsalt : (m.digestRecord (cratesOf m)).salt = digestSalt := b64_text m base64Encode_digestSalt
  have hbytes : (m.digestRecord (cratesOf m)).digest = mkDigest := by
    change b64 (cratesOf m) (.string m.digest) = mkDigest
    rw [hdigest]
    exact b64_text m base64Encode_mkDigest
  rw [Spec.Verifies2, Spec.Verifies, hsalt, hbytes]
  exact (Spec.deriveKey_name .sha1 masterKey digestSalt one_le_iterations (by decide)).trans
    (congrArg Except.ok (pbkdf2_mkDigest m))

/-- **The master key is accepted**, if digest, stripes and iterations are kept. -/
theorem accepts2_imageOf (hdigest : m.digest = digestText) (hstripes : m.stripes = 2)
    (hiterations : m.iterations = 1000) :
    Spec.Accepts2 (cratesOf m) (imageOf h rest) (m.header (cratesOf m)) passphrase masterKey
      (m.slotRecord (cratesOf m)) (m.digestRecord (cratesOf m)) := by
  obtain ⟨-, hin, hkey⟩ := Spec.candidate2_eq_some_iff.mp
    (candidate2_imageOf h rest hstripes hiterations)
  exact ⟨reached2_imageOf h rest passphrase, hin, hkey, reachedDigest_header _ _ _,
    ⟨rfl, List.mem_singleton_self _⟩, verifies2_digestRecord hdigest⟩

theorem length_nil_lt : ([] : Bytes).length < 2 ^ 62 := by decide

/-- A reader of the container. -/
def readerOf (hrest : rest.length < 2 ^ 62) : Cursor :=
  Cursor.new (imageOf h rest) (by rw [length_imageOf]; omega)

/-- **The passphrase unlocks the container**, if digest, stripes and iterations are
kept. -/
theorem unlock2_imageOf (hrest : rest.length < 2 ^ 62) (henc : m.encryption.isEmpty = false)
    (hdigest : m.digest = digestText) (hstripes : m.stripes = 2)
    (hiterations : m.iterations = 1000) :
    Spec.unlock2 (cratesOf m) (imageOf h rest) passphrase =
      .ok ⟨m.segmentRecord.payload (imageOf h rest) masterKey (imageOf h rest).length,
        .luks2 (m.slotRecord (cratesOf m)) (m.digestRecord (cratesOf m))⟩ := by
  have hluks := isLuks2_imageOf h rest henc hrest
  exact Spec.unlock2_eq_ok_iff.mpr ⟨hluks.length_le, _, _,
    ⟨masterKey, .luks2 (m.slotRecord (cratesOf m)) (m.digestRecord (cratesOf m))⟩, hluks.parses,
    hluks.chosen, Spec.recoverMasterKey2_eq_ok_iff_accepts.mpr
      ⟨_, _, accepts2_imageOf h rest hdigest hstripes hiterations, rfl⟩, rfl⟩

/-- A run that has the time returns the volume. -/
theorem exists_unlock2_imageOf (hrest : rest.length < 2 ^ 62) (henc : m.encryption.isEmpty = false)
    (hdigest : m.digest = digestText) (hstripes : m.stripes = 2)
    (hiterations : m.iterations = 1000) {clk : Clock} (hstands : clk.Stands) {budget : Duration}
    (hpos : 0 < budget) :
    ∃ u, (unlock2WithPassphraseWithin (cratesOf m) clk passphrase budget
        (World.init (readerOf h rest hrest))).out = .ok u ∧
      u.map ImageReader.image =
        ⟨m.segmentRecord.payload (imageOf h rest) masterKey (imageOf h rest).length,
          .luks2 (m.slotRecord (cratesOf m)) (m.digestRecord (cratesOf m))⟩ := by
  have hrun := unlock2_run (ρ := Cursor) (cratesOf m) clk (not_oversized_imageOf h rest hrest)
    budget passphrase
  rw [unlock2_imageOf h rest hrest henc hdigest hstripes hiterations] at hrun
  exact hrun.settles_ok clk (opens_init _) hstands hpos

end Containers

end Sample

end Luks
