import Luks.Variants

/-!
# Containers of other sizes

The container of the metadata has an area of one sector for its key material, and a
segment of sectors of 512 bytes whose tweaks start at zero. Here the document declares
other numbers (`Luks.Sample.Geometry`), and the container is otherwise the same. The
keyslot opens as before (`Luks.Sample.Geometry.accepts2_image`): what it derives,
decrypts and compares does not depend on the document, nor on the numbers that vary.
-/

namespace Luks

open Basis

/-- The crates with other documents. -/
def Crates.withTexts (K : Crates) (fromSlice : Bytes → Option Value) : Crates :=
  { K with fromSlice := fromSlice }

namespace Sample

/-- What varies in the sizes that the document declares. -/
structure Geometry where
  /-- The size of the key-material area. -/
  areaSize : ℕ
  /-- The size of a data unit. -/
  sectorSize : ℕ
  /-- The tweak of data unit 0. -/
  ivTweak : ℕ

namespace Geometry

variable (g : Geometry)

/-- The JSON text up to the size of the area. -/
@[irreducible] def textBefore : Bytes := List.flatMap utf8 [
  "\x7b\"digests\":\x7b\"0\":\x7b\"digest\":\"FnpGBuin21DziXfxbBn/DEq3GPM=\",",
  "\"hash\":\"sha1\",\"iterations\":1000,\"keyslots\":[\"0\"],",
  "\"salt\":\"IiIiIiIiIiIiIiIiIiIiIiIiIiIiIiIiIiIiIiIiIiI=\",\"segments\":[\"0\"],",
  "\"type\":\"pbkdf2\"\x7d\x7d,\"keyslots\":\x7b\"0\":\x7b\"af\":\x7b\"hash\":\"sha1\",",
  "\"stripes\":2,\"type\":\"luks1\"\x7d,\"area\":\x7b\"encryption\":\"aes-xts-plain64\",",
  "\"key_size\":32,\"offset\":\"8192\",\"size\":"]

/-- The JSON text from there to the first tweak. -/
@[irreducible] def textBetween : Bytes := List.flatMap utf8 [
  ",\"type\":\"raw\"\x7d,\"kdf\":\x7b\"hash\":\"sha1\",\"iterations\":1000,",
  "\"salt\":\"WlpaWlpaWlpaWlpaWlpaWlpaWlpaWlpaWlpaWlpaWlo=\",\"type\":\"pbkdf2\"\x7d,",
  "\"key_size\":32\x7d\x7d,\"segments\":\x7b\"0\":\x7b\"encryption\":\"aes-xts-plain64\",",
  "\"iv_tweak\":"]

/-- The JSON text from there to the size of a unit. -/
@[irreducible] def textSector : Bytes := utf8 ",\"offset\":\"12288\",\"sector_size\":"

/-- The rest of the JSON text. -/
@[irreducible] def textAfter : Bytes :=
  utf8 ",\"size\":\"dynamic\",\"type\":\"crypt\"\x7d\x7d\x7d"

/-- The digits of the numbers. -/
def digits : Bytes := utf8 g.areaSize.repr ++ (utf8 g.ivTweak.repr ++ utf8 g.sectorSize.repr)

/-- The JSON text. -/
@[irreducible] def json : Bytes :=
  textBefore ++ (utf8 g.areaSize.repr ++ (textBetween ++ (utf8 g.ivTweak.repr ++
    (textSector ++ (utf8 g.sectorSize.repr ++ textAfter)))))

/-- The document that the JSON text denotes. -/
def document : Value :=
  .object [
    ("digests", .object [("0", .object [("digest", .string digestText), ("hash", .string "sha1"),
      ("iterations", num 1000), ("keyslots", .array [.string "0"]),
      ("salt", .string "IiIiIiIiIiIiIiIiIiIiIiIiIiIiIiIiIiIiIiIiIiI="),
      ("segments", .array [.string "0"]), ("type", .string "pbkdf2")])]),
    ("keyslots", .object [("0", .object [
      ("af", .object [("hash", .string "sha1"), ("stripes", num 2), ("type", .string "luks1")]),
      ("area", .object [("encryption", .string "aes-xts-plain64"), ("key_size", num 32),
        ("offset", .string "8192"), ("size", num g.areaSize), ("type", .string "raw")]),
      ("kdf", .object [("hash", .string "sha1"), ("iterations", num 1000),
        ("salt", .string "WlpaWlpaWlpaWlpaWlpaWlpaWlpaWlpaWlpaWlpaWlo="),
        ("type", .string "pbkdf2")]),
      ("key_size", num 32)])]),
    ("segments", .object [("0", .object [("encryption", .string "aes-xts-plain64"),
      ("iv_tweak", num g.ivTweak), ("offset", .string "12288"), ("sector_size", num g.sectorSize),
      ("size", .string "dynamic"), ("type", .string "crypt")])])]

/-- The crates with the document. -/
def crates : Crates :=
  (cratesOf metadata).withTexts fun text => if text = g.json then some g.document else none

theorem fromSlice_json : g.crates.fromSlice g.json = some g.document := by
  change (if g.json = g.json then some g.document else none) = _
  rw [if_pos rfl]

/-- The keyslot of the document. -/
def slotRecord : Luks2Keyslot :=
  { metadata.slotRecord (cratesOf metadata) with areaSize := UInt64.ofNat g.areaSize }

/-- The segment of the document. -/
def segmentRecord : Luks2Segment :=
  ⟨"0", 12288, "aes-xts-plain64", UInt64.ofNat g.sectorSize,
    (UInt64.ofNat g.ivTweak).toBitVec.setWidth 128⟩

/-- The header of the document. -/
def header : Luks2Header :=
  ⟨2, UInt64.ofNat 8192, [g.slotRecord], [g.segmentRecord],
    [metadata.digestRecord (cratesOf metadata)]⟩

/-- **The document describes the header.** -/
theorem ofDocument_document :
    Luks2Header.ofDocument g.crates 2 (UInt64.ofNat 8192) g.document = g.header := rfl

/-- The text fits a header area of 8 KiB, and has no NUL. -/
structure Fits : Prop where
  /-- There is room for it and the NUL that ends it. -/
  length_lt : g.json.length < 4096
  /-- It has no NUL. -/
  no_nul : ∀ b ∈ g.json, b ≠ 0

set_option maxRecDepth 20000 in
theorem text_fits : textBefore.length + textBetween.length + textSector.length +
    textAfter.length ≤ 3072 ∧ 0 ∉ textBefore ++ (textBetween ++ (textSector ++ textAfter)) := by
  decide +kernel

variable {g}

/-- The text fits, if the numbers are short: their digits are the only part that varies. -/
theorem fits_of_digits (hlen : g.digits.length ≤ 1023) (hnul : 0 ∉ g.digits) : g.Fits := by
  obtain ⟨hbound, hclear⟩ := text_fits
  simp only [List.mem_append, not_or] at hclear
  simp only [digits, List.mem_append, not_or, List.length_append] at hlen hnul
  obtain ⟨hbefore, hbetween, hsector, hafter⟩ := hclear
  obtain ⟨harea, htweak, hunit⟩ := hnul
  constructor
  · rw [json]
    simp only [List.length_append]
    omega
  · rw [json]
    refine List.forall_mem_ne'.mpr ?_
    simp only [List.mem_append, not_or]
    exact ⟨hbefore, harea, hbetween, htweak, hsector, hunit, hafter⟩

/-! ### The container -/

variable (h : g.Fits)

/-- The header area with this document, of 8 KiB. -/
def headerArea : HeaderArea :=
  { Sample.headerArea fits_metadata with
    json := g.json
    tail := List.replicate (4095 - g.json.length) 0
    json_no_nul := h.no_nul
    size_lt := by
      have hlen := h.length_lt
      rw [luks2BinHdrLen, List.length_replicate]
      omega }

theorem size_headerArea : (headerArea h).size = 8192 := by
  have hlen := h.length_lt
  change 4096 + g.json.length + 1 +
    (List.replicate (4095 - g.json.length) (0 : UInt8)).length = 8192
  rw [List.length_replicate]
  omega

/-- The container: header area, key material, a gap up to the payload, the payload. -/
def image : Bytes :=
  (headerArea h).bytes ++ (keyMaterial metadata ++ (List.replicate 3584 0 ++ payload))

theorem length_image : (image h).length = 12800 := by
  have hpayload : payload.length = 512 := by decide +kernel
  simp only [image, List.length_append, HeaderArea.length_bytes, size_headerArea,
    length_keyMaterial, List.length_replicate, hpayload]

theorem window_headerArea_image :
    window (image h) 0 (headerArea h).size = (headerArea h).bytes := by
  rw [image, window_append_left (by simp)]
  exact window_of_length (by simp)

theorem window_keyMaterial_image : window (image h) 8192 512 = keyMaterial metadata := by
  have hlen : (headerArea h).bytes.length = 8192 := by simp [size_headerArea]
  rw [image, window_append_right (by omega), hlen, Nat.sub_self,
    window_append_left (by rw [length_keyMaterial])]
  exact window_of_length (length_keyMaterial metadata)

/-- **The container is a LUKS2 container** with the header of its document. -/
theorem isLuks2_image : Spec.IsLuks2 g.crates (image h) g.header g.segmentRecord where
  length_le := by
    rw [length_image]
    decide
  not_oversized := HeaderArea.not_oversized (A := headerArea h)
    (by rw [size_headerArea, length_image]; decide) (window_headerArea_image h)
    (by rw [length_image]; decide)
  parses := by
    rw [HeaderArea.header2_eq (A := headerArea h) (by rw [size_headerArea, length_image]; decide)
      (window_headerArea_image h) g.fromSlice_json, size_headerArea, ofDocument_document]
  chosen := rfl

/-- **The master key is accepted**, as in the container of the metadata. -/
theorem accepts2_image : Spec.Accepts2 g.crates (image h) g.header passphrase masterKey
    g.slotRecord (metadata.digestRecord (cratesOf metadata)) := by
  have hcand : Spec.candidate2 (cratesOf metadata) (image h) passphrase
      (metadata.slotRecord (cratesOf metadata)) = .ok (some masterKey) :=
    candidate2_of_window (window_keyMaterial_image h) rfl rfl
  obtain ⟨-, hin, hkey⟩ := Spec.candidate2_eq_some_iff.mp hcand
  have hverifies : Spec.Verifies2 (cratesOf metadata) (metadata.digestRecord (cratesOf metadata))
      masterKey := verifies2_digestRecord rfl
  exact ⟨⟨[], [], rfl, by simp⟩, hin, hkey, ⟨[], [], rfl, by simp⟩,
    ⟨rfl, List.mem_singleton_self _⟩, hverifies⟩

/-- A reader of the container. -/
def reader : Cursor := Cursor.new (image h) (by rw [length_image]; decide)

end Geometry

end Sample

end Luks
