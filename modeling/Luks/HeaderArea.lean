import Luks.Answer
import Luks.Basis.Region
import Luks.Tables

/-!
# The header area of a LUKS2 container

A buffer with a LUKS2 header (`Luks.HeaderBuffer`) has the binary header, of which the
code reads the magic, the version and the size, then the JSON text, which ends at a NUL
or where the declared area ends, and perhaps more. It parses to what its document
describes (`Luks.HeaderBuffer.parse_bytes`), whatever the bytes are that nobody reads.

What stands at the front of a LUKS2 container (`Luks.HeaderArea`) is such a buffer, with a
NUL and nothing behind the area. An image that starts with one has the header that its
document describes (`Luks.HeaderArea.header2_eq`).
-/

namespace Luks

open Basis

/-! ### A buffer with a header -/

/-- A buffer with a LUKS2 header: the binary header, the JSON text, and what follows. -/
structure HeaderBuffer where
  /-- The size of the area, as the binary header declares it. -/
  hdrSize : UInt64
  /-- The binary header after the header size. -/
  binRest : Bytes
  /-- The JSON text. -/
  json : Bytes
  /-- What follows the text. -/
  rest : Bytes
  /-- The binary header is complete. -/
  length_binRest : binRest.length = 4080
  /-- The text has no NUL. -/
  json_no_nul : ∀ b ∈ json, b ≠ 0
  /-- The area has room for the text. -/
  fits : luks2BinHdrLen + json.length ≤ hdrSize.toNat
  /-- Where the text does not fill the area, a NUL ends it, or the buffer does. -/
  ends : luks2BinHdrLen + json.length < hdrSize.toNat → ∀ b ∈ rest.head?, b = 0

namespace HeaderBuffer

variable (B : HeaderBuffer)

/-- The parts of the buffer, in the order they stand in. -/
def fields : List Bytes :=
  [luksMagic.toList, toBe 2 2, toBe 8 B.hdrSize.toNat, B.binRest, B.json, B.rest]

/-- The bytes of the buffer. -/
def bytes : Bytes := B.fields.flatten

theorem map_length_fields : B.fields.map List.length =
    [6, 2, 8, 4080, B.json.length, B.rest.length] := by
  simp [fields, B.length_binRest, luksMagic]

theorem length_bytes : B.bytes.length = luks2BinHdrLen + B.json.length + B.rest.length := by
  rw [bytes, List.length_flatten, map_length_fields, luks2BinHdrLen]
  simp only [List.sum_cons, List.sum_nil]
  omega

theorem sixteen_le_length : 16 ≤ B.bytes.length := by
  rw [length_bytes, luks2BinHdrLen]
  omega

/-- Each part of the buffer is found at its offset. -/
theorem window_bytes {i off n : ℕ} {field : Bytes} (hi : B.fields[i]? = some field)
    (hoff : ((([6, 2, 8, 4080, B.json.length, B.rest.length] : List ℕ)).take i).sum = off)
    (hn : field.length = n) : window B.bytes off n = field :=
  window_fields hi (by rw [map_length_fields, hoff]) hn

theorem bytesN_bytes : bytesN 6 B.bytes 0 = luksMagic :=
  bytesN_of_window (le_trans (by decide) B.sixteen_le_length) (B.window_bytes (i := 0) rfl rfl rfl)

theorem beU16_bytes : beU16 B.bytes 6 = 2 :=
  beU16_of_window (le_trans (by decide) B.sixteen_le_length) (B.window_bytes (i := 1) rfl rfl rfl)

theorem beU64_bytes : beU64 B.bytes 8 = B.hdrSize :=
  beU64_of_window B.sixteen_le_length (B.window_bytes (i := 2) rfl rfl (length_toBe _ _))

/-- The JSON area is the text, and what follows it within the declared area. -/
theorem jsonArea_bytes : Luks2Header.jsonArea B.bytes =
    some (B.json ++ B.rest.take (B.hdrSize.toNat - (luks2BinHdrLen + B.json.length))) := by
  have hfits := B.fits
  have hlength := B.length_bytes
  have hjson : window B.bytes luks2BinHdrLen B.json.length = B.json :=
    B.window_bytes (i := 4) rfl rfl rfl
  have hrest : window B.bytes (luks2BinHdrLen + B.json.length) B.rest.length = B.rest :=
    B.window_bytes (i := 5) rfl (by simp [luks2BinHdrLen]; omega) rfl
  -- the area ends where it is declared to, or with the buffer
  have hend : min B.hdrSize.toNat B.bytes.length - luks2BinHdrLen = B.json.length +
      min (B.hdrSize.toNat - (luks2BinHdrLen + B.json.length)) B.rest.length := by
    omega
  have htake : window B.bytes (luks2BinHdrLen + B.json.length)
      (min (B.hdrSize.toNat - (luks2BinHdrLen + B.json.length)) B.rest.length) =
      B.rest.take (B.hdrSize.toNat - (luks2BinHdrLen + B.json.length)) := by
    conv_rhs => rw [← hrest, window, List.take_take]
    rfl
  rw [Luks2Header.jsonArea, beU64_bytes, slice?_of_le (by omega) (min_le_right _ _), hend,
    ← window_append, hjson, htake]

/-- The text ends at the NUL, with the area, or with the buffer. -/
theorem takeWhile_json :
    (B.json ++ B.rest.take (B.hdrSize.toNat - (luks2BinHdrLen + B.json.length))).takeWhile
      (· ≠ 0) = B.json := by
  have hfits := B.fits
  have hends := B.ends
  rw [List.takeWhile_append_of_pos (by simpa using B.json_no_nul)]
  rcases Nat.eq_or_lt_of_le hfits with heq | hlt
  · rw [heq, Nat.sub_self, List.take_zero, List.takeWhile_nil, List.append_nil]
  · cases hrest : B.rest with
    | nil => rw [List.take_nil, List.takeWhile_nil, List.append_nil]
    | cons b rest =>
      have hnul := hends hlt
      rw [hrest] at hnul
      obtain rfl : b = 0 := hnul b rfl
      obtain ⟨n, hn⟩ := Nat.exists_eq_succ_of_ne_zero (Nat.sub_pos_of_lt hlt).ne'
      rw [hn, List.take_succ_cons, List.takeWhile_cons_of_neg (by simp), List.append_nil]

/-- **A parsed buffer is what its document describes.** -/
theorem parse_bytes {K : Crates} {B : HeaderBuffer} {root : Value}
    (hroot : K.fromSlice B.json = some root) :
    Luks2Header.parse K B.bytes = .ok (Luks2Header.ofDocument K 2 B.hdrSize root) := by
  rw [Luks2Header.parse]
  simp only [bytesN_bytes, beU16_bytes, jsonArea_bytes, takeWhile_json, hroot, beU64_bytes, ne_eq,
    not_true_eq_false, if_false]

end HeaderBuffer

/-! ### The front of a container -/

/-- The area of a LUKS2 header: the binary header and the JSON text, which a NUL
ends. -/
structure HeaderArea where
  /-- The binary header after the header size. -/
  binRest : Bytes
  /-- The JSON text. -/
  json : Bytes
  /-- What follows the NUL. -/
  tail : Bytes
  /-- The binary header is complete. -/
  length_binRest : binRest.length = 4080
  /-- The text has no NUL. -/
  json_no_nul : ∀ b ∈ json, b ≠ 0
  /-- The size of the area fits its field. -/
  size_lt : luks2BinHdrLen + json.length + 1 + tail.length < 2 ^ 64

namespace HeaderArea

variable (A : HeaderArea)

/-- The size of the area. -/
def size : ℕ := luks2BinHdrLen + A.json.length + 1 + A.tail.length

/-- The parts of the area, in the order they stand in. -/
def fields : List Bytes :=
  [luksMagic.toList, toBe 2 2, toBe 8 A.size, A.binRest, A.json, 0 :: A.tail]

/-- The bytes of the area. -/
def bytes : Bytes := A.fields.flatten

theorem luks2BinHdrLen_le_size : luks2BinHdrLen ≤ A.size := by
  rw [size]
  omega

theorem toNat_size : (UInt64.ofNat A.size).toNat = A.size := UInt64.toNat_ofNat_of_lt' A.size_lt

/-- The area as a buffer. -/
def buffer : HeaderBuffer where
  hdrSize := UInt64.ofNat A.size
  binRest := A.binRest
  json := A.json
  rest := 0 :: A.tail
  length_binRest := A.length_binRest
  json_no_nul := A.json_no_nul
  fits := by
    rw [toNat_size, size]
    omega
  ends := by simp

theorem bytes_buffer : A.buffer.bytes = A.bytes := by
  rw [HeaderBuffer.bytes, HeaderBuffer.fields, bytes, fields, buffer, toNat_size]

@[simp] theorem length_bytes : A.bytes.length = A.size := by
  rw [← bytes_buffer, HeaderBuffer.length_bytes, size]
  change luks2BinHdrLen + A.json.length + (A.tail.length + 1) = _
  omega

theorem beU64_bytes : beU64 A.bytes 8 = UInt64.ofNat A.size := by
  rw [← bytes_buffer]
  exact A.buffer.beU64_bytes

/-- The JSON area is the text, the NUL, and what follows. -/
theorem jsonArea_bytes : Luks2Header.jsonArea A.bytes = some (A.json ++ 0 :: A.tail) := by
  have hlen : A.size - (luks2BinHdrLen + A.json.length) = (0 :: A.tail).length := by
    rw [size, List.length_cons]
    omega
  have harea := A.buffer.jsonArea_bytes
  simp only [buffer, toNat_size, hlen, List.take_length] at harea
  rw [← bytes_buffer]
  exact harea

/-- The text ends at the NUL. -/
theorem takeWhile_json : (A.json ++ 0 :: A.tail).takeWhile (· ≠ 0) = A.json := by
  rw [List.takeWhile_append_of_pos (by simpa using A.json_no_nul),
    List.takeWhile_cons_of_neg (by simp), List.append_nil]

variable {A} {K : Crates} {img : Bytes} {root : Value}

/-- A parsed header area is what its document describes. -/
theorem parse_bytes (hroot : K.fromSlice A.json = some root) :
    Luks2Header.parse K A.bytes =
      .ok (Luks2Header.ofDocument K 2 (UInt64.ofNat A.size) root) := by
  rw [← bytes_buffer]
  exact HeaderBuffer.parse_bytes (B := A.buffer) hroot

section Images

variable (hlen : A.size ≤ img.length) (himg : window img 0 A.size = A.bytes)

include hlen himg

theorem hdrSize_eq : Spec.hdrSize img = A.size := by
  have hle := A.luks2BinHdrLen_le_size
  have height : beU64 img 8 = UInt64.ofNat A.size := by
    rw [← beU64_window (n := A.size) (by rw [luks2BinHdrLen] at hle; omega) hlen, himg,
      beU64_bytes]
  rw [Spec.hdrSize, height, toNat_size, max_eq_left hle]

theorem beU16_eq : beU16 img 6 = 2 := by
  have hle := A.luks2BinHdrLen_le_size
  rw [luks2BinHdrLen] at hle
  rw [← beU16_window (n := A.size) (by omega) hlen, himg, ← bytes_buffer]
  exact A.buffer.beU16_bytes

/-- **The header of an image** that starts with a header area is what its document
describes. -/
theorem header2_eq (hroot : K.fromSlice A.json = some root) : Spec.header2 K img =
    .ok (Luks2Header.ofDocument K 2 (UInt64.ofNat A.size) root) := by
  rw [Spec.header2, hdrSize_eq hlen himg, himg, zeroFill_of_length A.length_bytes,
    parse_bytes hroot]

theorem not_oversized (hlt : img.length < 2 ^ 63) : ¬Oversized img := by
  rintro ⟨-, hbig⟩
  rw [hdrSize_eq hlen himg, isizeMax] at hbig
  omega

end Images

end HeaderArea

namespace Sample

/-- A header area of 8 KiB. -/
def headerArea {m : Metadata} (h : m.Fits) : HeaderArea where
  binRest := List.replicate 4080 0
  json := json m
  tail := List.replicate (4095 - (json m).length) 0
  length_binRest := List.length_replicate
  json_no_nul := h.no_nul
  size_lt := by
    have hlen := h.length_lt
    rw [luks2BinHdrLen, List.length_replicate]
    omega

theorem size_headerArea {m : Metadata} (h : m.Fits) : (headerArea h).size = 8192 := by
  have hlen := h.length_lt
  change 4096 + (json m).length + 1 +
    (List.replicate (4095 - (json m).length) (0 : UInt8)).length = 8192
  rw [List.length_replicate]
  omega

end Sample

end Luks
