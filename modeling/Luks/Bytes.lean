import Luks.Error

/-!
# Bounds-checked readers

The readers of the header fields. All integers on disk are big-endian, and every
read that does not fit the buffer yields zero.
-/

namespace Luks

open Basis

/-- A fixed-size byte array at `off`, zero-filled if out of range. -/
def bytesN (n : ℕ) (data : Bytes) (off : ℕ) : List.Vector UInt8 n :=
  match h : slice? data off (off + n) with
  | some s => ⟨s, by rw [length_of_slice?_eq_some h, Nat.add_sub_cancel_left]⟩
  | none => ⟨List.replicate n 0, List.length_replicate⟩

/-- The big-endian `u16` at `off`, or 0 if out of range. -/
def beU16 (data : Bytes) (off : ℕ) : UInt16 := UInt16.ofNat (fromBe (bytesN 2 data off).toList)

/-- The big-endian `u32` at `off`, or 0 if out of range. -/
def beU32 (data : Bytes) (off : ℕ) : UInt32 := UInt32.ofNat (fromBe (bytesN 4 data off).toList)

/-- The big-endian `u64` at `off`, or 0 if out of range. -/
def beU64 (data : Bytes) (off : ℕ) : UInt64 := UInt64.ofNat (fromBe (bytesN 8 data off).toList)

/-- The text of a NUL-terminated field of `len` bytes at `off`: what stands before
the first NUL, invalid UTF-8 replaced; empty if the field is out of range. -/
def cstr (data : Bytes) (off len : ℕ) : String :=
  let field := (slice? data off (off + len)).getD []
  fromUtf8Lossy (field.takeWhile (· ≠ 0))

section Readers

variable {data : Bytes} {off n : ℕ}

theorem bytesN_of_le (h : off + n ≤ data.length) :
    (bytesN n data off).toList = window data off n := by
  have hs : slice? data off (off + n) = some (window data off n) := by
    rw [slice?_of_le (by omega) h, Nat.add_sub_cancel_left]
  rw [bytesN]
  split <;> rename_i heq
  · rw [hs] at heq
    exact (Option.some.inj heq).symm
  · rw [hs] at heq
    simp at heq

theorem bytesN_of_gt (h : data.length < off + n) :
    (bytesN n data off).toList = List.replicate n 0 := by
  have hs : slice? data off (off + n) = none := by
    rw [slice?, if_neg (by omega)]
  rw [bytesN]
  split <;> rename_i heq
  · rw [hs] at heq
    simp at heq
  · rfl

/-- A reader sees only the window it reads. -/
theorem bytesN_congr {data' : Bytes} (h : off + n ≤ data.length) (h' : off + n ≤ data'.length)
    (hw : window data off n = window data' off n) : bytesN n data off = bytesN n data' off :=
  Subtype.ext ((bytesN_of_le h).trans (hw.trans (bytesN_of_le h').symm))

/-- Reading off the front of a buffer. -/
theorem bytesN_window {k : ℕ} (h : off + k ≤ n) (hn : n ≤ data.length) :
    bytesN k (window data 0 n) off = bytesN k data off := by
  refine bytesN_congr ?_ (h.trans hn) ?_
  · rw [length_window]
    omega
  · rw [window_window data h, Nat.zero_add]

theorem beU16_window (h : off + 2 ≤ n) (hn : n ≤ data.length) :
    beU16 (window data 0 n) off = beU16 data off := by
  rw [beU16, bytesN_window h hn, beU16]

theorem beU32_window (h : off + 4 ≤ n) (hn : n ≤ data.length) :
    beU32 (window data 0 n) off = beU32 data off := by
  rw [beU32, bytesN_window h hn, beU32]

theorem cstr_window {k : ℕ} (h : off + k ≤ n) (hn : n ≤ data.length) :
    cstr (window data 0 n) off k = cstr data off k := by
  have hlen : (window data 0 n).length = n := length_window_of_le (by omega)
  rw [cstr, cstr, slice?_of_le (by omega) (by omega), slice?_of_le (by omega) (by omega),
    window_window data (by omega), Nat.zero_add]

theorem beU64_window (h : off + 8 ≤ n) (hn : n ≤ data.length) :
    beU64 (window data 0 n) off = beU64 data off := by
  rw [beU64, bytesN_window h hn, beU64]

/-! ### Reading what was written -/

theorem bytesN_of_window {v : List.Vector UInt8 n} (h : off + n ≤ data.length)
    (hw : window data off n = v.toList) : bytesN n data off = v :=
  Subtype.ext ((bytesN_of_le h).trans hw)

theorem beU16_of_window {x : UInt16} (h : off + 2 ≤ data.length)
    (hw : window data off 2 = toBe 2 x.toNat) : beU16 data off = x := by
  rw [beU16, bytesN_of_le h, hw, fromBe_toBe_of_lt x.toNat_lt, UInt16.ofNat_toNat]

theorem beU32_of_window {x : UInt32} (h : off + 4 ≤ data.length)
    (hw : window data off 4 = toBe 4 x.toNat) : beU32 data off = x := by
  rw [beU32, bytesN_of_le h, hw, fromBe_toBe_of_lt x.toNat_lt, UInt32.ofNat_toNat]

theorem beU64_of_window {x : UInt64} (h : off + 8 ≤ data.length)
    (hw : window data off 8 = toBe 8 x.toNat) : beU64 data off = x := by
  rw [beU64, bytesN_of_le h, hw, fromBe_toBe_of_lt x.toNat_lt, UInt64.ofNat_toNat]

/-- A text in a field of `n` bytes: filled up with NULs, or cut. -/
def textField (n : ℕ) (s : String) : Bytes := (utf8 s ++ List.replicate n 0).take n

@[simp] theorem length_textField (n : ℕ) (s : String) : (textField n s).length = n := by
  rw [textField, List.length_take, List.length_append, List.length_replicate]
  omega

/-- A text fits a field of `n` bytes. -/
structure TextFits (n : ℕ) (s : String) : Prop where
  /-- It is not longer. -/
  length_le : (utf8 s).length ≤ n
  /-- It has no NUL. -/
  no_nul : ∀ b ∈ utf8 s, b ≠ 0

-- The list is searched: a quantifier over the bytes would go through all 256 of them.
instance (n : ℕ) (s : String) : Decidable (TextFits n s) :=
  decidable_of_iff ((utf8 s).length ≤ n ∧ 0 ∉ utf8 s)
    ⟨fun h => ⟨h.1, List.forall_mem_ne'.mpr h.2⟩, fun h => ⟨h.1, List.forall_mem_ne'.mp h.2⟩⟩

/-- The bytes before the first NUL, if the bytes up to there have none. -/
theorem takeWhile_append_replicate {bs : Bytes} (h : ∀ b ∈ bs, b ≠ 0) (k : ℕ) :
    (bs ++ List.replicate k 0).takeWhile (· ≠ 0) = bs := by
  rw [List.takeWhile_append_of_pos (by simpa using h)]
  cases k <;> simp [List.replicate_succ]

/-- **A text that fits its field is read back.** -/
theorem cstr_of_window {s : String} (h : off + n ≤ data.length) (hfits : TextFits n s)
    (hw : window data off n = textField n s) : cstr data off n = s := by
  have hfield : textField n s = utf8 s ++ List.replicate (n - (utf8 s).length) 0 := by
    rw [textField, List.take_append, List.take_of_length_le hfits.length_le, List.take_replicate,
      min_eq_left (Nat.sub_le _ _)]
  rw [cstr, slice?_of_le (by omega) h, Nat.add_sub_cancel_left, hw, Option.getD_some, hfield,
    takeWhile_append_replicate hfits.no_nul, fromUtf8Lossy_utf8]

end Readers

end Luks
