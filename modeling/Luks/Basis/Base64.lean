import Luks.Basis.Reader

/-!
# Base64

The standard alphabet with padding: three bytes to four characters, the last group
filled up with `=`. Reading insists on the padding, and on zeros in the bits that a
short group does not use, so that every text that reads has one reading and bytes
are read back from their text (`Basis.base64Decode_base64Encode`).
-/

namespace Basis

/-- The characters for the numbers below 64. -/
def base64Alphabet : List Char :=
  "ABCDEFGHIJKLMNOPQRSTUVWXYZabcdefghijklmnopqrstuvwxyz0123456789+/".toList

/-- The character for a number below 64. -/
def base64Char (n : ℕ) : Char := base64Alphabet.getD n 'A'

/-- The number a character stands for. -/
def base64Value (c : Char) : Option ℕ :=
  if base64Alphabet.idxOf c < 64 then some (base64Alphabet.idxOf c) else none

/-- The characters of some bytes. -/
def base64Chars : Bytes → List Char
  | [] => []
  | [a] => [base64Char (a.toNat / 4), base64Char (a.toNat % 4 * 16), '=', '=']
  | [a, b] =>
      [base64Char (a.toNat / 4), base64Char (a.toNat % 4 * 16 + b.toNat / 16),
        base64Char (b.toNat % 16 * 4), '=']
  | a :: b :: c :: rest =>
      base64Char (a.toNat / 4) :: base64Char (a.toNat % 4 * 16 + b.toNat / 16) ::
        base64Char (b.toNat % 16 * 4 + c.toNat / 64) :: base64Char (c.toNat % 64) ::
        base64Chars rest

/-- The bytes of some characters. -/
def base64Bytes : List Char → Option Bytes
  | [] => some []
  | [w, x, '=', '='] => do
      let w ← base64Value w
      let x ← base64Value x
      if x % 16 = 0 then some [UInt8.ofNat (w * 4 + x / 16)] else none
  | [w, x, y, '='] => do
      let w ← base64Value w
      let x ← base64Value x
      let y ← base64Value y
      if y % 4 = 0 then
        some [UInt8.ofNat (w * 4 + x / 16), UInt8.ofNat (x % 16 * 16 + y / 4)]
      else none
  | w :: x :: y :: z :: rest => do
      let w ← base64Value w
      let x ← base64Value x
      let y ← base64Value y
      let z ← base64Value z
      let bs ← base64Bytes rest
      some (UInt8.ofNat (w * 4 + x / 16) :: UInt8.ofNat (x % 16 * 16 + y / 4) ::
        UInt8.ofNat (y % 4 * 64 + z) :: bs)
  | _ => none

/-- The text of some bytes. -/
def base64Encode (bs : Bytes) : String := String.ofList (base64Chars bs)

/-- The bytes of a text. -/
def base64Decode (s : String) : Option Bytes := base64Bytes s.toList

theorem length_base64Alphabet : base64Alphabet.length = 64 := by decide +kernel

theorem nodup_base64Alphabet : base64Alphabet.Nodup := by decide +kernel

theorem base64Char_eq_getElem {n : ℕ} (h : n < base64Alphabet.length) :
    base64Char n = base64Alphabet[n] := by
  rw [base64Char, List.getD_eq_getElem?_getD, List.getElem?_eq_getElem h, Option.getD_some]

theorem base64Value_base64Char {n : ℕ} (h : n < 64) : base64Value (base64Char n) = some n := by
  have hn : n < base64Alphabet.length := by rwa [length_base64Alphabet]
  rw [base64Value, base64Char_eq_getElem hn, List.Nodup.idxOf_getElem nodup_base64Alphabet,
    if_pos h]

theorem base64Char_ne_pad {n : ℕ} (h : n < 64) : base64Char n ≠ '=' := by
  have hn : n < base64Alphabet.length := by rwa [length_base64Alphabet]
  have hpad : '=' ∉ base64Alphabet := by decide +kernel
  rw [base64Char_eq_getElem hn]
  intro heq
  exact hpad (heq ▸ List.getElem_mem hn)

theorem base64Bytes_of_four {w x y z : ℕ} {rest : List Char} {bs : Bytes} (hw : w < 64)
    (hx : x < 64) (hy : y < 64) (hz : z < 64) (hrest : base64Bytes rest = some bs) :
    base64Bytes (base64Char w :: base64Char x :: base64Char y :: base64Char z :: rest) =
      some (UInt8.ofNat (w * 4 + x / 16) :: UInt8.ofNat (x % 16 * 16 + y / 4) ::
        UInt8.ofNat (y % 4 * 64 + z) :: bs) := by
  have hpad := base64Char_ne_pad hz
  rw [base64Bytes]
  · simp only [base64Value_base64Char hw, base64Value_base64Char hx, base64Value_base64Char hy,
      base64Value_base64Char hz, hrest, Option.bind_eq_bind, Option.bind_some]
  · rintro - hz' -
    exact hpad hz'
  · rintro hz' -
    exact hpad hz'

/-- **Bytes are read back from their characters.** -/
theorem base64Bytes_base64Chars (bs : Bytes) : base64Bytes (base64Chars bs) = some bs := by
  induction bs using base64Chars.induct with
  | case1 => rfl
  -- one case for each number of bytes in the last group, its padding included
  | case2 a =>
    have ha := a.toNat_lt
    rw [base64Chars, base64Bytes, base64Value_base64Char (by omega),
      base64Value_base64Char (by omega)]
    simp only [Option.bind_eq_bind, Option.bind_some]
    rw [if_pos (by omega), show a.toNat / 4 * 4 + a.toNat % 4 * 16 / 16 = a.toNat by omega,
      UInt8.ofNat_toNat]
  | case3 a b =>
    have ha := a.toNat_lt
    have hb := b.toNat_lt
    have hpad := base64Char_ne_pad (n := b.toNat % 16 * 4) (by omega)
    rw [base64Chars, base64Bytes]
    · simp only [base64Value_base64Char (n := a.toNat / 4) (by omega),
        base64Value_base64Char (n := a.toNat % 4 * 16 + b.toNat / 16) (by omega),
        base64Value_base64Char (n := b.toNat % 16 * 4) (by omega), Option.bind_eq_bind,
        Option.bind_some]
      rw [if_pos (by omega),
        show a.toNat / 4 * 4 + (a.toNat % 4 * 16 + b.toNat / 16) / 16 = a.toNat by omega,
        show (a.toNat % 4 * 16 + b.toNat / 16) % 16 * 16 + b.toNat % 16 * 4 / 4 = b.toNat by omega,
        UInt8.ofNat_toNat, UInt8.ofNat_toNat]
    · exact hpad
  | case4 a b c rest ih =>
    have ha := a.toNat_lt
    have hb := b.toNat_lt
    have hc := c.toNat_lt
    -- a full group: six bits of each character add up to the three bytes again
    rw [base64Chars, base64Bytes_of_four (by omega) (by omega) (by omega) (by omega) ih,
      show a.toNat / 4 * 4 + (a.toNat % 4 * 16 + b.toNat / 16) / 16 = a.toNat by omega,
      show (a.toNat % 4 * 16 + b.toNat / 16) % 16 * 16 + (b.toNat % 16 * 4 + c.toNat / 64) / 4 =
        b.toNat by omega,
      show (b.toNat % 16 * 4 + c.toNat / 64) % 4 * 64 + c.toNat % 64 = c.toNat by omega,
      UInt8.ofNat_toNat, UInt8.ofNat_toNat, UInt8.ofNat_toNat]

/-- **Bytes are read back from their text.** -/
theorem base64Decode_base64Encode (bs : Bytes) : base64Decode (base64Encode bs) = some bs := by
  rw [base64Decode, base64Encode, String.toList_ofList, base64Bytes_base64Chars]

end Basis
