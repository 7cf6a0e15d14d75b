import Luks.Basis.Reader
import Mathlib.Tactic.Linarith

/-!
# Integers and texts as bytes

The conversions between numbers, texts and bytes that a standard library offers:
machine integers in either byte order, UTF-8 with invalid input replaced, and
unsigned decimal numerals. Each comes with the round trip that a format built on
it needs: `Basis.fromLe_toLe` and `Basis.fromBe_toBe`, `Basis.fromUtf8Lossy_utf8`,
and `Basis.parseU64_repr`.
-/

namespace Basis

/-! ### Integers -/

/-- The `k` low bytes of `n`, the lowest first. -/
def toLe : ℕ → ℕ → Bytes
  | 0, _ => []
  | k + 1, n => UInt8.ofNat n :: toLe k (n / 256)

/-- The number whose bytes are given, the lowest first. -/
def fromLe : Bytes → ℕ
  | [] => 0
  | b :: bs => b.toNat + 256 * fromLe bs

/-- The `k` low bytes of `n`, the highest first. -/
def toBe (k n : ℕ) : Bytes := (toLe k n).reverse

/-- The number whose bytes are given, the highest first. -/
def fromBe (bs : Bytes) : ℕ := fromLe bs.reverse

@[simp] theorem length_toLe (k n : ℕ) : (toLe k n).length = k := by
  induction k generalizing n with
  | zero => rfl
  | succ k ih => rw [toLe, List.length_cons, ih]

@[simp] theorem length_toBe (k n : ℕ) : (toBe k n).length = k := by
  rw [toBe, List.length_reverse, length_toLe]

/-- **Reading back the low bytes of a number.** -/
theorem fromLe_toLe (k n : ℕ) : fromLe (toLe k n) = n % 256 ^ k := by
  induction k generalizing n with
  | zero => simp [toLe, fromLe, Nat.mod_one]
  | succ k ih =>
    rw [toLe, fromLe, ih, pow_succ, Nat.mul_comm (256 ^ k), Nat.mod_mul]
    simp

theorem fromBe_toBe (k n : ℕ) : fromBe (toBe k n) = n % 256 ^ k := by
  rw [fromBe, toBe, List.reverse_reverse, fromLe_toLe]

theorem fromBe_toBe_of_lt {k n : ℕ} (h : n < 256 ^ k) : fromBe (toBe k n) = n := by
  rw [fromBe_toBe, Nat.mod_eq_of_lt h]

theorem fromLe_lt (bs : Bytes) : fromLe bs < 256 ^ bs.length := by
  induction bs with
  | nil => exact Nat.one_pos
  | cons b bs ih =>
    have hb := b.toNat_lt
    rw [fromLe, List.length_cons, pow_succ]
    omega

theorem fromBe_lt (bs : Bytes) : fromBe bs < 256 ^ bs.length := by
  have h := fromLe_lt bs.reverse
  rwa [List.length_reverse] at h

/-- **Writing back the bytes of a number.** -/
theorem toLe_fromLe (bs : Bytes) : toLe bs.length (fromLe bs) = bs := by
  induction bs with
  | nil => rfl
  | cons b bs ih =>
    have hb := b.toNat_lt
    have hdiv : (b.toNat + 256 * fromLe bs) / 256 = fromLe bs := by omega
    have hlow : UInt8.ofNat (b.toNat + 256 * fromLe bs) = b := by
      refine UInt8.toNat_inj.mp ?_
      rw [UInt8.toNat_ofNat']
      omega
    rw [List.length_cons, fromLe, toLe, hdiv, ih, hlow]

/-- The bytes of a number, and of one that is so many bytes higher. -/
theorem fromLe_append (as bs : Bytes) :
    fromLe (as ++ bs) = fromLe as + 256 ^ as.length * fromLe bs := by
  induction as with
  | nil => rw [List.nil_append, fromLe, List.length_nil, pow_zero, Nat.one_mul, Nat.zero_add]
  | cons b as ih =>
    rw [List.cons_append, fromLe, fromLe, ih, List.length_cons, pow_succ', Nat.mul_add,
      Nat.add_assoc, Nat.mul_assoc]

theorem fromLe_replicate_zero (k : ℕ) : fromLe (List.replicate k 0) = 0 := by
  induction k with
  | zero => rfl
  | succ k ih => rw [List.replicate_succ, fromLe, ih]; rfl

theorem toBe_fromBe (bs : Bytes) : toBe bs.length (fromBe bs) = bs := by
  have h := toLe_fromLe bs.reverse
  rw [List.length_reverse] at h
  rw [toBe, fromBe, h, List.reverse_reverse]

/-! ### Texts -/

/-- The bytes of a text. -/
def utf8 (s : String) : Bytes := s.toList.flatMap String.utf8EncodeChar

/-- Whether a byte continues a character. -/
def isContinuation (b : UInt8) : Bool := b &&& 0xC0 == 0x80

/-- How many bytes, of those at the front of `bs`, make up one invalid sequence:
the longest start of a character that is broken off, and at least one byte. -/
def invalidLen : Bytes → ℕ
  | b₀ :: b₁ :: rest =>
      let three := (b₀ == 0xE0 && 0xA0 ≤ b₁ && b₁ ≤ 0xBF) ||
        (0xE1 ≤ b₀ && b₀ ≤ 0xEC && isContinuation b₁) ||
        (b₀ == 0xED && 0x80 ≤ b₁ && b₁ ≤ 0x9F) || (0xEE ≤ b₀ && b₀ ≤ 0xEF && isContinuation b₁)
      let four := (b₀ == 0xF0 && 0x90 ≤ b₁ && b₁ ≤ 0xBF) ||
        (0xF1 ≤ b₀ && b₀ ≤ 0xF3 && isContinuation b₁) ||
        (b₀ == 0xF4 && 0x80 ≤ b₁ && b₁ ≤ 0x8F)
      if three then 2
      else if four then (match rest with
        | b₂ :: _ => if isContinuation b₂ then 3 else 2
        | [] => 2)
      else 1
  | _ => 1

/-- The characters of `bs`, each invalid sequence replaced by one replacement
character. -/
def lossyChars : ℕ → Bytes → List Char
  | 0, _ => []
  | _ + 1, [] => []
  | fuel + 1, bs =>
      match bs.toByteArray.utf8DecodeChar? 0 with
      | some c => c :: lossyChars fuel (bs.drop c.utf8Size)
      | none => '\uFFFD' :: lossyChars fuel (bs.drop (invalidLen bs))

/-- The text of `bs`, invalid input replaced. -/
def fromUtf8Lossy (bs : Bytes) : String := String.ofList (lossyChars bs.length bs)

theorem lossyChars_flatMap {cs : List Char} {fuel : ℕ} (h : cs.length ≤ fuel) :
    lossyChars fuel (cs.flatMap String.utf8EncodeChar) = cs := by
  induction cs generalizing fuel with
  | nil => cases fuel <;> rfl
  | cons c cs ih =>
    obtain ⟨fuel, rfl⟩ : ∃ k, fuel = k + 1 := ⟨fuel - 1, by rw [List.length_cons] at h; omega⟩
    have hne : (c :: cs).flatMap String.utf8EncodeChar ≠ [] := by
      intro hnil
      have hlen := congrArg List.length hnil
      rw [List.flatMap_cons, List.length_append, String.length_utf8EncodeChar] at hlen
      have := c.utf8Size_pos
      simp at hlen
      omega
    -- decoding takes exactly the bytes of the first character, whatever follows it
    have hdec : (((c :: cs).flatMap String.utf8EncodeChar).toByteArray).utf8DecodeChar? 0 =
        some c := List.utf8DecodeChar?_utf8Encode_cons
    have hdrop : ((c :: cs).flatMap String.utf8EncodeChar).drop c.utf8Size =
        cs.flatMap String.utf8EncodeChar := by
      rw [List.flatMap_cons, List.drop_left' (String.length_utf8EncodeChar c)]
    rcases hbs : (c :: cs).flatMap String.utf8EncodeChar with _ | ⟨b, bs⟩
    · exact absurd hbs hne
    · rw [hbs] at hdec hdrop
      rw [lossyChars]
      · simp only [hdec, hdrop]
        rw [ih (by rw [List.length_cons] at h; omega)]
      · simp

theorem length_le_length_utf8 (cs : List Char) :
    cs.length ≤ (cs.flatMap String.utf8EncodeChar).length := by
  induction cs with
  | nil => simp
  | cons c cs ih =>
    rw [List.flatMap_cons, List.length_append, String.length_utf8EncodeChar, List.length_cons]
    have := c.utf8Size_pos
    omega

/-- **The bytes of a text decode to it.** -/
theorem fromUtf8Lossy_utf8 (s : String) : fromUtf8Lossy (utf8 s) = s := by
  rw [fromUtf8Lossy, utf8, lossyChars_flatMap (length_le_length_utf8 _), String.ofList_toList]

/-! ### Decimal numerals -/

/-- An unsigned 64-bit decimal numeral: digits only, after one optional plus
sign, and in range. -/
def parseU64 (s : String) : Option UInt64 :=
  let digits := match s.toList with
    | '+' :: ds => ds
    | ds => ds
  if digits ≠ [] ∧ digits.all Char.isDigit ∧ Nat.ofDigitChars 10 digits 0 < 2 ^ 64 then
    some (UInt64.ofNat (Nat.ofDigitChars 10 digits 0))
  else none

/-- A numeral of digits reads as its value. -/
theorem parseU64_of_digits {s : String} (hne : s ≠ "") (hd : ∀ c ∈ s.toList, c.isDigit)
    (hlt : Nat.ofDigitChars 10 s.toList 0 < 2 ^ 64) :
    parseU64 s = some (UInt64.ofNat (Nat.ofDigitChars 10 s.toList 0)) := by
  have hne' : s.toList ≠ [] := by simpa using hne
  have hsign : (match s.toList with
      | '+' :: ds => ds
      | ds => ds) = s.toList := by
    split
    · rename_i ds heq
      have := hd '+' (by rw [heq]; simp)
      simp at this
    · rfl
  rw [parseU64]
  simp only [hsign]
  rw [if_pos ⟨hne', by simpa using hd, hlt⟩]

/-- The decimal numeral of a number has its value. -/
theorem ofDigitChars_repr (n : ℕ) : Nat.ofDigitChars 10 n.repr.toList 0 = n := by
  rw [Nat.toList_repr, Nat.ofDigitChars_ten_toDigits]

theorem repr_ne_empty (n : ℕ) : n.repr ≠ "" := by
  intro hnil
  have hlist : n.repr.toList = [] := by rw [hnil]; rfl
  rw [Nat.toList_repr] at hlist
  exact Nat.toDigits_ne_nil hlist

theorem isDigit_of_mem_repr {n : ℕ} {c : Char} (hc : c ∈ n.repr.toList) : c.isDigit := by
  rw [Nat.toList_repr] at hc
  exact Nat.isDigit_of_mem_toDigits (by decide) (by decide) hc

end Basis
