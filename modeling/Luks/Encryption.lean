import Luks.Crypto

/-!
# Encryption

The code only decrypts. To say what a container holds, the development takes the
opposite direction as a parameter (`Luks.Encipher`), of which nothing is known but
that decryption undoes it (`Luks.Inverts`). An area encrypted unit by unit then
decrypts to what was encrypted (`Luks.Spec.xtsDecryptArea_encryptArea`).
-/

namespace Luks

open Basis

/-- AES-XTS encryption of one data unit: the two keys, the tweak, the unit. -/
abbrev Encipher : Type := Aes → Bytes → Bytes → Bytes → Bytes → Bytes

/-- **Decryption undoes encryption**, on units of at least one cipher block. -/
structure Inverts (K : Crates) (enc : Encipher) : Prop where
  /-- Encryption works in place. -/
  length_eq : ∀ aes k₁ k₂ tweak unit, (enc aes k₁ k₂ tweak unit).length = unit.length
  /-- Decryption undoes it. -/
  decrypt : ∀ aes k₁ k₂ tweak unit, 16 ≤ unit.length →
    K.xtsDecryptSector aes k₁ k₂ tweak (enc aes k₁ k₂ tweak unit) = unit

/-- A master key has the size of two AES keys. -/
def IsXtsKey (key : Bytes) : Prop := key.length = 32 ∨ key.length = 64

theorem IsXtsKey.length_le {key : Bytes} (h : IsXtsKey key) : key.length ≤ 64 := by
  rcases h with h | h <;> omega

/-- The cipher that a key selects by its length, as a function of tweak and unit. -/
def xtsEncipher (enc : Encipher) (key : Bytes) : Bytes → Bytes → Bytes :=
  if key.length = 32 then enc .aes128 (key.take 16) (key.drop 16)
  else enc .aes256 (key.take 32) (key.drop 32)

/-- Encrypt `plain` in units of `unitSize` bytes, each under the number of its first 512-byte
sector, counted from `base`. -/
def encryptArea (enc : Encipher) (key plain : Bytes) (unitSize base : ℕ) : Bytes :=
  mapUnits (fun u => xtsEncipher enc key (toLe 16 (base + u * (unitSize / 512)))) unitSize plain

variable {K : Crates} {enc : Encipher} {key plain : Bytes} {unitSize k : ℕ}

theorem Inverts.length_xtsEncipher (h : Inverts K enc) (key tweak unit : Bytes) :
    (xtsEncipher enc key tweak unit).length = unit.length := by
  rw [xtsEncipher]
  split_ifs <;> exact h.length_eq ..

/-- A key of a good size selects a cipher that undoes the encryption under it. -/
theorem Inverts.exists_xtsCipher (h : Inverts K enc) (hkey : IsXtsKey key) :
    ∃ dec, xtsCipher K key = .ok dec ∧ ∀ tweak unit, 16 ≤ unit.length →
      dec tweak (xtsEncipher enc key tweak unit) = unit := by
  rcases hkey with hkey | hkey
  · refine ⟨_, by rw [xtsCipher, if_pos hkey], fun tweak unit hunit => ?_⟩
    rw [xtsEncipher, if_pos hkey]
    exact h.decrypt _ _ _ _ _ hunit
  · refine ⟨_, by rw [xtsCipher, if_neg (by omega), if_pos hkey], fun tweak unit hunit => ?_⟩
    rw [xtsEncipher, if_neg (by omega)]
    exact h.decrypt _ _ _ _ _ hunit

theorem Inverts.length_encryptArea (h : Inverts K enc) (hunit : 0 < unitSize)
    (hlen : plain.length = k * unitSize) (base : ℕ) :
    (encryptArea enc key plain unitSize base).length = k * unitSize :=
  length_mapUnits hunit hlen fun _ _ hc => by rw [h.length_xtsEncipher, hc]

/-- **An area decrypts to what was encrypted.** -/
theorem Spec.xtsDecryptArea_encryptArea (h : Inverts K enc) (hkey : IsXtsKey key)
    (hunit : 512 ≤ unitSize) (hlen : plain.length = k * unitSize) (base : ℕ) :
    Spec.xtsDecryptArea K "xts-plain64" key (encryptArea enc key plain unitSize base) unitSize
      base = .ok plain := by
  obtain ⟨dec, hdec, hinv⟩ := h.exists_xtsCipher hkey
  refine (Spec.xtsDecryptArea_eq_ok_iff K).mpr ⟨rfl, dec, hdec, ?_⟩
  refine mapUnits_mapUnits (by omega) hlen (fun u c hc => by rw [h.length_xtsEncipher, hc])
    fun u _ c hc => ?_
  rw [tweakStep_of_le hunit, Spec.decryptUnit, h.length_xtsEncipher, if_neg (by omega)]
  exact hinv _ _ (by omega)

end Luks
