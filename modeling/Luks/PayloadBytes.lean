import Luks.Parameters

/-!
# The payload byte by byte

A byte of a payload is a byte of one data unit: of what the cipher makes of the unit,
filled up with zeros where the container ends in it (`Luks.Spec.plainUnit`). A read gives
these bytes one after the other (`Luks.Spec.exists_readUnits`), whatever unit they are in.

What a unit decrypts to depends on the cipher, of which nothing is known here but that it
works in place. A statement about every cipher is one about the crates with another
(`Luks.Crates.withCipher`).
-/

namespace Luks

open Basis

/-- A way to decrypt data units, in place: under a pair of keys and a tweak. -/
structure UnitCipher where
  /-- The decrypted unit. -/
  decrypt : Aes → Bytes → Bytes → Bytes → Bytes → Bytes
  /-- It is as long as the unit. -/
  length_decrypt : ∀ aes k₁ k₂ tweak unit, (decrypt aes k₁ k₂ tweak unit).length = unit.length

/-- The crates with another cipher. -/
def Crates.withCipher (K : Crates) (c : UnitCipher) : Crates :=
  { K with xtsDecryptSector := c.decrypt, length_xtsDecryptSector := c.length_decrypt }

/-- Every cipher has a decryption for a key of the right size. -/
theorem exists_xtsCipher_withCipher (K : Crates) (c : UnitCipher) {key : Bytes}
    (h : IsXtsKey key) :
    ∃ aes k₁ k₂, xtsCipher (K.withCipher c) key = .ok (c.decrypt aes k₁ k₂) := by
  rcases h with h | h
  · exact ⟨.aes128, key.take 16, key.drop 16, if_pos h⟩
  · refine ⟨.aes256, key.take 32, key.drop 32, ?_⟩
    rw [xtsCipher, if_neg (by omega), if_pos h]
    rfl

namespace Spec

variable {K : Crates} {p : DecryptedPayload Bytes} {dec : Bytes → Bytes → Bytes}

/-- Data unit `u`, decrypted, with zeros for what the container has not of it. -/
def plainUnit (dec : Bytes → Bytes → Bytes) (p : DecryptedPayload Bytes) (u : ℕ) : Bytes :=
  dec (toLe 16 (p.ivTweak.toNat + u * tweakStep p.unitSize))
    (zeroFill (window p.reader (p.payloadOffset.toNat + u * p.unitSize) p.unitSize) p.unitSize)

theorem length_plainUnit (hdec : xtsCipher K p.masterKey = .ok dec) (u : ℕ) :
    (plainUnit dec p u).length = p.unitSize := by
  rw [plainUnit, length_of_xtsCipher K hdec, length_zeroFill_window]

/-- The byte of the payload at `x`. -/
def plainByte (dec : Bytes → Bytes → Bytes) (p : DecryptedPayload Bytes) (x : ℕ) : Option UInt8 :=
  (plainUnit dec p (x / p.unitSize))[x % p.unitSize]?

/-- A unit decrypts to that. -/
theorem decryptedUnit_eq (hmode : p.cipherMode = "xts-plain64")
    (hdec : xtsCipher K p.masterKey = .ok dec) (u : ℕ) :
    decryptedUnit K p u = .ok (plainUnit dec p u) := by
  have hlen := length_zeroFill_window p.reader (p.payloadOffset.toNat + u * p.unitSize) p.unitSize
  have hlarge : ¬p.unitSize < 16 := Nat.not_lt_of_le (le_trans (by decide) p.sector_le)
  refine (xtsDecryptArea_eq_ok_iff K).mpr ⟨hmode, dec, hdec, ?_⟩
  rw [decryptUnits, mapUnits_of_length p.unitSize_pos hlen, decryptUnit, hlen, if_neg hlarge,
    Nat.zero_mul, Nat.add_zero]
  rfl

/-- A unit that is wholly in the container is not filled up. -/
theorem plainUnit_of_le {u : ℕ}
    (h : p.payloadOffset.toNat + (u + 1) * p.unitSize ≤ p.reader.length) :
    plainUnit dec p u = dec (toLe 16 (p.ivTweak.toNat + u * tweakStep p.unitSize))
      (window p.reader (p.payloadOffset.toNat + u * p.unitSize) p.unitSize) := by
  rw [Nat.succ_mul] at h
  rw [plainUnit, zeroFill_of_length (length_window_of_le (by omega))]

/-- Bytes of a unit, from a position on. -/
theorem getElem?_window_plainUnit (dec : Bytes → Bytes → Bytes) (p : DecryptedPayload Bytes)
    {pos k i : ℕ} (hk : pos % p.unitSize + k ≤ p.unitSize) (hi : i < k) :
    (window (plainUnit dec p (pos / p.unitSize)) (pos % p.unitSize) k)[i]? =
      plainByte dec p (pos + i) := by
  obtain ⟨hdiv, hmod⟩ := add_div_mod_of_lt (show pos % p.unitSize + i < p.unitSize by omega)
  rw [getElem?_window, if_pos hi, plainByte, hdiv, hmod]

/-- **A read gives the bytes of its positions**, each from the unit it is in. -/
theorem exists_readUnits (hmode : p.cipherMode = "xts-plain64")
    (hdec : xtsCipher K p.masterKey = .ok dec) (offset len done : ℕ) :
    ∃ bs, readUnits K p offset len done = .ok bs ∧ bs.length = len - done ∧
      ∀ i < len - done, bs[i]? = plainByte dec p (offset + done + i) := by
  induction done using p.loop_induct len with
  | stop done hdone =>
    refine ⟨[], ?_, ?_, fun i hi => ?_⟩
    · rw [readUnits, dif_pos hdone]
    · rw [List.length_nil]
      omega
    · omega
  | pass done hdone ih =>
    have hmod := Nat.mod_lt (offset + done) p.unitSize_pos
    obtain ⟨rest, hrest, hlen, hbytes⟩ := ih (offset + done)
    -- this pass takes `n` bytes of the unit it stands in
    generalize hn : min (p.unitSize - (offset + done) % p.unitSize) (len - done) = n at *
    have hwindow : (window (plainUnit dec p ((offset + done) / p.unitSize))
        ((offset + done) % p.unitSize) n).length = n := by
      refine length_window_of_le ?_
      rw [length_plainUnit hdec]
      omega
    refine ⟨window (plainUnit dec p ((offset + done) / p.unitSize)) ((offset + done) % p.unitSize)
      n ++ rest, ?_, ?_, fun i hi => ?_⟩
    · rw [readUnits, dif_neg (Nat.not_le_of_lt hdone), decryptedUnit_eq hmode hdec]
      dsimp only
      rw [hn]
      change (readUnits K p offset len (done + n) >>= _) = _
      rw [hrest]
      rfl
    · rw [List.length_append, hwindow, hlen]
      omega
    -- the byte is of this unit, or of the rest of the read
    · rcases Nat.lt_or_ge i n with hlt | hge
      · rw [List.getElem?_append_left (by omega)]
        exact getElem?_window_plainUnit dec p (by omega) hlt
      · rw [List.getElem?_append_right (by omega), hwindow, hbytes _ (by omega)]
        exact congrArg (plainByte dec p) (by omega)

end Spec

/-! ### The volumes that are unlocked -/

section Unlocked

variable {ρ : Type} [ImageReader ρ] {K : Crates} {r : ρ} {passphrase : Bytes} {u : Unlocked ρ}

/-- **What is unlocked** goes up to the end of the image. -/
theorem UnlockedFrom.image_eq (hu : UnlockedFrom K r passphrase u) :
    ImageReader.image u.payload.reader = ImageReader.image r ∧
      u.payload.totalSize.toNat = (ImageReader.image r).length := by
  have hlt : (ImageReader.image r).length < 2 ^ 64 :=
    lt_trans (ImageReader.image_lt r) (by decide)
  exact UnlockedFrom.of_accepts K r passphrase (P := fun u =>
    u.payload.reader = ImageReader.image r ∧
      u.payload.totalSize.toNat = (ImageReader.image r).length) hu
    (fun _ _ _ _ _ => ⟨rfl, UInt64.toNat_ofNat_of_lt' hlt⟩)
    fun _ _ _ _ _ _ _ => ⟨rfl, UInt64.toNat_ofNat_of_lt' hlt⟩

/-- The same, of the image behind its own reader. -/
theorem UnlockedFrom.total_eq (hu : UnlockedFrom K r passphrase u) :
    u.payload.totalSize.toNat = (ImageReader.image u.payload.reader).length :=
  hu.image_eq.2.trans (congrArg List.length hu.image_eq.1.symm)

end Unlocked

namespace Sample

/-- **The volume of the container**: a payload of one sector, and what follows it. -/
theorem exists_unlocked (rest : Bytes) (hrest : rest.length < 2 ^ 62) :
    ∃ u, UnlockedFrom (cratesOf metadata) (readerOf fits_metadata rest hrest) passphrase u ∧
      u.payload.cipherMode = "xts-plain64" ∧ u.payload.payloadOffset.toNat = 12288 ∧
        u.payload.unitSize = 512 ∧ u.payload.payloadSize = 512 + rest.length ∧
          u.acceptedBy = .luks2 (metadata.slotRecord (cratesOf metadata))
            (metadata.digestRecord (cratesOf metadata)) := by
  obtain ⟨u, hu, himg⟩ := exists_unlock2_imageOf fits_metadata rest hrest (by decide) rfl rfl
    rfl stands_clock Nat.one_pos
  obtain ⟨hmode, hoffset, hunit, -⟩ := Unlocked.segment_of_map_eq himg
  have htotal : u.payload.totalSize.toNat = 12800 + rest.length :=
    (UnlockedFrom.luks2 hu).image_eq.2.trans (length_imageOf fits_metadata rest)
  have hstart : u.payload.payloadOffset.toNat = 12288 := by
    rw [hoffset]
    decide
  refine ⟨u, .luks2 hu, hmode.trans (by decide), hstart, hunit.trans (by decide), ?_,
    congrArg Unlocked.acceptedBy himg⟩
  rw [DecryptedPayload.payloadSize, htotal, hstart]
  omega

end Sample

end Luks
