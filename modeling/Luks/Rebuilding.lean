import Luks.Addresses
import Luks.Basis.InPlace
import Luks.Encryption

/-!
# Rebuilding a container

Decryption loses nothing. AES-XTS works in place, so that what encrypts what is to be decrypted
also encrypts what was (`Luks.Inverts.encrypt`), and the plaintext of whole units determines the
bytes they stand in. Encrypted again with the key, the unit size and the tweaks of the volume,
and written where it was read, it leaves the container as it is (`Luks.write_back`).
-/

namespace Luks

open Basis

/-! ### Encrypting what was decrypted -/

section Encrypting

variable {K : Crates} {enc : Encipher} {key : Bytes} {unitSize k : ℕ}

/-- There are finitely many bytes. -/
instance finite_byte : Finite UInt8 := Finite.of_injective UInt8.toFin fun _ _ => UInt8.toFin_inj.mp

/-- **Encryption undoes decryption**, as decryption undoes it. -/
theorem Inverts.encrypt (h : Inverts K enc) (aes : Aes) (k₁ k₂ tweak : Bytes) {unit : Bytes}
    (hunit : 16 ≤ unit.length) :
    enc aes k₁ k₂ tweak (K.xtsDecryptSector aes k₁ k₂ tweak unit) = unit :=
  apply_of_undoes (fun l hl => (h.length_eq aes k₁ k₂ tweak l).trans hl)
    (fun l hl => h.decrypt aes k₁ k₂ tweak l (hl ▸ hunit)) rfl

/-- The cipher of a key is undone by the encryption under it. -/
theorem Inverts.xtsEncipher_xtsCipher (h : Inverts K enc) {dec : Bytes → Bytes → Bytes}
    (hdec : xtsCipher K key = .ok dec) (tweak : Bytes) {unit : Bytes} (hunit : 16 ≤ unit.length) :
    xtsEncipher enc key tweak (dec tweak unit) = unit := by
  rw [xtsCipher] at hdec
  split_ifs at hdec with h32 h64
  · obtain rfl := Except.ok.inj hdec
    rw [xtsEncipher, if_pos h32]
    exact h.encrypt _ _ _ _ hunit
  · obtain rfl := Except.ok.inj hdec
    rw [xtsEncipher, if_neg h32]
    exact h.encrypt _ _ _ _ hunit

/-- **An area that was decrypted** encrypts to what it was. -/
theorem Spec.encryptArea_xtsDecryptArea (h : Inverts K enc) {cipherMode : String}
    {buffer plain : Bytes} {base : ℕ} (hunit : 512 ≤ unitSize) (hlen : buffer.length = k * unitSize)
    (hplain : Spec.xtsDecryptArea K cipherMode key buffer unitSize base = .ok plain) :
    encryptArea enc key plain unitSize base = buffer := by
  obtain ⟨-, dec, hdec, rfl⟩ := (xtsDecryptArea_eq_ok_iff K).mp hplain
  refine mapUnits_mapUnits (by omega) hlen (fun u c hc => ?_) fun u _ c hc => ?_
  · rw [decryptUnit, if_neg (by omega), length_of_xtsCipher K hdec, hc]
  · rw [← tweakStep_of_le hunit, decryptUnit, if_neg (by omega)]
    exact h.xtsEncipher_xtsCipher hdec _ (by omega)

theorem Inverts.encryptArea_nil (h : Inverts K enc) (hunit : 0 < unitSize) (base : ℕ) :
    encryptArea enc key [] unitSize base = [] := by
  have hnone : ([] : Bytes).length = 0 * unitSize := (Nat.zero_mul _).symm
  exact List.eq_nil_of_length_eq_zero
    ((h.length_encryptArea hunit hnone base).trans (Nat.zero_mul _))

/-- An area is encrypted part by part. -/
theorem encryptArea_append {c l : Bytes} {a base : ℕ} (hunit : 512 ≤ unitSize)
    (hc : c.length = a * unitSize) (hl : l.length = k * unitSize) :
    encryptArea enc key (c ++ l) unitSize base = encryptArea enc key c unitSize base ++
      encryptArea enc key l unitSize (base + a * tweakStep unitSize) := by
  rw [encryptArea, mapUnits_append (by omega) hc hl, encryptArea, encryptArea,
    tweakStep_of_le hunit]
  simp only [Nat.add_mul, Nat.add_assoc]

end Encrypting

/-! ### Encrypting what was read -/

namespace Spec

variable {K : Crates} {enc : Encipher} {p : DecryptedPayload Bytes}

/-- **A unit that was read** encrypts to the bytes it stands in. -/
theorem encryptArea_decryptedUnit (h : Inverts K enc) {u : ℕ} {plain : Bytes}
    (hfit : p.payloadOffset.toNat + (u + 1) * p.unitSize ≤ p.reader.length)
    (hplain : decryptedUnit K p u = .ok plain) :
    plain.length = 1 * p.unitSize ∧
      encryptArea enc p.masterKey plain p.unitSize (p.ivTweak.toNat + u * tweakStep p.unitSize) =
        window p.reader (p.payloadOffset.toNat + u * p.unitSize) p.unitSize := by
  have hunit : 512 ≤ p.unitSize := p.sector_le
  rw [Nat.succ_mul] at hfit
  have hlen : (window p.reader (p.payloadOffset.toNat + u * p.unitSize) p.unitSize).length =
      1 * p.unitSize := by
    rw [length_window_of_le (by omega), Nat.one_mul]
  rw [decryptedUnit, zeroFill_of_length (hlen.trans (Nat.one_mul _))] at hplain
  exact ⟨length_of_xtsDecryptArea_eq_ok p.unitSize_pos hlen hplain,
    encryptArea_xtsDecryptArea h hunit hlen hplain⟩

/-- A read from the front of a unit over all of it takes the whole unit first. -/
theorem readUnits_eq_ok_of_front {offset len done u : ℕ} {bs : Bytes}
    (hu : offset + done = u * p.unitSize) (hle : p.unitSize ≤ len - done)
    (hbs : readUnits K p offset len done = .ok bs) :
    ∃ plain rest, decryptedUnit K p u = .ok plain ∧
      readUnits K p offset len (done + p.unitSize) = .ok rest ∧
      bs = window plain 0 p.unitSize ++ rest := by
  have hpos := p.unitSize_pos
  rw [readUnits, dif_neg (by omega), hu, Nat.mul_div_cancel u hpos, Nat.mul_mod_left] at hbs
  obtain ⟨plain, hplain, hbs⟩ := bind_eq_ok_iff.mp hbs
  dsimp only at hbs
  rw [Nat.sub_zero, Nat.min_eq_left hle] at hbs
  obtain ⟨rest, hrest, hbs⟩ := bind_eq_ok_iff.mp hbs
  exact ⟨plain, rest, hplain, hrest, (Except.ok.inj hbs).symm⟩

/-- **Whole units that were read** encrypt to the bytes they stand in. -/
theorem encryptArea_readUnits (h : Inverts K enc) {offset len done u n : ℕ} {bs : Bytes}
    (hu : offset + done = u * p.unitSize) (hn : len - done = n * p.unitSize)
    (hfit : p.payloadOffset.toNat + (u + n) * p.unitSize ≤ p.reader.length)
    (hbs : readUnits K p offset len done = .ok bs) :
    bs.length = n * p.unitSize ∧
      encryptArea enc p.masterKey bs p.unitSize (p.ivTweak.toNat + u * tweakStep p.unitSize) =
        window p.reader (p.payloadOffset.toNat + u * p.unitSize) (n * p.unitSize) := by
  have hpos := p.unitSize_pos
  induction n generalizing done u bs with
  | zero =>
    rw [Nat.zero_mul] at hn
    rw [readUnits, dif_pos (by omega)] at hbs
    obtain rfl := Except.ok.inj hbs
    rw [Nat.zero_mul, window_zero_right, h.encryptArea_nil hpos]
    exact ⟨rfl, rfl⟩
  | succ n ih =>
    have hle : 512 ≤ p.unitSize := p.sector_le
    have hmul : (n + 1) * p.unitSize = p.unitSize + n * p.unitSize := by
      rw [Nat.succ_mul, Nat.add_comm]
    have hnext : (u + 1) * p.unitSize = u * p.unitSize + p.unitSize := Nat.succ_mul u _
    rw [Nat.add_mul, hmul] at hfit
    obtain ⟨plain, rest, hplain, hrest, rfl⟩ := readUnits_eq_ok_of_front hu (by omega) hbs
    obtain ⟨hlen, henc⟩ := encryptArea_decryptedUnit h (by omega) hplain
    obtain ⟨hlenRest, hencRest⟩ := ih (u := u + 1) (by omega) (by omega)
      (by rw [Nat.add_mul]; omega) hrest
    rw [window_of_length (hlen.trans (Nat.one_mul _)), hmul]
    refine ⟨by rw [List.length_append, hlen, hlenRest, Nat.one_mul], ?_⟩
    rw [encryptArea_append hle hlen hlenRest, henc, Nat.add_assoc p.ivTweak.toNat, ← Nat.add_mul,
      hencRest, hnext, ← Nat.add_assoc, window_append]

end Spec

/-! ### Writing back -/

section Writing

variable {ρ : Type} [ImageReader ρ] {K : Crates} {enc : Encipher} {p : DecryptedPayload ρ}
  {offset : UInt64} {first n : ℕ} {bs : Bytes}

/-- A read that returns gives what the image holds. -/
theorem DecryptedPayload.readUnits_of_readAt (htweak : p.ivTweak.toNat < 2 ^ 64) {len : ℕ}
    (h : (readAt K offset len p).out = .ok bs) :
    Spec.readUnits K (p.map ImageReader.image) offset.toNat len 0 = .ok bs := by
  rcases Nat.eq_zero_or_pos len with rfl | hlen
  · rw [readAt_apply, DecryptedPayload.readUnits, dif_pos (le_refl 0)] at h
    rw [Spec.readUnits, dif_pos (le_refl 0)]
    exact congrArg Except.ok (Outcome.ok.inj h)
  · obtain ⟨-, hss, hlast⟩ := decrypted_of_readAt htweak hlen h
    have hout := readUnits_out (K := K) hss htweak offset.toNat_lt hlast p.reader
    rw [readAt_apply] at h
    exact Outcome.ofExcept_eq_ok_iff.mp (hout.symm.trans h)

/-- **What was read and is encrypted again** can be written where it was read. -/
theorem DecryptedPayload.overwrite_encryptArea (h : Inverts K enc)
    (htweak : p.ivTweak.toNat < 2 ^ 64)
    (htotal : p.totalSize.toNat = (ImageReader.image p.reader).length)
    (hoffset : offset.toNat = first * p.unitSize)
    (hfit : (first + n) * p.unitSize ≤ p.payloadSize)
    (hbs : (readAt K offset (n * p.unitSize) p).out = .ok bs) :
    overwrite (ImageReader.image p.reader) (p.payloadOffset.toNat + first * p.unitSize)
      (encryptArea enc p.masterKey bs p.unitSize
        (p.ivTweak.toNat + first * tweakStep p.unitSize)) = ImageReader.image p.reader := by
  have hpos := p.unitSize_pos
  have hunits := readUnits_of_readAt htweak hbs
  rw [payloadSize, htotal] at hfit
  rcases Nat.eq_zero_or_pos n with rfl | hn
  · rw [Nat.zero_mul, Spec.readUnits, dif_pos (le_refl 0)] at hunits
    obtain rfl := Except.ok.inj hunits
    rw [h.encryptArea_nil hpos, overwrite_nil]
  · -- the payload is not empty, so it starts in the image
    have hlarge : 0 < (first + n) * p.unitSize := Nat.mul_pos (by omega) hpos
    have hin : p.payloadOffset.toNat + (first + n) * p.unitSize ≤
        (ImageReader.image p.reader).length := by omega
    have henc := (Spec.encryptArea_readUnits (p := p.map ImageReader.image) h hoffset rfl hin
      hunits).2
    rw [Nat.add_mul, ← Nat.add_assoc] at hin
    exact (congrArg _ henc).trans (overwrite_window hin)

/-- **When whole units are read**: if there are any inside the payload, if there is a cipher. -/
theorem DecryptedPayload.exists_readAt_units_iff (htweak : p.ivTweak.toNat < 2 ^ 64)
    (htotal : p.totalSize.toNat = (ImageReader.image p.reader).length)
    (hoffset : offset.toNat = first * p.unitSize)
    (hfit : (first + n) * p.unitSize ≤ p.payloadSize) :
    (∃ bs, (readAt K offset (n * p.unitSize) p).out = .ok bs) ↔
      n = 0 ∨ AcceptedParameters p := by
  have hpos := p.unitSize_pos
  rcases Nat.eq_zero_or_pos n with rfl | hn
  · refine iff_of_true ⟨[], ?_⟩ (Or.inl rfl)
    rw [Nat.zero_mul, readAt_apply, DecryptedPayload.readUnits, dif_pos (le_refl 0)]
    rfl
  have hlen : 0 < n * p.unitSize := Nat.mul_pos hn hpos
  rw [or_iff_right (Nat.ne_of_gt hn)]
  constructor
  · rintro ⟨bs, hbs⟩
    exact (decrypted_of_readAt htweak hlen hbs).1
  · intro hparameters
    obtain ⟨dec, hdec⟩ := (Spec.exists_xtsCipher_iff (K := K)).mpr hparameters.2
    have hone : p.unitSize ≤ n * p.unitSize := Nat.le_mul_of_pos_left _ hn
    have himage := ImageReader.image_lt p.reader
    have hdiv := Nat.div_mul_le_self (offset.toNat + (n * p.unitSize - 1)) p.unitSize
    rw [payloadSize, htotal, Nat.add_mul] at hfit
    -- a unit of the payload is no longer than the image
    have hss : p.unitSize ≤ isizeMax := by
      rw [isizeMax]
      omega
    have hlast : p.unitAddress (offset.toNat + (n * p.unitSize - 1)) < 2 ^ 64 := by
      rw [unitAddress]
      omega
    obtain ⟨bs, hbs, -⟩ := exists_readAt (p := p) hparameters.1 hdec hss htweak hlast
    exact ⟨bs, hbs⟩

end Writing

/-- **What is read can be written back.** Let encryption be what decryption undoes. For every
unlocked volume, after any calls, a read of whole data units inside the payload loses nothing:
encrypted with the key, the unit size and the tweaks of the volume, and written where the units
stand, its bytes leave the container as it is. Whole units can be read exactly in the mode
`xts-plain64`, if any are asked for. -/
theorem write_back {ρ : Type} [ImageReader ρ] {K : Crates} {enc : Encipher} (h : Inverts K enc)
    (r : ρ) (passphrase : Bytes) {u : Unlocked ρ} (hu : UnlockedFrom K r passphrase u)
    (calls : List File.Call) {offset : UInt64} {first n : ℕ}
    (hoffset : offset.toNat = first * u.payload.unitSize)
    (hfit : (first + n) * u.payload.unitSize ≤ u.payload.payloadSize) :
    (∀ bs, (DecryptedPayload.readAt K offset (n * u.payload.unitSize)
        (replies (DecryptedPayload.call K) u.payload calls).2).out = .ok bs →
      overwrite (ImageReader.image r) (u.payload.payloadOffset.toNat + first * u.payload.unitSize)
        (encryptArea enc u.payload.masterKey bs u.payload.unitSize
          (u.payload.ivTweak.toNat + first * tweakStep u.payload.unitSize)) =
        ImageReader.image r) ∧
    ((∃ bs, (DecryptedPayload.readAt K offset (n * u.payload.unitSize)
        (replies (DecryptedPayload.call K) u.payload calls).2).out = .ok bs) ↔
      n = 0 ∨ u.payload.cipherMode = "xts-plain64") := by
  obtain ⟨hkey, htweak⟩ := hu.isXtsKey
  have hparameters : AcceptedParameters u.payload ↔ u.payload.cipherMode = "xts-plain64" :=
    and_iff_left hkey
  rw [(DecryptedPayload.movedFrom_replies K calls).readAt_out K, ← hu.image_eq.1, ← hparameters]
  refine ⟨fun bs hbs => ?_, ?_⟩
  · exact DecryptedPayload.overwrite_encryptArea h htweak hu.total_eq hoffset hfit hbs
  · exact DecryptedPayload.exists_readAt_units_iff htweak hu.total_eq hoffset hfit

theorem write_back_sample : ∃ u, UnlockedFrom (Sample.cratesOf Sample.metadata)
    (Sample.readerOf Sample.fits_metadata [] (by decide)) Sample.passphrase u ∧
      ∃ bs, (DecryptedPayload.readAt (Sample.cratesOf Sample.metadata) 0
          (1 * u.payload.unitSize) u.payload).out = .ok bs ∧
        overwrite (ImageReader.image (Sample.readerOf Sample.fits_metadata [] (by decide)))
          (u.payload.payloadOffset.toNat + 0 * u.payload.unitSize)
          (encryptArea (Sample.tablesOf Sample.metadata).xtsSector u.payload.masterKey bs
            u.payload.unitSize (u.payload.ivTweak.toNat + 0 * tweakStep u.payload.unitSize)) =
          ImageReader.image (Sample.readerOf Sample.fits_metadata [] (by decide)) := by
  obtain ⟨u, hu, hmode, -, hunit, hsize, -⟩ := Sample.exists_unlocked [] (by decide)
  have hone : (0 + 1) * u.payload.unitSize ≤ u.payload.payloadSize := by
    rw [hunit, hsize]
    decide
  obtain ⟨hback, hread⟩ := write_back (Sample.tablesOf Sample.metadata).inverts _ _ hu []
    (show (0 : UInt64).toNat = 0 * u.payload.unitSize from (Nat.zero_mul _).symm) hone
  obtain ⟨bs, hbs⟩ := hread.mpr (Or.inr hmode)
  exact ⟨u, hu, bs, hbs, hback bs hbs⟩

end Luks
