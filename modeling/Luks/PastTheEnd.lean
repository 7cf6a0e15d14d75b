import Luks.Addresses

/-!
# Reading past the end

A read at an offset is documented to fill its buffer, with zeros past the end of the
payload. What is zero there is what the data units are filled up with before they are
decrypted: a byte past the end is a byte of a decrypted unit like any other, and no cipher
need make a zero of it.

So a read fills its buffer as documented, for every cipher, exactly when it does not go
past the end and the units of the volume can be decrypted (`Luks.fillsBuffer_iff`).
-/

namespace Luks

open Basis

section Documented

variable {ρ : Type} [ImageReader ρ]

/-- What a read should leave in its buffer. -/
structure FilledWith (K : Crates) (p : DecryptedPayload ρ) (offset len : ℕ) (bs : Bytes) :
    Prop where
  /-- The buffer is full. -/
  length_eq : bs.length = len
  /-- Bytes at or past the end of the payload are zero. -/
  past : ∀ i < len, p.payloadSize ≤ offset + i → bs[i]? = some 0
  /-- A byte before the end, of a unit that is wholly inside the image, is the byte of the
  decrypted unit. -/
  inside : ∀ i < len, offset + i < p.payloadSize →
    p.payloadOffset.toNat + ((offset + i) / p.unitSize + 1) * p.unitSize ≤
      (ImageReader.image p.reader).length →
    ∃ dec, xtsCipher K p.masterKey = .ok dec ∧
      bs[i]? = (dec
        (toLe 16 (p.ivTweak.toNat + (offset + i) / p.unitSize * tweakStep p.unitSize))
        (window (ImageReader.image p.reader)
          (p.payloadOffset.toNat + (offset + i) / p.unitSize * p.unitSize) p.unitSize))[
            (offset + i) % p.unitSize]?

/-- A read fills its buffer as documented. -/
def FillsBuffer (K : Crates) (p : DecryptedPayload ρ) (offset : UInt64) (len : ℕ) : Prop :=
  ∃ bs, (DecryptedPayload.readAt K offset len p).out = .ok bs ∧
    FilledWith K p offset.toNat len bs

end Documented

/-- The cipher that complements every byte: XTS over the complement of a block. -/
def complement : UnitCipher where
  decrypt _ _ _ _ unit := unit.map (~~~ ·)
  length_decrypt _ _ _ _ _ := List.length_map _

section Reads

variable {ρ : Type} [ImageReader ρ] {K : Crates} {p : DecryptedPayload ρ} {offset : UInt64}
  {len : ℕ}

/-- **A read inside the payload** fills its buffer, under every cipher. -/
theorem FillsBuffer.of_le (hparameters : AcceptedParameters p) (hss : p.unitSize ≤ isizeMax)
    (htweak : p.ivTweak.toNat < 2 ^ 64)
    (htotal : p.totalSize.toNat = (ImageReader.image p.reader).length) (hlen : 0 < len)
    (hrange : offset.toNat + len ≤ p.payloadSize) : FillsBuffer K p offset len := by
  obtain ⟨dec, hdec⟩ := (Spec.exists_xtsCipher_iff (K := K)).mpr hparameters.2
  have hlt := p.totalSize.toNat_lt
  rw [DecryptedPayload.payloadSize] at hrange
  have hlast : p.unitAddress (offset.toNat + (len - 1)) < 2 ^ 64 := by
    have hle := Nat.div_mul_le_self (offset.toNat + (len - 1)) p.unitSize
    rw [DecryptedPayload.unitAddress]
    omega
  obtain ⟨bs, hout, hlength, hbytes⟩ := exists_readAt hparameters.1 hdec hss htweak hlast
  refine ⟨bs, hout, hlength, fun i hi hpast => ?_, fun i hi _ hin => ⟨dec, hdec, ?_⟩⟩
  · rw [DecryptedPayload.payloadSize] at hpast
    omega
  · have hwhole : Spec.plainUnit dec (p.map ImageReader.image) _ = _ := Spec.plainUnit_of_le hin
    exact (hbytes i hi).trans
      (congrArg (fun unit : Bytes => unit[(offset.toNat + i) % p.unitSize]?) hwhole)

/-- A read of nothing fills its buffer. -/
theorem fillsBuffer_zero : FillsBuffer K p offset 0 := by
  refine ⟨[], ?_, rfl, fun i hi => by omega, fun i hi => by omega⟩
  rw [DecryptedPayload.readAt_apply, DecryptedPayload.readUnits, dif_pos (le_refl 0)]
  rfl

/-- **A byte past the end is no zero** under the complement. -/
theorem not_fillsBuffer_complement (htweak : p.ivTweak.toNat < 2 ^ 64)
    (htotal : p.totalSize.toNat = (ImageReader.image p.reader).length) (hlen : 0 < len)
    (hpast : p.payloadSize < offset.toNat + len) :
    ¬FillsBuffer (K.withCipher complement) p offset len := by
  rintro ⟨bs, hout, hfilled⟩
  obtain ⟨hparameters, hss, hlast⟩ := decrypted_of_readAt htweak hlen hout
  obtain ⟨aes, k₁, k₂, hdec⟩ := exists_xtsCipher_withCipher K complement hparameters.2
  obtain ⟨bs', hout', -, hbytes⟩ := exists_readAt hparameters.1 hdec hss htweak hlast
  obtain rfl : bs = bs' := Outcome.ok.inj (hout.symm.trans hout')
  -- the last byte of the read is past the end
  have hzero := hfilled.past (len - 1) (by omega) (by omega)
  rw [hbytes (len - 1) (by omega)] at hzero
  have hmod := Nat.mod_lt (offset.toNat + (len - 1)) p.unitSize_pos
  have hdiv := Nat.div_add_mod' (offset.toNat + (len - 1)) p.unitSize
  have hnone : (ImageReader.image p.reader)[p.payloadOffset.toNat +
      (offset.toNat + (len - 1)) / p.unitSize * p.unitSize +
        (offset.toNat + (len - 1)) % p.unitSize]? = none := by
    rw [DecryptedPayload.payloadSize] at hpast
    exact List.getElem?_eq_none (by omega)
  change (List.map (~~~ ·) (zeroFill (window (ImageReader.image p.reader)
    (p.payloadOffset.toNat + (offset.toNat + (len - 1)) / p.unitSize * p.unitSize) p.unitSize)
      p.unitSize))[(offset.toNat + (len - 1)) % p.unitSize]? = some 0 at hzero
  rw [List.getElem?_map, getElem?_zeroFill_window, if_pos hmod, hnone] at hzero
  cases hzero

end Reads

/-- **When a read fills its buffer.** For every unlocked volume, after any calls, and every
offset and length: under every cipher the read fills its buffer as documented, exactly when
it asks for nothing, or asks for nothing past the end of a payload whose mode is
`xts-plain64` and whose units fit a buffer. -/
theorem fillsBuffer_iff {ρ : Type} [ImageReader ρ] (K : Crates) (r : ρ) (passphrase : Bytes)
    {u : Unlocked ρ} (hu : UnlockedFrom K r passphrase u) (calls : List File.Call)
    (offset : UInt64) (len : ℕ) :
    (∀ c, FillsBuffer (K.withCipher c)
        (replies (DecryptedPayload.call K) u.payload calls).2 offset len) ↔
      len = 0 ∨ u.payload.cipherMode = "xts-plain64" ∧ u.payload.unitSize ≤ isizeMax ∧
        offset.toNat + len ≤ u.payload.payloadSize := by
  obtain ⟨hkey, htweak⟩ := hu.isXtsKey
  obtain ⟨r', pos, hr', hmoved⟩ := DecryptedPayload.movedFrom_replies K (p := u.payload) calls
  have htotal : (u.payload.movedTo r' pos).totalSize.toNat =
      (ImageReader.image (u.payload.movedTo r' pos).reader).length :=
    hu.total_eq.trans (congrArg List.length (Eq.symm hr'))
  rw [hmoved]
  rcases Nat.eq_zero_or_pos len with rfl | hlen
  · exact ⟨fun _ => Or.inl rfl, fun _ _ => fillsBuffer_zero⟩
  rw [or_iff_right (Nat.ne_of_gt hlen)]
  constructor
  · intro h
    obtain ⟨bs, hout, -⟩ := h complement
    obtain ⟨hparameters, hss, -⟩ := decrypted_of_readAt
      (p := u.payload.movedTo r' pos) htweak hlen hout
    refine ⟨hparameters.1, hss, Nat.le_of_not_lt fun hpast => ?_⟩
    exact not_fillsBuffer_complement (p := u.payload.movedTo r' pos) htweak htotal hlen hpast
      (h complement)
  · rintro ⟨hmode, hss, hrange⟩ c
    exact .of_le (p := u.payload.movedTo r' pos) ⟨hmode, hkey⟩ hss htweak htotal hlen hrange

/-! ### The sector after the last -/

/-- **What is read past the end is the cipher's doing**: on an unlocked container of one
sector, a read of the byte after it, which the complement makes 0xFF. -/
theorem not_fillsBuffer_nextSector : ¬∀ u, UnlockedFrom (Sample.cratesOf Sample.metadata)
    (Sample.readerOf Sample.fits_metadata [] (by decide)) Sample.passphrase u →
      ∀ c, FillsBuffer ((Sample.cratesOf Sample.metadata).withCipher c) u.payload 512 1 := by
  intro h
  obtain ⟨u, hu, -, -, -, hsize, -⟩ := Sample.exists_unlocked [] (by decide)
  refine not_fillsBuffer_complement hu.isXtsKey.2 hu.total_eq Nat.one_pos ?_ (h u hu complement)
  rw [hsize]
  decide

theorem fillsBuffer_sample : ∃ u, UnlockedFrom (Sample.cratesOf Sample.metadata)
    (Sample.readerOf Sample.fits_metadata [] (by decide)) Sample.passphrase u ∧
      ∀ c, FillsBuffer ((Sample.cratesOf Sample.metadata).withCipher c)
        (replies (DecryptedPayload.call (Sample.cratesOf Sample.metadata)) u.payload []).2
          0 512 := by
  obtain ⟨u, hu, hmode, -, hunit, hsize, -⟩ := Sample.exists_unlocked [] (by decide)
  refine ⟨u, hu, (fillsBuffer_iff _ _ _ hu [] 0 512).mpr (Or.inr ⟨hmode, ?_, ?_⟩)⟩
  · rw [hunit]
    decide
  · rw [hsize]
    decide

end Luks
