import Luks.Variants

/-!
# A keyslot without stripes

A stripe count of 0 is within every ceiling. Such a keyslot has no key material: the
material takes no room in the image, decrypts to nothing, and merges to a key of zeros,
whatever the passphrase is (`Luks.Spec.openMaterial_stripeless_iff`). If the header has a
digest of that key, the keyslot accepts it.

An unlock is free of this exactly when no keyslot without stripes gets to a digest of the
zero key (`Luks.unlock_fromMaterial_iff`).
-/

namespace Luks

open Basis

variable (K : Crates)

/-- The stripes of the keyslot that accepted a key. -/
def Accepted.stripes : Accepted → ℕ
  | .luks1 slot => slot.stripes.toNat
  | .luks2 slot _ => slot.afStripes.toNat

/-- The key of a volume comes from key material: the keyslot that accepted it has
stripes. -/
def FromMaterial {ρ : Type} (u : Unlocked ρ) : Prop := 1 ≤ u.acceptedBy.stripes

/-- The key that merging nothing gives. -/
def zeroKey (n : ℕ) : Bytes := List.replicate n 0

/-! ### What merging nothing gives -/

namespace Spec

variable {K} {img passphrase : Bytes}

theorem afMerge_stripeless (D : Digest) (blockSize : ℕ) :
    afMerge D [] blockSize 0 = zeroKey blockSize := by
  have hacc : mergeBlocks D [] blockSize (0 - 1) = zeroKey blockSize := rfl
  rw [afMerge, hacc, Nat.zero_sub, Nat.zero_mul, Nat.zero_add, slice?]
  by_cases hempty : blockSize = 0
  · rw [hempty]
    rfl
  · rw [if_neg]
    rintro ⟨-, hle⟩
    exact hempty (Nat.le_zero.mp hle)

theorem eq_zeroKey_of_openMaterial {cipherMode hashSpec : String} {slotKey key : Bytes}
    {offset blockSize : ℕ}
    (h : openMaterial K img cipherMode hashSpec slotKey offset blockSize 0 = .ok (some key)) :
    key = zeroKey blockSize := by
  obtain ⟨-, -, plain, hplain, hmerge⟩ := openMaterial_eq_some_iff.mp h
  obtain ⟨-, dec, -, rfl⟩ := (xtsDecryptArea_eq_ok_iff K).mp hplain
  have hnothing : decryptUnits dec (window img offset (sectorRounded (blockSize * 0))) 512 0
      (tweakStep 512) = [] := by
    rw [Nat.mul_zero, sectorRounded, window_zero_right]
    rfl
  rw [merge, if_neg (by decide), hnothing] at hmerge
  obtain ⟨hash, -, hkey⟩ := bind_eq_ok_iff.mp hmerge
  rw [afMerge_stripeless] at hkey
  exact (Except.ok.inj hkey).symm

/-- **Key material without stripes gives the zero key**, wherever it is and whatever it
is decrypted under. -/
theorem openMaterial_stripeless_iff {cipherMode hashSpec : String} {slotKey key : Bytes}
    {offset blockSize : ℕ} :
    openMaterial K img cipherMode hashSpec slotKey offset blockSize 0 = .ok (some key) ↔
      UsableMaterial cipherMode hashSpec slotKey.length ∧ key = zeroKey blockSize := by
  have hinside : Inside img offset (sectorRounded (blockSize * 0)) := by
    rw [Nat.mul_zero]
    intro i hi
    exact absurd hi (Nat.not_lt_zero i)
  constructor
  · intro h
    exact ⟨(exists_openMaterial_iff.mp ⟨key, h⟩).2.2, eq_zeroKey_of_openMaterial h⟩
  · rintro ⟨husable, rfl⟩
    obtain ⟨c, hc⟩ := (exists_openMaterial_iff (K := K)).mpr ⟨Nat.zero_le _, hinside, husable⟩
    rwa [← eq_zeroKey_of_openMaterial hc]

/-! ### Keyslots without stripes -/

/-- The candidate of a LUKS1 keyslot without stripes is the zero key. -/
theorem candidate1_stripeless_iff {header : Luks1Header} {slot : Keyslot} {key : Bytes}
    (hs : slot.stripes.toNat = 0) :
    candidate1 K img header passphrase slot = .ok (some key) ↔
      Usable1 header ∧ key = zeroKey header.keyBytes.toNat := by
  rw [candidate1, bind_eq_ok_iff, hs]
  simp only [openMaterial_stripeless_iff]
  constructor
  · rintro ⟨slotKey, hslotKey, husable, hkey⟩
    rw [length_of_deriveKey_eq_ok K hslotKey] at husable
    exact ⟨husable, hkey⟩
  · rintro ⟨husable, hkey⟩
    have hlen : header.keyBytes.toNat ≤ maxKeyBytes := by
      have := husable.keyLen
      rw [maxKeyBytes]
      omega
    obtain ⟨slotKey, hslotKey⟩ : ∃ k, deriveKey K header.hashSpec passphrase slot.salt.toList
        slot.iterations header.keyBytes.toNat = .ok k :=
      (exists_deriveKey_iff K).mpr ⟨hlen, husable.hash⟩
    refine ⟨slotKey, hslotKey, ?_, hkey⟩
    rw [length_of_deriveKey_eq_ok K hslotKey]
    exact husable

/-- The candidate of a LUKS2 keyslot without stripes is the zero key. -/
theorem candidate2_stripeless_iff {slot : Luks2Keyslot} {key : Bytes}
    (hs : slot.afStripes.toNat = 0) :
    candidate2 K img passphrase slot = .ok (some key) ↔
      (∃ slotKey, deriveSlotKey K passphrase slot = .ok slotKey) ∧
        UsableMaterial (splitEncryption slot.areaEncryption).2 slot.afHash slot.keySize.toNat ∧
        key = zeroKey slot.keySize.toNat := by
  rw [candidate2, bind_eq_ok_iff, hs]
  simp only [openMaterial_stripeless_iff]
  constructor
  · rintro ⟨slotKey, hslotKey, husable, hkey⟩
    rw [length_of_deriveSlotKey_eq_ok hslotKey] at husable
    exact ⟨⟨slotKey, hslotKey⟩, husable, hkey⟩
  · rintro ⟨⟨slotKey, hslotKey⟩, husable, hkey⟩
    refine ⟨slotKey, hslotKey, ?_, hkey⟩
    rw [length_of_deriveSlotKey_eq_ok hslotKey]
    exact husable

/-- A LUKS1 keyslot without stripes is reached, in a header that has what keyslots need
and a digest of the zero key. -/
def ReachesStripeless1 (K : Crates) (img : Bytes) (header : Luks1Header) (passphrase : Bytes) :
    Prop :=
  ∃ slot, Reached1 K img header passphrase slot ∧ slot.stripes = 0 ∧ Usable1 header ∧
    Verifies1 K header (zeroKey header.keyBytes.toNat)

/-- A LUKS2 keyslot without stripes is reached, that can derive a key and has what key
material needs, and with it a digest of the zero key. -/
def ReachesStripeless2 (K : Crates) (img : Bytes) (header : Luks2Header) (passphrase : Bytes) :
    Prop :=
  ∃ slot dig, Reached2 K img header passphrase slot ∧ slot.afStripes = 0 ∧
    (∃ slotKey, deriveSlotKey K passphrase slot = .ok slotKey) ∧
    UsableMaterial (splitEncryption slot.areaEncryption).2 slot.afHash slot.keySize.toNat ∧
    ReachedDigest K header slot (zeroKey slot.keySize.toNat) dig ∧ Applies dig slot ∧
    Verifies2 K dig (zeroKey slot.keySize.toNat)

theorem exists_accepts1_stripeless_iff {header : Luks1Header} :
    (∃ key slot, Accepts1 K img header passphrase key slot ∧ slot.stripes.toNat = 0) ↔
      ReachesStripeless1 K img header passphrase := by
  constructor
  · rintro ⟨key, slot, h, hs⟩
    have hcand := candidate1_eq_some_iff.mpr ⟨Nat.le_of_not_lt h.opens.not_overStriped, h.inside,
      h.candidate⟩
    obtain ⟨husable, rfl⟩ := (candidate1_stripeless_iff hs).mp hcand
    exact ⟨slot, h.reached, UInt32.toNat_inj.mp hs, husable, h.verifies⟩
  · rintro ⟨slot, hreached, hs, husable, hverifies⟩
    have hs' : slot.stripes.toNat = 0 := UInt32.toNat_inj.mpr hs
    have hcand : candidate1 K img header passphrase slot =
        .ok (some (zeroKey header.keyBytes.toNat)) :=
      (candidate1_stripeless_iff hs').mpr ⟨husable, rfl⟩
    obtain ⟨-, hin, hkey⟩ := candidate1_eq_some_iff.mp hcand
    exact ⟨_, slot, ⟨hreached, hin, hkey, hverifies⟩, hs'⟩

theorem exists_accepts2_stripeless_iff {header : Luks2Header} :
    (∃ key slot dig, Accepts2 K img header passphrase key slot dig ∧ slot.afStripes.toNat = 0) ↔
      ReachesStripeless2 K img header passphrase := by
  constructor
  · rintro ⟨key, slot, dig, h, hs⟩
    obtain ⟨hslotKey, husable, rfl⟩ := (candidate2_stripeless_iff hs).mp
      (candidate2_of_isCandidate2 h.inside h.candidate)
    exact ⟨slot, dig, h.reached, UInt32.toNat_inj.mp hs, hslotKey, husable, h.reachedDigest,
      h.applies, h.verifies⟩
  · rintro ⟨slot, dig, hreached, hs, hslotKey, husable, hdig, happlies, hverifies⟩
    have hs' : slot.afStripes.toNat = 0 := UInt32.toNat_inj.mpr hs
    have hcand : candidate2 K img passphrase slot = .ok (some (zeroKey slot.keySize.toNat)) :=
      (candidate2_stripeless_iff hs').mpr ⟨hslotKey, husable, rfl⟩
    obtain ⟨-, hin, hkey⟩ := candidate2_eq_some_iff.mp hcand
    exact ⟨_, slot, dig, ⟨hreached, hin, hkey, hdig, happlies, hverifies⟩, hs'⟩

end Spec

/-- **When a key comes from key material.** Every unlock with a passphrase returns a
volume only by a keyslot with stripes, exactly when no keyslot of the image without
stripes gets to a digest of the zero key under it. -/
theorem unlock_fromMaterial_iff {ρ : Type} [ImageReader ρ] (K : Crates) (r : ρ)
    (passphrase : Bytes) :
    (∀ clk budget u, (unlockWithPassphraseWithin K clk passphrase budget (World.init r)).out =
        .ok u → FromMaterial u) ↔
      (∀ header, Spec.IsLuks1 (ImageReader.image r) header →
        ¬Spec.ReachesStripeless1 K (ImageReader.image r) header passphrase) ∧
      ∀ header segment, Spec.IsLuks2 K (ImageReader.image r) header segment →
        ¬Spec.ReachesStripeless2 K (ImageReader.image r) header passphrase := by
  refine (forall_unlock_iff K r passphrase (P := FromMaterial)).trans ?_
  -- version by version: an accepting keyslot without stripes is one that is reached
  refine and_congr (forall_congr' fun header => forall_congr' fun hluks => ?_)
    (forall_congr' fun header => forall_congr' fun segment => forall_congr' fun hluks => ?_)
  · rw [← Spec.exists_accepts1_stripeless_iff]
    constructor
    · rintro h ⟨key, slot, haccepts, hs⟩
      exact Nat.ne_of_gt (h key slot haccepts) hs
    · intro h key slot haccepts
      exact Nat.one_le_iff_ne_zero.mpr
        fun hs => h ⟨key, slot, haccepts, hs⟩
  · rw [← Spec.exists_accepts2_stripeless_iff]
    constructor
    · rintro h ⟨key, slot, dig, haccepts, hs⟩
      exact Nat.ne_of_gt (h key slot dig haccepts) hs
    · intro h key slot dig haccepts
      exact Nat.one_le_iff_ne_zero.mpr
        fun hs => h ⟨key, slot, dig, haccepts, hs⟩

/-! ### A container that every passphrase opens -/

namespace Sample

/-- Metadata without stripes, and with the digest of the zero key. -/
def stripeless : Metadata :=
  { metadata with stripes := 0, digest := "0lbiJkxjOXTFhOKBOODRLgqVjSE=" }

theorem fits_stripeless : stripeless.Fits :=
  Metadata.fits_of_texts (by decide +kernel) (by decide +kernel)

theorem base64Encode_zeroDigest : base64Encode zeroDigest = "0lbiJkxjOXTFhOKBOODRLgqVjSE=" := by
  decide +kernel

theorem verifies2_stripeless : Spec.Verifies2 (cratesOf stripeless)
    (stripeless.digestRecord (cratesOf stripeless)) (zeroKey 32) := by
  have hsalt : (stripeless.digestRecord (cratesOf stripeless)).salt = digestSalt :=
    b64_text stripeless base64Encode_digestSalt
  have hbytes : (stripeless.digestRecord (cratesOf stripeless)).digest = zeroDigest :=
    b64_text stripeless base64Encode_zeroDigest
  rw [Spec.Verifies2, Spec.Verifies, hsalt, hbytes]
  exact (Spec.deriveKey_name .sha1 (zeroKey 32) digestSalt one_le_iterations (by decide)).trans rfl

theorem reachesStripeless2_stripeless (p : Bytes) : Spec.ReachesStripeless2 (cratesOf stripeless)
    (imageOf fits_stripeless []) (stripeless.header (cratesOf stripeless)) p :=
  ⟨_, _, reached2_imageOf fits_stripeless [] p, rfl,
    (Spec.exists_deriveKey_iff _).mpr ⟨show (32 : UInt64).toNat ≤ maxKeyBytes by decide,
      supportedHash_name .sha1⟩,
    ⟨show (splitEncryption "aes-xts-plain64").2 = _ by decide, supportedHash_name .sha1,
      Or.inl rfl⟩,
    reachedDigest_header _ _ _, ⟨rfl, List.mem_singleton_self _⟩, verifies2_stripeless⟩

end Sample

/-- **Every passphrase opens it.** -/
theorem not_fromMaterial_stripeless :
    ¬∃ passphrase, ∀ clk budget u, (unlockWithPassphraseWithin (Sample.cratesOf Sample.stripeless)
      clk passphrase budget
      (World.init (Sample.readerOf Sample.fits_stripeless [] (by decide)))).out = .ok u →
        FromMaterial u := by
  rintro ⟨passphrase, h⟩
  have hluks := Sample.isLuks2_imageOf Sample.fits_stripeless [] (by decide) (by decide)
  obtain ⟨key, slot, dig, haccepts, hs⟩ := Spec.exists_accepts2_stripeless_iff.mpr
    (Sample.reachesStripeless2_stripeless passphrase)
  have hmaterial := ((forall_unlock_iff _ _ _ (P := FromMaterial)).mp h).2 _ _ hluks key slot dig
    haccepts
  exact Nat.ne_of_gt hmaterial hs

end Luks
