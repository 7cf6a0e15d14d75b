import Luks.Encryption
import Luks.Sound

/-!
# How a keyslot ends

Trying a keyslot ends in one of three ways. It **opens**, with a key that a digest
verifies; it is **refused**, for something it asks for; or it is passed over. The
first two are told here by what the header and the image hold
(`Luks.Spec.Opens1`, `Luks.Spec.Opens2`, `Luks.Spec.Refused2`). A LUKS1 keyslot
shares all it asks for with the other ones but its stripe count, so that count is
all it can be refused for once another keyslot opens.

A recovery succeeds exactly when it reaches a keyslot that opens before one that is
refused (`Luks.Spec.exists_recoverMasterKey1_iff`,
`Luks.Spec.exists_recoverMasterKey2_iff`).
-/

namespace Luks

open Basis

namespace Spec

variable {K : Crates} {img : Bytes}

/-! ### Key material -/

section Material

variable {cipherMode hashSpec : String} {slotKey : Bytes} {offset blockSize stripes : ℕ}

/-- A key selects a cipher exactly when it has the size of two AES keys. -/
theorem exists_xtsCipher_iff {key : Bytes} :
    (∃ dec, xtsCipher K key = .ok dec) ↔ IsXtsKey key := by
  rw [xtsCipher, IsXtsKey]
  split_ifs with h₁ h₂ <;> simp [*]

theorem exists_merge_iff {material : Bytes} :
    (∃ key, merge K hashSpec material blockSize stripes = .ok key) ↔
      stripes ≤ maxStripes ∧ SupportedHash hashSpec := by
  rw [merge, ← exists_hashOf_iff]
  split_ifs with hs
  · simp [Nat.not_le_of_lt hs]
  · cases hashOf hashSpec <;> simp [bind, Except.bind, pure, Except.pure, Nat.le_of_not_lt hs]

/-- What key material that is all there needs to give a candidate. -/
structure UsableMaterial (cipherMode hashSpec : String) (keyLen : ℕ) : Prop where
  /-- The one mode there is. -/
  mode : cipherMode = "xts-plain64"
  /-- A hash with an implementation. -/
  hash : SupportedHash hashSpec
  /-- The size of two AES keys. -/
  keyLen : keyLen = 32 ∨ keyLen = 64

theorem exists_openMaterial_iff :
    (∃ c, openMaterial K img cipherMode hashSpec slotKey offset blockSize stripes =
        .ok (some c)) ↔
      stripes ≤ maxStripes ∧ Inside img offset (sectorRounded (blockSize * stripes)) ∧
        UsableMaterial cipherMode hashSpec slotKey.length := by
  simp only [openMaterial_eq_some_iff, xtsDecryptArea_eq_ok_iff]
  constructor
  · rintro ⟨c, hs, hin, plain, ⟨hmode, dec, hdec, -⟩, hmerge⟩
    exact ⟨hs, hin, hmode, (exists_merge_iff.mp ⟨c, hmerge⟩).2, exists_xtsCipher_iff.mp ⟨dec, hdec⟩⟩
  · rintro ⟨hs, hin, hmode, hhash, hkey⟩
    obtain ⟨dec, hdec⟩ := (exists_xtsCipher_iff (K := K)).mpr hkey
    obtain ⟨c, hc⟩ := (exists_merge_iff (K := K)).mpr ⟨hs, hhash⟩
    exact ⟨c, hs, hin, _, ⟨hmode, dec, hdec, rfl⟩, hc⟩

/-- Key material is refused exactly when it has too many stripes, or is all there and
cannot be used. -/
theorem exists_openMaterial_error_iff :
    (∃ e, openMaterial K img cipherMode hashSpec slotKey offset blockSize stripes = .error e) ↔
      maxStripes < stripes ∨ Inside img offset (sectorRounded (blockSize * stripes)) ∧
        ¬UsableMaterial cipherMode hashSpec slotKey.length := by
  rw [exists_eq_error_iff, openMaterial_eq_none_iff, exists_openMaterial_iff, ← Nat.not_le]
  tauto

end Material

/-! ### LUKS1 -/

section Luks1

variable {header : Luks1Header} {passphrase : Bytes} {slot : Keyslot}

/-- A LUKS1 keyslot **opens**: its key material is all there, and gives a key that the
digest of the header verifies. -/
def Opens1 (K : Crates) (img : Bytes) (header : Luks1Header) (passphrase : Bytes)
    (slot : Keyslot) : Prop :=
  ∃ key, Inside img slot.materialOffset (slot.materialSize header) ∧
    IsCandidate1 K img header passphrase slot key ∧ Verifies1 K header key

/-- What all keyslots of a LUKS1 header need. -/
def Usable1 (header : Luks1Header) : Prop :=
  UsableMaterial header.cipherMode header.hashSpec header.keyBytes.toNat

/-- The stripes of a LUKS1 keyslot are over the ceiling. -/
def OverStriped (slot : Keyslot) : Prop := maxStripes < slot.stripes.toNat

/-- A keyslot that opens does so for a key. -/
theorem exists_tryKeyslot1_some_iff :
    (∃ r, tryKeyslot1 K img header passphrase slot = .ok (some r)) ↔
      Opens1 K img header passphrase slot := by
  simp only [tryKeyslot1_eq_some_iff, candidate1_eq_some_iff]
  constructor
  · rintro ⟨r, ⟨-, hin, hkey⟩, hverifies, -⟩
    exact ⟨r.key, hin, hkey, hverifies⟩
  · rintro ⟨key, hin, hkey, hverifies⟩
    obtain ⟨slotKey, plain, hslotKey, hplain, hmerge⟩ := hkey
    exact ⟨⟨key, .luks1 slot⟩, ⟨(exists_merge_iff.mp ⟨key, hmerge⟩).1, hin, slotKey, plain,
      hslotKey, hplain, hmerge⟩, hverifies, rfl⟩

/-- Where a keyslot opens, all keyslots have what they need. -/
theorem Opens1.usable (h : Opens1 K img header passphrase slot) : Usable1 header := by
  obtain ⟨key, -, ⟨slotKey, plain, hslotKey, hplain, hmerge⟩, -⟩ := h
  obtain ⟨hmode, dec, hdec, -⟩ := (xtsDecryptArea_eq_ok_iff K).mp hplain
  have hlen := exists_xtsCipher_iff.mp ⟨dec, hdec⟩
  rw [IsXtsKey, length_of_deriveKey_eq_ok K hslotKey] at hlen
  exact ⟨hmode, (exists_merge_iff.mp ⟨key, hmerge⟩).2, hlen⟩

theorem Opens1.not_overStriped (h : Opens1 K img header passphrase slot) : ¬OverStriped slot := by
  obtain ⟨key, -, ⟨slotKey, plain, -, -, hmerge⟩, -⟩ := h
  exact Nat.not_lt_of_le (exists_merge_iff.mp ⟨key, hmerge⟩).1

/-- **All a LUKS1 keyslot can be refused for is its stripe count**, if the header has
what keyslots need. -/
theorem exists_tryKeyslot1_error_iff (h : Usable1 header) :
    (∃ e, tryKeyslot1 K img header passphrase slot = .error e) ↔ OverStriped slot := by
  obtain ⟨slotKey, hslotKey⟩ : ∃ key, deriveKey K header.hashSpec passphrase slot.salt.toList
      slot.iterations header.keyBytes.toNat = .ok key :=
    (exists_deriveKey_iff K).mpr ⟨by rw [maxKeyBytes]; have := h.keyLen; omega, h.hash⟩
  have hcand : candidate1 K img header passphrase slot = openMaterial K img header.cipherMode
      header.hashSpec slotKey slot.materialOffset header.keyBytes.toNat slot.stripes.toNat := by
    rw [candidate1, hslotKey]
    rfl
  -- the header's digest has a length and a hash that can be computed
  have hverify : ∀ c, ¬∃ e, verify1 K header c = .error e := by
    rintro c ⟨e, he⟩
    obtain ⟨d, hd⟩ : ∃ d, deriveKey K header.hashSpec c header.mkDigestSalt.toList
        header.mkDigestIter header.mkDigest.toList.length = .ok d :=
      (exists_deriveKey_iff K).mpr ⟨by rw [List.Vector.toList_length]; decide, h.hash⟩
    rw [verify1, verify, hd] at he
    cases he
  have hopen : (∃ e, openMaterial K img header.cipherMode header.hashSpec slotKey
      slot.materialOffset header.keyBytes.toNat slot.stripes.toNat = .error e) ↔ _ :=
    exists_openMaterial_error_iff
  rw [length_of_deriveKey_eq_ok K hslotKey, or_iff_left (fun hbad => hbad.2 h)] at hopen
  rw [OverStriped, ← hopen, ← hcand]
  simp only [tryKeyslot1, bind_eq_error_iff]
  constructor
  · rintro ⟨e, he | ⟨_ | c, -, he⟩⟩
    · exact ⟨e, he⟩
    · cases he
    · rcases bind_eq_error_iff.mp he with he | ⟨verified, -, he⟩
      · exact absurd ⟨e, he⟩ (hverify c)
      · cases verified <;> cases he
  · rintro ⟨e, he⟩
    exact ⟨e, Or.inl he⟩

/-- **A LUKS1 recovery succeeds** exactly when it reaches a keyslot that opens before
one with too many stripes. -/
theorem exists_recoverMasterKey1_iff :
    (∃ r, recoverMasterKey1 K img header passphrase = .ok r) ↔
      Reaches header.activeKeyslots OverStriped (Opens1 K img header passphrase) := by
  have hfound : (∃ r, recoverMasterKey1 K img header passphrase = .ok r) ↔
      ∃ r, header.activeKeyslots.findSomeM? (tryKeyslot1 K img header passphrase) =
        .ok (some r) := by
    simp only [recoverMasterKey1_eq_ok_iff, findSomeM?_eq_some_iff]
  rw [hfound, exists_findSomeM?_eq_some_iff]
  simp only [exists_tryKeyslot1_some_iff]
  constructor
  · intro h
    obtain ⟨s, -, hs⟩ := h.exists_mem
    exact h.mono (fun s' _ => (exists_tryKeyslot1_error_iff hs.usable).mpr) fun _ _ h => h
  · intro h
    obtain ⟨s, -, hs⟩ := h.exists_mem
    exact h.mono (fun s' _ => (exists_tryKeyslot1_error_iff hs.usable).mp) fun _ _ h => h

end Luks1

/-! ### LUKS2 -/

section Luks2

variable {header : Luks2Header} {digests : List Luks2Digest} {passphrase : Bytes}
  {slot : Luks2Keyslot} {dig : Luks2Digest} {candidate : Bytes}

theorem length_of_deriveSlotKey_eq_ok {key : Bytes}
    (h : deriveSlotKey K passphrase slot = .ok key) :
    key.length = slot.keySize.toNat := by
  rw [deriveSlotKey] at h
  split at h
  · obtain ⟨alg, -, hkey⟩ := exists_argon2Hash_of_deriveKeyArgon2 K h
    exact K.length_argon2Hash hkey
  · exact length_of_deriveKey_eq_ok K h

/-- A digest that can be computed: not too long, and of a hash there is. -/
def Usable2 (dig : Luks2Digest) : Prop :=
  dig.digest.length ≤ maxKeyBytes ∧ SupportedHash dig.hash

theorem exists_tryDigest_some_iff : (∃ r, tryDigest K slot candidate dig = .ok (some r)) ↔
    Applies dig slot ∧ Verifies2 K dig candidate := by
  simp only [tryDigest_eq_some_iff]
  constructor
  · rintro ⟨r, happlies, hverifies, -⟩
    exact ⟨happlies, hverifies⟩
  · rintro ⟨happlies, hverifies⟩
    exact ⟨_, happlies, hverifies, rfl⟩

/-- A digest is refused exactly when it applies and cannot be computed. -/
theorem exists_tryDigest_error_iff : (∃ e, tryDigest K slot candidate dig = .error e) ↔
    Applies dig slot ∧ ¬Usable2 dig := by
  have hverifies : Verifies2 K dig candidate → Usable2 dig := fun h =>
    (exists_deriveKey_iff K).mp ⟨_, h⟩
  rw [exists_eq_error_iff, tryDigest_eq_none_iff, exists_tryDigest_some_iff, verify_eq_false_iff,
    ← and_assoc]
  change ¬(Applies dig slot → Usable2 dig ∧ ¬Verifies2 K dig candidate) ∧ _ ↔ _
  tauto

/-- A LUKS2 keyslot **opens**: its key material is all there, and gives a key that a
digest which lists it verifies, before one that is refused. -/
def Opens2 (K : Crates) (img : Bytes) (digests : List Luks2Digest) (passphrase : Bytes)
    (slot : Luks2Keyslot) : Prop :=
  ∃ key, Inside img slot.areaOffset.toNat slot.materialSize ∧
    IsCandidate2 K img passphrase slot key ∧
    Reaches digests (fun g => Applies g slot ∧ ¬Usable2 g)
      (fun g => Applies g slot ∧ Verifies2 K g key)

/-- A LUKS2 keyslot is **refused** for something it asks for. -/
inductive Refused2 (K : Crates) (img : Bytes) (digests : List Luks2Digest) (passphrase : Bytes)
    (slot : Luks2Keyslot) : Prop
  /-- Its key cannot be derived: the hash, the variant or the parameters have no
  implementation, or a size is over its ceiling. -/
  | derivation (e : LuksError) (h : deriveSlotKey K passphrase slot = .error e)
  /-- It has too many stripes. -/
  | stripes (h : maxStripes < slot.afStripes.toNat)
  /-- Its key material is all there and cannot be used. -/
  | material (hin : Inside img slot.areaOffset.toNat slot.materialSize)
      (h : ¬UsableMaterial (splitEncryption slot.areaEncryption).2 slot.afHash slot.keySize.toNat)
  /-- A digest that lists it cannot be computed, and none before has verified its
  key. -/
  | digest (key : Bytes) (hin : Inside img slot.areaOffset.toNat slot.materialSize)
      (hkey : IsCandidate2 K img passphrase slot key)
      (h : Reaches digests (fun g => Applies g slot ∧ Verifies2 K g key)
        (fun g => Applies g slot ∧ ¬Usable2 g))

theorem candidate2_of_isCandidate2 {key : Bytes}
    (hin : Inside img slot.areaOffset.toNat slot.materialSize)
    (hkey : IsCandidate2 K img passphrase slot key) :
    candidate2 K img passphrase slot = .ok (some key) := by
  obtain ⟨slotKey, plain, hslotKey, hplain, hmerge⟩ := hkey
  exact candidate2_eq_some_iff.mpr ⟨(exists_merge_iff.mp ⟨key, hmerge⟩).1, hin, slotKey, plain,
    hslotKey, hplain, hmerge⟩

/-- A keyslot that opens does so for a key. -/
theorem exists_tryKeyslot2_some_iff :
    (∃ r, tryKeyslot2 K img digests passphrase slot = .ok (some r)) ↔
      Opens2 K img digests passphrase slot := by
  have hdigests : ∀ key, (∃ r, digests.findSomeM? (tryDigest K slot key) = .ok (some r)) ↔
      Reaches digests (fun g => Applies g slot ∧ ¬Usable2 g)
        (fun g => Applies g slot ∧ Verifies2 K g key) := by
    intro key
    simp only [exists_findSomeM?_eq_some_iff, exists_tryDigest_some_iff, exists_tryDigest_error_iff]
  simp only [tryKeyslot2, bind_eq_ok_iff]
  constructor
  · rintro ⟨r, _ | key, hcand, h⟩
    · cases h
    · obtain ⟨-, hin, hkey⟩ := candidate2_eq_some_iff.mp hcand
      exact ⟨key, hin, hkey, (hdigests key).mp ⟨r, h⟩⟩
  · rintro ⟨key, hin, hkey, h⟩
    obtain ⟨r, hr⟩ := (hdigests key).mpr h
    exact ⟨r, some key, candidate2_of_isCandidate2 hin hkey, hr⟩

/-- The candidate of a LUKS2 keyslot is refused for its derivation, its stripes or its
key material. -/
theorem exists_candidate2_error_iff : (∃ e, candidate2 K img passphrase slot = .error e) ↔
    (∃ e, deriveSlotKey K passphrase slot = .error e) ∨
      (∃ key, deriveSlotKey K passphrase slot = .ok key) ∧
        (maxStripes < slot.afStripes.toNat ∨
          Inside img slot.areaOffset.toNat slot.materialSize ∧
          ¬UsableMaterial (splitEncryption slot.areaEncryption).2 slot.afHash
            slot.keySize.toNat) := by
  rw [candidate2]
  cases hkey : deriveSlotKey K passphrase slot with
  | error e => simp [bind, Except.bind]
  | ok key =>
    have hopen : (∃ e, openMaterial K img (splitEncryption slot.areaEncryption).2 slot.afHash key
        slot.areaOffset.toNat slot.keySize.toNat slot.afStripes.toNat = .error e) ↔ _ :=
      exists_openMaterial_error_iff
    rw [length_of_deriveSlotKey_eq_ok hkey] at hopen
    change (∃ e, openMaterial K img _ _ key _ _ _ = .error e) ↔ _
    rw [hopen]
    simp [Luks2Keyslot.materialSize]

/-- **A keyslot ends in a refusal exactly when it is refused.** -/
theorem exists_tryKeyslot2_error_iff :
    (∃ e, tryKeyslot2 K img digests passphrase slot = .error e) ↔
      Refused2 K img digests passphrase slot := by
  have hdigests : ∀ key, (∃ e, digests.findSomeM? (tryDigest K slot key) = .error e) ↔
      Reaches digests (fun g => Applies g slot ∧ Verifies2 K g key)
        (fun g => Applies g slot ∧ ¬Usable2 g) := by
    intro key
    simp only [exists_findSomeM?_eq_error_iff, exists_tryDigest_some_iff,
      exists_tryDigest_error_iff]
  have hcand : (∃ e, candidate2 K img passphrase slot = .error e) ↔ _ :=
    exists_candidate2_error_iff
  simp only [tryKeyslot2, bind_eq_error_iff]
  constructor
  · rintro ⟨e, he | ⟨_ | key, hkey, he⟩⟩
    · rcases hcand.mp ⟨e, he⟩ with ⟨e', he'⟩ | ⟨-, hs | ⟨hin, hbad⟩⟩
      · exact .derivation e' he'
      · exact .stripes hs
      · exact .material hin hbad
    · cases he
    · obtain ⟨-, hin, hkey⟩ := candidate2_eq_some_iff.mp hkey
      exact .digest key hin hkey ((hdigests key).mp ⟨e, he⟩)
  -- a derivation that is refused already refuses the keyslot, whatever else is wrong with it
  · have hslotKey : (∃ e, deriveSlotKey K passphrase slot = .error e) ∨
        ∃ key, deriveSlotKey K passphrase slot = .ok key := by
      cases deriveSlotKey K passphrase slot <;> simp
    rintro (⟨e, he⟩ | hs | ⟨hin, hbad⟩ | ⟨key, hin, hkey, h⟩)
    · obtain ⟨e', he'⟩ := hcand.mpr (Or.inl ⟨e, he⟩)
      exact ⟨e', Or.inl he'⟩
    · obtain ⟨e', he'⟩ := hcand.mpr (hslotKey.imp_right fun h => ⟨h, Or.inl hs⟩)
      exact ⟨e', Or.inl he'⟩
    · obtain ⟨e', he'⟩ := hcand.mpr (hslotKey.imp_right fun h => ⟨h, Or.inr ⟨hin, hbad⟩⟩)
      exact ⟨e', Or.inl he'⟩
    · obtain ⟨e', he'⟩ := (hdigests key).mpr h
      exact ⟨e', Or.inr ⟨some key, candidate2_of_isCandidate2 hin hkey, he'⟩⟩

/-- **A LUKS2 recovery succeeds** exactly when it reaches a keyslot that opens before
one that is refused. -/
theorem exists_recoverMasterKey2_iff :
    (∃ r, recoverMasterKey2 K img header passphrase = .ok r) ↔
      Reaches header.keyslots (Refused2 K img header.digests passphrase)
        (Opens2 K img header.digests passphrase) := by
  have hfound : (∃ r, recoverMasterKey2 K img header passphrase = .ok r) ↔
      ∃ r, header.keyslots.findSomeM? (tryKeyslot2 K img header.digests passphrase) =
        .ok (some r) := by
    simp only [recoverMasterKey2_eq_ok_iff, findSomeM?_eq_some_iff]
  rw [hfound, exists_findSomeM?_eq_some_iff]
  simp only [exists_tryKeyslot2_some_iff, exists_tryKeyslot2_error_iff]

end Luks2

end Spec

end Luks
