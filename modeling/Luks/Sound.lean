import Luks.Recovery

/-!
# Unlocking is sound and rejects nothing falsely

Both versions of the format end an unlock for a reason that can be read off the
image. A key that is returned is the merged key material of a keyslot, and a
digest verifies it. A rejected passphrase fails on every keyslot: its material is
cut off, or the candidate in it is refuted by every digest there is.
-/

namespace Luks

open Basis

namespace Keyslot

/-- Where the key material of a LUKS1 keyslot starts. -/
def materialOffset (slot : Keyslot) : ℕ := slot.keyMaterialOffset.toNat * sector

/-- The size of the key material of a LUKS1 keyslot, in whole sectors. -/
def materialSize (slot : Keyslot) (header : Luks1Header) : ℕ :=
  Spec.sectorRounded (header.keyBytes.toNat * slot.stripes.toNat)

end Keyslot

/-- The size of the key material of a LUKS2 keyslot, in whole sectors. -/
def Luks2Keyslot.materialSize (slot : Luks2Keyslot) : ℕ :=
  Spec.sectorRounded (slot.keySize.toNat * slot.afStripes.toNat)

variable (K : Crates) {img : Bytes}

/-- `key` is the key material of a LUKS1 keyslot, decrypted under the key its
derivation gives and merged. -/
def IsCandidate1 (img : Bytes) (header : Luks1Header) (passphrase : Bytes) (slot : Keyslot)
    (key : Bytes) : Prop :=
  ∃ slotKey plain,
    Spec.deriveKey K header.hashSpec passphrase slot.salt.toList slot.iterations
      header.keyBytes.toNat = .ok slotKey ∧
    Spec.xtsDecryptArea K header.cipherMode slotKey
      (window img slot.materialOffset (slot.materialSize header)) 512 0 = .ok plain ∧
    Spec.merge K header.hashSpec plain header.keyBytes.toNat slot.stripes.toNat = .ok key

/-- `key` is the key material of a LUKS2 keyslot, decrypted under the key its
derivation gives and merged. -/
def IsCandidate2 (img : Bytes) (passphrase : Bytes) (slot : Luks2Keyslot) (key : Bytes) : Prop :=
  ∃ slotKey plain,
    Spec.deriveSlotKey K passphrase slot = .ok slotKey ∧
    Spec.xtsDecryptArea K (splitEncryption slot.areaEncryption).2 slotKey
      (window img slot.areaOffset.toNat slot.materialSize) 512 0 = .ok plain ∧
    Spec.merge K slot.afHash plain slot.keySize.toNat slot.afStripes.toNat = .ok key

namespace Spec

variable {K}

/-- A derived key opens key material exactly when the material is all there and gives
a candidate. -/
theorem bind_openMaterial_eq_some_iff {derived : Except LuksError Bytes}
    {cipherMode hashSpec : String} {offset blockSize stripes : ℕ} {key : Bytes} :
    (derived >>= fun slotKey => openMaterial K img cipherMode hashSpec slotKey offset blockSize
        stripes) = .ok (some key) ↔
      stripes ≤ maxStripes ∧ Inside img offset (sectorRounded (blockSize * stripes)) ∧
        ∃ slotKey plain, derived = .ok slotKey ∧
          xtsDecryptArea K cipherMode slotKey
            (window img offset (sectorRounded (blockSize * stripes))) 512 0 = .ok plain ∧
          merge K hashSpec plain blockSize stripes = .ok key := by
  rw [bind_eq_ok_iff]
  constructor
  · rintro ⟨slotKey, hkey, hopen⟩
    obtain ⟨hs, hin, plain, hplain, hmerge⟩ := openMaterial_eq_some_iff.mp hopen
    exact ⟨hs, hin, slotKey, plain, hkey, hplain, hmerge⟩
  · rintro ⟨hs, hin, slotKey, plain, hkey, hplain, hmerge⟩
    exact ⟨slotKey, hkey, openMaterial_eq_some_iff.mpr ⟨hs, hin, plain, hplain, hmerge⟩⟩

/-- A LUKS1 keyslot has a candidate exactly when its material is all there and gives
it. -/
theorem candidate1_eq_some_iff {header : Luks1Header} {passphrase key : Bytes} {slot : Keyslot} :
    candidate1 K img header passphrase slot = .ok (some key) ↔
      slot.stripes.toNat ≤ maxStripes ∧
        Inside img slot.materialOffset (slot.materialSize header) ∧
        IsCandidate1 K img header passphrase slot key :=
  bind_openMaterial_eq_some_iff

theorem not_inside_of_candidate1_eq_none {header : Luks1Header} {passphrase : Bytes}
    {slot : Keyslot} (h : candidate1 K img header passphrase slot = .ok none) :
    ¬Inside img slot.materialOffset (slot.materialSize header) := by
  obtain ⟨slotKey, -, hopen⟩ := bind_eq_ok_iff.mp h
  exact (openMaterial_eq_none_iff.mp hopen).2

/-- A LUKS2 keyslot has a candidate exactly when its material is all there and gives
it. -/
theorem candidate2_eq_some_iff {passphrase key : Bytes} {slot : Luks2Keyslot} :
    candidate2 K img passphrase slot = .ok (some key) ↔
      slot.afStripes.toNat ≤ maxStripes ∧
        Inside img slot.areaOffset.toNat slot.materialSize ∧
        IsCandidate2 K img passphrase slot key :=
  bind_openMaterial_eq_some_iff

theorem not_inside_of_candidate2_eq_none {passphrase : Bytes} {slot : Luks2Keyslot}
    (h : candidate2 K img passphrase slot = .ok none) :
    ¬Inside img slot.areaOffset.toNat slot.materialSize := by
  obtain ⟨slotKey, -, hopen⟩ := bind_eq_ok_iff.mp h
  exact (openMaterial_eq_none_iff.mp hopen).2

/-! ### Rejections -/

/-- Reading a header never ends in authentication failure. -/
theorem readFill_ne_failed (o n : ℕ) : readFill img o n ≠ .error .authenticationFailed := by
  rw [readFill]
  split_ifs <;> simp

theorem unlock1_eq_failed {passphrase : Bytes}
    (h : unlock1 K img passphrase = .error .authenticationFailed) :
    ∃ header, header1 img = .ok header ∧
      recoverMasterKey1 K img header passphrase = .error .authenticationFailed := by
  have hparse : ∀ buf, Luks1Header.parse buf ≠ .error .authenticationFailed := by
    intro buf
    simp only [Luks1Header.parse]
    split_ifs <;> simp
  rw [unlock1, ← bind_assoc] at h
  rcases bind_eq_error_iff.mp h with h | ⟨header, hheader, h⟩
  · rcases bind_eq_error_iff.mp h with h | ⟨buf, -, h⟩
    · exact absurd h (readFill_ne_failed 0 _)
    · exact absurd h (hparse buf)
  · split_ifs at h with hslots
    · simp at h
    · rcases bind_eq_error_iff.mp h with h | ⟨r, -, h⟩
      · exact ⟨header, hheader, h⟩
      · cases h

theorem unlock2_eq_failed {passphrase : Bytes}
    (h : unlock2 K img passphrase = .error .authenticationFailed) :
    ∃ header, header2 K img = .ok header ∧
      recoverMasterKey2 K img header passphrase = .error .authenticationFailed := by
  -- no error of parsing is an authentication failure
  have hparse : header2 K img ≠ .error .authenticationFailed := by
    simp only [header2, Luks2Header.parse]
    split_ifs
    · simp
    · simp
    · split
      · simp
      · split <;> simp
  rw [unlock2] at h
  rcases bind_eq_error_iff.mp h with h | ⟨bin, -, h⟩
  · exact absurd h (readFill_ne_failed 0 _)
  rcases bind_eq_error_iff.mp h with h | ⟨header, hheader, h⟩
  · exact absurd h hparse
  cases hseg : header.cryptSegment with
  | none => simp [hseg] at h
  | some segment =>
    simp only [hseg] at h
    split_ifs at h with hslots
    · simp at h
    · rcases bind_eq_error_iff.mp h with h | ⟨r, -, h⟩
      · exact ⟨header, hheader, h⟩
      · cases h

end Spec

/-! ### The two versions -/

section Runs

variable {ρ : Type} [ImageReader ρ] (clk : Clock) {w : World ρ}

/-- A volume a LUKS1 unlock returns comes from an enabled keyslot. -/
theorem unlock1_sound {budget : Duration} {passphrase : Bytes} {u : Unlocked ρ}
    (hw : Opens img w)
    (hok : (unlock1WithPassphraseWithin K clk passphrase budget w).out = .ok u) :
    ∃ header slot, Spec.header1 img = .ok header ∧ (∃ i, header.keyslots i = slot) ∧
      slot.active = keyEnabled ∧ Inside img slot.materialOffset (slot.materialSize header) ∧
      IsCandidate1 K img header passphrase slot u.payload.masterKey ∧
      Spec.Verifies1 K header u.payload.masterKey := by
  obtain ⟨header, r, hheader, hr, hu⟩ :=
    Spec.unlock1_eq_ok_iff.mp ((unlock1_run K clk budget passphrase).eq_ok hw hok)
  obtain ⟨l₁, slot, l₂, hl, -, hslot⟩ := Spec.recoverMasterKey1_eq_ok_iff.mp hr
  obtain ⟨hcand, hverifies, -⟩ := Spec.tryKeyslot1_eq_some_iff.mp hslot
  obtain ⟨-, hin, hkey⟩ := Spec.candidate1_eq_some_iff.mp hcand
  have hslots : slot ∈ header.activeKeyslots := by
    rw [hl]
    simp
  obtain ⟨hmem, hactive⟩ := Luks1Header.mem_activeKeyslots.mp hslots
  have hmaster : u.payload.masterKey = r.key :=
    congrArg (fun v : Unlocked Bytes => v.payload.masterKey) hu
  rw [hmaster]
  exact ⟨header, slot, hheader, hmem, hactive, hin, hkey, hverifies⟩

/-- A passphrase a LUKS1 unlock rejects fails on every enabled keyslot. -/
theorem unlock1_rejects {budget : Duration} {passphrase : Bytes} (hw : Opens img w)
    (herr : (unlock1WithPassphraseWithin K clk passphrase budget w).out =
      .err .authenticationFailed) :
    ∃ header, Spec.header1 img = .ok header ∧ ∀ slot ∈ header.activeKeyslots,
      ¬Inside img slot.materialOffset (slot.materialSize header) ∨
        ∃ candidate, IsCandidate1 K img header passphrase slot candidate ∧
          ¬Spec.Verifies1 K header candidate := by
  obtain ⟨header, hheader, hr⟩ := Spec.unlock1_eq_failed
    ((unlock1_run K clk budget passphrase).eq_error hw (fun h => h.1) herr)
  refine ⟨header, hheader, fun slot hslot => ?_⟩
  rcases Spec.tryKeyslot1_eq_none_iff.mp (Spec.recoverMasterKey1_eq_failed_iff.mp hr slot hslot)
    with hcand | ⟨candidate, hcand, hverify⟩
  · exact Or.inl (Spec.not_inside_of_candidate1_eq_none hcand)
  · obtain ⟨-, -, hkey⟩ := Spec.candidate1_eq_some_iff.mp hcand
    exact Or.inr ⟨candidate, hkey, (Spec.verify_eq_false_iff.mp hverify).2.2⟩

/-- A volume a LUKS2 unlock returns comes from a keyslot and a digest that lists
it. -/
theorem unlock2_sound {budget : Duration} {passphrase : Bytes} {u : Unlocked ρ}
    (hw : Opens img w)
    (hok : (unlock2WithPassphraseWithin K clk passphrase budget w).out = .ok u) :
    ∃ header slot dig, Spec.header2 K img = .ok header ∧ slot ∈ header.keyslots ∧
      dig ∈ header.digests ∧ Inside img slot.areaOffset.toNat slot.materialSize ∧
      IsCandidate2 K img passphrase slot u.payload.masterKey ∧ Spec.Applies dig slot ∧
      Spec.Verifies2 K dig u.payload.masterKey ∧ u.acceptedBy = .luks2 slot dig := by
  obtain ⟨-, hspec⟩ := unlock2_eq_ok K clk hw hok
  obtain ⟨-, header, segment, r, hheader, -, hr, hu⟩ := Spec.unlock2_eq_ok_iff.mp hspec
  obtain ⟨l₁, slot, l₂, hl, -, hslot⟩ := Spec.recoverMasterKey2_eq_ok_iff.mp hr
  -- the digest found is the first that applies and verifies
  obtain ⟨hcand, d₁, dig, d₂, hd, -, happlies, hverifies, haccepted⟩ :=
    Spec.tryKeyslot2_eq_some_iff.mp hslot
  obtain ⟨-, hin, hkey⟩ := Spec.candidate2_eq_some_iff.mp hcand
  have hmaster : u.payload.masterKey = r.key :=
    congrArg (fun v : Unlocked Bytes => v.payload.masterKey) hu
  have hby : u.acceptedBy = r.acceptedBy := congrArg Unlocked.acceptedBy hu
  rw [hmaster, hby]
  exact ⟨header, slot, dig, hheader, by rw [hl]; simp, by rw [hd]; simp, hin, hkey, happlies,
    hverifies, haccepted⟩

/-- A passphrase a LUKS2 unlock rejects fails on every keyslot and digest. -/
theorem unlock2_rejects {budget : Duration} {passphrase : Bytes} (hw : Opens img w)
    (herr : (unlock2WithPassphraseWithin K clk passphrase budget w).out =
      .err .authenticationFailed) :
    ∃ header, Spec.header2 K img = .ok header ∧ ∀ slot ∈ header.keyslots,
      ¬Inside img slot.areaOffset.toNat slot.materialSize ∨
        ∃ candidate, IsCandidate2 K img passphrase slot candidate ∧
          ∀ dig ∈ header.digests, Spec.Applies dig slot → ¬Spec.Verifies2 K dig candidate := by
  have hfit : ¬Oversized img := by
    intro h
    have hstop := (unlock2_stops K clk h budget passphrase w hw).1
    rw [herr] at hstop
    cases hstop
  obtain ⟨header, hheader, hr⟩ := Spec.unlock2_eq_failed
    ((unlock2_run K clk hfit budget passphrase).eq_error hw (fun h => h.1) herr)
  refine ⟨header, hheader, fun slot hslot => ?_⟩
  rcases Spec.tryKeyslot2_eq_none_iff.mp (Spec.recoverMasterKey2_eq_failed_iff.mp hr slot hslot)
    with hcand | ⟨candidate, hcand, hall⟩
  · exact Or.inl (Spec.not_inside_of_candidate2_eq_none hcand)
  · obtain ⟨-, -, hkey⟩ := Spec.candidate2_eq_some_iff.mp hcand
    refine Or.inr ⟨candidate, hkey, fun dig hdig happlies => ?_⟩
    exact (Spec.verify_eq_false_iff.mp
      (Spec.tryDigest_eq_none_iff.mp (hall dig hdig) happlies)).2.2

/-- **Unlocking is sound, and rejects nothing falsely**, in both versions, on every
image, for every passphrase, whatever the clock and the budget. -/
theorem unlock_sound_and_complete (r : ρ) (budget : Duration) (passphrase : Bytes) :
    ((∀ u, (unlock1WithPassphraseWithin K clk passphrase budget (World.init r)).out = .ok u →
        ∃ header slot, Spec.header1 (ImageReader.image r) = .ok header ∧
          (∃ i, header.keyslots i = slot) ∧ slot.active = keyEnabled ∧
          Inside (ImageReader.image r) slot.materialOffset (slot.materialSize header) ∧
          IsCandidate1 K (ImageReader.image r) header passphrase slot u.payload.masterKey ∧
          Spec.Verifies1 K header u.payload.masterKey) ∧
      ((unlock1WithPassphraseWithin K clk passphrase budget (World.init r)).out =
          .err .authenticationFailed →
        ∃ header, Spec.header1 (ImageReader.image r) = .ok header ∧
          ∀ slot ∈ header.activeKeyslots,
            ¬Inside (ImageReader.image r) slot.materialOffset (slot.materialSize header) ∨
              ∃ candidate,
                IsCandidate1 K (ImageReader.image r) header passphrase slot candidate ∧
                ¬Spec.Verifies1 K header candidate)) ∧
    ((∀ u, (unlock2WithPassphraseWithin K clk passphrase budget (World.init r)).out = .ok u →
        ∃ header slot dig, Spec.header2 K (ImageReader.image r) = .ok header ∧
          slot ∈ header.keyslots ∧ dig ∈ header.digests ∧
          Inside (ImageReader.image r) slot.areaOffset.toNat slot.materialSize ∧
          IsCandidate2 K (ImageReader.image r) passphrase slot u.payload.masterKey ∧
          Spec.Applies dig slot ∧ Spec.Verifies2 K dig u.payload.masterKey ∧
          u.acceptedBy = .luks2 slot dig) ∧
      ((unlock2WithPassphraseWithin K clk passphrase budget (World.init r)).out =
          .err .authenticationFailed →
        ∃ header, Spec.header2 K (ImageReader.image r) = .ok header ∧
          ∀ slot ∈ header.keyslots,
            ¬Inside (ImageReader.image r) slot.areaOffset.toNat slot.materialSize ∨
              ∃ candidate, IsCandidate2 K (ImageReader.image r) passphrase slot candidate ∧
                ∀ dig ∈ header.digests, Spec.Applies dig slot →
                  ¬Spec.Verifies2 K dig candidate)) :=
  ⟨⟨fun _ hok => unlock1_sound K clk (opens_init r) hok, unlock1_rejects K clk (opens_init r)⟩,
    ⟨fun _ hok => unlock2_sound K clk (opens_init r) hok, unlock2_rejects K clk (opens_init r)⟩⟩

end Runs

end Luks
