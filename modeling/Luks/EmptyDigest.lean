import Luks.Variants

/-!
# A digest without bytes

A digest that is not base64, or is empty, counts as one with no bytes
(`Luks.b64`). To verify a key the code derives as many bytes from it as the digest has,
and compares: with no bytes to derive, every key verifies. So such a digest accepts
whatever the first keyslot that it lists gives, under any passphrase.

An unlock is free of this exactly when no keyslot gets to such a digest
(`Luks.unlock2_decodes_iff`).
-/

namespace Luks

open Basis

variable (K : Crates)

/-- The digest that accepted the key of a volume has a `digest` field in the document
which is base64, for at least one byte. -/
def AcceptedByBytes {ρ : Type} (img : Bytes) (u : Unlocked ρ) : Prop :=
  ∃ slot dig v, u.acceptedBy = .luks2 slot dig ∧ Spec.DescribesDigest K img v dig ∧
    DecodesDigest K v

/-- A keyslot that is reached gives some key, and the digest that is reached with it,
which lists the keyslot and can be computed, has no bytes. -/
def Spec.ReachesEmptyDigest (img : Bytes) (header : Luks2Header) (passphrase : Bytes) : Prop :=
  ∃ slot key dig, Spec.Reached2 K img header passphrase slot ∧
    Inside img slot.areaOffset.toNat slot.materialSize ∧
    IsCandidate2 K img passphrase slot key ∧ Spec.ReachedDigest K header slot key dig ∧
    Spec.Applies dig slot ∧ SupportedHash dig.hash ∧ dig.digest = []

variable {K}

/-- **A digest without bytes verifies every key.** -/
theorem Spec.verifies2_of_nil {dig : Luks2Digest} (hhash : SupportedHash dig.hash)
    (hnil : dig.digest = []) (key : Bytes) : Spec.Verifies2 K dig key := by
  obtain ⟨d, hd⟩ : ∃ d, Spec.deriveKey K dig.hash key dig.salt dig.iterations 0 = .ok d :=
    (Spec.exists_deriveKey_iff K).mpr ⟨by decide, hhash⟩
  obtain rfl : d = [] := List.length_eq_zero_iff.mp (Spec.length_of_deriveKey_eq_ok K hd)
  rw [Spec.Verifies2, Spec.Verifies, hnil]
  exact hd

/-- A key is accepted by a digest without bytes exactly when one is reached. -/
theorem Spec.exists_accepts2_nil_iff {img : Bytes} {header : Luks2Header} {passphrase : Bytes} :
    (∃ key slot dig, Spec.Accepts2 K img header passphrase key slot dig ∧ dig.digest = []) ↔
      Spec.ReachesEmptyDigest K img header passphrase := by
  constructor
  · rintro ⟨key, slot, dig, h, hnil⟩
    exact ⟨slot, key, dig, h.reached, h.inside, h.candidate, h.reachedDigest, h.applies,
      ((Spec.exists_deriveKey_iff K).mp ⟨_, h.verifies⟩).2, hnil⟩
  · rintro ⟨slot, key, dig, hreached, hin, hkey, hdig, happlies, hhash, hnil⟩
    exact ⟨key, slot, dig,
      ⟨hreached, hin, hkey, hdig, happlies, Spec.verifies2_of_nil hhash hnil key⟩,
      hnil⟩

theorem Spec.acceptedByBytes_iff {img : Bytes} {header : Luks2Header} {segment : Luks2Segment}
    (hluks : Spec.IsLuks2 K img header segment) {passphrase key : Bytes} {slot : Luks2Keyslot}
    {dig : Luks2Digest} (h : Spec.Accepts2 K img header passphrase key slot dig)
    (p : DecryptedPayload Bytes) :
    AcceptedByBytes K img ⟨p, .luks2 slot dig⟩ ↔ dig.digest ≠ [] := by
  constructor
  · rintro ⟨slot', dig', v, haccepted, ⟨root, id, -, -, hparse⟩, hdecodes⟩
    obtain ⟨rfl, rfl⟩ : slot = slot' ∧ dig = dig' := by simpa using haccepted
    exact (digest_ne_nil_iff hparse).mpr hdecodes
  · intro hne
    obtain ⟨v, hdescribes⟩ := Spec.exists_describesDigest hluks.parses h.dig_mem
    obtain ⟨root, id, -, -, hparse⟩ := id hdescribes
    exact ⟨slot, dig, v, rfl, hdescribes, (digest_ne_nil_iff hparse).mp hne⟩

/-- **When a key is accepted by its bytes.** Every LUKS2 unlock with a passphrase returns
a volume only by a digest of at least one byte, exactly when no keyslot of the image gets
to a digest without bytes under it. -/
theorem unlock2_decodes_iff {ρ : Type} [ImageReader ρ] (K : Crates) (r : ρ) (passphrase : Bytes) :
    (∀ clk budget u, (unlock2WithPassphraseWithin K clk passphrase budget (World.init r)).out =
        .ok u → AcceptedByBytes K (ImageReader.image r) u) ↔
      ∀ header segment, Spec.IsLuks2 K (ImageReader.image r) header segment →
        ¬Spec.ReachesEmptyDigest K (ImageReader.image r) header passphrase := by
  refine (forall_unlock2_iff K r passphrase
    (P := AcceptedByBytes K (ImageReader.image r))).trans ?_
  refine forall_congr' fun header => forall_congr' fun segment => forall_congr' fun hluks => ?_
  rw [← Spec.exists_accepts2_nil_iff]
  constructor
  · rintro h ⟨key, slot, dig, haccepts, hnil⟩
    exact (Spec.acceptedByBytes_iff hluks haccepts _).mp (h key slot dig haccepts) hnil
  · intro h key slot dig haccepts
    exact (Spec.acceptedByBytes_iff hluks haccepts _).mpr
      fun hnil => h ⟨key, slot, dig, haccepts, hnil⟩

/-! ### A container that any passphrase opens -/

namespace Sample

/-- Metadata whose digest is not base64. -/
def noDigest : Metadata := { metadata with digest := "!" }

theorem fits_noDigest : noDigest.Fits :=
  Metadata.fits_of_texts (by decide +kernel) (by decide +kernel)

/-- Another passphrase. -/
def wrongPassphrase : Bytes := utf8 "wrong"

theorem reachesEmptyDigest_imageOf {m : Metadata} (h : m.Fits) (hstripes : m.stripes = 2)
    (hdigest : m.digest = "!") (p : Bytes) : Spec.ReachesEmptyDigest (cratesOf m)
      (imageOf h []) (m.header (cratesOf m)) p := by
  obtain ⟨key, hin, hkey⟩ := exists_candidate2_imageOf h [] hstripes p
  have hnil : b64 (cratesOf m) (.string m.digest) = [] := by
    have hdecode : ((base64Decode "!").getD []) = [] := by decide +kernel
    rw [hdigest]
    exact hdecode
  exact ⟨_, key, _, reached2_imageOf h [] p, hin, hkey, reachedDigest_header _ _ _,
    ⟨rfl, List.mem_singleton_self _⟩, supportedHash_name .sha1, hnil⟩

end Sample

/-- **The wrong passphrase opens it.** -/
theorem not_acceptedByBytes_noDigest :
    ¬∀ clk budget u, (unlock2WithPassphraseWithin (Sample.cratesOf Sample.noDigest) clk
      Sample.wrongPassphrase budget
      (World.init (Sample.readerOf Sample.fits_noDigest [] (by decide)))).out = .ok u →
        AcceptedByBytes (Sample.cratesOf Sample.noDigest)
          (Sample.imageOf Sample.fits_noDigest []) u := by
  intro h
  have hluks := Sample.isLuks2_imageOf Sample.fits_noDigest [] (by decide) (by decide)
  obtain ⟨key, slot, dig, haccepts, hnil⟩ := Spec.exists_accepts2_nil_iff.mpr
    (Sample.reachesEmptyDigest_imageOf Sample.fits_noDigest rfl rfl Sample.wrongPassphrase)
  have hbytes := (forall_unlock2_iff _ _ _ (P := AcceptedByBytes _ _)).mp h _ _ hluks key slot dig
    haccepts
  exact (Spec.acceptedByBytes_iff hluks haccepts _).mp hbytes hnil

end Luks
