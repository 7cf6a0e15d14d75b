import Luks.PayloadCalls
import Luks.Variants

/-!
# The cipher parameters of a volume

Opening a keyslot decrypts its key material, so the mode of the keyslot area and the size
of the key have been exercised by the time a volume is returned. In LUKS1 that mode is also
the one of the payload. In LUKS2 it is not: the payload takes the mode of the segment,
which nothing has looked at.

A read of the payload then reports `Unsupported` for the mode, unless there is nothing to
read or no buffer for a data unit (`Luks.readsSupported_iff`). So an unlock has checked the
parameters exactly when the segment names the one mode there is, or no keyslot opens
(`Luks.unlock_checksParameters_iff`).
-/

namespace Luks

open Basis

/-- No read inside the payload, after any calls, reports an unsupported cipher. -/
def ReadsSupported {ρ : Type} [ReadSeek ρ] (K : Crates) (p : DecryptedPayload ρ) : Prop :=
  ∀ calls offset len, UInt64.toNat offset + len ≤ p.payloadSize → ∀ what value,
    (DecryptedPayload.readAt K offset len (replies (DecryptedPayload.call K) p calls).2).out ≠
      .err (.unsupported what value)

/-- The mode and the size of the key are those that decryption accepts. -/
def AcceptedParameters {ρ : Type} (p : DecryptedPayload ρ) : Prop :=
  p.cipherMode = "xts-plain64" ∧ IsXtsKey p.masterKey

/-- The errors other than an unsupported cipher. -/
def NotUnsupported (e : LuksError) : Prop := ∀ what value, e ≠ .unsupported what value

section Reading

variable {ρ : Type} [ImageReader ρ] {K : Crates} {p : DecryptedPayload ρ}

/-- With accepted parameters no read reports an unsupported cipher. -/
theorem AcceptedParameters.readsSupported (h : AcceptedParameters p) : ReadsSupported K p := by
  intro calls offset len hrange what value herr
  obtain ⟨r, pos, hr, hq⟩ := DecryptedPayload.movedFrom_replies K (p := p) calls
  obtain ⟨dec, hdec⟩ := (Spec.exists_xtsCipher_iff (K := K)).mpr h.2
  have hreports : Reports (Presents (ρ := ρ) (ImageReader.image p.reader)) NotUnsupported
      ((p.movedTo r pos).readUnits K offset.toNat len 0) :=
    readUnits_reports K (p.movedTo r pos) (fun buffer tweak => xtsDecryptArea_reports K
      (fun hmode => absurd h.1 hmode) (fun e he => by
        change xtsCipher K p.masterKey = _ at he
        rw [hdec] at he
        cases he) _ _ _) offset.toNat len 0
  rw [hq, DecryptedPayload.readAt_apply] at herr
  exact (hreports r hr).1.2 _ herr what value rfl

omit [ImageReader ρ] in
/-- Without accepted parameters every unit is refused for the same thing. -/
theorem exists_unsupported (h : ¬AcceptedParameters p) : ∃ what value,
    ∀ buffer unitSize tweak, Spec.xtsDecryptArea K p.cipherMode p.masterKey buffer unitSize tweak =
      .error (.unsupported what value) := by
  by_cases hmode : p.cipherMode = "xts-plain64"
  · have hkey : ¬IsXtsKey p.masterKey := fun hkey => h ⟨hmode, hkey⟩
    rw [IsXtsKey, not_or] at hkey
    refine ⟨"xts key size", toString p.masterKey.length ++ " bytes",
      fun buffer unitSize tweak => ?_⟩
    rw [Spec.xtsDecryptArea, if_neg (not_not_intro hmode), xtsCipher, if_neg hkey.1, if_neg hkey.2]
    rfl
  · exact ⟨"cipher mode", p.cipherMode, fun buffer unitSize tweak => if_pos hmode⟩

/-- **A read is refused in its first pass**, if that gets so far as to decrypt. -/
theorem exists_readUnits_unsupported {τ : Type} {p : DecryptedPayload τ} {offset len : ℕ}
    (h : ¬AcceptedParameters p) (hlen : 0 < len) (hoffset : offset < 2 ^ 64)
    (hfirst : p.unitAddress offset < 2 ^ 64) (hss : p.unitSize ≤ isizeMax)
    (htweak : p.ivTweak.toNat + offset / p.unitSize * tweakStep p.unitSize < 2 ^ 128) (r : ρ) :
    ∃ what value, (p.readUnits K offset len 0 r).out = .err (.unsupported what value) := by
  obtain ⟨what, value, hxts⟩ := exists_unsupported (K := K) h
  have hout := readUnit_out K p hfirst hss htweak r
  rw [Spec.decryptedUnit, DecryptedPayload.map] at hout
  dsimp only at hout
  rw [hxts] at hout
  exact ⟨what, value, readUnits_of_first_err hlen hoffset hout⟩

/-- The first unit of the payload is refused, if there is one and a buffer for it. -/
theorem exists_readAt_unsupported (h : ¬AcceptedParameters p) (hsize : 0 < p.payloadSize)
    (hss : p.unitSize ≤ isizeMax) : ∃ what value,
      (DecryptedPayload.readAt K 0 1 p).out = .err (.unsupported what value) := by
  have hfirst : p.unitAddress 0 < 2 ^ 64 := by
    have hlt := p.totalSize.toNat_lt
    rw [DecryptedPayload.payloadSize] at hsize
    rw [DecryptedPayload.unitAddress, Nat.zero_div, Nat.zero_mul]
    omega
  have htweak : p.ivTweak.toNat + 0 / p.unitSize * tweakStep p.unitSize < 2 ^ 128 := by
    rw [Nat.zero_div, Nat.zero_mul, Nat.add_zero]
    exact p.ivTweak.isLt
  rw [DecryptedPayload.readAt_apply]
  exact exists_readUnits_unsupported h Nat.one_pos (by decide) hfirst hss htweak p.reader

/-- A read of nothing reports nothing, and neither does one for which there is no
buffer. -/
theorem readsSupported_of_unread (h : p.payloadSize = 0 ∨ isizeMax < p.unitSize) :
    ReadsSupported K p := by
  intro calls offset len hrange what value herr
  obtain ⟨r, pos, hr, hq⟩ := DecryptedPayload.movedFrom_replies K (p := p) calls
  have hreports : Reports (Presents (ρ := ρ) (ImageReader.image p.reader)) NotUnsupported
      ((p.movedTo r pos).readUnits K offset.toNat len 0) := by
    rw [DecryptedPayload.readUnits]
    by_cases hlen : len ≤ 0
    · rw [dif_pos hlen]
      exact Reports.pure _
    · rw [dif_neg hlen]
      have hbig : isizeMax < (p.movedTo r pos).unitSize := h.resolve_left (by omega)
      refine (checked_reports _ _).bind fun _ => (checked_reports _ _).bind fun _ => ?_
      refine (checked_reports _ _).bind fun _ => ?_
      rw [vecZeroed, if_pos hbig]
      exact Reports.abort _
  rw [hq, DecryptedPayload.readAt_apply] at herr
  exact (hreports r hr).1.2 _ herr what value rfl

/-- **When reads are supported**: with accepted parameters, or nothing to read, or no
buffer for a data unit. -/
theorem readsSupported_iff : ReadsSupported K p ↔
    AcceptedParameters p ∨ p.payloadSize = 0 ∨ isizeMax < p.unitSize := by
  constructor
  · intro h
    by_contra hnot
    obtain ⟨hparameters, hsize, hss⟩ : ¬AcceptedParameters p ∧ ¬p.payloadSize = 0 ∧
        ¬isizeMax < p.unitSize := by simpa only [not_or] using hnot
    obtain ⟨what, value, herr⟩ := exists_readAt_unsupported (K := K) hparameters
      (Nat.pos_of_ne_zero hsize) (Nat.le_of_not_lt hss)
    have hlen : (0 : UInt64).toNat + 1 ≤ p.payloadSize := by
      change 0 + 1 ≤ _
      omega
    exact h [] 0 1 hlen what value herr
  · rintro (h | h)
    · exact h.readsSupported
    · exact readsSupported_of_unread h

end Reading

/-! ### The parameters of an unlocked volume -/

section Unlocking

variable {K : Crates} {img passphrase key : Bytes}

theorem Spec.Accepts1.acceptedParameters {header : Luks1Header} {slot : Keyslot}
    (h : Spec.Accepts1 K img header passphrase key slot) (n : ℕ) :
    AcceptedParameters (header.payload img key n) := by
  have husable := h.opens.usable
  obtain ⟨slotKey, plain, -, -, hmerge⟩ := h.candidate
  refine ⟨husable.mode, ?_⟩
  change key.length = 32 ∨ key.length = 64
  rw [Spec.length_of_merge_eq_ok K hmerge]
  exact husable.keyLen

/-- The key that a LUKS2 keyslot and digest accept has the size of an XTS key. -/
theorem Spec.Accepts2.isXtsKey {header : Luks2Header} {slot : Luks2Keyslot} {dig : Luks2Digest}
    (h : Spec.Accepts2 K img header passphrase key slot dig) : IsXtsKey key := by
  obtain ⟨slotKey, plain, hslotKey, hplain, hmerge⟩ := h.candidate
  obtain ⟨-, dec, hdec, -⟩ := (Spec.xtsDecryptArea_eq_ok_iff K).mp hplain
  have hlen := Spec.exists_xtsCipher_iff.mp ⟨dec, hdec⟩
  rw [IsXtsKey, Spec.length_of_deriveSlotKey_eq_ok hslotKey] at hlen
  rw [IsXtsKey, Spec.length_of_merge_eq_ok K hmerge]
  exact hlen

theorem payloadSize_eq_zero_iff {ρ : Type} [ImageReader ρ] (r : ρ) (segment : Luks2Segment) :
    (segment.payload (ImageReader.image r) key (ImageReader.image r).length).payloadSize = 0 ↔
      (ImageReader.image r).length ≤ segment.offset.toNat := by
  have hlt := ImageReader.image_lt r
  change (UInt64.ofNat _).toNat - segment.offset.toNat = 0 ↔ _
  rw [UInt64.toNat_ofNat_of_lt' (lt_trans hlt (by decide)), Nat.sub_eq_zero_iff_le]

theorem isizeMax_lt_unitSize_iff {ρ : Type} (r : ρ) (segment : Luks2Segment) (n : ℕ) :
    isizeMax < (segment.payload r key n).unitSize ↔ isizeMax < segment.sectorSize.toNat := by
  change isizeMax < (max segment.sectorSize 512).toNat ↔ _
  rw [toNat_max_sector, isizeMax]
  omega

/-- Something holds of what is accepted in LUKS1 exactly when it holds where a keyslot
that opens is reached. -/
theorem Spec.forall_accepts1_iff {header : Luks1Header} {Q : Prop} :
    (∀ key slot, Spec.Accepts1 K img header passphrase key slot → Q) ↔
      (Reaches header.activeKeyslots OverStriped (Spec.Opens1 K img header passphrase) → Q) := by
  rw [← Spec.exists_accepts1_iff]
  constructor
  · rintro h ⟨key, slot, haccepts⟩
    exact h key slot haccepts
  · intro h key slot haccepts
    exact h ⟨key, slot, haccepts⟩

/-- A LUKS2 keyslot opens. -/
def Spec.SomeOpens (K : Crates) (img : Bytes) (header : Luks2Header) (passphrase : Bytes) : Prop :=
  ∃ slot, Spec.Reached2 K img header passphrase slot ∧
    Spec.Opens2 K img header.digests passphrase slot

theorem Spec.someOpens_iff {header : Luks2Header} : Spec.SomeOpens K img header passphrase ↔
    ∃ key slot dig, Spec.Accepts2 K img header passphrase key slot dig := by
  constructor
  · rintro ⟨slot, h⟩
    obtain ⟨key, dig, haccepts⟩ := Spec.exists_accepts2_iff.mpr h
    exact ⟨key, slot, dig, haccepts⟩
  · rintro ⟨key, slot, dig, h⟩
    exact ⟨slot, Spec.exists_accepts2_iff.mp ⟨key, dig, h⟩⟩

/-- Something holds of what is accepted in LUKS2 exactly when it holds where a keyslot
opens. -/
theorem Spec.forall_accepts2_iff {header : Luks2Header} {Q : Prop} :
    (∀ key slot dig, Spec.Accepts2 K img header passphrase key slot dig → Q) ↔
      (Spec.SomeOpens K img header passphrase → Q) := by
  rw [Spec.someOpens_iff]
  constructor
  · rintro h ⟨key, slot, dig, haccepts⟩
    exact h key slot dig haccepts
  · intro h key slot dig haccepts
    exact h ⟨key, slot, dig, haccepts⟩

section Refusing

variable {ρ : Type} [ImageReader ρ] (K : Crates) (r : ρ) (passphrase : Bytes)

/-- **A LUKS1 container is refused**, in every run, exactly when no keyslot that opens is
reached. -/
theorem unlock1_refused_iff {header : Luks1Header}
    (h : Spec.IsLuks1 (ImageReader.image r) header) :
    (∀ clk budget, ∃ e, (unlock1WithPassphraseWithin K clk passphrase budget
      (World.init r)).out = .err e) ↔
      ¬Reaches header.activeKeyslots Spec.OverStriped
        (Spec.Opens1 K (ImageReader.image r) header passphrase) := by
  have hruns := forall_unlock1_iff K r passphrase (P := fun _ => False)
  rw [← imp_false, ← Spec.forall_accepts1_iff]
  constructor
  · intro hrefused
    refine hruns.mp (fun clk budget u hu => ?_) header h
    obtain ⟨e, he⟩ := hrefused clk budget
    rw [hu] at he
    cases he
  · intro hnone clk budget
    refine (unlock1_run K clk budget passphrase).exists_err not_false (opens_init r)
      (hruns.mpr (fun header' h' => ?_) clk budget)
    obtain rfl : header = header' := Except.ok.inj (h.symm.trans h')
    exact hnone

/-- **A LUKS2 container is refused**, in every run, exactly when no keyslot opens and none
stops the unlock. -/
theorem unlock2_refused_iff {header : Luks2Header} {segment : Luks2Segment}
    (h : Spec.IsLuks2 K (ImageReader.image r) header segment) :
    (∀ clk budget, ∃ e, (unlock2WithPassphraseWithin K clk passphrase budget
      (World.init r)).out = .err e) ↔
      ¬Spec.SomeOpens K (ImageReader.image r) header passphrase ∧
        ¬Spec.SomeStops K (ImageReader.image r) header passphrase := by
  have hruns := forall_unlock2_iff K r passphrase (P := fun _ => False)
  have hstops : Spec.UnlockStops2 K (ImageReader.image r) passphrase ↔
      Spec.SomeStops K (ImageReader.image r) header passphrase := by
    rw [Spec.unlockStops2_iff h.not_oversized]
    refine ⟨fun ⟨header', segment', h', hs⟩ => ?_, fun hs => ⟨header, segment, h, hs⟩⟩
    obtain ⟨rfl, rfl⟩ := h.unique h'
    exact hs
  rw [← imp_false, ← Spec.forall_accepts2_iff, ← hstops]
  constructor
  · intro hrefused
    refine ⟨hruns.mp (fun clk budget u hu => ?_) header segment h, fun hs => ?_⟩
    · obtain ⟨e, he⟩ := hrefused clk budget
      rw [hu] at he
      cases he
    · -- on a clock that stands the unlock comes to the keyslot and stops
      have hfit := Nat.le_of_not_lt fun hbig => h.not_oversized ⟨h.length_le, hbig⟩
      obtain ⟨e, he⟩ := hrefused (.stopped 0) 1
      rcases (unlock2_halts (ρ := ρ) K (.stopped 0) hfit hs _ (opens_init r)).1 with
        hp | ⟨e', he', -⟩
      · rw [hp] at he
        cases he
      · exact not_refuses _ (Clock.stands_stopped 0) Nat.one_pos e' he'
  · rintro ⟨hnone, hgoes⟩ clk budget
    refine (unlock2_run K clk h.not_oversized budget passphrase).exists_err hgoes
      (opens_init r) (hruns.mpr (fun header' segment' h' => ?_) clk budget)
    obtain ⟨rfl, rfl⟩ := h.unique h'
    exact hnone

end Refusing

/-- **When an unlock has checked the parameters.** Every unlock with a passphrase returns a
volume whose reads are supported and whose parameters decryption accepts, exactly when the
segment of the image names the mode `xts-plain64` or no keyslot opens. For the reads alone
it is enough that there is nothing to read, or no buffer for a data unit. -/
theorem unlock_checksParameters_iff {ρ : Type} [ImageReader ρ] (K : Crates) (r : ρ)
    (passphrase : Bytes) :
    ((∀ clk budget u, (unlockWithPassphraseWithin K clk passphrase budget (World.init r)).out =
        .ok u → ReadsSupported K u.payload ∧ AcceptedParameters u.payload) ↔
      ∀ header segment, Spec.IsLuks2 K (ImageReader.image r) header segment →
        Spec.SomeOpens K (ImageReader.image r) header passphrase →
        (splitEncryption segment.encryption).2 = "xts-plain64") ∧
    ((∀ clk budget u, (unlockWithPassphraseWithin K clk passphrase budget (World.init r)).out =
        .ok u → ReadsSupported K u.payload) ↔
      ∀ header segment, Spec.IsLuks2 K (ImageReader.image r) header segment →
        Spec.SomeOpens K (ImageReader.image r) header passphrase →
        (splitEncryption segment.encryption).2 = "xts-plain64" ∨
          (ImageReader.image r).length ≤ segment.offset.toNat ∨
          isizeMax < segment.sectorSize.toNat) := by
  have hparameters := forall_unlock_iff K r passphrase
    (P := fun u => AcceptedParameters u.payload)
  have hreads := forall_unlock_iff K r passphrase
    (P := fun u => AcceptedParameters u.payload ∨ u.payload.payloadSize = 0 ∨
      isizeMax < u.payload.unitSize)
  -- each equivalence: from the runs to their volumes, and from there to the image
  refine ⟨Iff.trans ?_ (hparameters.trans ?_), Iff.trans ?_ (hreads.trans ?_)⟩
  · refine forall_congr' fun clk => forall_congr' fun budget => forall_congr' fun u =>
      forall_congr' fun hu => ?_
    exact ⟨fun h => h.2, fun h => ⟨AcceptedParameters.readsSupported h, h⟩⟩
  -- a LUKS1 volume has been decrypted with the very parameters it keeps
  · rw [and_iff_right fun header _ key slot h => h.acceptedParameters _]
    refine forall_congr' fun header => forall_congr' fun segment => forall_congr' fun hluks => ?_
    rw [← Spec.forall_accepts2_iff]
    refine forall_congr' fun key => forall_congr' fun slot => forall_congr' fun dig =>
      forall_congr' fun h => ?_
    exact and_iff_left h.isXtsKey
  · refine forall_congr' fun clk => forall_congr' fun budget => forall_congr' fun u =>
      forall_congr' fun hu => ?_
    exact readsSupported_iff
  · rw [and_iff_right fun header _ key slot h => Or.inl (h.acceptedParameters _)]
    refine forall_congr' fun header => forall_congr' fun segment => forall_congr' fun hluks => ?_
    rw [← Spec.forall_accepts2_iff]
    refine forall_congr' fun key => forall_congr' fun slot => forall_congr' fun dig =>
      forall_congr' fun h => ?_
    rw [payloadSize_eq_zero_iff, isizeMax_lt_unitSize_iff]
    exact or_congr_left (and_iff_left h.isXtsKey)

end Unlocking

/-! ### A segment of another mode -/

namespace Sample

/-- Metadata whose segment is encrypted in another mode. -/
def cbcSegment : Metadata := { metadata with encryption := "aes-cbc-essiv:sha256" }

theorem fits_cbcSegment : cbcSegment.Fits :=
  Metadata.fits_of_texts (by decide +kernel) (by decide +kernel)

end Sample

/-- **The container unlocks, and its payload cannot be read.** -/
theorem not_readsSupported_cbcSegment :
    ¬∀ clk budget u, (unlockWithPassphraseWithin (Sample.cratesOf Sample.cbcSegment) clk
      Sample.passphrase budget
      (World.init (Sample.readerOf Sample.fits_cbcSegment [] (by decide)))).out = .ok u →
        ReadsSupported (Sample.cratesOf Sample.cbcSegment) u.payload := by
  intro h
  have hluks := Sample.isLuks2_imageOf Sample.fits_cbcSegment [] (by decide) (by decide)
  have hall := (forall_unlock_iff _ _ _ (P := fun u => AcceptedParameters u.payload ∨
    u.payload.payloadSize = 0 ∨ isizeMax < u.payload.unitSize)).mp fun clk budget u hu =>
      (readsSupported_iff (p := u.payload)).mp (h clk budget u hu)
  have hreads := hall.2 _ _ hluks _ _ _
    (Sample.accepts2_imageOf Sample.fits_cbcSegment [] rfl rfl rfl)
  -- the mode is another, there is something to read, and a unit fits a buffer
  rcases hreads with ⟨hmode, -⟩ | hsize | hunit
  · exact absurd hmode (show (splitEncryption "aes-cbc-essiv:sha256").2 ≠ _ by decide)
  · have hle := (payloadSize_eq_zero_iff (Sample.readerOf Sample.fits_cbcSegment [] (by decide))
      Sample.cbcSegment.segmentRecord).mp hsize
    change (Sample.imageOf Sample.fits_cbcSegment []).length ≤ 12288 at hle
    rw [Sample.length_imageOf] at hle
    exact absurd hle (by decide)
  · exact absurd ((isizeMax_lt_unitSize_iff _ _ _).mp hunit)
      (show ¬isizeMax < (512 : UInt64).toNat by decide)

end Luks
