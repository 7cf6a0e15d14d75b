import Luks.Format1
import Luks.Parameters

/-!
# The header as payload

Both formats say where the payload starts, LUKS1 as a number of sectors, LUKS2 in a field
of the document that counts as zero when it cannot be read. Nothing compares it with the
size of the header: a container whose payload is declared to start inside its header, as
in the layouts that keep the header elsewhere, unlocks like any other, and its header is
decrypted as data.

So the header is hidden exactly where no keyslot opens, or the declared offset happens to
be behind it (`Luks.hidesHeader_iff`).
-/

namespace Luks

open Basis

/-! ### What the header says -/

/-- A value reads as an unsigned 64-bit integer: it is one, or the digits of one. -/
def ReadsAsU64 : Value → Prop
  | .string s => ∃ n, parseU64 s = some n
  | .number (.posInt _) => True
  | _ => False

/-- A value that does not read as an integer counts as zero. -/
theorem asU64_of_not {v : Value} (h : ¬ReadsAsU64 v) : asU64 v = 0 := by
  cases v with
  | string s =>
    have hnone : parseU64 s = none := Option.eq_none_iff_forall_ne_some.mpr fun n hn => h ⟨n, hn⟩
    rw [asU64, hnone]
    rfl
  | number n =>
    cases n with
    | posInt n => exact absurd trivial h
    | _ => rfl
  | _ => rfl

/-- Where a segment starts, as its entry has it. -/
theorem parseSegment_offset {id : String} {v o : Value} {s : Luks2Segment}
    (h : parseSegment id v = some s) (ho : v.get "offset" = some o) : s.offset = asU64 o := by
  simp only [parseSegment, ho, Option.pure_def, Option.bind_eq_bind, Option.bind_some,
    Option.bind_eq_some_iff, Option.some.injEq] at h
  obtain ⟨encryption, -, sectorSize, -, rfl⟩ := h
  rfl

/-- A LUKS2 header that parses covers the binary header. -/
theorem Spec.le_hdrSize {K : Crates} {img : Bytes} {header : Luks2Header}
    (h : Spec.header2 K img = .ok header) : luks2BinHdrLen ≤ header.hdrSize.toNat := by
  obtain ⟨-, -, root, hroot, rfl⟩ := Luks2Header.parse_eq_ok_iff.mp h
  obtain ⟨area, harea, -⟩ := Option.bind_eq_some_iff.mp hroot
  rw [Luks2Header.jsonArea, slice?] at harea
  split_ifs at harea with hle
  exact le_trans hle.1 (min_le_left _ _)

/-! ### Hiding the header -/

section

variable {ρ : Type} [ImageReader ρ] (K : Crates) (r : ρ) (passphrase : Bytes)

/-- **The header is never presented as payload.** -/
structure HidesHeader : Prop where
  /-- The payload of a LUKS1 container starts behind the header. -/
  luks1 : ∀ clk budget u, (unlock1WithPassphraseWithin K clk passphrase budget
    (World.init r)).out = .ok u → luks1PhdrLen ≤ u.payload.payloadOffset.toNat
  /-- The payload of a LUKS2 container starts behind the header. -/
  luks2 : ∀ clk budget u, (unlock2WithPassphraseWithin K clk passphrase budget
    (World.init r)).out = .ok u → ∀ header, Spec.header2 K (ImageReader.image r) = .ok header →
      header.hdrSize.toNat ≤ u.payload.payloadOffset.toNat
  /-- A LUKS1 header that is detached from its payload is refused. -/
  detached1 : ∀ header, Spec.IsLuks1 (ImageReader.image r) header → header.payloadOffset = 0 →
    ∀ clk budget, ∃ e, (unlock1WithPassphraseWithin K clk passphrase budget
      (World.init r)).out = .err e
  /-- A LUKS2 header that is detached from its payload is refused. -/
  detached2 : ∀ header segment, Spec.IsLuks2 K (ImageReader.image r) header segment →
    segment.offset = 0 → ∀ clk budget, ∃ e, (unlock2WithPassphraseWithin K clk passphrase budget
      (World.init r)).out = .err e
  /-- So is a LUKS2 header that does not say where its payload starts. -/
  unreadable : ∀ header segment v offset, Spec.IsLuks2 K (ImageReader.image r) header segment →
    Spec.DescribesSegment K (ImageReader.image r) v segment → v.get "offset" = some offset →
    ¬ReadsAsU64 offset → ∀ clk budget, ∃ e, (unlock2WithPassphraseWithin K clk passphrase budget
      (World.init r)).out = .err e

/-- A LUKS1 payload is behind the header exactly when two sectors or more are before
it. -/
theorem phdrLen_le_payloadOffset_iff {header : Luks1Header} {img key : Bytes} {n : ℕ} :
    luks1PhdrLen ≤ (header.payload img key n).payloadOffset.toNat ↔
      2 ≤ header.payloadOffset.toNat := by
  have hlt := header.payloadByteOffset_lt
  change luks1PhdrLen ≤ (UInt64.ofNat header.payloadByteOffset).toNat ↔ _
  rw [UInt64.toNat_ofNat_of_lt' (lt_trans hlt (by decide)), Luks1Header.payloadByteOffset, sector,
    luks1PhdrLen]
  omega

variable {K r passphrase}

/-- The payloads of a LUKS1 container are behind its header exactly when it says so, or no
keyslot that opens is reached. -/
theorem luks1_behind_iff :
    (∀ clk budget u, (unlock1WithPassphraseWithin K clk passphrase budget
      (World.init r)).out = .ok u → luks1PhdrLen ≤ u.payload.payloadOffset.toNat) ↔
      ∀ header, Spec.IsLuks1 (ImageReader.image r) header →
        Reaches header.activeKeyslots Spec.OverStriped
          (Spec.Opens1 K (ImageReader.image r) header passphrase) →
        2 ≤ header.payloadOffset.toNat := by
  refine (forall_unlock1_iff K r passphrase
    (P := fun u => luks1PhdrLen ≤ u.payload.payloadOffset.toNat)).trans ?_
  refine forall_congr' fun header => forall_congr' fun hheader => ?_
  rw [← Spec.forall_accepts1_iff]
  refine forall_congr' fun key => forall_congr' fun slot => forall_congr' fun _ => ?_
  exact phdrLen_le_payloadOffset_iff

/-- The payloads of a LUKS2 container are behind its header exactly when it says so, or no
keyslot opens. -/
theorem luks2_behind_iff :
    (∀ clk budget u, (unlock2WithPassphraseWithin K clk passphrase budget
      (World.init r)).out = .ok u → ∀ header, Spec.header2 K (ImageReader.image r) = .ok header →
        header.hdrSize.toNat ≤ u.payload.payloadOffset.toNat) ↔
      ∀ header segment, Spec.IsLuks2 K (ImageReader.image r) header segment →
        Spec.SomeOpens K (ImageReader.image r) header passphrase →
        header.hdrSize.toNat ≤ segment.offset.toNat := by
  refine (forall_unlock2_iff K r passphrase
    (P := fun u => ∀ header, Spec.header2 K (ImageReader.image r) = .ok header →
      header.hdrSize.toNat ≤ u.payload.payloadOffset.toNat)).trans ?_
  refine forall_congr' fun header => forall_congr' fun segment => forall_congr' fun hluks => ?_
  rw [← Spec.forall_accepts2_iff]
  refine forall_congr' fun key => forall_congr' fun slot => forall_congr' fun dig =>
    forall_congr' fun _ => ⟨fun h => h header hluks.parses, fun h header' hheader' => ?_⟩
  -- an image has one header
  obtain rfl : header = header' := Except.ok.inj (hluks.parses.symm.trans hheader')
  exact h

end

/-- **When the header is hidden.** For every container and passphrase: the header is never
presented as payload, exactly when a LUKS1 header with a keyslot that opens puts two
sectors or more before the payload, a LUKS2 header with a keyslot that opens puts the segment
at its own size or further, and one with a keyslot that stops the unlock does not put it at 0. -/
theorem hidesHeader_iff {ρ : Type} [ImageReader ρ] (K : Crates) (r : ρ) (passphrase : Bytes) :
    HidesHeader K r passphrase ↔
      (∀ header, Spec.IsLuks1 (ImageReader.image r) header →
        Reaches header.activeKeyslots Spec.OverStriped
          (Spec.Opens1 K (ImageReader.image r) header passphrase) →
        2 ≤ header.payloadOffset.toNat) ∧
      ∀ header segment, Spec.IsLuks2 K (ImageReader.image r) header segment →
        (Spec.SomeOpens K (ImageReader.image r) header passphrase →
          header.hdrSize.toNat ≤ segment.offset.toNat) ∧
        (Spec.SomeStops K (ImageReader.image r) header passphrase → segment.offset ≠ 0) := by
  constructor
  · intro h
    refine ⟨luks1_behind_iff.mp h.luks1, fun header segment hluks =>
      ⟨luks2_behind_iff.mp h.luks2 header segment hluks, fun hstops hoffset => ?_⟩⟩
    exact ((unlock2_refused_iff K r passphrase hluks).mp
      (h.detached2 header segment hluks hoffset)).2 hstops
  · rintro ⟨hbehind₁, hconds₂⟩
    have hbehind₂ := fun header segment hluks => (hconds₂ header segment hluks).1
    -- a segment at 0 is inside the header, so that no keyslot opens
    have hdetached : ∀ header segment, Spec.IsLuks2 K (ImageReader.image r) header segment →
        segment.offset = 0 → ∀ clk budget, ∃ e, (unlock2WithPassphraseWithin K clk passphrase
          budget (World.init r)).out = .err e := by
      intro header segment hluks hoffset
      refine (unlock2_refused_iff K r passphrase hluks).mpr
        ⟨fun hopens => ?_, fun hstops => (hconds₂ header segment hluks).2 hstops hoffset⟩
      have hle := hbehind₂ header segment hluks hopens
      rw [hoffset] at hle
      exact absurd (le_trans (Spec.le_hdrSize hluks.parses) hle) (by decide)
    refine ⟨luks1_behind_iff.mpr hbehind₁, luks2_behind_iff.mpr hbehind₂,
      fun header hheader hoffset => ?_, hdetached,
      fun header segment v offset hluks hdescribes hv hnot => ?_⟩
    · refine (unlock1_refused_iff K r passphrase hheader).mpr fun hopens => ?_
      have hle := hbehind₁ header hheader hopens
      rw [hoffset] at hle
      exact absurd hle (by decide)
    · obtain ⟨root, id, -, -, hparse⟩ := hdescribes
      refine hdetached header segment hluks ?_
      rw [parseSegment_offset hparse hv, asU64_of_not hnot]

/-! ### A detached header -/

namespace Sample

/-- A LUKS1 container that is all header and key material. -/
def detachedContents : Contents1 :=
  { contents1 "aes" unusedRecord with payloadOffset := 0, plain := [] }

theorem extents_detachedContents :
    detachedContents.extents = [⟨0, 592⟩, ⟨0, 0⟩, ⟨4096, 512⟩] := by
  have hslot : slot1.extent = ⟨4096, 512⟩ := by decide
  have hlist : [slot1].map EnabledSlot.extent = [slot1.extent] := rfl
  rw [← hslot]
  exact congrArg _ (congrArg _ hlist)

/-- There is a place for everything, as the payload has no bytes. -/
def detached1 : Layout1 where
  toContents1 := detachedContents
  isXtsKey := isXtsKey_masterKey
  mkDigestIter_pos := one_le_iterations
  cipherName_fits := textFits_aes
  uuid_fits := textFits_uuid
  sectors := ⟨0, rfl⟩
  fits := by
    have hrest : detachedContents.rest.length = 8704 := List.length_replicate
    rw [extents_detachedContents, hrest]
    decide
  apart := by
    rw [extents_detachedContents]
    decide

theorem unusedInactive_detached1 : detached1.UnusedInactive :=
  fun _ => show keyDisabled ≠ keyEnabled by decide

/-- A keyslot accepts the master key. -/
theorem exists_accepts1_detached1 : ∃ key slot, Spec.Accepts1 crates1
    (detached1.image crates1 enc1) (detached1.header crates1) passphrase key slot := by
  have hmem : slot1 ∈ detached1.enabled := List.mem_singleton_self slot1
  obtain ⟨r, hr, -⟩ := Layout1.recoverMasterKey1_image inverts1 unusedInactive_detached1
    (Layout1.noCollision_of_single (F := detached1) (t := slot1) inverts1 rfl) hmem
  obtain ⟨slot, haccepts, -⟩ := Spec.recoverMasterKey1_eq_ok_iff_accepts.mp hr
  exact ⟨r.key, slot, haccepts⟩

end Sample

/-- **A detached header unlocks**, and is itself the payload. -/
theorem not_hidesHeader_detached1 : ¬HidesHeader Sample.crates1
    (Sample.reader1 Sample.detached1 List.length_replicate) Sample.passphrase := by
  intro h
  obtain ⟨key, slot, haccepts⟩ := Sample.exists_accepts1_detached1
  have hbehind := (forall_unlock1_iff _ _ _ (P := fun u =>
    luks1PhdrLen ≤ u.payload.payloadOffset.toNat)).mp h.luks1 _
      (Layout1.header1_image Sample.inverts1) key slot haccepts
  have hsectors : 2 ≤ (0 : UInt32).toNat := phdrLen_le_payloadOffset_iff.mp hbehind
  exact absurd hsectors (by decide)

end Luks
