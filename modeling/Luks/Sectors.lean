import Luks.Geometry
import Luks.Parameters

/-!
# The size of a data unit

A LUKS2 segment declares the size of its data units, and the code takes what it declares
if that is 512 or more. The size then sizes the buffer of a read, divides positions, and
sets the step of the tweak: for 512, 1024, 2048 and 4096 bytes a unit is a whole number of
512-byte sectors, and a buffer of it is small. For another number none of this need hold,
and nothing refuses it (`Luks.soundSectors_iff`).
-/

namespace Luks

open Basis

/-- The sizes a data unit may have. -/
def sectorSizes : List ℕ := [512, 1024, 2048, 4096]

/-- The size of a data unit is sound: a power of two from 512 to 4096. -/
structure SoundUnit {ρ : Type} [ReadSeek ρ] (K : Crates) (p : DecryptedPayload ρ) : Prop where
  /-- It is a power of two. -/
  pow : ∃ k, p.unitSize = 2 ^ k
  /-- It is 512 at least. -/
  sector_le : 512 ≤ p.unitSize
  /-- It is 4096 at most. -/
  le_page : p.unitSize ≤ 4096
  /-- Every unit boundary is a whole number of 512-byte sectors. -/
  boundary : ∀ u, 512 ∣ u * p.unitSize
  /-- The tweak goes on by the sectors of a unit, exactly. -/
  step : tweakStep p.unitSize * 512 = p.unitSize
  /-- No read, after any calls, asks for a larger buffer. -/
  buffer : ∀ calls offset len n, .alloc n ∈ (DecryptedPayload.readAt K offset len
    (replies (DecryptedPayload.call K) p calls).2).events → n ≤ 4096

theorem mem_sectorSizes_iff {n : ℕ} :
    n ∈ sectorSizes ↔ (∃ k, n = 2 ^ k) ∧ 512 ≤ n ∧ n ≤ 4096 := by
  constructor
  · intro h
    simp only [sectorSizes, List.mem_cons, List.not_mem_nil, or_false] at h
    rcases h with rfl | rfl | rfl | rfl
    · exact ⟨⟨9, rfl⟩, by omega⟩
    · exact ⟨⟨10, rfl⟩, by omega⟩
    · exact ⟨⟨11, rfl⟩, by omega⟩
    · exact ⟨⟨12, rfl⟩, by omega⟩
  · rintro ⟨⟨k, rfl⟩, hle, hge⟩
    have hlow : 9 ≤ k := (Nat.pow_le_pow_iff_right (by decide : 1 < 2)).mp hle
    have hhigh : k ≤ 12 := (Nat.pow_le_pow_iff_right (by decide : 1 < 2)).mp hge
    obtain rfl | rfl | rfl | rfl : k = 9 ∨ k = 10 ∨ k = 11 ∨ k = 12 := by omega
    all_goals decide

section

variable {ρ : Type} [ImageReader ρ] {K : Crates} {p : DecryptedPayload ρ}

/-- **A unit of one of the sizes is sound.** -/
theorem SoundUnit.of_mem (h : p.unitSize ∈ sectorSizes) : SoundUnit K p := by
  obtain ⟨hpow, hle, hge⟩ := mem_sectorSizes_iff.mp h
  have hdvd : 512 ∣ p.unitSize := by
    simp only [sectorSizes, List.mem_cons, List.not_mem_nil, or_false] at h
    omega
  refine ⟨hpow, hle, hge, fun u => Dvd.dvd.mul_left hdvd u, ?_, fun calls offset len n hn => ?_⟩
  · rw [tweakStep]
    omega
  · obtain ⟨r, pos, -, hq⟩ := DecryptedPayload.movedFrom_replies K (p := p) calls
    rw [hq, DecryptedPayload.readAt_apply] at hn
    have hleaves : Leaves (AllocAtMost 4096)
        ((p.movedTo r pos).readUnits (ρ := ρ) K offset.toNat len 0) :=
      leaves_readUnits K (p.movedTo r pos) hge (fun _ _ => trivial) (fun _ => trivial)
        (fun _ _ => trivial) 0
    exact (hleaves r trivial).2 _ hn

/-- The size of a unit is sound exactly when it is one of those. -/
theorem soundUnit_iff : SoundUnit K p ↔ p.unitSize ∈ sectorSizes :=
  ⟨fun h => mem_sectorSizes_iff.mpr ⟨h.pow, h.sector_le, h.le_page⟩, SoundUnit.of_mem⟩

omit [ImageReader ρ] in
/-- The size of a unit is the declared one, or 512 if that is more. -/
theorem unitSize_payload (segment : Luks2Segment) (r : ρ) (key : Bytes) (n : ℕ) :
    (segment.payload r key n).unitSize = max segment.sectorSize.toNat 512 :=
  toNat_max_sector _

end

/-- **The units of a container are sound**: every volume that an unlock returns has one of
the sizes, and a segment that declares another is refused. -/
structure SoundSectors {ρ : Type} [ImageReader ρ] (K : Crates) (r : ρ) (passphrase : Bytes) :
    Prop where
  /-- The units of a volume are sound. -/
  sound : ∀ clk budget u, (unlock2WithPassphraseWithin K clk passphrase budget
    (World.init r)).out = .ok u → SoundUnit K u.payload
  /-- Another declared size is refused. -/
  refused : ∀ header segment, Spec.IsLuks2 K (ImageReader.image r) header segment →
    segment.sectorSize.toNat ∉ sectorSizes → ∀ clk budget, ∃ e,
      (unlock2WithPassphraseWithin K clk passphrase budget (World.init r)).out = .err e

/-- **When the units of a container are sound**: when its segment declares one of the
sizes, or no keyslot opens and none stops the unlock. -/
theorem soundSectors_iff {ρ : Type} [ImageReader ρ] (K : Crates) (r : ρ) (passphrase : Bytes) :
    SoundSectors K r passphrase ↔
      ∀ header segment, Spec.IsLuks2 K (ImageReader.image r) header segment →
        Spec.SomeOpens K (ImageReader.image r) header passphrase ∨
          Spec.SomeStops K (ImageReader.image r) header passphrase →
        segment.sectorSize.toNat ∈ sectorSizes := by
  have hruns := forall_unlock2_iff K r passphrase (P := fun u => u.payload.unitSize ∈ sectorSizes)
  constructor
  · intro h header segment hluks hends
    by_contra hother
    obtain ⟨hopens, hstops⟩ := (unlock2_refused_iff K r passphrase hluks).mp
      (h.refused header segment hluks hother)
    exact hends.elim hopens hstops
  · intro hsizes
    refine ⟨fun clk budget u hu => soundUnit_iff.mpr (hruns.mpr ?_ clk budget u hu),
      fun header segment hluks hother => ?_⟩
    · intro header segment hluks key slot dig haccepts
      have hmem := hsizes header segment hluks
        (Or.inl (Spec.someOpens_iff.mpr ⟨key, slot, dig, haccepts⟩))
      -- a size of the list is not changed by the lower bound
      obtain ⟨-, hle, -⟩ := mem_sectorSizes_iff.mp hmem
      change (segment.payload _ _ _).unitSize ∈ sectorSizes
      rw [unitSize_payload, max_eq_left hle]
      exact hmem
    · exact (unlock2_refused_iff K r passphrase hluks).mpr
        ⟨fun hopens => hother (hsizes header segment hluks (Or.inl hopens)),
          fun hstops => hother (hsizes header segment hluks (Or.inr hstops))⟩

/-! ### A unit of another size -/

namespace Sample

/-- A segment that declares units of 6000 bytes. -/
def oddUnits : Geometry := ⟨512, 6000, 0⟩

theorem fits_oddUnits : oddUnits.Fits := Geometry.fits_of_digits (by decide) (by decide)

end Sample

/-- **Units of 6000 bytes are taken**: the container unlocks. -/
theorem not_soundSectors_oddUnits : ¬SoundSectors Sample.oddUnits.crates
    (Sample.Geometry.reader Sample.fits_oddUnits) Sample.passphrase := by
  intro h
  have hluks := Sample.Geometry.isLuks2_image Sample.fits_oddUnits
  have hrefused := h.refused _ _ hluks
    (show (UInt64.ofNat 6000).toNat ∉ sectorSizes by decide)
  exact ((unlock2_refused_iff _ _ _ hluks).mp hrefused).1
    (Spec.someOpens_iff.mpr ⟨_, _, _, Sample.Geometry.accepts2_image Sample.fits_oddUnits⟩)

end Luks
