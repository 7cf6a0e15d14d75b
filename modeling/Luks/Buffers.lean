import Luks.Accepting
import Luks.Tables

/-!
# The buffers of an unlock

Every length a header chooses sizes a buffer: the keys, the key material, the
accumulators of the merge, and in LUKS2 the header itself and the vectors it is
collected in. The first three are checked against a ceiling before the buffer is asked
for. The size of a LUKS2 header is not, nor is the number of records in it; and the
lanes of Argon2 are multiplied before they are checked. So an unlock keeps to its bound
exactly on the images whose header size and vectors do, and which come to no keyslot
with so many lanes (`Luks.unlock2_keepsBuffers_iff`). A LUKS1 header has one size, and
an unlock always keeps to its bound (`Luks.unlock1_bounded`).

A buffer here is one that the code asks for by its length, or a vector that it collects
records in. The strings and decoded salts in a record are copies of a part of the
document, and no longer than that. What the JSON parser and Argon2 build for themselves
is not counted.
-/

namespace Luks

open Basis

/-- The most that any buffer of an unlock should have: a gibibyte, or the size of the
image if that is more. -/
def bufferBound (img : Bytes) : ℕ := max (2 ^ 30) img.length

/-- An event asks for no buffer over the bound. -/
def WithinBuffers (img : Bytes) : Event → Prop
  | .alloc len => len ≤ bufferBound img
  | _ => True

/-- A run that keeps to the bound: it asks for no buffer over it, and is not stopped. -/
structure KeepsBuffers {ρ α : Type} (img : Bytes) (run : Run LuksError Event (World ρ) α) :
    Prop where
  /-- Every buffer is within the bound. -/
  alloc : ∀ len, .alloc len ∈ run.events → len ≤ bufferBound img
  /-- The run ends by itself. -/
  no_panic : ∀ p, run.out ≠ .panic p

theorem permits_withinBuffers (img : Bytes) (d : UnlockDeadline) :
    Permits (WithinBuffers img) img d :=
  ⟨fun _ hn => hn.trans (le_max_left _ _), fun _ _ _ => trivial, fun _ _ _ => trivial,
    fun _ _ _ => trivial, fun _ _ => trivial⟩

/-- The image is too small for a LUKS2 header, or declares a header within the bound. -/
def SaneHeaderSize (img : Bytes) : Prop :=
  img.length < luks2BinHdrLen ∨ (beU64 img 8).toNat ≤ bufferBound img

theorem hdrSize_le_iff (img : Bytes) :
    Spec.hdrSize img ≤ bufferBound img ↔ (beU64 img 8).toNat ≤ bufferBound img := by
  have hbin : luks2BinHdrLen ≤ bufferBound img := le_trans (by decide) (le_max_left _ _)
  rw [Spec.hdrSize, max_le_iff]
  exact and_iff_left hbin

/-- The image is too small for a LUKS2 header, or has none, or one whose vectors are all within
the bound. -/
def SaneVectors (K : Crates) (img : Bytes) : Prop :=
  ∀ header, luks2BinHdrLen ≤ img.length → Spec.header2 K img = .ok header →
    ∀ n ∈ header.vecs K, n ≤ bufferBound img

/-- What the header of an image takes is within the bound, if what it declares is. -/
theorem permitsHeader_iff (K : Crates) {img : Bytes} (hlen : luks2BinHdrLen ≤ img.length)
    (hlt : img.length < 2 ^ 63) : PermitsHeader K (WithinBuffers img) img ↔
      SaneHeaderSize img ∧ SaneVectors K img := by
  constructor
  · intro h
    exact ⟨Or.inr ((hdrSize_le_iff img).mp h.alloc), fun header _ hheader n hn =>
      h.vecs header hheader n hn⟩
  · rintro ⟨hsize, hvecs⟩
    have hle := (hdrSize_le_iff img).mpr (hsize.resolve_left (Nat.not_lt_of_le hlen))
    refine ⟨hle, hle.trans (max_le (by decide) ?_), fun header hheader n hn =>
      hvecs header hlen hheader n hn⟩
    rw [isizeMax]
    omega

section Keeping

variable {ρ : Type} [ImageReader ρ] (K : Crates) (clk : Clock) (r : ρ) (budget : Duration)
  (passphrase : Bytes)

/-- A run that keeps to the bound is of an image whose header does. -/
theorem sane_of_keepsBuffers (h : KeepsBuffers (ImageReader.image r)
      (unlock2WithPassphraseWithin K clk passphrase budget (World.init r))) :
    SaneHeaderSize (ImageReader.image r) ∧ SaneVectors K (ImageReader.image r) := by
  rcases Nat.lt_or_ge (ImageReader.image r).length luks2BinHdrLen with hlt | hlen
  · exact ⟨Or.inl hlt, fun header hlen => absurd hlt (Nat.not_lt_of_le hlen)⟩
  · rw [← permitsHeader_iff K hlen (ImageReader.image_lt r)]
    by_contra hbad
    -- the run either stops at a buffer or leaves its event
    rcases unlock2_breaks K clk hlen hbad passphrase (World.init r) (opens_init r) with
      ⟨p, hp⟩ | ⟨v, hv, hover⟩
    · exact h.no_panic p hp
    · cases v with
      | alloc len => exact hover (h.alloc len hv)
      | _ => exact hover trivial

/-- Such a header is not oversized. -/
theorem not_oversized_of_sane {img : Bytes} (hlt : img.length < 2 ^ 63)
    (h : SaneHeaderSize img) : ¬Oversized img := by
  rintro ⟨hlen, hbig⟩
  have hle := (hdrSize_le_iff img).mpr (h.resolve_left (Nat.not_lt_of_le hlen))
  have hfit : Spec.hdrSize img ≤ isizeMax :=
    hle.trans (max_le (by decide) (by rw [isizeMax]; omega))
  omega

end Keeping

/-- **A LUKS2 unlock is free of allocation bombs and panics** in every run exactly when the
header size that the image names is within the bound, so are the vectors of its header, and the
unlock comes to no keyslot that stops it. -/
theorem unlock2_keepsBuffers_iff {ρ : Type} [ImageReader ρ] (K : Crates) (r : ρ)
    (passphrase : Bytes) :
    (∀ clk budget, KeepsBuffers (ImageReader.image r)
        (unlock2WithPassphraseWithin K clk passphrase budget (World.init r))) ↔
      SaneHeaderSize (ImageReader.image r) ∧ SaneVectors K (ImageReader.image r) ∧
        ∀ header segment, Spec.IsLuks2 K (ImageReader.image r) header segment →
          ¬Spec.SomeStops K (ImageReader.image r) header passphrase := by
  have hlt := ImageReader.image_lt r
  constructor
  · intro hkeeps
    obtain ⟨hsize, hvecs⟩ := sane_of_keepsBuffers K (.stopped 0) r 1 passphrase (hkeeps _ _)
    refine ⟨hsize, hvecs, fun header segment hluks hstops => ?_⟩
    have hfit := Nat.le_of_not_lt fun hbig => hluks.not_oversized ⟨hluks.length_le, hbig⟩
    have hcomes := (Spec.unlockStops2_iff hluks.not_oversized).mpr ⟨header, segment, hluks, hstops⟩
    have hrun : Triple (Opens (ImageReader.image r))
        (unlock2WithPassphraseWithin K (.stopped 0) passphrase 1)
        (Halts .arithmeticOverflow (Refuses (.stopped 0) 1)) fun _ => True :=
      unlock2_halts (ρ := ρ) K (.stopped 0) hfit hcomes
    rcases (hrun _ (opens_init r)).1 with hp | ⟨e, he, -⟩
    · exact (hkeeps (.stopped 0) 1).no_panic _ hp
    · exact not_refuses _ (Clock.stands_stopped 0) Nat.one_pos e he
  · rintro ⟨hsize, hvecs, hgoes⟩ clk budget
    have hrun := unlock2_answers (ρ := ρ) K clk
      (fun t => permits_withinBuffers (ImageReader.image r) ⟨t, budget⟩)
      (fun hlen => (permitsHeader_iff K hlen hlt).mpr ⟨hsize, hvecs⟩) passphrase
    refine ⟨fun len hmem => hrun.mem_events (opens_init r) hmem,
      hrun.ne_panic (fun hcomes => ?_) (opens_init r)⟩
    obtain ⟨header, segment, hluks, hstops⟩ :=
      (Spec.unlockStops2_iff (not_oversized_of_sane hlt hsize)).mp hcomes
    exact hgoes header segment hluks hstops

/-! ### An image that declares a bomb -/

/-- The front of a LUKS2 header that declares the largest header size. -/
def bombHeader : Bytes := luksMagic.toList ++ [0, 2] ++ List.replicate 8 0xFF

/-- The smallest image with such a header. -/
def bombImage : Bytes := bombHeader ++ List.replicate 4080 0

theorem length_bombImage : bombImage.length = luks2BinHdrLen := by
  rw [bombImage, List.length_append, List.length_replicate]
  rfl

theorem beU64_bombImage : beU64 bombImage 8 = UInt64.ofNat (2 ^ 64 - 1) := by
  refine beU64_of_window (by rw [length_bombImage]; decide) ?_
  rw [bombImage, window_append_left (by decide)]
  decide

/-- The bomb is a header that no buffer can have. -/
theorem oversized_bombImage : Oversized bombImage := by
  refine ⟨length_bombImage.ge, ?_⟩
  rw [Spec.hdrSize, beU64_bombImage]
  decide

theorem bombImage_lt : bombImage.length < 2 ^ 63 := by
  rw [length_bombImage]
  decide

/-- **The bomb goes off**: the buffer it asks for is longer than any can be, and the
unlock is stopped. -/
theorem not_keepsBuffers_bombImage :
    ¬∀ clk budget, KeepsBuffers bombImage (unlock2WithPassphraseWithin (Sample.tables []).crates
      clk Sample.passphrase budget (World.init (Cursor.new bombImage bombImage_lt))) := by
  intro h
  have hstop := (unlock2_stops (Sample.tables []).crates Sample.clock oversized_bombImage
    unlockBudget Sample.passphrase _ (opens_init (Cursor.new bombImage bombImage_lt))).1
  exact (h Sample.clock unlockBudget).no_panic _ hstop

/-! ### LUKS1 -/

/-- A run that ends by itself, with a value or an error, and never asks for a buffer of more
than a gibibyte. -/
structure Bounded {ρ α : Type} (run : Run LuksError Event (World ρ) α) : Prop where
  /-- Every buffer is within a gibibyte. -/
  alloc : ∀ len, .alloc len ∈ run.events → len ≤ 2 ^ 30
  /-- The run ends by itself. -/
  ends : (∃ a, run.out = .ok a) ∨ ∃ e, run.out = .err e

/-- An event asks for no buffer of more than a gibibyte. -/
def WithinGibibyte : Event → Prop
  | .alloc len => len ≤ 2 ^ 30
  | _ => True

theorem permits_withinGibibyte (img : Bytes) (d : UnlockDeadline) :
    Permits WithinGibibyte img d :=
  ⟨fun _ hn => hn, fun _ _ _ => trivial, fun _ _ _ => trivial, fun _ _ _ => trivial,
    fun _ _ => trivial⟩

section Merge

variable {ρ : Type} (K : Crates) (clk : Clock) {hashSpec : String} {blockSize stripes : ℕ}

/-- A derivation that returned was of a supported hash, and within the ceiling on keys. -/
theorem supported_of_deriveKeyWithin {password salt key : Bytes} {iterations : UInt32}
    {budget : Duration} {w : World ρ}
    (h : (deriveKeyWithin K clk hashSpec password salt iterations blockSize budget w).out =
      .ok key) : blockSize ≤ maxKeyBytes ∧ SupportedHash hashSpec := by
  have hfollows : Triple (fun w' : World ρ => True ∧ w'.now = w.now)
      (deriveKeyWithin K clk hashSpec password salt iterations blockSize budget)
      (Follows (fun _ => True) (fun _ => True)
        (Spec.deriveKey K hashSpec password salt iterations blockSize)) fun _ => True :=
    deriveKeyWithin_follows K clk (fun _ _ _ _ => trivial) (fun _ _ _ => trivial)
      (fun _ _ => trivial) trivial (fun _ _ _ _ => trivial) _ _ _ _ _
  have hrun := (hfollows w ⟨trivial, rfl⟩).1
  rw [h] at hrun
  exact (Spec.exists_deriveKey_iff K).mp ⟨key, hrun.eq_ok⟩

/-- A size of key material that was returned is of no more stripes than the ceiling. -/
theorem le_of_materialLen {σ : Type} {s : σ} {len : ℕ}
    (h : (materialLen blockSize stripes s).out = .ok len) : stripes ≤ maxStripes := by
  by_contra hover
  rw [materialLen, if_pos (Nat.lt_of_not_le hover)] at h
  cases h

/-- **Merging does not fail** after the derivation of the keyslot key and the size of the key
material have not: they have checked the hash, the size of the key and the stripes. -/
theorem exists_merge_of_derived {σ τ : Type} {password salt key : Bytes} {iterations : UInt32}
    {budget : Duration} {w : World ρ} {s : σ} {len : ℕ}
    (hkey : (deriveKeyWithin K clk hashSpec password salt iterations blockSize budget w).out =
      .ok key) (hlen : (materialLen blockSize stripes s).out = .ok len) (material : Bytes) (t : τ) :
    ∃ candidate, (merge K hashSpec material blockSize stripes t).out = .ok candidate := by
  obtain ⟨hle, hhash⟩ := supported_of_deriveKeyWithin K clk hkey
  obtain ⟨candidate, hspec⟩ : ∃ c, Spec.merge K hashSpec material blockSize stripes = .ok c :=
    Spec.exists_merge_iff.mpr ⟨le_of_materialLen hlen, hhash⟩
  have hfollows : Triple (fun _ : τ => True) (merge K hashSpec material blockSize stripes)
      (Follows (fun _ => True) (fun _ => False)
        (Spec.merge K hashSpec material blockSize stripes)) fun _ => True :=
    merge_follows K hashSpec hle trivial
  have hout := (Triple.sure hfollows (s := t) trivial).1
  rw [hspec] at hout
  exact ⟨candidate, hout⟩

end Merge

/-- **A LUKS1 unlock is free of panics and bounded**, whatever the image and the passphrase:
it returns a volume or an error, and asks for no buffer of more than a gibibyte. And in no
keyslot does merging fail after the two steps before it have returned. -/
theorem unlock1_bounded {ρ : Type} [ImageReader ρ] (K : Crates) (clk : Clock) (r : ρ)
    (budget : Duration) (passphrase : Bytes) :
    Bounded (unlock1WithPassphraseWithin K clk passphrase budget (World.init r)) ∧
      ∀ (header : Luks1Header) (slot : Keyslot) (left : Duration) (w w' w'' : World ρ)
        (slotKey : Bytes) (len : ℕ),
        (deriveKeyWithin K clk header.hashSpec passphrase slot.salt.toList slot.iterations
          header.keyBytes.toNat left w).out = .ok slotKey →
        (materialLen header.keyBytes.toNat slot.stripes.toNat w').out = .ok len →
        ∀ material, ∃ candidate, (merge K header.hashSpec material header.keyBytes.toNat
          slot.stripes.toNat w'').out = .ok candidate := by
  have hrun := unlock1_answers (ρ := ρ) K clk
    (fun t => permits_withinGibibyte (ImageReader.image r) ⟨t, budget⟩) passphrase
  refine ⟨⟨fun len hmem => hrun.mem_events (opens_init r) hmem, ?_⟩,
    fun header slot left w w' w'' slotKey len hkey hlen material =>
      exists_merge_of_derived K clk hkey hlen material w''⟩
  cases hout : (unlock1WithPassphraseWithin K clk passphrase budget (World.init r)).out with
  | ok u => exact Or.inl ⟨u, rfl⟩
  | err e => exact Or.inr ⟨e, rfl⟩
  | panic p => exact absurd hout (hrun.ne_panic not_false (opens_init r) p)

end Luks
