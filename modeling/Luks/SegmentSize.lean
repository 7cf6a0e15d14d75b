import Luks.Segments
import Luks.SourceReads

/-!
# Where a payload ends

A segment of the document has a `size`, a number of bytes or `"dynamic"`. The code does not
read it (`Luks.parseSegment_congr`): a payload goes from the offset of its segment to the
end of the image, and no call on a volume gives a byte that lies beyond that
(`Luks.unlock2_payload_ends`). Where the image goes on after the segment, so does the
payload.

The calls are those of the two views of a payload, in any order: seeks and reads of the
stream, and reads of the source.
-/

namespace Luks

open Basis

/-- A call on a volume. -/
inductive VolumeCall where
  /-- Seek. -/
  | seek (pos : SeekFrom)
  /-- Read on, at most `n` bytes. -/
  | read (n : ℕ)
  /-- Read from the source into a buffer at an offset. -/
  | readAt (offset : UInt64) (buf : Bytes)

/-- The `count` places from `start` on. -/
def places (start count : ℕ) : List ℕ := (List.range count).map (start + ·)

theorem mem_places {start count loc : ℕ} :
    loc ∈ places start count ↔ start ≤ loc ∧ loc < start + count := by
  rw [places, List.mem_map]
  constructor
  · rintro ⟨i, hi, rfl⟩
    have := List.mem_range.mp hi
    omega
  · rintro ⟨hle, hlt⟩
    exact ⟨loc - start, List.mem_range.mpr (by omega), by omega⟩

section Calls

variable {ρ : Type} [ImageReader ρ] (escaped : Char → Bool) (K : Crates)

/-- One call on a volume: where in the image the bytes lie that it gives, and the volume
after it. -/
def VolumeCall.run (s : LuksSource ρ) : VolumeCall → List ℕ × LuksSource ρ
  | .seek pos => ([], { s with inner := (DecryptedPayload.seek pos s.inner).final })
  | .read n =>
      (match (DecryptedPayload.read K n s.inner).out with
        | .ok bs =>
            places (s.inner.payloadOffset.toNat + s.inner.position.toNat) bs.length
        | _ => [],
        { s with inner := (DecryptedPayload.read K n s.inner).final })
  | .readAt offset buf =>
      (match (LuksSource.readAt escaped K offset buf s).out with
        | .ok (count, _) => places (s.inner.payloadOffset.toNat + offset.toNat) count
        | _ => [],
        (LuksSource.readAt escaped K offset buf s).final)

variable {s : LuksSource ρ} {p : DecryptedPayload ρ}

/-- A call leaves the source serving its payload. -/
theorem serves_run (h : s.Serves p) (c : VolumeCall) : (c.run escaped K s).2.Serves p := by
  cases c with
  | seek pos => exact ⟨h.len_eq, (DecryptedPayload.movedFrom_seek pos).trans h.moved⟩
  | read n => exact ⟨h.len_eq, (DecryptedPayload.movedFrom_read K n).trans h.moved⟩
  | readAt offset buf => exact h.call escaped K (offset, buf)

/-- **A call gives bytes of the image only**: none lies at or beyond its end. -/
theorem run_lt_totalSize (h : s.Serves p) (c : VolumeCall) :
    ∀ loc ∈ (c.run escaped K s).1, loc < p.totalSize.toNat := by
  have hlen := h.sized
  have hsize : s.inner.payloadSize = p.totalSize.toNat - p.payloadOffset.toNat :=
    h.moved.payloadSize_eq
  have hoffset : s.inner.payloadOffset = p.payloadOffset := h.moved.payloadOffset_eq
  intro loc hloc
  cases c with
  | seek pos => simp [VolumeCall.run] at hloc
  | read n =>
    rw [VolumeCall.run] at hloc
    cases hout : (DecryptedPayload.read K n s.inner).out with
    | ok bs =>
      rw [hout] at hloc
      -- a read stops at the payload size, which ends with the image
      have hcount := DecryptedPayload.length_of_read K hout
      have hplaces := mem_places.mp hloc
      rw [hoffset] at hplaces
      omega
    | err e => simp [hout] at hloc
    | panic q => simp [hout] at hloc
  | readAt offset buf =>
    rw [VolumeCall.run] at hloc
    cases hout : (LuksSource.readAt escaped K offset buf s).out with
    | ok res =>
      rw [hout] at hloc
      -- the view counts from its own length, which is the payload's
      have hcount := LuksSource.count_of_readAt escaped K hout
      have hplaces := mem_places.mp hloc
      rw [hoffset] at hplaces
      rw [LuksSource.Sized] at hlen
      omega
    | err e => simp [hout] at hloc
    | panic q => simp [hout] at hloc

/-- Nor does any sequence of calls. -/
theorem replies_lt_totalSize (h : s.Serves p) (calls : List VolumeCall) :
    ∀ locs ∈ (replies (VolumeCall.run escaped K) s calls).1, ∀ loc ∈ locs,
      loc < p.totalSize.toNat := by
  induction calls generalizing s with
  | nil => simp [replies]
  | cons c calls ih =>
    intro locs hlocs
    rw [replies] at hlocs
    rcases List.mem_cons.mp hlocs with rfl | hlocs
    · exact run_lt_totalSize escaped K h c
    · exact ih (serves_run escaped K h c) locs hlocs

/-- **A payload is bounded** by `n` bytes: it is no larger, and no sequence of calls gives a
byte that lies `n` bytes from its offset, or beyond. -/
def BoundedBy (p : DecryptedPayload ρ) (n : ℕ) : Prop :=
  p.payloadSize ≤ n ∧ ∀ calls,
    ∀ locs ∈ (replies (VolumeCall.run escaped K) (LuksSource.new p) calls).1,
      ∀ loc ∈ locs, loc < p.payloadOffset.toNat + n

/-- A payload is bounded by as many bytes as the image has from its offset on. -/
theorem boundedBy_iff {n : ℕ} :
    BoundedBy escaped K p n ↔ p.totalSize.toNat ≤ p.payloadOffset.toNat + n := by
  constructor
  · rintro ⟨hle, -⟩
    rw [DecryptedPayload.payloadSize] at hle
    omega
  · intro hle
    refine ⟨?_, fun calls locs hlocs loc hloc => lt_of_lt_of_le
      (replies_lt_totalSize escaped K (LuksSource.serves_new p) calls locs hlocs loc hloc) hle⟩
    rw [DecryptedPayload.payloadSize]
    omega

end Calls

/-- **A segment is parsed the same whatever its size is.** -/
theorem parseSegment_congr (id : String) {v w : Value}
    (h : ∀ key, key ≠ "size" → v.get key = w.get key) : parseSegment id v = parseSegment id w := by
  simp only [parseSegment, h "offset" (by decide), h "encryption" (by decide),
    h "sector_size" (by decide), h "iv_tweak" (by decide)]

/-- **A volume is bounded by the size of its segment**, where the document gives it as a
number of bytes. -/
def BoundedBySize {ρ : Type} [ImageReader ρ] (escaped : Char → Bool) (K : Crates) (img : Bytes)
    (u : Unlocked ρ) : Prop :=
  ∀ header segment v n, Spec.IsLuks2 K img header segment → Spec.DescribesSegment K img v segment →
    v.get "size" = some (.string (Nat.repr n)) → BoundedBy escaped K u.payload n

/-- **Where a LUKS2 payload ends**: at the end of the image, whatever the size of its
segment. It is bounded by `n` bytes exactly if the image goes no further than that. -/
theorem unlock2_payload_ends {ρ : Type} [ImageReader ρ] (escaped : Char → Bool) (K : Crates)
    (clk : Clock) (r : ρ) (passphrase : Bytes) (budget : Duration) {u : Unlocked ρ}
    (hu : (unlock2WithPassphraseWithin K clk passphrase budget (World.init r)).out = .ok u) :
    (∃ header segment, Spec.IsLuks2 K (ImageReader.image r) header segment ∧
      u.payload.payloadOffset = segment.offset ∧
      u.payload.payloadSize = (ImageReader.image r).length - segment.offset.toNat ∧
      (∀ calls, ∀ locs ∈ (replies (VolumeCall.run escaped K) (LuksSource.new u.payload) calls).1,
        ∀ loc ∈ locs, loc < (ImageReader.image r).length) ∧
      ∀ n, BoundedBy escaped K u.payload n ↔
        (ImageReader.image r).length ≤ segment.offset.toNat + n) ∧
    ∀ id v w, (∀ key, key ≠ "size" → v.get key = w.get key) →
      parseSegment id v = parseSegment id w := by
  refine ⟨?_, fun id v w => parseSegment_congr id⟩
  obtain ⟨hsane, hspec⟩ := unlock2_eq_ok K clk (opens_init r) hu
  obtain ⟨hlen, header, segment, found, hparses, hsegment, hfound, hvolume⟩ :=
    Spec.unlock2_eq_ok_iff.mp hspec
  have hpayload : u.payload.map ImageReader.image =
      segment.payload (ImageReader.image r) found.key (ImageReader.image r).length :=
    congrArg Unlocked.payload hvolume
  have hoffset : u.payload.payloadOffset = segment.offset :=
    congrArg DecryptedPayload.payloadOffset hpayload
  -- the size of the container, and not that of the segment
  have htotal : u.payload.totalSize.toNat = (ImageReader.image r).length := by
    have hlt := ImageReader.image_lt r
    have heq : u.payload.totalSize = UInt64.ofNat (ImageReader.image r).length :=
      congrArg DecryptedPayload.totalSize hpayload
    rw [heq, UInt64.toNat_ofNat_of_lt' (lt_trans hlt (by decide))]
  refine ⟨header, segment, ⟨hlen, hsane, hparses, hsegment⟩, hoffset, ?_, fun calls => ?_,
    fun n => ?_⟩
  · rw [DecryptedPayload.payloadSize, htotal, hoffset]
  · rw [← htotal]
    exact replies_lt_totalSize escaped K (LuksSource.serves_new u.payload) calls
  · rw [boundedBy_iff, htotal, hoffset]

theorem unlock2_payload_ends_sample : ∃ u, (unlock2WithPassphraseWithin
      (Sample.cratesOf Sample.metadata) Sample.clock Sample.passphrase 1
      (World.init (Sample.readerOf Sample.fits_metadata [] (by decide)))).out = .ok u ∧
    ∃ header segment, Spec.IsLuks2 (Sample.cratesOf Sample.metadata)
        (Sample.imageOf Sample.fits_metadata []) header segment ∧
      u.payload.payloadSize =
        (Sample.imageOf Sample.fits_metadata []).length - segment.offset.toNat := by
  obtain ⟨u, hu, -⟩ := Sample.exists_unlock2_imageOf Sample.fits_metadata [] (by decide)
    (by decide) rfl rfl rfl Sample.stands_clock Nat.one_pos
  obtain ⟨⟨header, segment, hluks, -, hsize, -⟩, -⟩ :=
    unlock2_payload_ends (fun _ => false) _ _ _ _ _ hu
  exact ⟨u, hu, header, segment, hluks, hsize⟩

/-! ### An image that goes on -/

namespace Sample

/-- Metadata with a segment of one data unit. -/
def sized : Metadata := { metadata with size := "512" }

theorem fits_sized : sized.Fits :=
  Metadata.fits_of_texts (by decide +kernel) (by decide +kernel)

theorem get_size {m : Metadata} {id : String} {v : Value}
    (h : (id, v) ∈ (document m).entries "segments") : v.get "size" = some (.string m.size) := by
  obtain ⟨-, rfl⟩ := Prod.mk.inj (List.mem_singleton.mp h)
  rfl

end Sample

/-- **The payload goes on as well.** -/
theorem not_boundedBySize_sized :
    ¬∀ clk budget u, (unlock2WithPassphraseWithin (Sample.cratesOf Sample.sized) clk
      Sample.passphrase budget
      (World.init (Sample.readerOf Sample.fits_sized [0] (by decide)))).out = .ok u →
        BoundedBySize (fun _ => false) (Sample.cratesOf Sample.sized)
          (Sample.imageOf Sample.fits_sized [0]) u := by
  intro h
  obtain ⟨u, hu, himage⟩ := Sample.exists_unlock2_imageOf Sample.fits_sized [0] (by decide)
    (by decide) rfl rfl rfl Sample.stands_clock Nat.one_pos
  have hluks := Sample.isLuks2_imageOf Sample.fits_sized [0] (by decide) (by decide)
  obtain ⟨v, hdescribes⟩ := Spec.exists_describesSegment hluks.parses hluks.segment_mem
  obtain ⟨root, id, hroot, hv, -⟩ := id hdescribes
  obtain rfl : Sample.document Sample.sized = root :=
    Option.some.inj ((Sample.document_imageOf Sample.fits_sized [0]).symm.trans hroot)
  obtain ⟨hle, -⟩ := h _ _ u hu _ _ v 512 hluks hdescribes (Sample.get_size hv)
  -- one byte follows the segment of 512, and the payload has 513
  have hsize : u.payload.payloadSize =
      (UInt64.ofNat (12800 + 1)).toNat - (12288 : UInt64).toNat := by
    have heq := congrArg (fun x : Unlocked Bytes => x.payload.payloadSize) himage
    rw [Sample.length_imageOf] at heq
    exact heq
  exact absurd (hsize ▸ hle) (by decide)

end Luks
