import Luks.Faltering
import Luks.Variants

/-!
# What an unlock depends on

An unlock looks at the header, at the key material of the keyslots, and at the size of the
container (`Luks.EntryPoint.Touches`). Two containers of the same size that agree on those
bytes unlock the same way in every run (`Luks.unlock_frame`): the same volume but for what it
reads, the same error or the same panic, after the same events. So nothing that is written
to the payload, or between the areas, can lock a container or open it.
-/

namespace Luks

open Basis

variable {ρ τ : Type} [ImageReader ρ] [ImageReader τ] {img img' : Bytes} {touched : ℕ → Prop}

/-- Two sequences of bytes agree on the bytes that are touched. -/
structure AgreeOn (touched : ℕ → Prop) (img img' : Bytes) : Prop where
  /-- They have one length. -/
  length_eq : img.length = img'.length
  /-- They agree where they are touched. -/
  getElem?_eq : ∀ i, touched i → img[i]? = img'[i]?

theorem AgreeOn.window_eq (h : AgreeOn touched img img') {o n : ℕ}
    (ht : ∀ i < n, touched (o + i)) : window img o n = window img' o n := by
  refine List.ext_getElem? fun i => ?_
  rw [getElem?_window, getElem?_window]
  split_ifs with hi
  · exact h.getElem?_eq _ (ht i hi)
  · rfl

theorem AgreeOn.readFill_eq (h : AgreeOn touched img img') {o n : ℕ}
    (ht : ∀ i < n, touched (o + i)) : Spec.readFill img o n = Spec.readFill img' o n := by
  rw [Spec.readFill, Spec.readFill, h.window_eq ht]

/-- Readers of containers that agree where they are touched give the same there. -/
theorem readsAlike_agreeOn (h : AgreeOn touched img img') :
    ReadsAlike (fun _ => False) id (fun (r : ρ) (t : τ) => Presents img r ∧ Presents img' t) img
      touched where
  fill o n ht := by
    refine Falters.of_follows (readFillAt_follows o n) ?_
    rw [h.readFill_eq ht]
    exact readFillAt_follows o n
  available o n ht := by
    have hread : Triple (Presents img') (readAvailableAt (ρ := τ) o n) (Follows (Presents img')
        (fun _ => False) (.ok ((window img' o.toNat n).length,
          zeroFill (window img' o.toNat n) n))) fun _ => False := readAvailableAt_follows o n
    rw [← h.window_eq ht] at hread
    refine (Falters.of_follows (readAvailableAt_follows o n) hread).mono fun ct ct' h => ?_
    exact ⟨h.1, (Except.ok.inj h.2).symm⟩
  start o := (Falters.of_follows (seekTo_start_follows o) (seekTo_start_follows o)).mono
    fun _ _ _ => trivial
  fromEnd := by
    have hend : Triple (Presents img') (seekTo (ρ := τ) (.fromEnd 0)) (Follows (Presents img')
        (fun _ => False) (.ok img'.length)) fun _ => False := seekTo_end
    rw [← h.length_eq] at hend
    exact (Falters.of_follows seekTo_end hend).mono fun _ _ h => h.1

/-- **Only the header, the key material and the size matter.** Two containers of one size
that agree on the bytes that an unlock of the first one touches unlock the same way, under
every clock, within every budget and with every passphrase: the outcomes are the same but
for what the volumes read, and so are the events. -/
theorem unlock_frame (K : Crates) (clk : Clock) (e : EntryPoint) (passphrase : Bytes)
    (budget : Duration) {r : ρ} {t : τ}
    (h : AgreeOn (e.Touches K (ImageReader.image r)) (ImageReader.image r) (ImageReader.image t)) :
    Outcome.Rel (fun u v => (u.map fun _ => ()) = (v.map fun _ => ()))
        (e.unlock K clk passphrase budget (World.init r)).out
        (e.unlock K clk passphrase budget (World.init t)).out ∧
      (e.unlock K clk passphrase budget (World.init r)).events =
        (e.unlock K clk passphrase budget (World.init t)).events := by
  rcases e.falters K clk (readsAlike_agreeOn h) (fun _ hi => hi) (Loosens.refl budget) passphrase
    _ _ (sameTime_init ⟨rfl, rfl⟩) with h | h
  · have hevents := h.events
    rw [List.map_id, List.map_id] at hevents
    exact ⟨h.out.mono fun u v huv => huv.rest, hevents⟩
  · obtain ⟨err, hfalse, -⟩ := h.out
    exact hfalse.elim

namespace Sample

/-- What is read of the container is in its first 8704 bytes. -/
theorem lt_of_touches {rest : Bytes} (hrest : rest.length < 2 ^ 62) {i : ℕ}
    (h : EntryPoint.luks2.Touches (cratesOf metadata) (imageOf fits_metadata rest) i) :
    i < 8704 := by
  have hluks := isLuks2_imageOf fits_metadata rest (by decide) hrest
  rcases h with hhdr | ⟨header, hheader, slot, hslot, -, hlt⟩
  · rw [HeaderArea.hdrSize_eq (A := headerArea fits_metadata)
      (by rw [size_headerArea, length_imageOf]; omega) (window_headerArea_imageOf _ rest),
      size_headerArea] at hhdr
    omega
  · obtain rfl : metadata.header (cratesOf metadata) = header :=
      Except.ok.inj (hluks.parses.symm.trans hheader)
    obtain rfl : slot = metadata.slotRecord (cratesOf metadata) := List.mem_singleton.mp hslot
    refine lt_of_lt_of_le hlt ?_
    change (8192 : UInt64).toNat + Spec.sectorRounded ((32 : UInt64).toNat *
      (UInt64.ofNat 2).toUInt32.toNat) ≤ 8704
    decide

/-- Two containers that differ in their last byte agree on what is touched. -/
theorem agreeOn_imageOf : AgreeOn
    (EntryPoint.luks2.Touches (cratesOf metadata) (imageOf fits_metadata [1]))
    (imageOf fits_metadata [1]) (imageOf fits_metadata [2]) := by
  refine ⟨by rw [length_imageOf, length_imageOf]; rfl, fun i hi => ?_⟩
  have hlt := lt_of_touches (by decide) hi
  have hsplit : ∀ rest, imageOf fits_metadata rest = imageOf fits_metadata [] ++ rest := by
    intro rest
    simp only [imageOf, List.append_assoc, List.append_nil]
  have hlen := length_imageOf fits_metadata []
  rw [hsplit [1], hsplit [2], List.getElem?_append_left (by omega),
    List.getElem?_append_left (by omega)]

end Sample

theorem unlock_frame_sample : ∃ u v : Unlocked Cursor,
    (EntryPoint.luks2.unlock (Sample.cratesOf Sample.metadata) Sample.clock Sample.passphrase 1
      (World.init (Sample.readerOf Sample.fits_metadata [1] (by decide)))).out = .ok u ∧
    (EntryPoint.luks2.unlock (Sample.cratesOf Sample.metadata) Sample.clock Sample.passphrase 1
      (World.init (Sample.readerOf Sample.fits_metadata [2] (by decide)))).out = .ok v ∧
    (u.map fun _ => ()) = v.map fun _ => () := by
  obtain ⟨u, hu, -⟩ := Sample.exists_unlock2_imageOf Sample.fits_metadata [1] (by decide)
    (by decide) rfl rfl rfl Sample.stands_clock (show (0 : Duration) < 1 by decide)
  obtain ⟨v, hv, huv⟩ := (unlock_frame (Sample.cratesOf Sample.metadata) Sample.clock .luks2
    Sample.passphrase 1 (r := Sample.readerOf Sample.fits_metadata [1] (by decide))
    (t := Sample.readerOf Sample.fits_metadata [2] (by decide))
    Sample.agreeOn_imageOf).1.exists_ok hu
  exact ⟨u, v, hu, hv, huv⟩

end Luks
