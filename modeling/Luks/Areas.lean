import Luks.Basis.Visits
import Luks.Blocking
import Luks.Geometry

/-!
# The areas of keyslots

A LUKS2 keyslot declares where its key material is, by an offset and a size. The code
reads the material at the offset, and computes its length from the key size and the
stripes: the size that is declared is parsed and not looked at again. Key material that is
longer than its area is decrypted and merged like any other, with the bytes behind the
area.

A recovery is free of this exactly when none of the keyslots that it gets to, and that has
all that key material needs, asks for more than its area
(`Luks.recoverMasterKey2_staysInside_iff`).
-/

namespace Luks

open Basis

/-- The key material of a keyslot is longer than its area. -/
def Luks2Keyslot.Overlong (slot : Luks2Keyslot) : Prop :=
  slot.areaSize.toNat < slot.materialSize

namespace Spec

/-- The key material of a keyslot is decrypted and merged to a candidate: a key can be
derived for it, it has no more stripes than it may have, it is all in the image, and it can
be used. -/
structure Mergeable (K : Crates) (img passphrase : Bytes) (slot : Luks2Keyslot) : Prop where
  /-- A key can be derived. -/
  key : ∃ slotKey, deriveSlotKey K passphrase slot = .ok slotKey
  /-- Its stripes are within the ceiling. -/
  stripes : slot.afStripes.toNat ≤ maxStripes
  /-- Its key material is all there. -/
  inside : Inside img slot.areaOffset.toNat slot.materialSize
  /-- Its mode, hash and key size are the ones there are. -/
  usable : UsableMaterial (splitEncryption slot.areaEncryption).2 slot.afHash slot.keySize.toNat

variable {K : Crates} {img passphrase : Bytes} {slot : Luks2Keyslot}

/-- **A keyslot has a candidate exactly when its material is mergeable.** -/
theorem exists_candidate2_eq_some_iff :
    (∃ key, candidate2 K img passphrase slot = .ok (some key)) ↔
      Mergeable K img passphrase slot := by
  simp only [candidate2, bind_eq_ok_iff]
  constructor
  · rintro ⟨key, slotKey, hslotKey, hopen⟩
    obtain ⟨hs, hin, husable⟩ := exists_openMaterial_iff.mp ⟨key, hopen⟩
    rw [length_of_deriveSlotKey_eq_ok hslotKey] at husable
    exact ⟨⟨slotKey, hslotKey⟩, hs, hin, husable⟩
  · rintro ⟨⟨slotKey, hslotKey⟩, hs, hin, husable⟩
    rw [← length_of_deriveSlotKey_eq_ok hslotKey] at husable
    obtain ⟨key, hopen⟩ := (exists_openMaterial_iff (K := K)).mpr ⟨hs, hin, husable⟩
    exact ⟨key, slotKey, hslotKey, hopen⟩

/-- What accepts a key has a candidate. -/
theorem Accepts2.mergeable {header : Luks2Header} {key : Bytes} {dig : Luks2Digest}
    (h : Accepts2 K img header passphrase key slot dig) : Mergeable K img passphrase slot :=
  exists_candidate2_eq_some_iff.mp ⟨key, candidate2_of_isCandidate2 h.inside h.candidate⟩

end Spec

/-! ### The keyslots that a recovery tries -/

section Programs

variable {ρ : Type} [ReadSeek ρ] (K : Crates) (clk : Clock)

/-- Derive the key of a LUKS2 keyslot and open its key material: what a trial of the
keyslot starts with. -/
def openKeyslot2 (passphrase : Bytes) (deadline : UnlockDeadline) (slot : Luks2Keyslot)
    (tried : ℕ) : Exec (World ρ) (Option Bytes) := do
  let slotKey ← deriveSlotKey K clk passphrase deadline slot tried
  openMaterial K (splitEncryption slot.areaEncryption).2 slot.afHash slotKey slot.areaOffset
    slot.keySize.toNat slot.afStripes.toNat

/-- A trial goes on from the candidate to the digests. -/
theorem tryKeyslot2_eq (header : Luks2Header) (passphrase : Bytes) (deadline : UnlockDeadline)
    (slot : Luks2Keyslot) (tried : ℕ) :
    tryKeyslot2 (ρ := ρ) K clk header passphrase deadline slot tried =
      openKeyslot2 K clk passphrase deadline slot tried >>= fun
        | none => pure none
        | some candidate =>
            header.digests.findSomeM? (tryDigest K clk deadline slot tried candidate) := by
  rw [openKeyslot2, bind_assoc]
  rfl

/-- The keyslots that a recovery tries: each with the number of those before it, and the
state that it is tried in. -/
def triedKeyslots (header : Luks2Header) (passphrase : Bytes) (deadline : UnlockDeadline)
    (w : World ρ) : List ((Luks2Keyslot × ℕ) × World ρ) :=
  visits (fun a => tryKeyslot2 K clk header passphrase deadline a.1 a.2) header.keyslots.zipIdx w

/-- A recovery does nothing but try them. -/
theorem events_recoverMasterKey2 (header : Luks2Header) (passphrase : Bytes)
    (deadline : UnlockDeadline) (w : World ρ) :
    (recoverMasterKey2 K clk header passphrase deadline w).events =
      (triedKeyslots K clk header passphrase deadline w).flatMap fun x =>
        (tryKeyslot2 K clk header passphrase deadline x.1.1 x.1.2 x.2).events := by
  rw [triedKeyslots, ← events_findSomeM? (fun a : Luks2Keyslot × ℕ =>
    tryKeyslot2 K clk header passphrase deadline a.1 a.2)]
  change (Prog.bind _ _ w).events = _
  rcases hrun : (header.keyslots.zipIdx.findSomeM? fun a =>
    tryKeyslot2 K clk header passphrase deadline a.1 a.2) w with ⟨out, events, final⟩
  cases out with
  | ok found? => cases found? <;> simp [Prog.bind, hrun]
  | err e => simp [Prog.bind, hrun]
  | panic p => simp [Prog.bind, hrun]

/-- A recovery **stays inside the areas** of the keyslots, on the image `img`. -/
structure StaysInside (img : Bytes) (header : Luks2Header) (passphrase : Bytes)
    (deadline : UnlockDeadline) (w : World ρ) : Prop where
  /-- Where the key material of a keyslot is decrypted and merged, its bytes are bytes of
  the area, in the image. -/
  used : ∀ slot tried w', ((slot, tried), w') ∈ triedKeyslots K clk header passphrase deadline w →
    ∀ candidate, (openKeyslot2 K clk passphrase deadline slot tried w').out = .ok (some candidate) →
      ∀ offset len,
        Event.material offset len ∈ (openKeyslot2 K clk passphrase deadline slot tried w').events →
          Inside img offset len ∧ slot.areaOffset.toNat ≤ offset ∧
            offset + len ≤ slot.areaOffset.toNat + slot.areaSize.toNat
  /-- A keyslot with more key material than its area is refused or passed over. -/
  passed : ∀ slot tried w', ((slot, tried), w') ∈
    triedKeyslots K clk header passphrase deadline w → slot.Overlong →
      ∀ r, (tryKeyslot2 K clk header passphrase deadline slot tried w').out ≠ .ok (some r)
  /-- It does not accept the key that is returned. -/
  accepted : ∀ r slot dig, (recoverMasterKey2 K clk header passphrase deadline w).out = .ok r →
    r.acceptedBy = .luks2 slot dig → ¬slot.Overlong

end Programs

/-! ### What a trial does -/

/-- **Key material that is merged is left in the trace.** -/
theorem exists_material_mem_events {ρ : Type} [ReadSeek ρ] {K : Crates}
    {cipherMode hashSpec : String} {slotKey candidate : Bytes} {offset : UInt64}
    {blockSize stripes : ℕ} {w : World ρ}
    (h : (openMaterial K cipherMode hashSpec slotKey offset blockSize stripes w).out =
      .ok (some candidate)) :
    ∃ len, Event.material offset.toNat len ∈
      (openMaterial K cipherMode hashSpec slotKey offset blockSize stripes w).events := by
  rw [openMaterial] at h ⊢
  obtain ⟨len, hlen, h⟩ := Prog.bind_out_eq_ok_iff.mp h
  obtain ⟨buf, hbuf, h⟩ := Prog.bind_out_eq_ok_iff.mp h
  obtain ⟨material, hmaterial, h⟩ := Prog.bind_out_eq_ok_iff.mp h
  refine ⟨len, Prog.mem_events_bind_right hlen (Prog.mem_events_bind_right hbuf
    (Prog.mem_events_bind_right hmaterial ?_))⟩
  split_ifs at h ⊢ with hshort
  · simp at h
  · exact Prog.mem_events_bind_left (List.mem_singleton_self _)

section Trials

variable {ρ : Type} [ImageReader ρ] {K : Crates} {clk : Clock} {img passphrase : Bytes}
  {R : LuksError → Prop} {d : UnlockDeadline} {header : Luks2Header} {slot : Luks2Keyslot}
  {tried : ℕ} {w : World ρ}

/-- The key material of a keyslot, if an event is about key material: the bytes at its
offset, as many as its key size and stripes ask for. -/
def IsMaterialOf (img : Bytes) (slot : Luks2Keyslot) (v : Event) : Prop :=
  ∀ offset len, v = .material offset len →
    offset = slot.areaOffset.toNat ∧ len = slot.materialSize ∧ Inside img offset len

theorem permitsDerivation_isMaterialOf (img : Bytes) (slot : Luks2Keyslot) (d : UnlockDeadline) :
    PermitsDerivation (IsMaterialOf img slot) d where
  alloc n _ := by rintro o m ⟨⟩
  derive start left _ := by rintro o m ⟨⟩
  pbkdf2 run _ _ := by rintro o m ⟨⟩

/-- **Opening a keyslot answers its candidate**, and the key material that it uses is that
of the keyslot. -/
theorem openKeyslot2_answers (hR : ∀ e, d.Refuses clk e → R e) (passphrase : Bytes)
    (slot : Luks2Keyslot) (tried : ℕ) :
    AnswersUnless slot.Stops (ρ := ρ) img R (IsMaterialOf img slot)
      (openKeyslot2 K clk passphrase d slot tried) (Spec.candidate2 K img passphrase slot) := by
  rw [openKeyslot2, Spec.candidate2]
  refine Triple.bind_follows (deriveSlotKey_answers K clk
    (permitsDerivation_isMaterialOf img slot d) hR passphrase slot tried) fun slotKey hkey => ?_
  refine Triple.unstopped
    (openMaterial_answers_of K _ _ _ _ _ (Spec.le_of_deriveSlotKey_eq_ok K hkey) ?_ ?_ ?_)
  · rintro n - o m ⟨⟩
  · rintro len hlen hfull o m ⟨⟩
    exact ⟨rfl, hlen, inside_iff.mpr (Nat.not_lt_of_le hfull.ge)⟩
  · rintro u - o m ⟨⟩

/-- The same, as a run. -/
theorem openKeyslot2_run (passphrase : Bytes) (slot : Luks2Keyslot) (tried : ℕ) :
    AnswersUnless slot.Stops (ρ := ρ) img (d.Refuses clk) (IsMaterialOf img slot)
      (id <$> openKeyslot2 K clk passphrase d slot tried)
      (Spec.candidate2 K img passphrase slot) := by
  rw [id_map]
  exact openKeyslot2_answers (fun _ he => he) passphrase slot tried

/-- The key material that a keyslot is opened with. -/
theorem material_mem_events_openKeyslot2 {candidate : Bytes} (hw : Opens img w)
    (h : (openKeyslot2 K clk passphrase d slot tried w).out = .ok (some candidate)) :
    Event.material slot.areaOffset.toNat slot.materialSize ∈
      (openKeyslot2 K clk passphrase d slot tried w).events := by
  obtain ⟨slotKey, hslotKey, hopen⟩ := Prog.bind_out_eq_ok_iff.mp h
  obtain ⟨len, hlen⟩ := exists_material_mem_events hopen
  have hmem := Prog.mem_events_bind_right (f := fun slotKey => openMaterial K
    (splitEncryption slot.areaEncryption).2 slot.afHash slotKey slot.areaOffset
    slot.keySize.toNat slot.afStripes.toNat) hslotKey hlen
  obtain ⟨-, rfl, -⟩ := (openKeyslot2_run passphrase slot tried).mem_events hw hmem _ _ rfl
  exact hmem

theorem tryKeyslot2_run (header : Luks2Header) (passphrase : Bytes) (slot : Luks2Keyslot)
    (tried : ℕ) :
    AnswersUnless slot.Stops (ρ := ρ) img (d.Refuses clk) (fun _ => True)
      (id <$> tryKeyslot2 K clk header passphrase d slot tried)
      (Spec.tryKeyslot2 K img header.digests passphrase slot) := by
  rw [id_map]
  exact tryKeyslot2_answers K clk (permits_true img d) (fun _ he => he) header passphrase slot tried

/-- A trial leaves the container alone. -/
theorem opens_tryKeyslot2 (hw : Opens img w) (header : Luks2Header) (passphrase : Bytes)
    (slot : Luks2Keyslot) (tried : ℕ) :
    Opens img (tryKeyslot2 K clk header passphrase d slot tried w).final :=
  (tryKeyslot2_answers K clk (permits_true img d) (fun _ he => he) header passphrase slot tried
    w hw).1.1

/-- **A keyslot that is tried is reached.** -/
theorem reached2_of_mem_tried {w' : World ρ} (hw : Opens img w)
    (h : ((slot, tried), w') ∈ triedKeyslots K clk header passphrase d w) :
    Opens img w' ∧ Spec.Reached2 K img header passphrase slot := by
  obtain ⟨hw', l₁, l₂, hl, hpass⟩ := of_mem_visits (I := Opens img)
    (fun a t ht => opens_tryKeyslot2 ht header passphrase a.1 a.2) hw h
  refine ⟨hw', l₁.map Prod.fst, l₂.map Prod.fst, ?_, fun s hs => ?_⟩
  · have hfst := congrArg (List.map Prod.fst) hl
    simpa using hfst
  · obtain ⟨a, ha, rfl⟩ := List.mem_map.mp hs
    obtain ⟨t, ht, hnone⟩ := hpass a ha
    exact Spec.tryKeyslot2_eq_none_iff_not.mp
      ((tryKeyslot2_run header passphrase a.1 a.2).eq_ok ht hnone)

/-- **A keyslot that is reached is tried**, where there is time. -/
theorem exists_mem_tried (hw : Opens img w) (hample : d.Ample clk)
    (h : Spec.Reached2 K img header passphrase slot) :
    ∃ tried w', Opens img w' ∧
      ((slot, tried), w') ∈ triedKeyslots K clk header passphrase d w := by
  obtain ⟨l₁, l₂, hl, hpass⟩ := h
  have hzip : header.keyslots.zipIdx =
      l₁.zipIdx ++ (slot, l₁.length) :: l₂.zipIdx (l₁.length + 1) := by
    rw [hl, List.zipIdx_append, List.zipIdx_cons, Nat.zero_add]
  have hpasses : ∀ a ∈ l₁.zipIdx, ∀ t : World ρ, Opens img t →
      (tryKeyslot2 K clk header passphrase d a.1 a.2 t).out = .ok none ∧
        Opens img (tryKeyslot2 K clk header passphrase d a.1 a.2 t).final := by
    intro a ha t ht
    have hnone := Spec.tryKeyslot2_eq_none_iff_not.mpr (hpass a.1 (List.fst_mem_of_mem_zipIdx ha))
    have hrun : AnswersUnless a.1.Stops (ρ := ρ) img (d.Refuses clk) (fun _ => True)
        (id <$> tryKeyslot2 K clk header passphrase d a.1 a.2) _ :=
      tryKeyslot2_run header passphrase a.1 a.2
    rw [hnone] at hrun
    -- nothing is refused for want of time, so the trial comes to what the image says
    rcases hrun.ok_or_refused ht with ⟨b, hb, rfl⟩ | ⟨e, he, -⟩
    · exact ⟨hb, opens_tryKeyslot2 ht header passphrase a.1 a.2⟩
    · exact absurd hample he.2
  obtain ⟨t, ht, hmem⟩ := exists_mem_visits hw (slot, l₁.length) hpasses
  refine ⟨l₁.length, t, ht, ?_⟩
  rw [triedKeyslots, hzip]
  exact hmem

/-- A keyslot that gives a key to the recovery is one that opens. -/
theorem mergeable_of_tryKeyslot2 {r : Recovered} (hw : Opens img w)
    (h : (tryKeyslot2 K clk header passphrase d slot tried w).out = .ok (some r)) :
    Spec.Mergeable K img passphrase slot := by
  have hspec := (tryKeyslot2_run header passphrase slot tried).eq_ok hw h
  exact Spec.exists_candidate2_eq_some_iff.mp ⟨_, (Spec.tryKeyslot2_eq_some_iff.mp hspec).1⟩

end Trials

/-! ### When a recovery stays inside -/

section Staying

variable {ρ : Type} [ImageReader ρ] {K : Crates} {clk : Clock} {img passphrase : Bytes}
  {d : UnlockDeadline} {header : Luks2Header} {w : World ρ}

/-- Where no keyslot that is reached uses more than its area, the recovery stays inside. -/
theorem staysInside_of_not_overlong (hw : Opens img w)
    (h : ∀ slot, Spec.Reached2 K img header passphrase slot →
      Spec.Mergeable K img passphrase slot → ¬slot.Overlong) :
    StaysInside K clk img header passphrase d w where
  used slot tried w' hmem candidate hout offset len hv := by
    obtain ⟨hw', hreached⟩ := reached2_of_mem_tried hw hmem
    obtain ⟨rfl, rfl, hin⟩ := (openKeyslot2_run passphrase slot tried).mem_events hw' hv _ _ rfl
    have hmerges := Spec.exists_candidate2_eq_some_iff.mp
      ⟨candidate, (openKeyslot2_run passphrase slot tried).eq_ok hw' hout⟩
    have hle := Nat.le_of_not_lt (h slot hreached hmerges)
    exact ⟨hin, le_rfl, by omega⟩
  passed slot tried w' hmem hover r hout := by
    obtain ⟨hw', hreached⟩ := reached2_of_mem_tried hw hmem
    exact h slot hreached (mergeable_of_tryKeyslot2 hw' hout) hover
  accepted r slot dig hout haccepted := by
    obtain ⟨slot', dig', haccepts, heq⟩ := Spec.recoverMasterKey2_eq_ok_iff_accepts.mp
      ((recoverMasterKey2_run header).eq_ok hw hout)
    obtain ⟨rfl, rfl⟩ : slot' = slot ∧ dig' = dig := by simpa using heq.symm.trans haccepted
    exact h slot' haccepts.reached haccepts.mergeable

/-- Where a recovery with time stays inside, no keyslot that is reached uses more than its
area. -/
theorem not_overlong_of_staysInside (hw : Opens img w) (hample : d.Ample clk)
    (h : StaysInside K clk img header passphrase d w) {slot : Luks2Keyslot}
    (hreached : Spec.Reached2 K img header passphrase slot)
    (hmerges : Spec.Mergeable K img passphrase slot) : ¬slot.Overlong := by
  obtain ⟨tried, w', hw', hmem⟩ := exists_mem_tried (K := K) hw hample hreached
  obtain ⟨key, hcand⟩ := Spec.exists_candidate2_eq_some_iff.mpr hmerges
  have hrun : AnswersUnless slot.Stops (ρ := ρ) img (d.Refuses clk) (IsMaterialOf img slot)
      (id <$> openKeyslot2 K clk passphrase d slot tried) _ :=
    openKeyslot2_run passphrase slot tried
  rw [hcand] at hrun
  rcases hrun.ok_or_refused hw' with ⟨_, hout, rfl⟩ | ⟨e, he, -⟩
  · have hused := (h.used slot tried w' hmem key hout _ _
      (material_mem_events_openKeyslot2 hw' hout)).2.2
    exact Nat.not_lt_of_le (Nat.le_of_add_le_add_left hused)
  · exact absurd hample he.2

end Staying

/-- **When key material stays inside its area.** Every recovery on an image, with whatever
clock and deadline, uses key material of the areas only, and passes over or refuses a
keyslot that asks for more than its area, exactly when no keyslot of the header that is
reached under the passphrase, and whose key material can be merged, asks for more. -/
theorem recoverMasterKey2_staysInside_iff {ρ : Type} [ImageReader ρ] (K : Crates) (r : ρ)
    (header : Luks2Header) (passphrase : Bytes) :
    (∀ clk d (w : World ρ), Opens (ImageReader.image r) w →
      StaysInside K clk (ImageReader.image r) header passphrase d w) ↔
      ∀ slot, Spec.Reached2 K (ImageReader.image r) header passphrase slot →
        Spec.Mergeable K (ImageReader.image r) passphrase slot → ¬slot.Overlong := by
  constructor
  · intro h slot hreached hmerges
    obtain ⟨clk, d, hample⟩ := exists_ample
    exact not_overlong_of_staysInside (opens_init r) hample (h clk d _ (opens_init r)) hreached
      hmerges
  · intro h clk d w hw
    exact staysInside_of_not_overlong hw h

/-! ### A container with too short an area -/

namespace Sample

/-- An area of half a sector, for a sector of key material. -/
def halfSector : Geometry := ⟨256, 512, 0⟩

theorem fits_halfSector : halfSector.Fits :=
  Geometry.fits_of_digits (by decide +kernel) (by decide +kernel)

end Sample

/-- **It uses a sector of key material, and its area is half of one.** -/
theorem not_staysInside_halfSector :
    ¬∀ header segment, Spec.IsLuks2 Sample.halfSector.crates
        (Sample.Geometry.image Sample.fits_halfSector) header segment →
      ∀ clk d w, Opens (Sample.Geometry.image Sample.fits_halfSector) w →
        StaysInside (ρ := Cursor) Sample.halfSector.crates clk
          (Sample.Geometry.image Sample.fits_halfSector) header Sample.passphrase d w := by
  intro h
  have hluks := Sample.Geometry.isLuks2_image Sample.fits_halfSector
  have haccepts := Sample.Geometry.accepts2_image Sample.fits_halfSector
  obtain ⟨clk, d, hample⟩ := exists_ample
  have hw : Opens (Sample.Geometry.image Sample.fits_halfSector)
      (World.init (Sample.Geometry.reader Sample.fits_halfSector)) := opens_init _
  exact not_overlong_of_staysInside hw hample (h _ _ hluks clk d _ hw) haccepts.reached
    haccepts.mergeable (show (256 : UInt64).toNat < Spec.sectorRounded ((32 : UInt64).toNat *
      (2 : UInt64).toUInt32.toNat) by decide)

end Luks
