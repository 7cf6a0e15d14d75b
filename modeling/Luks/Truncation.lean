import Luks.PastTheEnd
import Mathlib.Data.List.Rotate

/-!
# Truncated images

A copy of a container that stops short still unlocks, if the header and the key material
that accepted the passphrase are in it (`Luks.Spec.unlock_take`), and its payload ends
where the copy does. The last data unit may then be there in part only. It is filled up
with zeros and decrypted as if they were its ciphertext, and the sequential read returns
what comes of it up to the end of the copy.

Under a cipher that mixes the bytes of a unit, those need not be the bytes of the whole
container. They are, under every cipher, exactly when what was cut off of the unit was
zero, or nothing is decrypted anyway (`Luks.neverFabricates_iff`).
-/

namespace Luks

open Basis

/-! ### Unlocking the front of an image -/

namespace Spec

variable {K : Crates} {img passphrase key : Bytes} {t : ℕ}

/-- What is all in the front of an image is there as in the image. -/
theorem inside_of_take {o n : ℕ} (h : Inside (img.take t) o n) :
    Inside img o n ∧ window (img.take t) o n = window img o n := by
  refine ⟨fun i hi => lt_of_lt_of_le (h i hi) (by simp), ?_⟩
  rcases Nat.eq_zero_or_pos n with rfl | hn
  · rw [window_zero_right, window_zero_right]
  · have hlast := h (n - 1) (by omega)
    rw [List.length_take] at hlast
    exact window_take (by omega)

section Luks1

variable {header : Luks1Header} {slot : Keyslot}

theorem isCandidate1_take (h : Inside (img.take t) slot.materialOffset (slot.materialSize header)) :
    IsCandidate1 K (img.take t) header passphrase slot key ↔
      IsCandidate1 K img header passphrase slot key := by
  rw [IsCandidate1, (inside_of_take h).2]
  rfl

/-- A keyslot that opens in the front of an image opens. -/
theorem Opens1.of_take (h : Opens1 K (img.take t) header passphrase slot) :
    Opens1 K img header passphrase slot := by
  obtain ⟨key, hin, hkey, hverifies⟩ := h
  exact ⟨key, (inside_of_take hin).1, (isCandidate1_take hin).mp hkey, hverifies⟩

/-- **A key is still accepted**, if the material it comes from is still there. -/
theorem Accepts1.take (h : Accepts1 K img header passphrase key slot)
    (hin : Inside (img.take t) slot.materialOffset (slot.materialSize header)) :
    Accepts1 K (img.take t) header passphrase key slot := by
  obtain ⟨l₁, l₂, hl, hpass⟩ := h.reached
  exact ⟨⟨l₁, l₂, hl, fun s hs => ⟨(hpass s hs).1, fun hopens => (hpass s hs).2 hopens.of_take⟩⟩,
    hin, (isCandidate1_take hin).mpr h.candidate, h.verifies⟩

/-- The header is in the front of an image. -/
theorem header1_take (ht : luks1PhdrLen ≤ t) (h : IsLuks1 img header) :
    IsLuks1 (img.take t) header := by
  have himg := h.version.2
  have hlen : luks1PhdrLen ≤ (img.take t).length := by
    rw [List.length_take]
    exact le_min ht himg
  rw [IsLuks1, header1, readFill_front himg] at h
  rw [IsLuks1, header1, readFill_front hlen, window_take (by omega)]
  exact h

end Luks1

section Luks2

variable {header : Luks2Header} {segment : Luks2Segment} {slot : Luks2Keyslot} {dig : Luks2Digest}

theorem isCandidate2_take (h : Inside (img.take t) slot.areaOffset.toNat slot.materialSize) :
    IsCandidate2 K (img.take t) passphrase slot key ↔ IsCandidate2 K img passphrase slot key := by
  rw [IsCandidate2, (inside_of_take h).2]
  rfl

theorem Opens2.of_take {digests : List Luks2Digest}
    (h : Opens2 K (img.take t) digests passphrase slot) : Opens2 K img digests passphrase slot := by
  obtain ⟨key, hin, hkey, hreaches⟩ := h
  exact ⟨key, (inside_of_take hin).1, (isCandidate2_take hin).mp hkey, hreaches⟩

/-- A keyslot that is refused in the front of an image is refused. -/
theorem Refused2.of_take {digests : List Luks2Digest}
    (h : Refused2 K (img.take t) digests passphrase slot) :
    Refused2 K img digests passphrase slot := by
  cases h with
  | derivation e h => exact .derivation e h
  | stripes h => exact .stripes h
  | material hin h => exact .material (inside_of_take hin).1 h
  | digest key hin hkey h =>
    exact .digest key (inside_of_take hin).1 ((isCandidate2_take hin).mp hkey) h

/-- **A key is still accepted**, if the material it comes from is still there. -/
theorem Accepts2.take (h : Accepts2 K img header passphrase key slot dig)
    (hin : Inside (img.take t) slot.areaOffset.toNat slot.materialSize) :
    Accepts2 K (img.take t) header passphrase key slot dig := by
  obtain ⟨l₁, l₂, hl, hpass⟩ := h.reached
  exact ⟨⟨l₁, l₂, hl, fun s hs => ⟨fun hrefused => (hpass s hs).1 hrefused.of_take,
    fun hopens => (hpass s hs).2 hopens.of_take⟩⟩, hin, (isCandidate2_take hin).mpr h.candidate,
    h.reachedDigest, h.applies, h.verifies⟩

theorem hdrSize_take (ht : hdrSize img ≤ t) : hdrSize (img.take t) = hdrSize img := by
  have hbin : luks2BinHdrLen ≤ hdrSize img := le_max_right _ _
  rw [luks2BinHdrLen] at hbin
  rcases Nat.lt_or_ge t img.length with hlt | hge
  · rw [hdrSize, show img.take t = window img 0 t from rfl, beU64_window (by omega) hlt.le, hdrSize]
  · rw [List.take_of_length_le hge]

/-- The header is in the front of an image. -/
theorem isLuks2_take (ht : hdrSize img ≤ t) (h : IsLuks2 K img header segment) :
    IsLuks2 K (img.take t) header segment where
  length_le := by
    have hbin : luks2BinHdrLen ≤ hdrSize img := le_max_right _ _
    rw [List.length_take]
    exact le_min (hbin.trans ht) h.length_le
  not_oversized := by
    rintro ⟨-, hlarge⟩
    rw [hdrSize_take ht] at hlarge
    exact h.not_oversized ⟨h.length_le, hlarge⟩
  parses := by
    rw [header2, hdrSize_take ht, window_take (by omega)]
    exact h.parses
  chosen := h.chosen

end Luks2

end Spec

/-- The front of an image keeps what accepted a key: the header, and the key material of
the keyslot. -/
def KeepsAccepted (img : Bytes) (t : ℕ) : Accepted → Prop
  | .luks1 slot => luks1PhdrLen ≤ t ∧ ∀ header, Spec.IsLuks1 img header →
      Inside (img.take t) slot.materialOffset (slot.materialSize header)
  | .luks2 slot _ => Spec.hdrSize img ≤ t ∧
      Inside (img.take t) slot.areaOffset.toNat slot.materialSize

/-- The payload in the front of an image. -/
def DecryptedPayload.take (t : ℕ) (p : DecryptedPayload Bytes) : DecryptedPayload Bytes :=
  { p with
    reader := p.reader.take t
    totalSize := UInt64.ofNat (p.reader.take t).length }

/-- The volume in the front of an image. -/
def Unlocked.take (t : ℕ) (u : Unlocked Bytes) : Unlocked Bytes :=
  ⟨u.payload.take t, u.acceptedBy⟩

namespace Spec

variable {K : Crates} {img passphrase : Bytes} {t : ℕ} {u : Unlocked Bytes}

/-- **The front of an image unlocks** to the same volume, up to its end, if it keeps what
accepted the key. -/
theorem unlock_take (hfit : beU16 img 6 = 2 → ¬Oversized img)
    (h : unlock K img passphrase = .ok u) (hkeeps : KeepsAccepted img t u.acceptedBy) :
    unlock K (img.take t) passphrase = .ok (u.take t) ∧
      (beU16 (img.take t) 6 = 2 → ¬Oversized (img.take t)) := by
  rcases unlock_eq_ok_iff.mp h with h | h
  · obtain ⟨header, found, hheader, hfound, rfl⟩ := unlock1_eq_ok_iff.mp h
    obtain ⟨slot, haccepts, hslot⟩ := recoverMasterKey1_eq_ok_iff_accepts.mp hfound
    rw [show found.acceptedBy = .luks1 slot from hslot] at hkeeps
    have hfront := header1_take hkeeps.1 hheader
    have hfound' : recoverMasterKey1 K (img.take t) header passphrase = .ok found :=
      recoverMasterKey1_eq_ok_iff_accepts.mpr
        ⟨slot, haccepts.take (hkeeps.2 header hheader), hslot⟩
    refine ⟨unlock_eq_ok_iff.mpr (Or.inl (unlock1_eq_ok_iff.mpr
      ⟨header, found, hfront, hfound', rfl⟩)), fun htwo => ?_⟩
    -- the front says version 1, as the image does
    rw [hfront.version.1] at htwo
    cases htwo
  · obtain ⟨hlen, header, segment, found, hheader, hsegment, hfound, rfl⟩ := unlock2_eq_ok_iff.mp h
    obtain ⟨slot, dig, haccepts, hslot⟩ := recoverMasterKey2_eq_ok_iff_accepts.mp hfound
    rw [show found.acceptedBy = .luks2 slot dig from hslot] at hkeeps
    have hluks : IsLuks2 K img header segment :=
      ⟨hlen, hfit (beU16_of_header2 hlen hheader), hheader, hsegment⟩
    have hfront := isLuks2_take hkeeps.1 hluks
    have hfound' : recoverMasterKey2 K (img.take t) header passphrase = .ok found :=
      recoverMasterKey2_eq_ok_iff_accepts.mpr ⟨slot, dig, haccepts.take hkeeps.2, hslot⟩
    exact ⟨unlock_eq_ok_iff.mpr (Or.inr (unlock2_eq_ok_iff.mpr
      ⟨hfront.length_le, header, segment, found, hfront.parses, hfront.chosen, hfound', rfl⟩)),
      fun _ => hfront.not_oversized⟩

end Spec

section Unlocking

variable {ρ τ : Type} [ImageReader ρ] [ImageReader τ] {K : Crates} {r : ρ} {r' : τ}
  {passphrase : Bytes} {u : Unlocked ρ} {t : ℕ}

/-- An unlocked volume is the one in the image. -/
theorem UnlockedFrom.unlock_eq (hu : UnlockedFrom K r passphrase u) :
    (beU16 (ImageReader.image r) 6 = 2 → ¬Oversized (ImageReader.image r)) ∧
      Spec.unlock K (ImageReader.image r) passphrase = .ok (u.map ImageReader.image) := by
  cases hu with
  | luks1 h =>
    have hspec := (unlock1_run K _ _ passphrase).eq_ok (opens_init r) h
    obtain ⟨header, -, hheader, -, -⟩ := Spec.unlock1_eq_ok_iff.mp hspec
    refine ⟨fun htwo => ?_, Spec.unlock_eq_ok_iff.mpr (Or.inl hspec)⟩
    rw [(Spec.IsLuks1.version hheader).1] at htwo
    cases htwo
  | luks2 h =>
    obtain ⟨hfit, hspec⟩ := unlock2_eq_ok K _ (opens_init r) h
    exact ⟨fun _ => hfit, Spec.unlock_eq_ok_iff.mpr (Or.inr hspec)⟩
  | either h => exact unlock_eq_ok K _ (opens_init r) h

/-- **A truncated container still unlocks**, to the same volume up to its end. -/
theorem UnlockedFrom.take (hu : UnlockedFrom K r passphrase u)
    (himage : ImageReader.image r' = (ImageReader.image r).take t)
    (hkeeps : KeepsAccepted (ImageReader.image r) t u.acceptedBy) :
    (∃ u', UnlockedFrom K r' passphrase u') ∧ ∀ u', UnlockedFrom K r' passphrase u' →
      u'.map ImageReader.image = (u.map ImageReader.image).take t := by
  obtain ⟨hfit, hspec⟩ := hu.unlock_eq
  obtain ⟨hspec', hfit'⟩ := Spec.unlock_take hfit hspec hkeeps
  rw [← himage] at hspec' hfit'
  refine ⟨?_, fun u' hu' => Except.ok.inj (hu'.unlock_eq.2.symm.trans hspec')⟩
  -- a run with time to spare returns it
  have hrun := unlock_run (ρ := τ) K (.stopped 0) hfit' 1 passphrase
  rw [hspec'] at hrun
  obtain ⟨u', hu', -⟩ := hrun.settles_ok _ (opens_init r') (Clock.stands_stopped 0) Nat.one_pos
  exact ⟨u', .either hu'⟩

end Unlocking

/-! ### Reading the payload from the front -/

namespace DecryptedPayload

variable {ρ : Type} [ImageReader ρ] {K : Crates}

/-- Read on, into buffers of these sizes. -/
def readAll (K : Crates) : List ℕ → Exec (DecryptedPayload ρ) Bytes
  | [] => return []
  | n :: ns => do
      let bs ← read K n
      let rest ← readAll K ns
      return bs ++ rest

/-- A payload that can be read: its units have a cipher and a buffer, and it ends with the
image. -/
structure Readable (p : DecryptedPayload ρ) : Prop where
  /-- The units have a cipher. -/
  parameters : AcceptedParameters p
  /-- They fit a buffer. -/
  unitSize_le : p.unitSize ≤ isizeMax
  /-- The first tweak has 64 bits. -/
  ivTweak_lt : p.ivTweak.toNat < 2 ^ 64
  /-- The payload ends with the image. -/
  total_eq : p.totalSize.toNat = (ImageReader.image p.reader).length

variable {p q : DecryptedPayload ρ} {dec : Bytes → Bytes → Bytes}

theorem Readable.of_movedFrom (h : Readable p) (hq : q.MovedFrom p) : Readable q := by
  obtain ⟨r, pos, hr, rfl⟩ := hq
  exact ⟨h.parameters, h.unitSize_le, h.ivTweak_lt,
    h.total_eq.trans (congrArg List.length (Eq.symm hr))⟩

/-- The bytes do not depend on the reader and the position. -/
theorem MovedFrom.plainByte_eq (hq : q.MovedFrom p) (x : ℕ) :
    Spec.plainByte dec (q.map ImageReader.image) x =
      Spec.plainByte dec (p.map ImageReader.image) x := by
  obtain ⟨r, pos, hr, rfl⟩ := hq
  have himage : ImageReader.image r = ImageReader.image p.reader := hr
  rw [Spec.plainByte, Spec.plainUnit, map, movedTo]
  dsimp only
  rw [himage]
  rfl

/-- The position after a sequential read. -/
theorem position_of_read {len : ℕ} {bs : Bytes} (h : (read K len p).out = .ok bs) :
    (read K len p).final.position.toNat = p.position.toNat + bs.length := by
  have hlen := length_of_read K h
  have hlt := p.payloadSize_lt
  rcases Nat.lt_or_ge p.position.toNat p.payloadSize with hless | hge
  · rw [read_of_lt K p hless] at h ⊢
    rw [Prog.bind_out_of_keeps fun bs q => rfl] at h
    rw [Prog.bind_of_ok h]
    change (UInt64.ofNat (p.position.toNat + min len (p.payloadSize - p.position.toNat))).toNat = _
    rw [UInt64.toNat_ofNat_of_lt' (lt_of_le_of_lt (b := p.payloadSize) (by omega) hlt), hlen]
  · rw [read_of_le K p hge] at h ⊢
    rw [hlen, Nat.sub_eq_zero_of_le hge, Nat.min_zero, Nat.add_zero]

/-- **A sequential read** gives the bytes from the position on, as far as they go. -/
theorem Readable.exists_read (h : Readable p) (hdec : xtsCipher K p.masterKey = .ok dec)
    (len : ℕ) : ∃ bs, (read K len p).out = .ok bs ∧
      ∀ i < bs.length, bs[i]? =
        Spec.plainByte dec (p.map ImageReader.image) (p.position.toNat + i) := by
  have htotal := h.total_eq
  have hlt := ImageReader.image_lt p.reader
  rcases Nat.lt_or_ge p.position.toNat p.payloadSize with hless | hge
  · have hlast : p.unitAddress (p.position.toNat +
        (min len (p.payloadSize - p.position.toNat) - 1)) < 2 ^ 64 := by
      have hle := Nat.div_mul_le_self (p.position.toNat +
        (min len (p.payloadSize - p.position.toNat) - 1)) p.unitSize
      rw [payloadSize] at hless hle ⊢
      rw [unitAddress]
      omega
    obtain ⟨bs, hout, hlen, hbytes⟩ :=
      exists_readAt h.parameters.1 hdec h.unitSize_le h.ivTweak_lt hlast
    refine ⟨bs, ?_, fun i hi => hbytes i (by omega)⟩
    rw [read_of_lt K p hless, Prog.bind_out_of_keeps fun bs q => rfl]
    exact hout
  · refine ⟨[], ?_, fun i hi => absurd hi (Nat.not_lt_zero i)⟩
    rw [read_of_le K p hge]

/-- **Reading on** gives the bytes from the position on, as far as they go, whatever the
sizes of the buffers. -/
theorem Readable.exists_readAll (h : Readable p) (hdec : xtsCipher K p.masterKey = .ok dec)
    (ns : List ℕ) : ∃ bs, (readAll K ns p).out = .ok bs ∧
      bs.length = min ns.sum (p.payloadSize - p.position.toNat) ∧
      ∀ i < bs.length, bs[i]? =
        Spec.plainByte dec (p.map ImageReader.image) (p.position.toNat + i) := by
  induction ns generalizing p with
  | nil => exact ⟨[], rfl, by simp, fun i hi => absurd hi (Nat.not_lt_zero i)⟩
  | cons n ns ih =>
    obtain ⟨bs, hout, hbytes⟩ := h.exists_read hdec n
    have hlen := length_of_read K hout
    have hmoved := movedFrom_read K (p := p) n
    have hpos := position_of_read hout
    obtain ⟨rest, hrest, hrestlen, hrestbytes⟩ := ih (h.of_movedFrom hmoved) (by
      obtain ⟨r, pos, -, hq⟩ := hmoved
      rw [hq]
      exact hdec)
    rw [hpos, hmoved.payloadSize_eq] at hrestlen
    refine ⟨bs ++ rest, ?_, ?_, fun i hi => ?_⟩
    · exact Prog.bind_out_eq_ok_iff.mpr ⟨bs, hout, Prog.bind_out_eq_ok_iff.mpr ⟨rest, hrest, rfl⟩⟩
    · rw [List.length_append, List.sum_cons]
      omega
    · rcases Nat.lt_or_ge i bs.length with hlt | hge
      · rw [List.getElem?_append_left hlt]
        exact hbytes i hlt
      · rw [List.length_append] at hi
        rw [List.getElem?_append_right hge, hrestbytes _ (by omega), hmoved.plainByte_eq, hpos]
        congr 1
        omega

/-- At the end nothing is read on. -/
theorem readAll_of_le (h : p.payloadSize ≤ p.position.toNat) (ns : List ℕ) :
    (readAll K ns p).out = .ok [] := by
  induction ns with
  | nil => rfl
  | cons n ns ih =>
    have hread : read K n p = _ := read_of_le K p h
    refine Prog.bind_out_eq_ok_iff.mpr ⟨[], congrArg Run.out hread, ?_⟩
    refine Prog.bind_out_eq_ok_iff.mpr ⟨[], ?_, rfl⟩
    rw [hread]
    exact ih

/-- **What was read on was decrypted**: the first read that is not empty went through. -/
theorem accepted_of_readAll (htweak : p.ivTweak.toNat < 2 ^ 64)
    (hless : p.position.toNat < p.payloadSize) {ns : List ℕ} (hsum : 0 < ns.sum) {bs : Bytes}
    (h : (readAll K ns p).out = .ok bs) : AcceptedParameters p ∧ p.unitSize ≤ isizeMax := by
  induction ns generalizing p bs with
  | nil => exact absurd hsum (Nat.lt_irrefl 0)
  | cons n ns ih =>
    obtain ⟨first, hfirst, hrest⟩ := Prog.bind_out_eq_ok_iff.mp h
    rcases Nat.eq_zero_or_pos n with rfl | hn
    · have hlen := length_of_read K hfirst
      have hpos := position_of_read hfirst
      obtain ⟨rest, hout, -⟩ := Prog.bind_out_eq_ok_iff.mp hrest
      have hmoved := movedFrom_read K (p := p) 0
      rw [hlen, Nat.zero_min, Nat.add_zero] at hpos
      obtain ⟨r, pos, -, hq⟩ := id hmoved
      rw [hq] at hpos hout
      exact ih (p := p.movedTo r pos) htweak (by rw [hpos]; exact hless) (by simpa using hsum) hout
    · rw [read_of_lt K p hless, Prog.bind_out_of_keeps fun bs q => rfl] at hfirst
      obtain ⟨hparameters, hss, -⟩ := decrypted_of_readAt htweak (by omega) hfirst
      exact ⟨hparameters, hss⟩

end DecryptedPayload

/-! ### Truncated payloads -/

/-- The cipher that rotates a unit. -/
def rotation (n : ℕ) : UnitCipher where
  decrypt _ _ _ _ unit := unit.rotate n
  length_decrypt _ _ _ _ unit := unit.length_rotate n

section Truncating

variable {ρ τ : Type} [ImageReader ρ] [ImageReader τ]

/-- **The truncated payload shows no fabricated plaintext**: under every cipher, where the
whole payload can be read, the truncated one can, and reading it gives a prefix – for any
sizes of the buffers. -/
def NeverFabricates (K : Crates) (p : DecryptedPayload ρ) (p' : DecryptedPayload τ) : Prop :=
  ∀ c ns ns' bs, p.payloadSize ≤ ns.sum → p'.payloadSize ≤ ns'.sum →
    (DecryptedPayload.readAll (K.withCipher c) ns p).out = .ok bs →
    ∃ bs', (DecryptedPayload.readAll (K.withCipher c) ns' p').out = .ok bs' ∧ bs' <+: bs

variable {K : Crates} {p : DecryptedPayload ρ} {p' : DecryptedPayload τ} {t : ℕ}
  {dec : Bytes → Bytes → Bytes}

/-- What is cut off of the data unit of the last byte is zero. -/
def ZeroTail (img : Bytes) (start unitSize t : ℕ) : Prop :=
  ∀ a b, t ≤ a → (a - start) / unitSize = (t - 1 - start) / unitSize → img[a]? = some b → b = 0

/-- **Bytes of a truncated payload** are those of the whole one, if what was cut off of the
last unit is zero. -/
theorem plainByte_take {q : DecryptedPayload Bytes} (hpast : q.payloadOffset.toNat < t)
    (hzero : ZeroTail q.reader q.payloadOffset.toNat q.unitSize t) {x : ℕ}
    (hx : q.payloadOffset.toNat + x < t) :
    Spec.plainByte dec (q.take t) x = Spec.plainByte dec q x := by
  have hunit : zeroFill (window (q.reader.take t)
      (q.payloadOffset.toNat + x / q.unitSize * q.unitSize) q.unitSize) q.unitSize =
        zeroFill (window q.reader
          (q.payloadOffset.toNat + x / q.unitSize * q.unitSize) q.unitSize) q.unitSize := by
    refine List.ext_getElem? fun i => ?_
    rw [getElem?_zeroFill_window, getElem?_zeroFill_window]
    by_cases hi : i < q.unitSize
    · rw [if_pos hi, if_pos hi]
      rcases Nat.lt_or_ge (q.payloadOffset.toNat + x / q.unitSize * q.unitSize + i) t with hlt | hge
      · rw [List.getElem?_take_of_lt hlt]
      -- past the cut, but of a unit that starts before it: a byte of the cut unit
      · have hcut : (q.payloadOffset.toNat + x / q.unitSize * q.unitSize + i -
            q.payloadOffset.toNat) / q.unitSize = (t - 1 - q.payloadOffset.toNat) / q.unitSize := by
          have hunit : (x / q.unitSize * q.unitSize + i) / q.unitSize = x / q.unitSize := by
            rw [(add_div_mod_of_lt (by rwa [Nat.mul_mod_left, Nat.zero_add])).1,
              Nat.mul_div_cancel _ q.unitSize_pos]
          have hle : x / q.unitSize ≤ (t - 1 - q.payloadOffset.toNat) / q.unitSize :=
            Nat.div_le_div_right (by omega)
          have hge : (t - 1 - q.payloadOffset.toNat) / q.unitSize ≤
              (x / q.unitSize * q.unitSize + i) / q.unitSize := Nat.div_le_div_right (by omega)
          rw [Nat.add_assoc, Nat.add_sub_cancel_left, hunit]
          omega
        rw [List.getElem?_take_eq_none (by omega)]
        cases hbyte : q.reader[q.payloadOffset.toNat + x / q.unitSize * q.unitSize + i]? with
        | none => rfl
        | some b =>
          rw [hzero _ b hge hcut hbyte]
          rfl
    · rw [if_neg hi, if_neg hi]
  exact congrArg (fun unit : Bytes => (dec _ unit)[x % q.unitSize]?) hunit

/-- A rotation brings a byte of a unit to its front. -/
theorem plainByte_rotation (q : DecryptedPayload Bytes) (aes : Aes) (k₁ k₂ : Bytes) (u : ℕ) {w : ℕ}
    (hw : w < q.unitSize) : Spec.plainByte ((rotation w).decrypt aes k₁ k₂) q (u * q.unitSize) =
      some (q.reader[q.payloadOffset.toNat + u * q.unitSize + w]?.getD 0) := by
  have hlen := length_zeroFill_window q.reader (q.payloadOffset.toNat + u * q.unitSize) q.unitSize
  rw [Spec.plainByte, Nat.mul_div_cancel u q.unitSize_pos, Nat.mul_mod_left]
  change (List.rotate (zeroFill (window q.reader (q.payloadOffset.toNat + u * q.unitSize)
    q.unitSize) q.unitSize) w)[0]? = _
  rw [List.getElem?_rotate (by omega), hlen, Nat.zero_add, Nat.mod_eq_of_lt hw,
    getElem?_zeroFill_window, if_pos hw]

/-- The payload is that of a front of the image, and none of either has been read. -/
structure FrontOf (t : ℕ) (p : DecryptedPayload ρ) (p' : DecryptedPayload τ) : Prop where
  /-- The image is a front of the image. -/
  take_eq : p'.map ImageReader.image = (p.map ImageReader.image).take t
  /-- It stops past the start of the payload. -/
  past : p.payloadOffset.toNat < t
  /-- The position is at the start. -/
  position_eq : p.position.toNat = 0
  /-- The payload goes up to the end of the image. -/
  total_eq : p.totalSize.toNat = (ImageReader.image p.reader).length

namespace FrontOf

variable (h : FrontOf t p p')

include h

theorem image_eq : ImageReader.image p'.reader = (ImageReader.image p.reader).take t :=
  congrArg DecryptedPayload.reader h.take_eq

theorem masterKey_eq : p'.masterKey = p.masterKey := congrArg DecryptedPayload.masterKey h.take_eq

theorem position_eq' : p'.position.toNat = 0 :=
  (congrArg (fun q : DecryptedPayload Bytes => q.position.toNat) h.take_eq).trans h.position_eq

theorem total_eq' : p'.totalSize.toNat = (ImageReader.image p'.reader).length := by
  have htotal : p'.totalSize = UInt64.ofNat ((ImageReader.image p.reader).take t).length :=
    congrArg DecryptedPayload.totalSize h.take_eq
  have hlt := ImageReader.image_lt p'.reader
  rw [h.image_eq] at hlt
  rw [htotal, h.image_eq, UInt64.toNat_ofNat_of_lt' (lt_trans hlt (by decide))]

theorem payloadSize_eq :
    p.payloadSize = (ImageReader.image p.reader).length - p.payloadOffset.toNat := by
  rw [DecryptedPayload.payloadSize, h.total_eq]

/-- The payload goes up to the cut. -/
theorem payloadSize_eq' :
    p'.payloadSize = min t (ImageReader.image p.reader).length - p.payloadOffset.toNat := by
  have hoffset : p'.payloadOffset = p.payloadOffset :=
    congrArg DecryptedPayload.payloadOffset h.take_eq
  rw [DecryptedPayload.payloadSize, h.total_eq', h.image_eq, hoffset, List.length_take]

/-- It can be read as well. -/
theorem readable (hreadable : p.Readable) : p'.Readable := by
  have hmode : p'.cipherMode = p.cipherMode := congrArg DecryptedPayload.cipherMode h.take_eq
  have htweak : p'.ivTweak = p.ivTweak := congrArg DecryptedPayload.ivTweak h.take_eq
  have hunit : p'.unitSize = p.unitSize := congrArg DecryptedPayload.unitSize h.take_eq
  exact ⟨⟨hmode.trans hreadable.parameters.1, h.masterKey_eq ▸ hreadable.parameters.2⟩,
    hunit ▸ hreadable.unitSize_le, htweak ▸ hreadable.ivTweak_lt, h.total_eq'⟩

/-- **A zero tail** leaves the bytes as they were, where any are read. -/
theorem neverFabricates (htweak : p.ivTweak.toNat < 2 ^ 64)
    (hzero : p.Readable →
      ZeroTail (ImageReader.image p.reader) p.payloadOffset.toNat p.unitSize t) :
    NeverFabricates K p p' := by
  intro c ns ns' bs hsum hsum' hout
  have hposition := h.position_eq
  have hposition' := h.position_eq'
  have hpast := h.past
  have hsize := h.payloadSize_eq
  have hsize' := h.payloadSize_eq'
  rcases Nat.eq_zero_or_pos p'.payloadSize with hnone | hsome
  · exact ⟨[], DecryptedPayload.readAll_of_le (by omega) ns', List.nil_prefix⟩
  -- the whole payload was decrypted, and the truncated one is as readable
  · obtain ⟨hparameters, hss⟩ := DecryptedPayload.accepted_of_readAll htweak (by omega)
      (by omega) hout
    have hreadable : p.Readable := ⟨hparameters, hss, htweak, h.total_eq⟩
    obtain ⟨dec, hdec⟩ := (Spec.exists_xtsCipher_iff (K := K.withCipher c)).mpr hparameters.2
    obtain ⟨bs₁, hout₁, hlen₁, hbytes₁⟩ := hreadable.exists_readAll hdec ns
    obtain ⟨bs', hout', hlen', hbytes'⟩ := (h.readable hreadable).exists_readAll
      (h.masterKey_eq ▸ hdec) ns'
    obtain rfl : bs = bs₁ := Outcome.ok.inj (hout.symm.trans hout₁)
    refine ⟨bs', hout', List.prefix_iff_eq_take.mpr (List.ext_getElem? fun i => ?_)⟩
    rcases Nat.lt_or_ge i bs'.length with hlt | hge
    · have hcut : p.payloadOffset.toNat + (0 + i) < t := by omega
      rw [List.getElem?_take_of_lt hlt, hbytes' i hlt, hbytes₁ i (by omega), h.take_eq, hposition,
        hposition', plainByte_take (q := p.map ImageReader.image) hpast (hzero hreadable) hcut]
    · rw [List.getElem?_eq_none hge, List.getElem?_eq_none (by rw [List.length_take]; omega)]

/-- **A byte that was cut off shows** in the bytes that are left, under a rotation. -/
theorem zeroTail (hnever : NeverFabricates K p p') (hreadable : p.Readable) :
    ZeroTail (ImageReader.image p.reader) p.payloadOffset.toNat p.unitSize t := by
  intro a b ha hunit hbyte
  have hposition := h.position_eq
  have hposition' := h.position_eq'
  have hpast := h.past
  have hsize := h.payloadSize_eq
  have hsize' := h.payloadSize_eq'
  have hlt : a < (ImageReader.image p.reader).length := (List.getElem?_eq_some_iff.mp hbyte).1
  -- the byte is `w` bytes into the last unit of the truncated payload
  obtain ⟨w, hw⟩ : ∃ w, w = (a - p.payloadOffset.toNat) % p.unitSize := ⟨_, rfl⟩
  obtain ⟨n, hn⟩ : ∃ n, n = (a - p.payloadOffset.toNat) / p.unitSize := ⟨_, rfl⟩
  have hwlt : w < p.unitSize := hw ▸ Nat.mod_lt _ p.unitSize_pos
  have hplace : p.payloadOffset.toNat + n * p.unitSize + w = a := by
    have hdiv := Nat.div_add_mod' (a - p.payloadOffset.toNat) p.unitSize
    rw [← hn, ← hw] at hdiv
    omega
  have hstart : n * p.unitSize ≤ t - 1 - p.payloadOffset.toNat := by
    rw [hn, hunit]
    exact Nat.div_mul_le_self _ _
  obtain ⟨aes, k₁, k₂, hdec⟩ := exists_xtsCipher_withCipher K (rotation w) hreadable.parameters.2
  obtain ⟨bs, hout, hlen, hbytes⟩ := hreadable.exists_readAll hdec [p.payloadSize]
  obtain ⟨bs', hout', rest, rfl⟩ := hnever (rotation w) [p.payloadSize] [p'.payloadSize] bs
    (by simp) (by simp) hout
  obtain ⟨bs₁, hout₁, hlen₁, hbytes₁⟩ := (h.readable hreadable).exists_readAll
    (h.masterKey_eq ▸ hdec) [p'.payloadSize]
  obtain rfl : bs' = bs₁ := Outcome.ok.inj (hout'.symm.trans hout₁)
  rw [List.sum_singleton, hposition'] at hlen₁
  have hmem : n * p.unitSize < bs'.length := by omega
  -- the front of that unit is the byte, or the zero it is filled up with
  have hfull := hbytes (n * p.unitSize) (by rw [List.length_append]; omega)
  have hcut := hbytes₁ (n * p.unitSize) hmem
  rw [List.getElem?_append_left hmem, hcut, h.take_eq, hposition, hposition', Nat.zero_add] at hfull
  have hfront := plainByte_rotation (p.map ImageReader.image) aes k₁ k₂ n hwlt
  have hfront' := plainByte_rotation ((p.map ImageReader.image).take t) aes k₁ k₂ n hwlt
  have hsame := (hfront'.symm.trans hfull).trans hfront
  change some (((ImageReader.image p.reader).take t)[
    p.payloadOffset.toNat + n * p.unitSize + w]?.getD 0) =
      some ((ImageReader.image p.reader)[p.payloadOffset.toNat + n * p.unitSize + w]?.getD 0)
        at hsame
  rw [hplace, hbyte, List.getElem?_take_eq_none ha] at hsame
  exact (Option.some.inj hsame).symm

end FrontOf

end Truncating

/-- The position of an unlocked volume is its front. -/
theorem UnlockedFrom.position_eq {ρ : Type} [ImageReader ρ] {K : Crates} {r : ρ}
    {passphrase : Bytes} {u : Unlocked ρ} (hu : UnlockedFrom K r passphrase u) :
    u.payload.position.toNat = 0 :=
  UnlockedFrom.of_accepts K r passphrase (P := fun u => u.payload.position.toNat = 0) hu
    (fun _ _ _ _ _ => rfl) fun _ _ _ _ _ _ _ => rfl

/-- **When a truncated container shows no fabricated plaintext.** For every unlocked
container, and every copy of it that stops past the start of the payload and keeps the
header and the key material that was used: the copy unlocks, and under every cipher its
payload reads as a prefix of the whole one, exactly when the mode is not `xts-plain64` or a
unit fits no buffer, so that nothing is read, or what is cut off of the unit of the last
byte is zero. -/
theorem neverFabricates_iff {ρ τ : Type} [ImageReader ρ] [ImageReader τ] (K : Crates) (r : ρ)
    (r' : τ) (passphrase : Bytes) {u : Unlocked ρ} (hu : UnlockedFrom K r passphrase u) {t : ℕ}
    (himage : ImageReader.image r' = (ImageReader.image r).take t)
    (hpast : u.payload.payloadOffset.toNat < t)
    (hkeeps : KeepsAccepted (ImageReader.image r) t u.acceptedBy) :
    ((∃ u', UnlockedFrom K r' passphrase u') ∧ ∀ u', UnlockedFrom K r' passphrase u' →
      NeverFabricates K u.payload u'.payload) ↔
        u.payload.cipherMode ≠ "xts-plain64" ∨ isizeMax < u.payload.unitSize ∨
          ZeroTail (ImageReader.image r) u.payload.payloadOffset.toNat u.payload.unitSize t := by
  obtain ⟨hkey, htweak⟩ := hu.isXtsKey
  obtain ⟨⟨u₁, hu₁⟩, htake⟩ := hu.take himage hkeeps
  have hfront : ∀ u', UnlockedFrom K r' passphrase u' → FrontOf t u.payload u'.payload :=
    fun u' hu' => ⟨congrArg Unlocked.payload (htake u' hu'), hpast, hu.position_eq, hu.total_eq⟩
  rw [← hu.image_eq.1]
  constructor
  · rintro ⟨-, h⟩
    by_contra hnot
    simp only [not_or, not_not, not_lt] at hnot
    obtain ⟨hmode, hss, hzero⟩ := hnot
    exact hzero ((hfront u₁ hu₁).zeroTail (h u₁ hu₁) ⟨⟨hmode, hkey⟩, hss, htweak, hu.total_eq⟩)
  · intro h
    refine ⟨⟨u₁, hu₁⟩, fun u' hu' => (hfront u' hu').neverFabricates htweak
      fun hreadable => ?_⟩
    rcases h with hmode | hss | hzero
    · exact absurd hreadable.parameters.1 hmode
    · exact absurd hreadable.unitSize_le (Nat.not_le_of_lt hss)
    · exact hzero

/-! ### A copy that stops inside a sector -/

namespace Sample

variable (rest : Bytes)

/-- The first bytes of the container. -/
def frontReader (hrest : rest.length < 2 ^ 62) (t : ℕ) : Cursor :=
  Cursor.new ((imageOf fits_metadata rest).take t) (by
    rw [List.length_take, length_imageOf]
    omega)

/-- **The header and the key material** are in the first 8704 bytes. -/
theorem keepsAccepted_front {t : ℕ} (ht : 8704 ≤ t) (dig : Luks2Digest) :
    KeepsAccepted (imageOf fits_metadata rest) t
      (.luks2 (metadata.slotRecord (cratesOf metadata)) dig) := by
  have hlen := length_imageOf fits_metadata rest
  have hhdr : Spec.hdrSize (imageOf fits_metadata rest) = 8192 :=
    (HeaderArea.hdrSize_eq (A := headerArea fits_metadata)
      (by rw [size_headerArea]; omega) (window_headerArea_imageOf _ _)).trans
      (size_headerArea fits_metadata)
  have hoffset : (metadata.slotRecord (cratesOf metadata)).areaOffset.toNat = 8192 :=
    show (8192 : UInt64).toNat = _ by decide
  have hsize : (metadata.slotRecord (cratesOf metadata)).materialSize = 512 :=
    show Spec.sectorRounded ((32 : UInt64).toNat * (UInt64.ofNat 2).toUInt32.toNat) = 512 by decide
  refine ⟨by omega, fun i hi => ?_⟩
  rw [List.length_take, hoffset]
  rw [hsize] at hi
  omega

/-- The payload of the container, and what follows it. -/
theorem getElem?_payload (i : ℕ) :
    (imageOf fits_metadata rest)[12288 + i]? = (payload ++ rest)[i]? := by
  have hheader : (headerArea fits_metadata).bytes.length = 8192 := by
    rw [HeaderArea.length_bytes, size_headerArea]
  have hmaterial := length_keyMaterial metadata
  rw [imageOf, List.getElem?_append_right (by omega), List.getElem?_append_right (by omega),
    List.getElem?_append_right (by rw [List.length_replicate]; omega), hheader, hmaterial,
    List.length_replicate]
  exact congrArg (fun n => (payload ++ rest)[n]?) (by omega)

end Sample

/-- **A copy that stops one byte into a sector** is decrypted with zeros for the rest of it:
on an unlocked container of one sector, whose second byte was not zero, a rotation shows
it. -/
theorem not_neverFabricates_frontReader : ¬∀ u u', UnlockedFrom (Sample.cratesOf Sample.metadata)
    (Sample.readerOf Sample.fits_metadata [] (by decide)) Sample.passphrase u →
      UnlockedFrom (Sample.cratesOf Sample.metadata) (Sample.frontReader [] (by decide) 12289)
        Sample.passphrase u' → u.payload.payloadOffset.toNat < 12289 →
          KeepsAccepted (Sample.imageOf Sample.fits_metadata []) 12289 u.acceptedBy →
            NeverFabricates (Sample.cratesOf Sample.metadata) u.payload u'.payload := by
  intro h
  obtain ⟨u, hu, hmode, hoffset, hunit, -, haccepted⟩ := Sample.exists_unlocked [] (by decide)
  have hpast : u.payload.payloadOffset.toNat < 12289 := by omega
  have hkeeps : KeepsAccepted (Sample.imageOf Sample.fits_metadata []) 12289 u.acceptedBy := by
    rw [haccepted]
    exact Sample.keepsAccepted_front _ (by decide) _
  have himage' : ImageReader.image (Sample.frontReader [] (by decide) 12289) =
      (ImageReader.image (Sample.readerOf Sample.fits_metadata [] (by decide))).take 12289 := rfl
  obtain ⟨⟨u', hu'⟩, htake⟩ := hu.take himage' hkeeps
  obtain ⟨hkey, htweak⟩ := hu.isXtsKey
  have hss : u.payload.unitSize ≤ isizeMax := by
    rw [hunit]
    decide
  have hzero := FrontOf.zeroTail
    ⟨congrArg Unlocked.payload (htake u' hu'), hpast, hu.position_eq, hu.total_eq⟩
    (h u u' hu hu' hpast hkeeps) ⟨⟨hmode, hkey⟩, hss, htweak, hu.total_eq⟩
  rw [hu.image_eq.1, hoffset, hunit] at hzero
  -- the byte that was cut off
  have hbyte : (Sample.imageOf Sample.fits_metadata [])[12289]? = some 0xa9 :=
    (Sample.getElem?_payload [] 1).trans (by decide +kernel)
  exact absurd (hzero 12289 0xa9 (le_refl _) (by decide) hbyte) (by decide)

/-- The container with a byte after its sector, and the copy that stops before that byte. -/
theorem neverFabricates_sample : ∃ u, UnlockedFrom (Sample.cratesOf Sample.metadata)
    (Sample.readerOf Sample.fits_metadata [7] (by decide)) Sample.passphrase u ∧
      (∃ u', UnlockedFrom (Sample.cratesOf Sample.metadata)
        (Sample.frontReader [7] (by decide) 12800) Sample.passphrase u') ∧
          ∀ u', UnlockedFrom (Sample.cratesOf Sample.metadata)
            (Sample.frontReader [7] (by decide) 12800) Sample.passphrase u' →
              NeverFabricates (Sample.cratesOf Sample.metadata) u.payload u'.payload := by
  obtain ⟨u, hu, -, hoffset, hunit, -, haccepted⟩ := Sample.exists_unlocked [7] (by decide)
  refine ⟨u, hu, (neverFabricates_iff _ _ _ _ hu rfl ?_ ?_).mpr (Or.inr (Or.inr ?_))⟩
  · omega
  · rw [haccepted]
    exact Sample.keepsAccepted_front _ (by decide) _
  -- no byte from the cut on is of the unit before it
  · intro a b ha hsame
    rw [hoffset, hunit] at hsame
    omega

end Luks
