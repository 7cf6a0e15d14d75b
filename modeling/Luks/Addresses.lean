import Luks.PayloadBytes
import Luks.Streaming

/-!
# Where a read looks

A read adds up, in 64 bits, where each data unit it touches stands in the container: the
offset of the payload, which a header chooses, and a multiple of the unit, which the
caller does. Only the sequential read keeps the range inside the payload; a read at an
offset takes any.

The sums are exact as long as the last unit of the range has an address below 2^64. Where
it has not, the read comes to that sum, unless the first unit already stops it
(`Luks.addressesExactly_iff`).
-/

namespace Luks

open Basis

/-- A read looks where it should: no sum or product of 64 bits overflows, and its passes, also
those of a read that fails, read one unit of the range after the other where that stands. -/
structure AddressesExactly {ρ : Type} [ReadSeek ρ] (K : Crates) (p : DecryptedPayload ρ)
    (offset : UInt64) (len : ℕ) : Prop where
  /-- No arithmetic overflows. -/
  no_overflow : (DecryptedPayload.readAt K offset len p).out ≠ .panic .arithmeticOverflow
  /-- Each pass reads the unit that is its turn, and reads it where it stands. -/
  passes : (DecryptedPayload.readAt K offset len p).events.filterMap Event.unitAddress <+:
    (unitsOf p.unitSize offset.toNat len).map fun u => p.payloadOffset.toNat + u * p.unitSize

/-! ### What a read comes to -/

section Units

variable {ρ τ : Type} {K : Crates} {p : DecryptedPayload τ} {offset len pos : ℕ}

theorem tweakStep_le {n : ℕ} (h : 0 < n) : tweakStep n ≤ n := by
  rw [tweakStep]
  omega

/-- A unit with an address has a tweak, if the first one has 64 bits. -/
theorem tweak_lt_of_unitAddress_lt (htweak : p.ivTweak.toNat < 2 ^ 64)
    (h : p.unitAddress pos < 2 ^ 64) :
    p.ivTweak.toNat + pos / p.unitSize * tweakStep p.unitSize < 2 ^ 128 := by
  have hle := Nat.mul_le_mul_left (pos / p.unitSize) (tweakStep_le p.unitSize_pos)
  rw [DecryptedPayload.unitAddress] at h
  omega

/-- Addresses grow with positions. -/
theorem unitAddress_le (p : DecryptedPayload τ) {pos pos' : ℕ} (h : pos ≤ pos') :
    p.unitAddress pos ≤ p.unitAddress pos' :=
  Nat.add_le_add_left (Nat.mul_le_mul_right _ (Nat.div_le_div_right h)) _

variable [ImageReader ρ]

/-- **A read comes to the unit without an address**: with accepted parameters and a
buffer, every pass before it goes through. -/
theorem readUnits_of_ge (hparameters : AcceptedParameters p) (hss : p.unitSize ≤ isizeMax)
    (htweak : p.ivTweak.toNat < 2 ^ 64) (hlarge : 2 ^ 64 ≤ p.unitAddress (offset + (len - 1)))
    {done : ℕ} (hdone : done < len) (r : ρ) :
    (p.readUnits K offset len done r).out = .panic .arithmeticOverflow := by
  obtain ⟨dec, hdec⟩ := (Spec.exists_xtsCipher_iff (K := K)).mpr hparameters.2
  -- from any state of the reader
  induction done using p.loop_induct len generalizing r with
  | stop done hle => exact absurd hdone (Nat.not_lt_of_le hle)
  | pass done _ ih =>
    rw [p.readUnits_of_lt K hdone]
    rcases Nat.lt_or_ge (offset + done) (2 ^ 64) with hpos | hpos
    · rw [addU64_of_lt hpos, pure_bind]
      rcases Nat.lt_or_ge (p.unitAddress (offset + done)) (2 ^ 64) with haddress | haddress
      · have htake := p.take_pos (offset + done) (Nat.not_le_of_lt hdone)
        have hout := readUnit_out K p haddress hss (tweak_lt_of_unitAddress_lt htweak haddress) r
        rw [Spec.decryptedUnit_eq (p := p.map fun _ => ImageReader.image r) hparameters.1
          hdec] at hout
        rw [Prog.bind_of_ok hout]
        -- this is not the last unit, as the last one has no address
        have hless : done + min (p.unitSize - (offset + done) % p.unitSize) (len - done) < len := by
          by_contra hlast
          have hsame : (offset + done + (len - 1 - done)) / p.unitSize =
              (offset + done) / p.unitSize := by
            have hmod := Nat.mod_lt (offset + done) p.unitSize_pos
            exact (add_div_mod_of_lt (by omega)).1
          rw [show offset + done + (len - 1 - done) = offset + (len - 1) by omega] at hsame
          rw [DecryptedPayload.unitAddress] at hlarge haddress
          rw [hsame] at hlarge
          omega
        have hrest := ih (offset + done) hless (p.readUnit K (offset + done) r).final
        exact congrArg Run.out (Prog.bind_of_panic hrest)
      · exact congrArg Run.out (Prog.bind_of_panic (readUnit_of_ge K p haddress r))
    · rw [addU64_of_ge hpos, Prog.abort_bind]
      rfl

/-- **A read whose last unit has an address** comes to what the image holds. -/
theorem readUnits_out (hss : p.unitSize ≤ isizeMax) (htweak : p.ivTweak.toNat < 2 ^ 64)
    (hoffset : offset < 2 ^ 64) (hlast : p.unitAddress (offset + (len - 1)) < 2 ^ 64) (r : ρ) :
    (p.readUnits K offset len 0 r).out =
      .ofExcept (Spec.readUnits K (p.map fun _ => ImageReader.image r) offset len 0) := by
  rcases Nat.eq_zero_or_pos len with rfl | hlen
  · rw [DecryptedPayload.readUnits, Spec.readUnits, dif_pos (le_refl 0), dif_pos (le_refl 0)]
    rfl
  · -- the units that the range touches are those up to the last one
    have haddress : ∀ u, u * p.unitSize < offset + len →
        p.unitAddress (u * p.unitSize) < 2 ^ 64 := by
      intro u hu
      exact lt_of_le_of_lt (unitAddress_le p (by omega)) hlast
    have hfit : ∀ u, u * p.unitSize < offset + len →
        p.payloadOffset.toNat + u * p.unitSize < 2 ^ 64 := by
      intro u hu
      have hlt := haddress u hu
      rwa [DecryptedPayload.unitAddress, Nat.mul_div_cancel u p.unitSize_pos] at hlt
    have htweaks : ∀ u, u * p.unitSize < offset + len →
        p.ivTweak.toNat + u * tweakStep p.unitSize < 2 ^ 128 := by
      intro u hu
      have hlt := tweak_lt_of_unitAddress_lt htweak (haddress u hu)
      rwa [Nat.mul_div_cancel u p.unitSize_pos] at hlt
    exact ((readUnits_follows_of_lt (E := fun _ => True) K p hfit hss htweaks trivial
      (fun _ _ => trivial) (fun _ _ => trivial) 0 (fun _ => by omega)).sure
        (show Presents (ImageReader.image r) r from rfl)).1

/-- What a read that asks for something comes to. -/
inductive ReadsTo (K : Crates) (p : DecryptedPayload τ) (img : Bytes) (offset len : ℕ) :
    Outcome LuksError Bytes → Prop
  /-- The first unit has no address. -/
  | noAddress (hfirst : 2 ^ 64 ≤ p.unitAddress offset) :
      ReadsTo K p img offset len (.panic .arithmeticOverflow)
  /-- It has no buffer. -/
  | noBuffer (hfirst : p.unitAddress offset < 2 ^ 64) (hss : isizeMax < p.unitSize) :
      ReadsTo K p img offset len (.panic .capacityOverflow)
  /-- It has no cipher. -/
  | noCipher {what value : String} (hfirst : p.unitAddress offset < 2 ^ 64)
      (hss : p.unitSize ≤ isizeMax) (hnot : ¬AcceptedParameters p) :
      ReadsTo K p img offset len (.err (.unsupported what value))
  /-- It is decrypted, and a later one has no address. -/
  | stopped (hparameters : AcceptedParameters p) (hss : p.unitSize ≤ isizeMax)
      (hlast : 2 ^ 64 ≤ p.unitAddress (offset + (len - 1))) :
      ReadsTo K p img offset len (.panic .arithmeticOverflow)
  /-- All units are decrypted. -/
  | bytes {bs : Bytes} (hparameters : AcceptedParameters p) (hss : p.unitSize ≤ isizeMax)
      (hlast : p.unitAddress (offset + (len - 1)) < 2 ^ 64)
      (hbs : Spec.readUnits K (p.map fun _ => img) offset len 0 = .ok bs) :
      ReadsTo K p img offset len (.ok bs)

/-- **What a read comes to** is decided by the addresses of its first and last unit, the
size of a unit, and the parameters of the cipher. -/
theorem readUnits_readsTo (htweak : p.ivTweak.toNat < 2 ^ 64) (hlen : 0 < len)
    (hoffset : offset < 2 ^ 64) (r : ρ) :
    ReadsTo K p (ImageReader.image r) offset len (p.readUnits K offset len 0 r).out := by
  rcases Nat.lt_or_ge (p.unitAddress offset) (2 ^ 64) with hfirst | hfirst
  · rcases Nat.lt_or_ge isizeMax p.unitSize with hss | hss
    · rw [readUnits_of_first_panic hlen hoffset (readUnit_of_isizeMax_lt K p hfirst hss r)]
      exact .noBuffer hfirst hss
    · by_cases hparameters : AcceptedParameters p
      · rcases Nat.lt_or_ge (p.unitAddress (offset + (len - 1))) (2 ^ 64) with hlast | hlast
        · obtain ⟨dec, hdec⟩ := (Spec.exists_xtsCipher_iff (K := K)).mpr hparameters.2
          obtain ⟨bs, hbs, -⟩ := Spec.exists_readUnits (p := p.map fun _ => ImageReader.image r)
            hparameters.1 hdec offset len 0
          rw [readUnits_out hss htweak hoffset hlast, hbs]
          exact .bytes hparameters hss hlast hbs
        · rw [readUnits_of_ge hparameters hss htweak hlast hlen]
          exact .stopped hparameters hss hlast
      · obtain ⟨what, value, herr⟩ := exists_readUnits_unsupported (K := K) hparameters hlen hoffset
          hfirst hss (tweak_lt_of_unitAddress_lt htweak hfirst) r
        rw [herr]
        exact .noCipher hfirst hss hparameters
  · rw [readUnits_of_first_panic hlen hoffset (readUnit_of_ge K p hfirst r)]
    exact .noAddress hfirst

end Units

section Reads

variable {ρ : Type} [ImageReader ρ] {K : Crates} {p : DecryptedPayload ρ} {offset : UInt64}
  {len : ℕ}

/-- **A read that returns has decrypted**: its first unit has a buffer and a cipher, and its
last one an address. -/
theorem decrypted_of_readAt (htweak : p.ivTweak.toNat < 2 ^ 64) (hlen : 0 < len) {bs : Bytes}
    (h : (DecryptedPayload.readAt K offset len p).out = .ok bs) :
    AcceptedParameters p ∧ p.unitSize ≤ isizeMax ∧
      p.unitAddress (offset.toNat + (len - 1)) < 2 ^ 64 := by
  have hreads := readUnits_readsTo (K := K) htweak hlen offset.toNat_lt p.reader
  rw [DecryptedPayload.readAt_apply] at h
  rw [show (p.readUnits K offset.toNat len 0 p.reader).out = .ok bs from h] at hreads
  cases hreads with
  | bytes hparameters hss hlast _ => exact ⟨hparameters, hss, hlast⟩

/-- The bytes of a read are those of the units, if there is an address for each. -/
theorem exists_readAt (hmode : p.cipherMode = "xts-plain64") {dec : Bytes → Bytes → Bytes}
    (hdec : xtsCipher K p.masterKey = .ok dec) (hss : p.unitSize ≤ isizeMax)
    (htweak : p.ivTweak.toNat < 2 ^ 64)
    (hlast : p.unitAddress (offset.toNat + (len - 1)) < 2 ^ 64) :
    ∃ bs, (DecryptedPayload.readAt K offset len p).out = .ok bs ∧ bs.length = len ∧
      ∀ i < len, bs[i]? =
        Spec.plainByte dec (p.map ImageReader.image) (offset.toNat + i) := by
  obtain ⟨bs, hbs, hlen, hbytes⟩ := Spec.exists_readUnits (p := p.map ImageReader.image) hmode hdec
    offset.toNat len 0
  have hout := readUnits_out (K := K) hss htweak offset.toNat_lt hlast p.reader
  exact ⟨bs, hout.trans (congrArg Outcome.ofExcept hbs), hlen, hbytes⟩

/-! ### Where it looks -/

/-- A read looks where it should exactly when no sum or product overflows. -/
theorem addressesExactly_iff_ne : AddressesExactly K p offset len ↔
    (DecryptedPayload.readAt K offset len p).out ≠ .panic .arithmeticOverflow :=
  ⟨fun h => h.no_overflow, fun h => ⟨h, (p.readAt_keepsTo K offset len).isPrefix⟩⟩

/-- **When a read looks where it should**: if it asks for nothing, if its last unit has an
address, or if the first one has and there is no buffer or no cipher for it. -/
theorem addressesExactly_iff_of_tweak (htweak : p.ivTweak.toNat < 2 ^ 64) :
    AddressesExactly K p offset len ↔
      len = 0 ∨ p.unitAddress (offset.toNat + (len - 1)) < 2 ^ 64 ∨
        p.unitAddress offset.toNat < 2 ^ 64 ∧
          (isizeMax < p.unitSize ∨ ¬AcceptedParameters p) := by
  rw [addressesExactly_iff_ne, DecryptedPayload.readAt_apply]
  change (p.readUnits K offset.toNat len 0 p.reader).out ≠ _ ↔ _
  rcases Nat.eq_zero_or_pos len with rfl | hlen
  · refine iff_of_true (fun hout => ?_) (Or.inl rfl)
    rw [DecryptedPayload.readUnits, dif_pos (le_refl 0)] at hout
    cases hout
  have hle := unitAddress_le p (Nat.le_add_right offset.toNat (len - 1))
  have hreads := readUnits_readsTo (K := K) htweak hlen offset.toNat_lt p.reader
  rw [or_iff_right (Nat.ne_of_gt hlen)]
  generalize (p.readUnits K offset.toNat len 0 p.reader).out = out at hreads
  cases hreads with
  | noAddress hfirst =>
    refine iff_of_false (fun h => h rfl) ?_
    rintro (hlast | ⟨hless, -⟩)
    · omega
    · omega
  | noBuffer hfirst hss => exact iff_of_true (by simp) (Or.inr ⟨hfirst, Or.inl hss⟩)
  | noCipher hfirst hss hnot => exact iff_of_true (by simp) (Or.inr ⟨hfirst, Or.inr hnot⟩)
  | stopped hparameters hss hlast =>
    refine iff_of_false (fun h => h rfl) ?_
    rintro (hless | ⟨-, hlarge | hnot⟩)
    · omega
    · omega
    · exact hnot hparameters
  | bytes hparameters hss hlast hbs => exact iff_of_true (by simp) (Or.inl hlast)

end Reads

/-! ### The volumes that are unlocked -/

section Unlocked

variable {ρ : Type} [ImageReader ρ] {K : Crates} {r : ρ} {passphrase : Bytes} {u : Unlocked ρ}

/-- The first tweak of a segment has 64 bits. -/
theorem parseSegment_ivTweak_lt {id : String} {v : Value} {s : Luks2Segment}
    (h : parseSegment id v = some s) : s.ivTweak.toNat < 2 ^ 64 := by
  simp only [parseSegment, Option.pure_def, Option.bind_eq_bind, Option.bind_eq_some_iff,
    Option.some.injEq] at h
  obtain ⟨offset, -, encryption, -, sectorSize, -, rfl⟩ := h
  rw [BitVec.toNat_setWidth]
  exact lt_of_le_of_lt (Nat.mod_le _ _) (UInt64.toNat_lt _)

/-- **What is unlocked** has a key of a size for AES-XTS, and a first tweak of 64 bits. -/
theorem UnlockedFrom.isXtsKey (hu : UnlockedFrom K r passphrase u) :
    IsXtsKey u.payload.masterKey ∧ u.payload.ivTweak.toNat < 2 ^ 64 := by
  refine UnlockedFrom.of_accepts K r passphrase (P := fun u =>
    IsXtsKey u.payload.masterKey ∧ u.payload.ivTweak.toNat < 2 ^ 64) hu ?_ ?_
  · intro header _ key slot h
    exact ⟨(h.acceptedParameters 0).2, show (0 : BitVec 128).toNat < 2 ^ 64 by decide⟩
  · intro header segment hluks key slot dig h
    obtain ⟨v, root, id, -, -, hparse⟩ :=
      Spec.exists_describesSegment hluks.parses hluks.segment_mem
    exact ⟨h.isXtsKey, parseSegment_ivTweak_lt hparse⟩

end Unlocked

/-- **When a read looks where it should.** For every unlocked volume, after any calls: no
sum or product of a read overflows, and each unit is read at its exact address, exactly
when the read asks for nothing, or the last unit it asks for has an address below 2^64, or
the first one has and is not decrypted, for want of a buffer or of the mode. -/
theorem addressesExactly_iff {ρ : Type} [ImageReader ρ] (K : Crates) (r : ρ)
    (passphrase : Bytes) {u : Unlocked ρ} (hu : UnlockedFrom K r passphrase u)
    (calls : List File.Call) (offset : UInt64) (len : ℕ) :
    AddressesExactly K (replies (DecryptedPayload.call K) u.payload calls).2 offset len ↔
      len = 0 ∨ u.payload.unitAddress (offset.toNat + (len - 1)) < 2 ^ 64 ∨
        u.payload.unitAddress offset.toNat < 2 ^ 64 ∧
          (isizeMax < u.payload.unitSize ∨ u.payload.cipherMode ≠ "xts-plain64") := by
  obtain ⟨hkey, htweak⟩ := hu.isXtsKey
  obtain ⟨r', pos, -, hmoved⟩ := DecryptedPayload.movedFrom_replies K (p := u.payload) calls
  have hparameters : ¬AcceptedParameters u.payload ↔ u.payload.cipherMode ≠ "xts-plain64" :=
    not_congr (and_iff_left hkey)
  rw [hmoved, ← hparameters]
  exact addressesExactly_iff_of_tweak (p := u.payload.movedTo r' pos) htweak

/-! ### The end of the address space -/

/-- **A sum overflows**: on an unlocked container, a read of one byte at the largest
offset. -/
theorem not_addressesExactly_largestOffset : ¬∀ u, UnlockedFrom (Sample.cratesOf Sample.metadata)
    (Sample.readerOf Sample.fits_metadata [] (by decide)) Sample.passphrase u →
      AddressesExactly (Sample.cratesOf Sample.metadata) u.payload 0xFFFFFFFFFFFFFFFF 1 := by
  intro h
  obtain ⟨u, hu, -, hoffset, hunit, -, -⟩ := Sample.exists_unlocked [] (by decide)
  -- the payload starts at 12288, and the unit less than that before the end
  have hlarge : 2 ^ 64 ≤ u.payload.unitAddress (2 ^ 64 - 1) := by
    rw [DecryptedPayload.unitAddress, hoffset, hunit]
    decide
  have hstop : (u.payload.readUnits (Sample.cratesOf Sample.metadata) (2 ^ 64 - 1) 1 0
      u.payload.reader).out = .panic .arithmeticOverflow :=
    readUnits_of_first_panic Nat.one_pos (by decide) (readUnit_of_ge _ _ hlarge _)
  exact (h u hu).no_overflow hstop

theorem addressesExactly_sample : ∃ u, UnlockedFrom (Sample.cratesOf Sample.metadata)
    (Sample.readerOf Sample.fits_metadata [] (by decide)) Sample.passphrase u ∧
      AddressesExactly (Sample.cratesOf Sample.metadata)
        (replies (DecryptedPayload.call (Sample.cratesOf Sample.metadata)) u.payload []).2
          0 512 := by
  obtain ⟨u, hu, -, hoffset, hunit, -, -⟩ := Sample.exists_unlocked [] (by decide)
  refine ⟨u, hu, (addressesExactly_iff _ _ _ hu [] 0 512).mpr (Or.inr (Or.inl ?_))⟩
  rw [DecryptedPayload.unitAddress, hoffset, hunit]
  decide

end Luks
