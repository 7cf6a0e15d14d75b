import Luks.Slots

/-!
# What accepts a key

A key that an unlock returns was accepted by one keyslot and, in LUKS2, one digest:
the first keyslot that is not passed over, and the first digest that verifies its key
(`Luks.Spec.Accepts1`, `Luks.Spec.Accepts2`). A statement about every volume that an
unlock may return is a statement about what accepts a key in the image
(`Luks.forall_unlock2_iff`, `Luks.forall_unlock_iff`).
-/

namespace Luks

open Basis

namespace Spec

variable {K : Crates} {img : Bytes} {passphrase : Bytes}

/-! ### LUKS1 -/

section Luks1

variable {header : Luks1Header} {r : Recovered}

/-- A LUKS1 keyslot is **reached**: those before it are passed over. -/
def Reached1 (K : Crates) (img : Bytes) (header : Luks1Header) (passphrase : Bytes)
    (slot : Keyslot) : Prop :=
  ∃ l₁ l₂, header.activeKeyslots = l₁ ++ slot :: l₂ ∧
    ∀ s ∈ l₁, ¬OverStriped s ∧ ¬Opens1 K img header passphrase s

/-- A LUKS1 keyslot **accepts** a key: it is reached, its key material is all there and
gives the key, and the digest of the header verifies it. -/
structure Accepts1 (K : Crates) (img : Bytes) (header : Luks1Header) (passphrase key : Bytes)
    (slot : Keyslot) : Prop where
  /-- It is reached. -/
  reached : Reached1 K img header passphrase slot
  /-- Its key material is all there. -/
  inside : Inside img slot.materialOffset (slot.materialSize header)
  /-- It gives the key. -/
  candidate : IsCandidate1 K img header passphrase slot key
  /-- The digest verifies the key. -/
  verifies : Verifies1 K header key

theorem Accepts1.opens {key : Bytes} {slot : Keyslot}
    (h : Accepts1 K img header passphrase key slot) : Opens1 K img header passphrase slot :=
  ⟨key, h.inside, h.candidate, h.verifies⟩

/-- A keyslot is passed over exactly when it neither is over-striped nor opens, if the
header has what keyslots need. -/
theorem tryKeyslot1_eq_none_iff_not {slot : Keyslot} (h : Usable1 header) :
    tryKeyslot1 K img header passphrase slot = .ok none ↔
      ¬OverStriped slot ∧ ¬Opens1 K img header passphrase slot := by
  rw [← exists_tryKeyslot1_error_iff h, ← exists_tryKeyslot1_some_iff, exists_eq_error_iff]
  rcases tryKeyslot1 K img header passphrase slot with e | _ | r <;> simp

/-- **A LUKS1 recovery gives the key that a keyslot accepts.** -/
theorem recoverMasterKey1_eq_ok_iff_accepts :
    recoverMasterKey1 K img header passphrase = .ok r ↔
      ∃ slot, Accepts1 K img header passphrase r.key slot ∧ r.acceptedBy = .luks1 slot := by
  rw [recoverMasterKey1_eq_ok_iff]
  constructor
  · rintro ⟨l₁, slot, l₂, hl, hpass, hslot⟩
    have hopens := exists_tryKeyslot1_some_iff.mp ⟨r, hslot⟩
    obtain ⟨hcand, hverifies, haccepted⟩ := tryKeyslot1_eq_some_iff.mp hslot
    obtain ⟨-, hin, hkey⟩ := candidate1_eq_some_iff.mp hcand
    exact ⟨slot, ⟨⟨l₁, l₂, hl, fun s hs =>
      (tryKeyslot1_eq_none_iff_not hopens.usable).mp (hpass s hs)⟩, hin, hkey, hverifies⟩,
      haccepted⟩
  · rintro ⟨slot, h, haccepted⟩
    obtain ⟨l₁, l₂, hl, hpass⟩ := h.reached
    refine ⟨l₁, slot, l₂, hl, fun s hs => (tryKeyslot1_eq_none_iff_not h.opens.usable).mpr
      (hpass s hs), tryKeyslot1_eq_some_iff.mpr ⟨?_, h.verifies, haccepted⟩⟩
    exact candidate1_eq_some_iff.mpr ⟨Nat.le_of_not_lt h.opens.not_overStriped, h.inside,
      h.candidate⟩

/-- Some key is accepted exactly when a keyslot that opens is reached. -/
theorem exists_accepts1_iff {header : Luks1Header} :
    (∃ key slot, Accepts1 K img header passphrase key slot) ↔
      Reaches header.activeKeyslots OverStriped (Opens1 K img header passphrase) := by
  rw [← exists_recoverMasterKey1_iff]
  simp only [recoverMasterKey1_eq_ok_iff_accepts]
  constructor
  · rintro ⟨key, slot, h⟩
    exact ⟨⟨key, .luks1 slot⟩, slot, h, rfl⟩
  · rintro ⟨r, slot, h, -⟩
    exact ⟨r.key, slot, h⟩

end Luks1

/-! ### LUKS2 -/

section Luks2

variable {header : Luks2Header} {r : Recovered}

/-- A LUKS2 keyslot is **reached**: those before it are passed over. -/
def Reached2 (K : Crates) (img : Bytes) (header : Luks2Header) (passphrase : Bytes)
    (slot : Luks2Keyslot) : Prop :=
  ∃ l₁ l₂, header.keyslots = l₁ ++ slot :: l₂ ∧
    ∀ s ∈ l₁, ¬Refused2 K img header.digests passphrase s ∧
      ¬Opens2 K img header.digests passphrase s

/-- A digest is **reached** with a key of a keyslot: those before it that list the
keyslot refute the key. -/
def ReachedDigest (K : Crates) (header : Luks2Header) (slot : Luks2Keyslot) (key : Bytes)
    (dig : Luks2Digest) : Prop :=
  ∃ d₁ d₂, header.digests = d₁ ++ dig :: d₂ ∧
    ∀ g ∈ d₁, Applies g slot → Usable2 g ∧ ¬Verifies2 K g key

/-- A LUKS2 keyslot and a digest **accept** a key: they are reached, the key material of
the keyslot is all there and gives the key, and the digest lists the keyslot and verifies
the key. -/
structure Accepts2 (K : Crates) (img : Bytes) (header : Luks2Header) (passphrase key : Bytes)
    (slot : Luks2Keyslot) (dig : Luks2Digest) : Prop where
  /-- The keyslot is reached. -/
  reached : Reached2 K img header passphrase slot
  /-- Its key material is all there. -/
  inside : Inside img slot.areaOffset.toNat slot.materialSize
  /-- It gives the key. -/
  candidate : IsCandidate2 K img passphrase slot key
  /-- The digest is reached. -/
  reachedDigest : ReachedDigest K header slot key dig
  /-- The digest lists the keyslot. -/
  applies : Applies dig slot
  /-- The digest verifies the key. -/
  verifies : Verifies2 K dig key

theorem tryKeyslot2_eq_none_iff_not {digests : List Luks2Digest} {slot : Luks2Keyslot} :
    tryKeyslot2 K img digests passphrase slot = .ok none ↔
      ¬Refused2 K img digests passphrase slot ∧ ¬Opens2 K img digests passphrase slot := by
  rw [← exists_tryKeyslot2_error_iff, ← exists_tryKeyslot2_some_iff, exists_eq_error_iff]
  rcases tryKeyslot2 K img digests passphrase slot with e | _ | r <;> simp

/-- A keyslot that stops an unlock is reached. -/
def SomeStops (K : Crates) (img : Bytes) (header : Luks2Header) (passphrase : Bytes) : Prop :=
  ∃ slot, Reached2 K img header passphrase slot ∧ slot.Stops

/-- That is what an unlock comes to that is stopped. -/
theorem stops2_iff : Stops2 K img header passphrase ↔ SomeStops K img header passphrase := by
  simp only [Stops2, tryKeyslot2_eq_none_iff_not]
  constructor
  · rintro ⟨l₁, slot, l₂, hl, hpass, hstops⟩
    exact ⟨slot, ⟨l₁, l₂, hl, hpass⟩, hstops⟩
  · rintro ⟨slot, ⟨l₁, l₂, hl, hpass⟩, hstops⟩
    exact ⟨l₁, slot, l₂, hl, hpass, hstops⟩

/-- A digest passes a key on exactly when, if it lists the keyslot, it can be computed
and refutes the key. -/
theorem tryDigest_eq_none_iff_refutes {slot : Luks2Keyslot} {key : Bytes} {g : Luks2Digest} :
    tryDigest K slot key g = .ok none ↔ (Applies g slot → Usable2 g ∧ ¬Verifies2 K g key) := by
  rw [tryDigest_eq_none_iff, verify_eq_false_iff, ← and_assoc]
  rfl

/-- **A LUKS2 recovery gives the key that a keyslot and a digest accept.** -/
theorem recoverMasterKey2_eq_ok_iff_accepts :
    recoverMasterKey2 K img header passphrase = .ok r ↔
      ∃ slot dig, Accepts2 K img header passphrase r.key slot dig ∧
        r.acceptedBy = .luks2 slot dig := by
  rw [recoverMasterKey2_eq_ok_iff]
  constructor
  · rintro ⟨l₁, slot, l₂, hl, hpass, hslot⟩
    obtain ⟨hcand, d₁, dig, d₂, hd, hdpass, happlies, hverifies, haccepted⟩ :=
      tryKeyslot2_eq_some_iff.mp hslot
    obtain ⟨-, hin, hkey⟩ := candidate2_eq_some_iff.mp hcand
    exact ⟨slot, dig, ⟨⟨l₁, l₂, hl, fun s hs => tryKeyslot2_eq_none_iff_not.mp (hpass s hs)⟩, hin,
      hkey, ⟨d₁, d₂, hd, fun g hg => tryDigest_eq_none_iff_refutes.mp (hdpass g hg)⟩, happlies,
      hverifies⟩, haccepted⟩
  · rintro ⟨slot, dig, h, haccepted⟩
    obtain ⟨l₁, l₂, hl, hpass⟩ := h.reached
    obtain ⟨d₁, d₂, hd, hdpass⟩ := h.reachedDigest
    exact ⟨l₁, slot, l₂, hl, fun s hs => tryKeyslot2_eq_none_iff_not.mpr (hpass s hs),
      tryKeyslot2_eq_some_iff.mpr ⟨candidate2_of_isCandidate2 h.inside h.candidate, d₁, dig, d₂,
        hd, fun g hg => tryDigest_eq_none_iff_refutes.mpr (hdpass g hg), h.applies, h.verifies,
        haccepted⟩⟩

/-- A keyslot accepts some key, with some digest, exactly when it is reached and
opens. -/
theorem exists_accepts2_iff {header : Luks2Header} {slot : Luks2Keyslot} :
    (∃ key dig, Accepts2 K img header passphrase key slot dig) ↔
      Reached2 K img header passphrase slot ∧ Opens2 K img header.digests passphrase slot := by
  constructor
  · rintro ⟨key, dig, h⟩
    obtain ⟨d₁, d₂, hd, hpass⟩ := h.reachedDigest
    exact ⟨h.reached, key, h.inside, h.candidate, d₁, dig, d₂, hd,
      fun g hg hbad => hbad.2 (hpass g hg hbad.1).1, h.applies, h.verifies⟩
  · rintro ⟨hreached, hopens⟩
    obtain ⟨r, hr⟩ := exists_tryKeyslot2_some_iff.mpr hopens
    obtain ⟨hcand, d₁, dig, d₂, hd, hpass, happlies, hverifies, -⟩ := tryKeyslot2_eq_some_iff.mp hr
    obtain ⟨-, hin, hkey⟩ := candidate2_eq_some_iff.mp hcand
    exact ⟨r.key, dig, hreached, hin, hkey,
      ⟨d₁, d₂, hd, fun g hg => tryDigest_eq_none_iff_refutes.mp (hpass g hg)⟩, happlies, hverifies⟩

end Luks2

/-! ### Whole images -/

/-- The image is a LUKS1 container with this header. -/
def IsLuks1 (img : Bytes) (header : Luks1Header) : Prop := header1 img = .ok header

/-- The image is a LUKS2 container with this header, which fits a buffer, and this
encrypted segment. -/
structure IsLuks2 (K : Crates) (img : Bytes) (header : Luks2Header) (segment : Luks2Segment) :
    Prop where
  /-- There is room for the binary header. -/
  length_le : luks2BinHdrLen ≤ img.length
  /-- The header it declares fits a buffer. -/
  not_oversized : ¬Oversized img
  /-- It parses to the header. -/
  parses : header2 K img = .ok header
  /-- The segment is the one chosen. -/
  chosen : header.cryptSegment = some segment

/-- A container has one header and one encrypted segment. -/
theorem IsLuks2.unique {header header' : Luks2Header} {segment segment' : Luks2Segment}
    (h : IsLuks2 K img header segment) (h' : IsLuks2 K img header' segment') :
    header = header' ∧ segment = segment' := by
  obtain rfl : header = header' := Except.ok.inj (h.parses.symm.trans h'.parses)
  exact ⟨rfl, Option.some.inj (h.chosen.symm.trans h'.chosen)⟩

/-- **An unlock comes to a keyslot that stops it** in a LUKS2 container where one is reached. -/
theorem unlockStops2_iff (hfit : ¬Oversized img) : UnlockStops2 K img passphrase ↔
    ∃ header segment, IsLuks2 K img header segment ∧ SomeStops K img header passphrase := by
  constructor
  · rintro ⟨hlen, header, segment, hheader, hsegment, hstops⟩
    exact ⟨header, segment, ⟨hlen, hfit, hheader, hsegment⟩, stops2_iff.mp hstops⟩
  · rintro ⟨header, segment, h, hstops⟩
    exact ⟨h.length_le, header, segment, h.parses, h.chosen, stops2_iff.mpr hstops⟩

/-- A LUKS1 header that parses says so. -/
theorem IsLuks1.version {header : Luks1Header} (h : IsLuks1 img header) :
    beU16 img 6 = 1 ∧ luks1PhdrLen ≤ img.length := by
  obtain ⟨buf, hbuf, hparse⟩ := bind_eq_ok_iff.mp h
  obtain ⟨rfl, hlen⟩ := readFill_eq_ok hbuf
  rw [length_window] at hlen
  have hle : luks1PhdrLen ≤ img.length := by omega
  rw [Luks1Header.parse] at hparse
  dsimp only at hparse
  split_ifs at hparse with hmagic hshort hversion
  rw [← beU16_window (n := luks1PhdrLen) (by decide) hle]
  exact ⟨not_not.mp hversion, hle⟩

/-- The buffer for the header has the binary header of the image. -/
theorem bytesN_hdrBuffer {off k : ℕ} (h : off + k ≤ luks2BinHdrLen)
    (hlen : luks2BinHdrLen ≤ img.length) :
    bytesN k (zeroFill (window img 0 (hdrSize img)) (hdrSize img)) off = bytesN k img off := by
  have hbin : luks2BinHdrLen ≤ hdrSize img := le_max_right _ _
  refine bytesN_congr ?_ (h.trans hlen) ?_
  · rw [length_zeroFill_window]
    exact h.trans hbin
  · rw [zeroFill, window_append_left, window_window img (h.trans hbin), Nat.zero_add]
    rw [length_window]
    omega

/-- A LUKS2 header that parses says so. -/
theorem beU16_of_header2 {header : Luks2Header} (hlen : luks2BinHdrLen ≤ img.length)
    (h : header2 K img = .ok header) : beU16 img 6 = 2 := by
  have hbuf : beU16 (zeroFill (window img 0 (hdrSize img)) (hdrSize img)) 6 = beU16 img 6 :=
    congrArg (fun v : List.Vector UInt8 2 => UInt16.ofNat (fromBe v.toList))
      (bytesN_hdrBuffer (by decide) hlen)
  rw [header2, Luks2Header.parse] at h
  dsimp only at h
  split_ifs at h with hmagic hversion
  rw [← hbuf]
  exact not_not.mp hversion

/-- A LUKS1 container is unlocked as one. -/
theorem IsLuks1.unlock_eq {header : Luks1Header} (h : IsLuks1 img header) :
    unlock K img passphrase = unlock1 K img passphrase := by
  rw [unlock_eq_of_le (le_trans (by decide) h.version.2), if_pos h.version.1]

/-- A LUKS2 container is unlocked as one. -/
theorem unlock_eq_of_header2 {header : Luks2Header} (hlen : luks2BinHdrLen ≤ img.length)
    (h : header2 K img = .ok header) : unlock K img passphrase = unlock2 K img passphrase := by
  rw [unlock_eq_of_le (le_trans (by decide) hlen), beU16_of_header2 hlen h, if_neg (by decide),
    if_pos rfl]

/-- **An unlock returns** what the unlock of one of the versions does. -/
theorem unlock_eq_ok_iff {u : Unlocked Bytes} : unlock K img passphrase = .ok u ↔
    unlock1 K img passphrase = .ok u ∨ unlock2 K img passphrase = .ok u := by
  constructor
  · intro h
    rcases Nat.lt_or_ge img.length 8 with hlt | hge
    · rw [unlock, readFill_of_gt (by decide) (by simpa using hlt)] at h
      cases h
    · rw [unlock_eq_of_le hge] at h
      split_ifs at h
      · exact Or.inl h
      · exact Or.inr h
  · rintro (h | h)
    · obtain ⟨header, -, hheader, -, -⟩ := unlock1_eq_ok_iff.mp h
      rw [IsLuks1.unlock_eq hheader]
      exact h
    · obtain ⟨hlen, header, -, -, hheader, -⟩ := unlock2_eq_ok_iff.mp h
      rw [unlock_eq_of_header2 hlen hheader]
      exact h

end Spec

/-! ### Every volume an unlock returns -/

section Runs

variable {ρ : Type} [ImageReader ρ] (K : Crates) (r : ρ) (passphrase : Bytes)

/-- What holds of every value some run returns is what holds of the answer. -/
theorem forall_run_ok_iff {P : Unlocked Bytes → Prop} {fit S : Prop}
    {x : Except LuksError (Unlocked Bytes)} {m : Clock → Duration → Exec (World ρ) (Unlocked ρ)}
    (hrun : fit → ∀ clk budget, AnswersUnless S (ImageReader.image r) (Refuses clk budget)
      (fun _ => True) (Unlocked.map ImageReader.image <$> m clk budget) x)
    (hfit : ∀ clk budget u, (m clk budget (World.init r)).out = .ok u → fit) :
    (∀ clk budget u, (m clk budget (World.init r)).out = .ok u → P (u.map ImageReader.image)) ↔
      (fit → ∀ u, x = .ok u → P u) := by
  constructor
  · rintro h hfits u rfl
    obtain ⟨v, hv, rfl⟩ := (hrun hfits (.stopped 0) 1).settles_ok _ (opens_init r)
      (Clock.stands_stopped 0) Nat.one_pos
    exact h _ _ v hv
  · intro h clk budget u hu
    have hfits := hfit clk budget u hu
    exact h hfits _ ((hrun hfits clk budget).eq_ok (opens_init r) hu)

variable {P : Unlocked Bytes → Prop} {img : Bytes}

/-- What holds of every volume in a LUKS1 image is what holds of every key that a
keyslot accepts. -/
theorem Spec.forall_unlock1_iff : (∀ u, Spec.unlock1 K img passphrase = .ok u → P u) ↔
    ∀ header, Spec.IsLuks1 img header → ∀ key slot,
      Spec.Accepts1 K img header passphrase key slot →
        P ⟨header.payload img key img.length, .luks1 slot⟩ := by
  simp only [Spec.unlock1_eq_ok_iff, Spec.recoverMasterKey1_eq_ok_iff_accepts]
  constructor
  · intro h header hheader key slot haccepts
    exact h _ ⟨header, ⟨key, .luks1 slot⟩, hheader, ⟨slot, haccepts, rfl⟩, rfl⟩
  · rintro h _ ⟨header, ⟨key, _⟩, hheader, ⟨slot, haccepts, rfl⟩, rfl⟩
    exact h header hheader key slot haccepts

/-- What holds of every volume in a LUKS2 image is what holds of every key that a keyslot
and a digest accept. -/
theorem Spec.forall_unlock2_iff :
    (¬Oversized img → ∀ u, Spec.unlock2 K img passphrase = .ok u → P u) ↔
      ∀ header segment, Spec.IsLuks2 K img header segment → ∀ key slot dig,
        Spec.Accepts2 K img header passphrase key slot dig →
          P ⟨segment.payload img key img.length, .luks2 slot dig⟩ := by
  simp only [Spec.unlock2_eq_ok_iff, Spec.recoverMasterKey2_eq_ok_iff_accepts]
  constructor
  · intro h header segment hluks key slot dig haccepts
    exact h hluks.not_oversized _ ⟨hluks.length_le, header, segment, ⟨key, .luks2 slot dig⟩,
        hluks.parses, hluks.chosen, ⟨slot, dig, haccepts, rfl⟩, rfl⟩
  · rintro h hfit _ ⟨hlen, header, segment, ⟨key, _⟩, hheader, hsegment, ⟨slot, dig, haccepts, rfl⟩,
      rfl⟩
    exact h header segment ⟨hlen, hfit, hheader, hsegment⟩ key slot dig haccepts

/-- **What holds of every volume a LUKS1 unlock returns** is what holds of every key that
a keyslot accepts. -/
theorem forall_unlock1_iff :
    (∀ clk budget u, (unlock1WithPassphraseWithin K clk passphrase budget (World.init r)).out =
        .ok u → P (u.map ImageReader.image)) ↔
      ∀ header, Spec.IsLuks1 (ImageReader.image r) header → ∀ key slot,
        Spec.Accepts1 K (ImageReader.image r) header passphrase key slot →
          P ⟨header.payload (ImageReader.image r) key (ImageReader.image r).length,
            .luks1 slot⟩ :=
  (forall_run_ok_iff r (fun _ : True => fun clk budget => unlock1_run K clk budget passphrase)
    fun _ _ _ _ => trivial).trans (true_imp_iff.trans (Spec.forall_unlock1_iff K passphrase))

/-- **What holds of every volume a LUKS2 unlock returns** is what holds of every key that
a keyslot and a digest accept. -/
theorem forall_unlock2_iff :
    (∀ clk budget u, (unlock2WithPassphraseWithin K clk passphrase budget (World.init r)).out =
        .ok u → P (u.map ImageReader.image)) ↔
      ∀ header segment, Spec.IsLuks2 K (ImageReader.image r) header segment → ∀ key slot dig,
        Spec.Accepts2 K (ImageReader.image r) header passphrase key slot dig →
          P ⟨segment.payload (ImageReader.image r) key (ImageReader.image r).length,
            .luks2 slot dig⟩ :=
  (forall_run_ok_iff r (fun hfit clk budget => unlock2_run K clk hfit budget passphrase)
    fun clk _ _ hu => (unlock2_eq_ok K clk (opens_init r) hu).1).trans
    (Spec.forall_unlock2_iff K passphrase)

/-- **What holds of every volume an unlock returns** is what holds of every key that is
accepted, in either version. -/
theorem forall_unlock_iff :
    (∀ clk budget u, (unlockWithPassphraseWithin K clk passphrase budget (World.init r)).out =
        .ok u → P (u.map ImageReader.image)) ↔
      (∀ header, Spec.IsLuks1 (ImageReader.image r) header → ∀ key slot,
        Spec.Accepts1 K (ImageReader.image r) header passphrase key slot →
          P ⟨header.payload (ImageReader.image r) key (ImageReader.image r).length,
            .luks1 slot⟩) ∧
      ∀ header segment, Spec.IsLuks2 K (ImageReader.image r) header segment → ∀ key slot dig,
        Spec.Accepts2 K (ImageReader.image r) header passphrase key slot dig →
          P ⟨segment.payload (ImageReader.image r) key (ImageReader.image r).length,
            .luks2 slot dig⟩ := by
  rw [← Spec.forall_unlock1_iff, ← Spec.forall_unlock2_iff]
  refine (forall_run_ok_iff r (fun hfit clk budget => unlock_run K clk hfit budget passphrase)
    fun clk _ _ hu => (unlock_eq_ok K clk (opens_init r) hu).1).trans ?_
  simp only [Spec.unlock_eq_ok_iff]
  constructor
  · intro h
    refine ⟨fun u hu => h (fun htwo => ?_) u (Or.inl hu),
      fun hfit u hu => h (fun _ => hfit) u (Or.inr hu)⟩
    -- a LUKS1 volume comes from an image of version 1, to which the bound does not apply
    obtain ⟨header, -, hheader, -, -⟩ := Spec.unlock1_eq_ok_iff.mp hu
    rw [(Spec.IsLuks1.version hheader).1] at htwo
    cases htwo
  · rintro ⟨h₁, h₂⟩ hfit u (hu | hu)
    · exact h₁ u hu
    · obtain ⟨hlen, header, -, -, hheader, -⟩ := Spec.unlock2_eq_ok_iff.mp hu
      exact h₂ (hfit (Spec.beU16_of_header2 hlen hheader)) u hu

/-- A volume that one of the entry points returned, on some clock and within some
budget. -/
inductive UnlockedFrom : Unlocked ρ → Prop where
  /-- The container was unlocked as LUKS1. -/
  | luks1 {clk : Clock} {budget : Duration} {u : Unlocked ρ}
      (h : (unlock1WithPassphraseWithin K clk passphrase budget (World.init r)).out = .ok u) :
      UnlockedFrom u
  /-- The container was unlocked as LUKS2. -/
  | luks2 {clk : Clock} {budget : Duration} {u : Unlocked ρ}
      (h : (unlock2WithPassphraseWithin K clk passphrase budget (World.init r)).out = .ok u) :
      UnlockedFrom u
  /-- The container was unlocked as it says. -/
  | either {clk : Clock} {budget : Duration} {u : Unlocked ρ}
      (h : (unlockWithPassphraseWithin K clk passphrase budget (World.init r)).out = .ok u) :
      UnlockedFrom u

/-- What holds of every key that is accepted, in either version, holds of every volume
that is unlocked. -/
theorem UnlockedFrom.of_accepts {u : Unlocked ρ} (h : UnlockedFrom K r passphrase u)
    (h₁ : ∀ header, Spec.IsLuks1 (ImageReader.image r) header → ∀ key slot,
      Spec.Accepts1 K (ImageReader.image r) header passphrase key slot →
        P ⟨header.payload (ImageReader.image r) key (ImageReader.image r).length, .luks1 slot⟩)
    (h₂ : ∀ header segment, Spec.IsLuks2 K (ImageReader.image r) header segment →
      ∀ key slot dig, Spec.Accepts2 K (ImageReader.image r) header passphrase key slot dig →
        P ⟨segment.payload (ImageReader.image r) key (ImageReader.image r).length,
          .luks2 slot dig⟩) : P (u.map ImageReader.image) := by
  cases h with
  | luks1 hu => exact (forall_unlock1_iff K r passphrase).mpr h₁ _ _ u hu
  | luks2 hu => exact (forall_unlock2_iff K r passphrase).mpr h₂ _ _ u hu
  | either hu => exact (forall_unlock_iff K r passphrase).mpr ⟨h₁, h₂⟩ _ _ u hu

/-- **A key that a keyslot and a digest accept** unlocks a volume. -/
theorem exists_unlockedFrom_of_accepts2 {header : Luks2Header} {segment : Luks2Segment}
    {key : Bytes} {slot : Luks2Keyslot} {dig : Luks2Digest}
    (hluks : Spec.IsLuks2 K (ImageReader.image r) header segment)
    (h : Spec.Accepts2 K (ImageReader.image r) header passphrase key slot dig) :
    ∃ u, UnlockedFrom K r passphrase u ∧ u.map ImageReader.image =
      ⟨segment.payload (ImageReader.image r) key (ImageReader.image r).length,
        .luks2 slot dig⟩ := by
  by_contra hnone
  exact (forall_unlock2_iff K r passphrase (P := fun v => v ≠ _)).mp
    (fun _ _ u hu heq => hnone ⟨u, .luks2 hu, heq⟩) header segment hluks key slot dig h rfl

end Runs

end Luks
