import Luks.Accepting
import Luks.Format1

/-!
# The cipher that is named

A header names its cipher: in LUKS1 in a field, in LUKS2 before the first hyphen of the
encryption of a segment and of a keyslot area. The code decrypts with AES whatever name
stands there; of an encryption string it looks at the mode only.

So a container whose cipher is another is not refused for it. The file says when no harm
is done: when the name is `aes`, or something else is wrong with the header and no keyslot
opens (`Luks.refusesOtherCiphers_iff`).
-/

namespace Luks

open Basis

/-- The cipher name of an encryption string. -/
def cipherOf (encryption : String) : String := (splitEncryption encryption).1

/-- The volume, and the keyslot that accepted its key, name AES. -/
def NamesAes {ρ : Type} (u : Unlocked ρ) : Prop :=
  u.payload.info.cipherName = "aes" ∧
    ∀ slot dig, u.acceptedBy = .luks2 slot dig → cipherOf slot.areaEncryption = "aes"

/-- A LUKS1 header is well-formed, apart from the cipher name: it has what keyslots need,
and active keyslots, none with too many stripes. -/
structure WellFormed1 (header : Luks1Header) : Prop where
  /-- What keyslots need. -/
  usable : Spec.Usable1 header
  /-- There are active keyslots. -/
  active : header.activeKeyslots ≠ []
  /-- None has too many stripes. -/
  stripes : ∀ s ∈ header.activeKeyslots, ¬Spec.OverStriped s

/-- A LUKS2 header is well-formed, apart from cipher names: the mode of the segment, and
all that keyslots and digests ask for, has an implementation and is within its ceiling. -/
structure WellFormed2 (K : Crates) (passphrase : Bytes) (header : Luks2Header)
    (segment : Luks2Segment) : Prop where
  /-- The mode of the segment. -/
  mode : (splitEncryption segment.encryption).2 = "xts-plain64"
  /-- There are keyslots. -/
  keyslots : header.keyslots ≠ []
  /-- The key of each can be derived. -/
  derives : ∀ s ∈ header.keyslots, ∃ key, Spec.deriveSlotKey K passphrase s = .ok key
  /-- None has too many stripes. -/
  stripes : ∀ s ∈ header.keyslots, s.afStripes.toNat ≤ maxStripes
  /-- The key material of each can be used. -/
  material : ∀ s ∈ header.keyslots,
    Spec.UsableMaterial (splitEncryption s.areaEncryption).2 s.afHash s.keySize.toNat
  /-- Each digest can be computed. -/
  digests : ∀ g ∈ header.digests, Spec.Usable2 g

/-- The image has a header that is well-formed apart from naming another cipher than
AES: in LUKS2, for the segment, or for every keyslot. -/
def NamesOther (K : Crates) (img passphrase : Bytes) : Prop :=
  (∃ header, Spec.IsLuks1 img header ∧ WellFormed1 header ∧ header.cipherName ≠ "aes") ∨
    ∃ header segment, Spec.IsLuks2 K img header segment ∧
      WellFormed2 K passphrase header segment ∧
      (cipherOf segment.encryption ≠ "aes" ∨
        ∀ s ∈ header.keyslots, cipherOf s.areaEncryption ≠ "aes")

/-- **Other ciphers are refused**: a volume that is returned names AES, and where another
cipher is named, every run that has the time ends in an `Unsupported` error. -/
def RefusesOtherCiphers {ρ : Type} [ImageReader ρ] (K : Crates) (r : ρ) (passphrase : Bytes) :
    Prop :=
  (∀ clk budget u, (unlockWithPassphraseWithin K clk passphrase budget (World.init r)).out =
      .ok u → NamesAes u) ∧
    (NamesOther K (ImageReader.image r) passphrase → ∀ clk budget,
      (∀ e, (unlockWithPassphraseWithin K clk passphrase budget (World.init r)).out = .err e →
        ¬e.IsBudgetRefusal) →
      ∃ what value, (unlockWithPassphraseWithin K clk passphrase budget (World.init r)).out =
        .err (.unsupported what value))

/-- A LUKS1 header does no harm by its cipher name: it names AES, or is ill-formed and no
keyslot that opens is reached. -/
def Harmless1 (K : Crates) (img : Bytes) (header : Luks1Header) (passphrase : Bytes) : Prop :=
  header.cipherName = "aes" ∨
    ¬WellFormed1 header ∧
      ¬Reaches header.activeKeyslots Spec.OverStriped (Spec.Opens1 K img header passphrase)

/-- A LUKS2 header does no harm by its cipher names: AES is named for the segment and some
keyslot, or the header is ill-formed; and it is named for the segment and the keyslot that
opens, if one is reached. -/
structure Harmless2 (K : Crates) (img : Bytes) (header : Luks2Header) (segment : Luks2Segment)
    (passphrase : Bytes) : Prop where
  /-- The names, if the header is well-formed. -/
  wellFormed : WellFormed2 K passphrase header segment →
    cipherOf segment.encryption = "aes" ∧ ∃ s ∈ header.keyslots, cipherOf s.areaEncryption = "aes"
  /-- The names, if a keyslot opens. -/
  opens : ∀ slot, Spec.Reached2 K img header passphrase slot →
    Spec.Opens2 K img header.digests passphrase slot →
    cipherOf segment.encryption = "aes" ∧ cipherOf slot.areaEncryption = "aes"

/-! ### Well-formed headers are not refused -/

namespace Spec

variable {K : Crates} {img passphrase : Bytes}

theorem unlock2_eq {header : Luks2Header} {segment : Luks2Segment}
    (h : IsLuks2 K img header segment) (hne : header.keyslots ≠ []) : unlock2 K img passphrase =
      (fun r => ⟨segment.payload img r.key img.length, r.acceptedBy⟩) <$>
        recoverMasterKey2 K img header passphrase := by
  rw [unlock2, readFill_front h.length_le, ok_bind, h.parses, ok_bind, h.chosen]
  change (if header.keyslots.isEmpty then _ else _) = _
  rw [if_neg (by simpa using hne)]
  rfl

/-- A well-formed LUKS1 header opens, or its passphrase is rejected. -/
theorem recoverMasterKey1_of_wellFormed {header : Luks1Header} (h : WellFormed1 header) :
    (∃ r, recoverMasterKey1 K img header passphrase = .ok r) ∨
      recoverMasterKey1 K img header passphrase = .error .authenticationFailed := by
  rw [recoverMasterKey1]
  rcases hsearch : header.activeKeyslots.findSomeM? (tryKeyslot1 K img header passphrase) with
    e | _ | r
  · obtain ⟨s, hs, hbad⟩ := (exists_findSomeM?_eq_error_iff.mp ⟨e, hsearch⟩).exists_mem
    exact absurd ((exists_tryKeyslot1_error_iff h.usable).mp hbad) (h.stripes s hs)
  · exact Or.inr rfl
  · exact Or.inl ⟨r, rfl⟩

theorem not_refused2_of_wellFormed {header : Luks2Header} {segment : Luks2Segment}
    (h : WellFormed2 K passphrase header segment) {s : Luks2Keyslot} (hs : s ∈ header.keyslots) :
    ¬Refused2 K img header.digests passphrase s := by
  rintro (⟨e, he⟩ | hstripes | ⟨-, hbad⟩ | ⟨key, -, -, hreaches⟩)
  · obtain ⟨key, hkey⟩ := h.derives s hs
    rw [hkey] at he
    cases he
  · exact absurd (h.stripes s hs) (Nat.not_le_of_lt hstripes)
  · exact hbad (h.material s hs)
  · obtain ⟨g, hg, -, hbad⟩ := hreaches.exists_mem
    exact hbad (h.digests g hg)

/-- A well-formed LUKS2 header opens, or its passphrase is rejected. -/
theorem recoverMasterKey2_of_wellFormed {header : Luks2Header} {segment : Luks2Segment}
    (h : WellFormed2 K passphrase header segment) :
    (∃ r, recoverMasterKey2 K img header passphrase = .ok r) ∨
      recoverMasterKey2 K img header passphrase = .error .authenticationFailed := by
  rw [recoverMasterKey2]
  rcases hsearch : header.keyslots.findSomeM? (tryKeyslot2 K img header.digests passphrase) with
    e | _ | r
  · obtain ⟨s, hs, hbad⟩ := (exists_findSomeM?_eq_error_iff.mp ⟨e, hsearch⟩).exists_mem
    exact absurd (exists_tryKeyslot2_error_iff.mp hbad) (not_refused2_of_wellFormed h hs)
  · exact Or.inr rfl
  · exact Or.inl ⟨r, rfl⟩

/-- **A container that names another cipher opens, or its passphrase is rejected**: it is
not refused. -/
theorem unlock_of_namesOther (h : NamesOther K img passphrase) :
    (∃ u, unlock K img passphrase = .ok u) ∨
      unlock K img passphrase = .error .authenticationFailed := by
  rcases h with ⟨header, hluks, hwf, -⟩ | ⟨header, segment, hluks, hwf, -⟩
  · rw [hluks.unlock_eq, unlock1_eq hluks hwf.active]
    have hrecover : (∃ r, recoverMasterKey1 K img header passphrase = .ok r) ∨
        recoverMasterKey1 K img header passphrase = .error .authenticationFailed :=
      recoverMasterKey1_of_wellFormed hwf
    rcases hrecover with ⟨r, hr⟩ | hr
    · exact Or.inl ⟨_, by rw [hr]; rfl⟩
    · exact Or.inr (by rw [hr]; rfl)
  · rw [unlock_eq_of_header2 hluks.length_le hluks.parses, unlock2_eq hluks hwf.keyslots]
    have hrecover : (∃ r, recoverMasterKey2 K img header passphrase = .ok r) ∨
        recoverMasterKey2 K img header passphrase = .error .authenticationFailed :=
      recoverMasterKey2_of_wellFormed hwf
    rcases hrecover with ⟨r, hr⟩ | hr
    · exact Or.inl ⟨_, by rw [hr]; rfl⟩
    · exact Or.inr (by rw [hr]; rfl)

theorem not_oversized_of_namesOther (h : NamesOther K img passphrase) :
    beU16 img 6 = 2 → ¬Oversized img := by
  intro htwo
  rcases h with ⟨header, hluks, -⟩ | ⟨header, segment, hluks, -⟩
  · rw [hluks.version.1] at htwo
    cases htwo
  · exact hluks.not_oversized

end Spec

/-! ### When other ciphers are refused -/

section Refusing

variable {ρ : Type} [ImageReader ρ] {K : Crates} {r : ρ} {passphrase : Bytes}

/-- Another cipher is never refused where it should be. -/
theorem not_namesOther_of_refuses (h : RefusesOtherCiphers K r passphrase) :
    ¬NamesOther K (ImageReader.image r) passphrase := by
  intro hother
  -- on a clock that stands, the run opens the container or rejects the passphrase
  have hrun := unlock_run (ρ := ρ) K (.stopped 0) (Spec.not_oversized_of_namesOther hother) 1
    passphrase
  have hrefuse := h.2 hother (.stopped 0) 1
  rcases Spec.unlock_of_namesOther hother with ⟨u, hu⟩ | hfailed
  · rw [hu] at hrun
    obtain ⟨v, hv, -⟩ := hrun.settles_ok _ (opens_init r) (Clock.stands_stopped 0) Nat.one_pos
    rw [hv] at hrefuse
    obtain ⟨what, value, hbad⟩ := hrefuse (by simp)
    cases hbad
  · rw [hfailed] at hrun
    have hends : ∀ e, (unlockWithPassphraseWithin K (.stopped 0) passphrase 1
        (World.init r)).out = .err e → LuksError.authenticationFailed = e := fun e he =>
      Except.error.inj (hrun.eq_error (opens_init r)
        (not_refuses _ (Clock.stands_stopped 0) Nat.one_pos e) he)
    obtain ⟨what, value, hbad⟩ := hrefuse (by
      rintro e he
      obtain rfl := hends e he
      exact fun h => h)
    cases hends _ hbad

theorem namesAes_iff_luks1 {img : Bytes} {header : Luks1Header} {key : Bytes} {slot : Keyslot}
    {n : ℕ} : NamesAes ⟨header.payload img key n, .luks1 slot⟩ ↔ header.cipherName = "aes" :=
  ⟨fun h => h.1, fun h => ⟨h, fun _ _ haccepted => by cases haccepted⟩⟩

theorem namesAes_iff_luks2 {img : Bytes} {segment : Luks2Segment} {key : Bytes}
    {slot : Luks2Keyslot} {dig : Luks2Digest} {n : ℕ} :
    NamesAes ⟨segment.payload img key n, .luks2 slot dig⟩ ↔
      cipherOf segment.encryption = "aes" ∧ cipherOf slot.areaEncryption = "aes" := by
  constructor
  · intro h
    exact ⟨h.1, h.2 slot dig rfl⟩
  · rintro ⟨hsegment, hslot⟩
    refine ⟨hsegment, fun slot' dig' haccepted => ?_⟩
    obtain ⟨rfl, -⟩ : slot = slot' ∧ dig = dig' := by simpa using haccepted
    exact hslot

/-- **When other ciphers are refused**: exactly when the header of the image does no harm
by the names in it. -/
theorem refusesOtherCiphers_iff : RefusesOtherCiphers K r passphrase ↔
    (∀ header, Spec.IsLuks1 (ImageReader.image r) header →
      Harmless1 K (ImageReader.image r) header passphrase) ∧
    ∀ header segment, Spec.IsLuks2 K (ImageReader.image r) header segment →
      Harmless2 K (ImageReader.image r) header segment passphrase := by
  have hnames := forall_unlock_iff K r passphrase (P := NamesAes)
  simp only [namesAes_iff_luks1, namesAes_iff_luks2] at hnames
  constructor
  · intro h
    have hother := not_namesOther_of_refuses h
    obtain ⟨h₁, h₂⟩ := hnames.mp h.1
    -- a name other than "aes" shows the header to be ill-formed, and then nothing opens
    refine ⟨fun header hluks => ?_, fun header segment hluks => ⟨fun hwf => ?_, ?_⟩⟩
    · by_cases hname : header.cipherName = "aes"
      · exact Or.inl hname
      · refine Or.inr ⟨fun hwf => hother (Or.inl ⟨header, hluks, hwf, hname⟩), fun hreaches => ?_⟩
        obtain ⟨key, slot, haccepts⟩ := Spec.exists_accepts1_iff.mpr hreaches
        exact hname (h₁ header hluks key slot haccepts)
    · by_contra hnot
      refine hother (Or.inr ⟨header, segment, hluks, hwf, ?_⟩)
      by_contra hneither
      push Not at hneither
      exact hnot hneither
    · intro slot hreached hopens
      obtain ⟨key, dig, haccepts⟩ := Spec.exists_accepts2_iff.mpr ⟨hreached, hopens⟩
      exact h₂ header segment hluks key slot dig haccepts
  · rintro ⟨h₁, h₂⟩
    refine ⟨hnames.mpr ⟨fun header hluks key slot haccepts => ?_,
      fun header segment hluks key slot dig haccepts => ?_⟩, ?_⟩
    · rcases h₁ header hluks with hname | ⟨-, hnot⟩
      · exact hname
      · exact absurd (Spec.exists_accepts1_iff.mp ⟨key, slot, haccepts⟩) hnot
    · obtain ⟨hreached, hopens⟩ := Spec.exists_accepts2_iff.mp ⟨key, dig, haccepts⟩
      exact (h₂ header segment hluks).opens slot hreached hopens
    -- there is no well-formed header that names another cipher, so nothing is left to refuse
    · rintro (⟨header, hluks, hwf, hname⟩ | ⟨header, segment, hluks, hwf, hname⟩)
      · rcases h₁ header hluks with hname' | ⟨hnot, -⟩
        · exact absurd hname' hname
        · exact absurd hwf hnot
      · obtain ⟨hsegment, s, hs, hslot⟩ := (h₂ header segment hluks).wellFormed hwf
        rcases hname with hname | hname
        · exact absurd hsegment hname
        · exact absurd hslot (hname s hs)

end Refusing

/-! ### A container for another cipher -/

namespace Sample

/-- The sample container, with the name of another cipher. -/
def serpentLayout : Layout1 := layout1 "serpent" unusedRecord (by decide)

/-- A reader of it. -/
def serpentReader : Cursor := reader1 serpentLayout (length_rest1 "serpent" unusedRecord)

theorem wellFormed1_serpent : WellFormed1 (serpentLayout.header crates1) where
  usable := ⟨rfl, supportedHash_name .sha1, Or.inl rfl⟩
  active := List.ne_nil_of_mem (Luks1Header.mem_activeKeyslots.mpr ⟨⟨⟨3, by decide⟩, rfl⟩, rfl⟩)
  stripes s hs := by
    have hunused : serpentLayout.UnusedInactive := fun _ => show keyDisabled ≠ keyEnabled by decide
    obtain ⟨t, ht, rfl⟩ := (Layout1.mem_activeKeyslots (K := crates1) hunused).mp hs
    rw [Spec.OverStriped, t.toNat_stripes]
    exact Nat.not_lt_of_le t.stripes.count_le

end Sample

/-- **A container for Serpent is not refused.** -/
theorem not_refusesOtherCiphers_serpent :
    ¬RefusesOtherCiphers Sample.crates1 Sample.serpentReader Sample.passphrase := by
  intro h
  refine not_namesOther_of_refuses h (Or.inl ⟨_, ?_, Sample.wellFormed1_serpent, ?_⟩)
  · exact Layout1.header1_image Sample.inverts1
  · change "serpent" ≠ "aes"
    decide

end Luks
