import Luks.Format1
import Luks.Slots

/-!
# Keyslots that block others

A recovery passes over a keyslot whose key material is cut off, and one whose key no
digest verifies. A keyslot that is refused ends it. So a keyslot that would open when
taken alone may not be reached, and this file says exactly when: when one that is
refused stands before every keyslot that opens.

In a LUKS1 header that something opens, the one way to be refused is a stripe count
over the ceiling; in a LUKS2 header there are the ways of `Luks.Spec.Refused2`.
-/

namespace Luks

open Basis

/-- The header with one keyslot left active. -/
def Luks1Header.only (h : Luks1Header) (i : Fin luksNumKeys) : Luks1Header :=
  { h with keyslots := fun j =>
      if j = i then h.keyslots i else { h.keyslots j with active := keyDisabled } }

/-- The header with one keyslot left. -/
def Luks2Header.only (h : Luks2Header) (slot : Luks2Keyslot) : Luks2Header :=
  { h with keyslots := [slot] }

theorem Luks1Header.activeKeyslots_only {h : Luks1Header} {i : Fin luksNumKeys}
    (hi : (h.keyslots i).active = keyEnabled) :
    ∀ s, s ∈ (h.only i).activeKeyslots ↔ s = h.keyslots i := by
  intro s
  rw [mem_activeKeyslots]
  constructor
  · rintro ⟨⟨j, rfl⟩, hactive⟩
    by_cases hj : j = i
    · simp [only, hj]
    · simp [only, hj, keyDisabled, keyEnabled] at hactive
  · rintro rfl
    exact ⟨⟨i, by simp [only]⟩, hi⟩

variable {ρ : Type} [ImageReader ρ] (K : Crates) (r : ρ) (passphrase : Bytes)

/-- **No keyslot of a LUKS1 header blocks another**: if one unlocks as the only active
one, then the whole header unlocks, to a key that the digest verifies, in every run
that has the time. -/
def NoneBlocks1 (header : Luks1Header) : Prop :=
  ∀ i, (header.keyslots i).active = keyEnabled →
    (∃ clk d found, (recoverMasterKey1 K clk (header.only i) passphrase header.keyBytes.toNat d
      (World.init r)).out = .ok found) →
    ∀ clk d, (∀ e, (recoverMasterKey1 K clk header passphrase header.keyBytes.toNat d
        (World.init r)).out = .err e → ¬e.IsBudgetRefusal) →
      ∃ found, (recoverMasterKey1 K clk header passphrase header.keyBytes.toNat d
        (World.init r)).out = .ok found ∧ Spec.Verifies1 K header found.key

/-- **No keyslot of a LUKS2 header blocks another**: if one unlocks as the only one,
then the whole header unlocks, to a key that a digest verifies, in every run that has
the time. -/
def NoneBlocks2 (header : Luks2Header) : Prop :=
  ∀ slot ∈ header.keyslots,
    (∃ clk d found, (recoverMasterKey2 K clk (header.only slot) passphrase d
      (World.init r)).out = .ok found) →
    ∀ clk d, (∀ e, (recoverMasterKey2 K clk header passphrase d (World.init r)).out = .err e →
        ¬e.IsBudgetRefusal) →
      ∃ found, (recoverMasterKey2 K clk header passphrase d (World.init r)).out = .ok found ∧
        ∃ dig ∈ header.digests, Spec.Verifies2 K dig found.key

/-! ### Runs of a recovery -/

section Runs

variable {K passphrase} {clk : Clock} {d : UnlockDeadline} {img : Bytes} {w : World ρ}

theorem recoverMasterKey1_run (header : Luks1Header) :
    Answers (ρ := ρ) img (d.Refuses clk) (fun _ => True)
      (id <$> recoverMasterKey1 K clk header passphrase header.keyBytes.toNat d)
      (Spec.recoverMasterKey1 K img header passphrase) := by
  rw [id_map]
  exact recoverMasterKey1_answers K clk (permits_true img d) (fun _ he => he) header passphrase

theorem recoverMasterKey2_run (header : Luks2Header) :
    AnswersUnless (Spec.Stops2 K img header passphrase) (ρ := ρ) img (d.Refuses clk)
      (fun _ => True) (id <$> recoverMasterKey2 K clk header passphrase d)
      (Spec.recoverMasterKey2 K img header passphrase) := by
  rw [id_map]
  exact recoverMasterKey2_answers K clk (permits_true img d) (fun _ he => he) header passphrase

/-- A clock that stands, and a deadline it never reaches. -/
theorem exists_ample : ∃ (clk : Clock) (d : UnlockDeadline), d.Ample clk :=
  ⟨.stopped 0, _, (Clock.stands_stopped 0).ample Nat.one_pos 0⟩

/-- A recovery with time fails for no reason of time. -/
theorem not_isBudgetRefusal_of_ample {α : Type} {S : Prop} {m : Exec (World ρ) α}
    {x : Except LuksError α} {e : LuksError}
    (h : AnswersUnless S img (d.Refuses clk) (fun _ => True) (id <$> m) x)
    (hw : Opens img w) (hample : d.Ample clk)
    (hx : ∀ e, x = .error e → e = .authenticationFailed ∨ e.IsRefusal)
    (herr : (m w).out = .err e) : ¬e.IsBudgetRefusal := by
  rcases hx e (h.eq_error hw (fun hrefuses => hrefuses.2 hample) herr) with rfl | he
  · intro h
    exact h
  · cases e <;> first | exact he.elim | exact fun h => h

variable {α : Type} {S : Prop} {m : Clock → UnlockDeadline → Exec (World ρ) α}
  {x : Except LuksError α}

/-- **Some run returns a value exactly when the answer is one.** -/
theorem exists_run_ok_iff (hw : Opens img w)
    (h : ∀ clk d, AnswersUnless S img (d.Refuses clk) (fun _ => True) (id <$> m clk d) x) :
    (∃ clk d a, (m clk d w).out = .ok a) ↔ ∃ a, x = .ok a := by
  constructor
  · rintro ⟨clk, d, a, ha⟩
    exact ⟨a, (h clk d).eq_ok hw ha⟩
  · rintro ⟨a, rfl⟩
    obtain ⟨clk, d, hample⟩ := exists_ample
    rcases (h clk d).ok_or_refused hw with ⟨b, hb, -⟩ | ⟨e, he, -⟩
    · exact ⟨clk, d, b, hb⟩
    · exact absurd hample he.2

end Runs

/-! ### When none blocks -/

section Blocking

variable {K r passphrase}

/-- Something good in a list is reached, if it is there at all. -/
def Unobstructed {α : Type} (l : List α) (bad good : α → Prop) : Prop :=
  (∃ x ∈ l, good x) → Reaches l bad good

/-- A keyslot unlocks as the only active one exactly when it opens. -/
theorem unlocks_only1_iff {header : Luks1Header} {i : Fin luksNumKeys}
    (hi : (header.keyslots i).active = keyEnabled) :
    (∃ clk d found, (recoverMasterKey1 K clk (header.only i) passphrase header.keyBytes.toNat d
        (World.init r)).out = .ok found) ↔
      Spec.Opens1 K (ImageReader.image r) header passphrase (header.keyslots i) := by
  refine (exists_run_ok_iff (opens_init r) fun clk d =>
    recoverMasterKey1_run (K := K) (header.only i)).trans ?_
  rw [Spec.exists_recoverMasterKey1_iff]
  constructor
  · intro h
    obtain ⟨s, hs, hopens⟩ := h.exists_mem
    rw [(Luks1Header.activeKeyslots_only hi s).mp hs] at hopens
    exact hopens
  · intro hopens
    refine reaches_of_mem ((Luks1Header.activeKeyslots_only hi _).mpr rfl) hopens fun s hs => ?_
    rw [(Luks1Header.activeKeyslots_only hi s).mp hs]
    exact hopens.not_overStriped

/-- A keyslot unlocks as the only one exactly when it opens. -/
theorem unlocks_only2_iff {header : Luks2Header} {slot : Luks2Keyslot} :
    (∃ clk d found, (recoverMasterKey2 K clk (header.only slot) passphrase d
        (World.init r)).out = .ok found) ↔
      Spec.Opens2 K (ImageReader.image r) header.digests passphrase slot := by
  refine (exists_run_ok_iff (opens_init r) fun clk d =>
    recoverMasterKey2_run (K := K) (header.only slot)).trans ?_
  rw [Spec.exists_recoverMasterKey2_iff]
  change Reaches [slot] _ _ ↔ _
  rw [reaches_cons]
  exact or_iff_left fun h => not_reaches_nil h.2

/-- **LUKS1 keyslots do not block each other** exactly when one that opens is reached
before one with too many stripes, if any opens. -/
theorem noneBlocks1_iff (header : Luks1Header) : NoneBlocks1 K r passphrase header ↔
    Unobstructed header.activeKeyslots Spec.OverStriped
      (Spec.Opens1 K (ImageReader.image r) header passphrase) := by
  have hrun : ∀ clk (d : UnlockDeadline), Answers (ρ := ρ) (ImageReader.image r) (d.Refuses clk)
      (fun _ => True)
      (id <$> recoverMasterKey1 K clk header passphrase header.keyBytes.toNat d)
      (Spec.recoverMasterKey1 K (ImageReader.image r) header passphrase) :=
    fun clk d => recoverMasterKey1_run header
  constructor
  · rintro hnone ⟨s, hs, hopens⟩
    obtain ⟨⟨i, rfl⟩, hi⟩ := Luks1Header.mem_activeKeyslots.mp hs
    -- some clock and deadline refuse nothing, so that the run shows what the image holds
    obtain ⟨clk, d, hample⟩ := exists_ample
    obtain ⟨found, hfound, -⟩ := hnone i hi ((unlocks_only1_iff hi).mpr hopens) clk d fun e he =>
      not_isBudgetRefusal_of_ample (hrun clk d) (opens_init r) hample
        (fun e he => Spec.recoverMasterKey1_error he) he
    exact Spec.exists_recoverMasterKey1_iff.mp ⟨found, (hrun clk d).eq_ok (opens_init r) hfound⟩
  · intro hclear i hi honly clk d hbudget
    obtain ⟨found, hfound⟩ := Spec.exists_recoverMasterKey1_iff.mpr (hclear
      ⟨_, Luks1Header.mem_activeKeyslots.mpr ⟨⟨i, rfl⟩, hi⟩, (unlocks_only1_iff hi).mp honly⟩)
    have hanswers := hrun clk d
    rw [hfound] at hanswers
    rcases hanswers.ok_or_refused (opens_init r) with ⟨a, ha, rfl⟩ | ⟨e, he, hout⟩
    · obtain ⟨l₁, slot, l₂, -, -, hslot⟩ := Spec.recoverMasterKey1_eq_ok_iff.mp hfound
      exact ⟨a, ha, (Spec.tryKeyslot1_eq_some_iff.mp hslot).2.1⟩
    · exact absurd he.1 (hbudget e hout)

/-- **LUKS2 keyslots do not block each other** exactly when one that opens is reached
before one that is refused, if any opens. -/
theorem noneBlocks2_iff (header : Luks2Header) : NoneBlocks2 K r passphrase header ↔
    Unobstructed header.keyslots
      (Spec.Refused2 K (ImageReader.image r) header.digests passphrase)
      (Spec.Opens2 K (ImageReader.image r) header.digests passphrase) := by
  have hrun : ∀ clk (d : UnlockDeadline), AnswersUnless
      (Spec.Stops2 K (ImageReader.image r) header passphrase) (ρ := ρ) (ImageReader.image r)
      (d.Refuses clk) (fun _ => True) (id <$> recoverMasterKey2 K clk header passphrase d)
      (Spec.recoverMasterKey2 K (ImageReader.image r) header passphrase) :=
    fun clk d => recoverMasterKey2_run header
  constructor
  · rintro hnone ⟨s, hs, hopens⟩
    -- the same clock and deadline as for LUKS1
    obtain ⟨clk, d, hample⟩ := exists_ample
    obtain ⟨found, hfound, -⟩ := hnone s hs (unlocks_only2_iff.mpr hopens) clk d fun e he =>
      not_isBudgetRefusal_of_ample (hrun clk d) (opens_init r) hample
        (fun e he => Spec.recoverMasterKey2_error he) he
    exact Spec.exists_recoverMasterKey2_iff.mp ⟨found, (hrun clk d).eq_ok (opens_init r) hfound⟩
  · intro hclear slot hslot honly clk d hbudget
    obtain ⟨found, hfound⟩ := Spec.exists_recoverMasterKey2_iff.mpr
      (hclear ⟨slot, hslot, unlocks_only2_iff.mp honly⟩)
    have hanswers := hrun clk d
    rw [hfound] at hanswers
    rcases hanswers.ok_or_refused (opens_init r) with ⟨a, ha, rfl⟩ | ⟨e, he, hout⟩
    · obtain ⟨l₁, s, l₂, -, -, hs⟩ := Spec.recoverMasterKey2_eq_ok_iff.mp hfound
      obtain ⟨-, d₁, dig, d₂, hd, -, -, hverifies, -⟩ := Spec.tryKeyslot2_eq_some_iff.mp hs
      exact ⟨a, ha, dig, by rw [hd]; simp, hverifies⟩
    · exact absurd he.1 (hbudget e hout)

/-- **When one keyslot cannot block another**, in either version: exactly when, if a
keyslot opens at all, one that opens has none before it that is refused. -/
theorem keyslots_noneBlocks_iff (r : ρ) (passphrase : Bytes) :
    (∀ header : Luks1Header, NoneBlocks1 K r passphrase header ↔
      Unobstructed header.activeKeyslots Spec.OverStriped
        (Spec.Opens1 K (ImageReader.image r) header passphrase)) ∧
    ∀ header : Luks2Header, NoneBlocks2 K r passphrase header ↔
      Unobstructed header.keyslots
        (Spec.Refused2 K (ImageReader.image r) header.digests passphrase)
        (Spec.Opens2 K (ImageReader.image r) header.digests passphrase) :=
  ⟨noneBlocks1_iff, noneBlocks2_iff⟩

end Blocking

/-! ### A keyslot that blocks -/

namespace Sample

/-- A keyslot record with one stripe more than the ceiling. -/
def blocker : Keyslot :=
  { unusedRecord with active := keyEnabled, iterations := 1, keyMaterialOffset := 8,
                      stripes := 1048577 }

/-- A LUKS1 container with such records in the positions before its keyslot. -/
def blockedLayout : Layout1 := layout1 "aes" blocker textFits_aes

/-- Its header. -/
abbrev blockedHeader : Luks1Header := blockedLayout.header crates1

/-- A reader of it. -/
def blockedReader : Cursor := reader1 blockedLayout (length_rest1 "aes" blocker)

theorem overStriped_blocker : Spec.OverStriped blocker :=
  show maxStripes < (1048577 : UInt32).toNat by decide

theorem exists_activeKeyslots_blocked :
    ∃ l, blockedHeader.activeKeyslots = blocker :: l := by
  have hfirst : List.ofFn blockedHeader.keyslots = blocker :: _ := List.ofFn_succ (n := 7)
  rw [Luks1Header.activeKeyslots, hfirst]
  exact ⟨_, List.filter_cons_of_pos rfl⟩

/-- The keyslot in position 3 opens. -/
theorem opens1_blocked : Spec.Opens1 crates1 (ImageReader.image blockedReader) blockedHeader
    Sample.passphrase slot1.record := by
  have hmem : slot1 ∈ blockedLayout.enabled := List.mem_singleton_self slot1
  have himg : ImageReader.image blockedReader = blockedLayout.image crates1 enc1 := rfl
  have hpass : slot1.passphrase = Sample.passphrase := rfl
  have hcand := Layout1.candidate1_self (F := blockedLayout) inverts1 hmem
  rw [hpass, ← himg] at hcand
  refine Spec.exists_tryKeyslot1_some_iff.mp ⟨⟨blockedLayout.masterKey, .luks1 slot1.record⟩, ?_⟩
  exact Spec.tryKeyslot1_eq_some_iff.mpr ⟨hcand, Layout1.verifies1_masterKey, rfl⟩

end Sample

/-- **The first keyslot blocks the one that opens.** -/
theorem not_noneBlocks1_blocked :
    ¬NoneBlocks1 Sample.crates1 Sample.blockedReader Sample.passphrase Sample.blockedHeader := by
  rw [noneBlocks1_iff]
  intro hclear
  have hreaches := hclear ⟨Sample.slot1.record, Luks1Header.mem_activeKeyslots.mpr
    ⟨⟨⟨3, by decide⟩, rfl⟩, rfl⟩, Sample.opens1_blocked⟩
  obtain ⟨l, hl⟩ := Sample.exists_activeKeyslots_blocked
  rw [hl, reaches_cons] at hreaches
  rcases hreaches with hopens | ⟨hclear, -⟩
  · exact hopens.not_overStriped Sample.overStriped_blocker
  · exact hclear Sample.overStriped_blocker

end Luks
