import Luks.Opening
import Luks.Triage

/-!
# The scheme of a layer is that of the volume it opens to

A layer looks at the front of the ciphertext once, when it is made, and from then on has
credentials asked for under the scheme it took it for. The unlock looks at the same bytes
again, through a cursor, and tests version and magic in another order. They come to the
same: where a layer opens, the volume is of the version of its scheme
(`Luks.scheme_iff_version`). Nothing is assumed of the cursor but that it shows the bytes of
the source as far as it does not fail.
-/

namespace Luks

open Basis

/-! ### The version of an unlocked volume -/

/-- What an unlocked volume of a version says of the container. -/
inductive OpenedAs (img : Bytes) : UInt16 → Prop
  /-- A LUKS1 volume has the magic and version 1. -/
  | luks1 (hmagic : bytesN 6 img 0 = luksMagic) (hversion : beU16 img 6 = 1) : OpenedAs img 1
  /-- A LUKS2 volume has version 2. -/
  | luks2 (hversion : beU16 img 6 = 2) : OpenedAs img 2

section Unlocking

variable {ρ : Type} [ReadSeek ρ] {img : Bytes} (K : Crates) (clk : Clock) (passphrase : Bytes)

/-- What a program on the reader returns, in an unlock. -/
theorem onReader_returns {α : Type} {m : Exec ρ α} {Q : α → ρ → Prop}
    (h : Returns (Shows img) m Q) :
    Returns (fun w => Shows img w.reader) (onReader m) fun a w => Q a w.reader :=
  h.zoom fun _ _ => rfl

/-- A look at the clock keeps what the reader shows. -/
theorem bind_new_returns {α : Type} {f : UnlockDeadline → Exec (World ρ) α} {Q : α → World ρ → Prop}
    (budget : Duration) (h : ∀ d, Returns (fun w => Shows img w.reader) (f d) Q) :
    Returns (fun w => Shows img w.reader) (UnlockDeadline.new clk budget >>= f) Q := by
  intro w hw a ha
  exact h ⟨clk.now w.ticks, budget⟩ ⟨w.reader, w.ticks + 1, clk.now w.ticks⟩ hw a ha

/-- The rest of a LUKS1 unlock returns volumes of version 1. -/
theorem finish1_gives (header : Luks1Header) (d : UnlockDeadline) :
    Gives (fun u : Unlocked ρ => u.payload.info.version = 1)
      (if header.activeKeyslots.isEmpty then Prog.throw .noActiveKeyslot
      else do
        let found ← recoverMasterKey1 K clk header passphrase header.keyBytes.toNat d
        let totalSize ← onReader (seekTo (.fromEnd 0))
        let reader ← Prog.get World.reader
        return ⟨header.payload reader found.key totalSize, found.acceptedBy⟩) := by
  split_ifs
  · exact Gives.throw _
  · refine Gives.bind_right fun found => Gives.bind_right fun totalSize => ?_
    exact Gives.bind_right fun reader => Gives.pure rfl

/-- **A LUKS1 unlock** returns volumes of version 1, and only where the magic is there. -/
theorem unlock1_returns (budget : Duration) :
    Returns (fun w => Shows img w.reader)
      (unlock1WithPassphraseWithin (ρ := ρ) K clk passphrase budget)
      fun u _ => u.payload.info.version = 1 ∧ bytesN 6 img 0 = luksMagic := by
  rw [unlock1WithPassphraseWithin]
  refine bind_new_returns clk budget fun d => ?_
  rw [unlock1Inner]
  refine Returns.bind (Q := fun _ w => Shows img w.reader) ?_ fun _ => ?_
  · intro w hw _ _
    rw [vecZeroed]
    split_ifs <;> exact hw
  refine (onReader_returns (readFillAt_returns 0 luks1PhdrLen)).bind fun hdrBuf => ?_
  refine Returns.bind (Returns.ofExcept _) fun header => ?_
  refine Returns.pre_and fun hparse => Returns.pre_and fun hbuf => ?_
  obtain ⟨rfl, -⟩ := Spec.readFill_eq_ok hbuf
  refine (Returns.of_gives (finish1_gives K clk passphrase header d)).post
    fun u _ hone => ⟨hone, ?_⟩
  have hmagic := (Luks1Header.exists_parse_iff.mp ⟨header, hparse⟩).2.1
  rw [window_window img (by decide)] at hmagic
  exact Luks1Header.bytesN_eq_luksMagic_iff.mpr hmagic

/-- **A LUKS2 unlock** returns volumes of version 2. -/
theorem unlock2_gives (budget : Duration) :
    Gives (fun u : Unlocked ρ => u.payload.info.version = 2)
      (unlock2WithPassphraseWithin K clk passphrase budget) := by
  rw [unlock2WithPassphraseWithin]
  refine Gives.bind_right fun d => ?_
  rw [unlock2Inner]
  refine Gives.bind_right fun _ => Gives.bind_right fun bin => Gives.bind_right fun _ => ?_
  refine Gives.bind_right fun full => Gives.bind_right fun header => Gives.bind_right fun _ => ?_
  cases header.cryptSegment with
  | none => exact Gives.throw _
  | some segment =>
    dsimp only
    split_ifs
    · exact Gives.throw _
    · refine Gives.bind_right fun found => Gives.bind_right fun totalSize => ?_
      exact Gives.bind_right fun reader => Gives.pure rfl

/-- **What an unlock returns** is of the version that the front of the container says. -/
theorem unlock_returns (budget : Duration) :
    Returns (fun w => Shows img w.reader)
      (unlockWithPassphraseWithin (ρ := ρ) K clk passphrase budget)
      fun u _ => 8 ≤ img.length ∧ OpenedAs img u.payload.info.version := by
  rw [unlockWithPassphraseWithin]
  refine (onReader_returns (readFillAt_returns 0 8)).bind fun ver => ?_
  refine Returns.pre_and fun hver => ?_
  obtain ⟨rfl, hlen⟩ := Spec.readFill_eq_ok hver
  have hle : 8 ≤ img.length := by
    rw [length_window] at hlen
    omega
  have hversion : beU16 (window img (0 : UInt64).toNat 8) 6 = beU16 img 6 :=
    beU16_window (by decide) hle
  rw [hversion]
  have hseek : Returns (Shows img) (seekTo (ρ := ρ) (.start 0)) fun _ => Shows img := by
    refine (seekTo_returns 0).post fun _ _ hstands => ?_
    obtain ⟨stands, hshows, hr⟩ := hstands
    exact ⟨stands, hshows, _, hr⟩
  refine (onReader_returns hseek).bind fun _ => ?_
  by_cases hone : beU16 img 6 = 1
  · rw [if_pos hone]
    refine (unlock1_returns K clk passphrase budget).post fun u _ hreturns => ⟨hle, ?_⟩
    obtain ⟨hu, hmagic⟩ := hreturns
    rw [hu]
    exact .luks1 hmagic hone
  · rw [if_neg hone]
    by_cases htwo : beU16 img 6 = 2
    · rw [if_pos htwo]
      refine (Returns.of_gives (unlock2_gives K clk passphrase budget)).post fun u _ hu => ⟨hle, ?_⟩
      rw [hu]
      exact .luks2 htwo
    · rw [if_neg htwo]
      split_ifs <;> exact Returns.throw _

end Unlocking

/-! ### Opening a layer -/

section Opening

variable {ρ : Type} [ReadSeek ρ] (escaped : Char → Bool) {K : Crates} {clk : Clock}
  {sourceCursor : DynSource → UInt64 → UInt64 → ρ} {l : LuksLayer}

/-- A layer opens to the source of a volume that a credential unlocks. -/
theorem exists_unlock_of_tryCredentials {creds : List Credential} {lastErr : Option LuksError}
    {w : World Unit} {s : LuksSource ρ}
    (h : (l.tryCredentials escaped K clk sourceCursor creds lastErr w).out = .ok s) :
    ∃ p ∈ wired creds, ∃ w' u, (l.unlock K clk sourceCursor p w').out = .ok u ∧
      s = LuksSource.new u.payload := by
  induction creds generalizing lastErr w with
  | nil => cases h
  | cons cred creds ih =>
    rw [LuksLayer.tryCredentials] at h
    cases hcred : cred.passphrase with
    | none =>
      rw [hcred] at h
      obtain ⟨p, hp, hu⟩ := ih h
      exact ⟨p, by rwa [wired, List.filterMap_cons_none hcred], hu⟩
    | some p =>
      have hwired : wired (cred :: creds) = p :: wired creds := List.filterMap_cons_some hcred
      rw [hcred] at h
      obtain ⟨attempt, hattempt, h⟩ := Prog.bind_out_eq_ok_iff.mp h
      cases hrun : (l.unlock K clk sourceCursor p w).out with
      | ok u =>
        obtain rfl : Except.ok u = attempt := by
          rw [Prog.attempt_of_ok hrun] at hattempt
          exact Outcome.ok.inj hattempt
        exact ⟨p, by simp [hwired], w, u, hrun, (Outcome.ok.inj h).symm⟩
      | err e =>
        obtain rfl : Except.error e = attempt := by
          rw [Prog.attempt_of_err hrun] at hattempt
          exact Outcome.ok.inj hattempt
        obtain ⟨q, hq, hu⟩ := ih h
        exact ⟨q, by simp [hwired, hq], hu⟩
      | panic q =>
        simp [Prog.attempt, hrun] at hattempt

/-- **What a layer opens to** is of the version that the front of the container says. -/
theorem openedAs_of_open {creds : CredentialSource} {img : Bytes}
    (hcursor : Shows img (sourceCursor l.encrypted 0 l.len)) {w : World Unit} {s : LuksSource ρ}
    (h : (l.open escaped K clk sourceCursor creds w).out = .ok s) :
    8 ≤ img.length ∧ OpenedAs img s.inner.info.version := by
  rw [LuksLayer.open] at h
  split_ifs at h with hempty
  · cases h
  · obtain ⟨p, -, w', u, hu, rfl⟩ := exists_unlock_of_tryCredentials escaped h
    exact unlock_returns K clk p unlockBudget ⟨sourceCursor l.encrypted 0 l.len, w'.ticks, w'.now⟩
      hcursor u hu

/-- The scheme of a layer over a source that gives the front of the container. -/
theorem scheme_new_eq_luks1_iff {src : DynSource} {img hdr : Bytes} (hlen : 8 ≤ img.length)
    (hread : src.readAt 0 (List.replicate 8 0) = .ok (min 8 img.length, hdr))
    (hfront : window hdr 0 (min 8 img.length) = window img 0 8) :
    (LuksLayer.new src).scheme = .luks1 ↔ bytesN 6 img 0 = luksMagic ∧ beU16 img 6 = 1 := by
  rw [min_eq_left hlen] at hread hfront
  have hlong : 8 ≤ hdr.length := by
    have hlength := congrArg List.length hfront
    rw [length_window, length_window] at hlength
    omega
  have hversion : beU16 hdr 6 = beU16 img 6 := by
    rw [← beU16_window (n := 8) (by decide) hlong, hfront, beU16_window (by decide) hlen]
  have hmagic : luksMagic.toList.isPrefixOf hdr ↔ bytesN 6 img 0 = luksMagic := by
    rw [isPrefixOf_luksMagic_iff, ← bytesN_window (n := 8) (by decide) hlong, hfront,
      bytesN_window (by decide) hlen]
  rw [← hmagic, ← hversion, LuksLayer.new, hread]
  dsimp only
  split_ifs with h
  · exact iff_of_true rfl h.2
  · exact iff_of_false (by simp) fun h' => h ⟨le_refl 8, h'⟩

end Opening

/-- **Scheme detection agrees with the unlock.** Where a layer opens, whatever the
credentials, its scheme is that of the version of the volume. -/
theorem scheme_iff_version {ρ : Type} [ReadSeek ρ] (escaped : Char → Bool) (K : Crates)
    (clk : Clock) (sourceCursor : DynSource → UInt64 → UInt64 → ρ) (src : DynSource)
    (creds : CredentialSource) {img hdr : Bytes}
    (hread : src.readAt 0 (List.replicate 8 0) = .ok (min 8 img.length, hdr))
    (hfront : window hdr 0 (min 8 img.length) = window img 0 8)
    (hcursor : Shows img (sourceCursor src 0 src.len)) {w : World Unit} {s : LuksSource ρ}
    (hopen : ((LuksLayer.new src).open escaped K clk sourceCursor creds w).out = .ok s) :
    ((LuksLayer.new src).scheme = .luks1 ↔ s.inner.info.version = 1) ∧
      ((LuksLayer.new src).scheme = .luks2 ↔ s.inner.info.version = 2) := by
  obtain ⟨hlen, hopened⟩ := openedAs_of_open (l := LuksLayer.new src) escaped hcursor hopen
  have hscheme := scheme_new_eq_luks1_iff hlen hread hfront
  generalize s.inner.info.version = version at hopened
  cases hopened with
  | luks1 hmagic hversion =>
    rw [hscheme.mpr ⟨hmagic, hversion⟩]
    decide
  | luks2 hversion =>
    -- a container of version 2 is not taken for one of version 1
    have hne : (LuksLayer.new src).scheme ≠ .luks1 := fun h => by
      have hone := (hscheme.mp h).2
      rw [hversion] at hone
      exact absurd hone (by decide)
    have hother : (LuksLayer.new src).scheme = .luks2 := by
      cases h : (LuksLayer.new src).scheme with
      | luks1 => exact absurd h hne
      | luks2 => rfl
    rw [hother]
    decide

namespace Sample

/-- What a source in memory gives of the front of its bytes. -/
def front (img : Bytes) : Bytes :=
  window img 0 8 ++ (List.replicate 8 0).drop (min 8 img.length)

theorem readAt_memSource (img : Bytes) :
    (memSource img).readAt 0 (List.replicate 8 0) = .ok (min 8 img.length, front img) := rfl

theorem window_front (img : Bytes) : window (front img) 0 (min 8 img.length) = window img 0 8 := by
  have hlen : (window img 0 8).length = min 8 img.length := length_window img 0 8
  rw [front, window_append_left (by rw [hlen, Nat.zero_add]), window_of_length hlen]

/-- A cursor over a source in memory shows its bytes. -/
theorem shows_sourceCursor {img : Bytes} (h : img.length < 2 ^ 63) :
    Shows img (sourceCursor (memSource img) 0 (memSource img).len) := by
  have hshows := shows_image (sourceCursor (memSource img) 0 (memSource img).len)
  rwa [presents_sourceCursor h] at hshows

/-- The passphrase opens the layer. -/
theorem exists_open : ∃ s, (LuksLayer.open (fun _ => false) crates1 clock sourceCursor layer1
    credentials1 ⟨(), 0, 0⟩).out = .ok s := by
  have hopens : ∃ u, Spec.unlock crates1 (format1.toLayout1.image crates1 enc1) passphrase =
      .ok u := by
    obtain ⟨acceptedBy, hspec⟩ := Layout1.unlock_image inverts1 format1.unusedInactive
      noCollision_format1 slot1_mem
    exact ⟨_, hspec⟩
  obtain ⟨u, hu⟩ := hopens
  have hsettled : ∀ p, Spec.Tried crates1 (format1.toLayout1.image crates1 enc1)
      (wired (credentials1 layer1.scheme "")) p → layer1.Settled crates1 clock sourceCursor
        (format1.toLayout1.image crates1 enc1) p :=
    fun p _ => settled_layer1 p
  have hout := open_out (fun _ => false) hsettled ⟨(), 0, 0⟩
  rw [show wired (credentials1 layer1.scheme "") = [] ++ passphrase :: [] from rfl,
    Spec.tryPassphrases, tryEach_of_ok (by simp) hu] at hout
  obtain ⟨s, hs, -⟩ := Outcome.map_eq_ok_iff.mp hout
  exact ⟨s, hs⟩

end Sample

theorem scheme_iff_version_sample : ∃ s, (LuksLayer.open (fun _ => false) Sample.crates1
      Sample.clock Sample.sourceCursor Sample.layer1 Sample.credentials1 ⟨(), 0, 0⟩).out = .ok s ∧
    (Sample.layer1.scheme = .luks1 ↔ s.inner.info.version = 1) ∧
      (Sample.layer1.scheme = .luks2 ↔ s.inner.info.version = 2) := by
  obtain ⟨s, hs⟩ := Sample.exists_open
  exact ⟨s, hs, scheme_iff_version (fun _ => false) Sample.crates1 Sample.clock
    Sample.sourceCursor _ Sample.credentials1 (Sample.readAt_memSource _) (Sample.window_front _)
    (Sample.shows_sourceCursor (Sample.image1_lt Sample.format1.toLayout1 List.length_replicate))
    hs⟩

end Luks
