import Luks.Accepting
import Luks.HeaderFormat

/-!
# What an unlock says of an image that is no container

Of an image that it cannot open because the magic or the version are none it knows, an
unlock is to say so (`Luks.NamesImage`): the six bytes that are not the magic, or the
version.

The dispatch looks at the version first. Where that is 1 or 2, the rest is left to the
unlock of that version, which wants a header of its own length before it looks at the
magic. So images without the magic are named as such exactly when they are long enough for
the header that the two bytes of the version call for, or call for none
(`Luks.namesImage_iff`).
-/

namespace Luks

open Basis

section Headers

variable {img : Bytes} {K : Crates} {e : LuksError}

/-- To start with the magic is to have it as the first six bytes. -/
theorem isPrefixOf_luksMagic_iff :
    luksMagic.toList.isPrefixOf img ↔ bytesN 6 img 0 = luksMagic := by
  rw [List.isPrefixOf_iff_prefix, List.prefix_iff_eq_take, Luks1Header.bytesN_eq_luksMagic_iff]
  exact eq_comm

/-- Without the magic there is no LUKS1 header. -/
theorem Spec.header1_of_ne_magic (hlen : luks1PhdrLen ≤ img.length)
    (h : bytesN 6 img 0 ≠ luksMagic) : header1 img = .error (.notLuks (bytesN 6 img 0)) := by
  rw [header1, readFill_front hlen, ok_bind, Luks1Header.parse,
    bytesN_window (by decide) hlen, if_pos h]

/-- In an image that is too short there is none either. -/
theorem Spec.header1_of_short (hlen : img.length < luks1PhdrLen) :
    header1 img = .error (.io .unexpectedEof) := by
  rw [header1, readFill_of_gt (by decide) (by simpa using hlen)]
  rfl

/-- Without the magic there is no LUKS2 header. -/
theorem Spec.header2_of_ne_magic (hlen : luks2BinHdrLen ≤ img.length)
    (h : bytesN 6 img 0 ≠ luksMagic) : header2 K img = .error (.notLuks (bytesN 6 img 0)) := by
  rw [header2, Luks2Header.parse, bytesN_hdrBuffer (by decide) hlen, if_pos h]

end Headers

section Answering

variable {ρ : Type} [ImageReader ρ] (K : Crates) (clk : Clock) {img : Bytes}
  {R : LuksError → Prop} {e : LuksError}

/-- A LUKS1 unlock ends with the error of the header, before it looks at the time. -/
theorem unlock1_answers_of_header (h : Spec.header1 img = .error e) (budget : Duration)
    (passphrase : Bytes) :
    Answers img R (fun _ => True) (unlock1WithPassphraseWithin (ρ := ρ) K clk passphrase budget)
      (.error e) := by
  refine bind_new_answers clk budget fun n => ?_
  rw [unlock1Inner]
  refine Triple.bind_ok_follows (vecZeroed_follows (by decide) trivial) ?_
  have hread : Triple (Presents (ρ := ρ) img) (readFillAt 0 luks1PhdrLen) (Follows (Presents img) R
      (Spec.readFill img (0 : UInt64).toNat luks1PhdrLen)) fun _ => True :=
    readFillAt_follows 0 luks1PhdrLen
  rw [Spec.header1] at h
  cases hbuf : Spec.readFill img (0 : UInt64).toNat luks1PhdrLen with
  | error e' =>
    rw [show Spec.readFill img 0 luks1PhdrLen = .error e' from hbuf] at h
    obtain rfl : e' = e := Except.error.inj h
    rw [hbuf] at hread
    exact Triple.bind_error_follows (onReader_answers hread)
  | ok hdrBuf =>
    rw [show Spec.readFill img 0 luks1PhdrLen = .ok hdrBuf from hbuf, ok_bind] at h
    rw [hbuf] at hread
    refine Triple.bind_ok_follows (onReader_answers hread) ?_
    rw [h]
    exact Triple.bind_error_follows (Triple.ofExcept_follows (.error e))

/-- A LUKS2 unlock ends with the error of the header, if a buffer can have one. -/
theorem unlock2_answers_of_header (hlen : luks2BinHdrLen ≤ img.length)
    (hfit : Spec.hdrSize img ≤ isizeMax) (h : Spec.header2 K img = .error e) (budget : Duration)
    (passphrase : Bytes) :
    Answers img R (fun _ => True) (unlock2WithPassphraseWithin (ρ := ρ) K clk passphrase budget)
      (.error e) := by
  refine bind_new_answers clk budget fun n => ?_
  rw [unlock2Inner]
  refine Triple.bind_ok_follows (vecZeroed_follows (by decide) trivial) ?_
  refine Triple.bind_ok_follows (onReader_front hlen) ?_
  simp only [Spec.hdrSize_of_readFill (Spec.readFill_front hlen)]
  refine Triple.bind_ok_follows (vecZeroed_follows hfit trivial) ?_
  refine Triple.bind_ok_follows (onReader_answers (readAvailableAt_follows _ _)) ?_
  rw [Spec.header2] at h
  rw [show (0 : UInt64).toNat = 0 from rfl, h]
  exact Triple.bind_error_follows (Triple.ofExcept_follows (.error e))

/-- The dispatch hands over to the unlock of a version, or tells the error from the
magic. -/
theorem unlock_dispatch {Q : Outcome LuksError (Unlocked ρ) → World ρ → Prop}
    (hlen : 8 ≤ img.length) {budget : Duration} {passphrase : Bytes}
    (h : Triple (Opens img)
      (if beU16 img 6 = 1 then unlock1WithPassphraseWithin K clk passphrase budget
      else if beU16 img 6 = 2 then unlock2WithPassphraseWithin K clk passphrase budget
      else if bytesN 6 img 0 = luksMagic then Prog.throw (.unsupportedVersion (beU16 img 6))
      else Prog.throw (.notLuks (bytesN 6 img 0))) Q fun _ => True) :
    Triple (Opens img) (unlockWithPassphraseWithin K clk passphrase budget) Q fun _ => True := by
  rw [unlockWithPassphraseWithin]
  refine Triple.bind_sure (onReader_front hlen) ?_
  refine Triple.bind_sure (onReader_answers (R := fun _ => False) (seekTo_start_follows _)) ?_
  have hversion : beU16 (window img 0 8) 6 = beU16 img 6 := beU16_window (by decide) hlen
  have hmagic : bytesN 6 (window img 0 8) 0 = bytesN 6 img 0 := bytesN_window (by decide) hlen
  simp only [isPrefixOf_luksMagic_iff, hversion, hmagic]
  exact h

/-- What an unlock comes to without the magic. -/
def withoutMagic {α : Type} (img : Bytes) : Outcome LuksError α :=
  -- the header that the version calls for is read first
  if beU16 img 6 = 1 ∧ img.length < luks1PhdrLen ∨
      beU16 img 6 = 2 ∧ img.length < luks2BinHdrLen then
    .err (.io .unexpectedEof)
  else if beU16 img 6 = 2 ∧ isizeMax < Spec.hdrSize img then .panic .capacityOverflow
  else .err (.notLuks (bytesN 6 img 0))

/-- **Without the magic** an unlock comes to just that, under every clock. -/
theorem unlock_of_ne_magic (hlen : 8 ≤ img.length) (hmagic : bytesN 6 img 0 ≠ luksMagic)
    (budget : Duration) (passphrase : Bytes) :
    Triple (Opens (ρ := ρ) img) (unlockWithPassphraseWithin K clk passphrase budget)
      (fun o _ => o = withoutMagic img) fun _ => True := by
  -- an answer that is sure is what the run comes to
  have hsure : ∀ {m : Exec (World ρ) (Unlocked ρ)} {e : LuksError},
      Answers img (fun _ => False) (fun _ => True) m (.error e) →
      Triple (Opens img) m (fun o _ => o = .err e) fun _ => True :=
    fun h w hw => ⟨(Triple.sure h hw).1, fun _ _ => trivial⟩
  refine unlock_dispatch K clk hlen ?_
  rw [withoutMagic]
  by_cases hone : beU16 img 6 = 1
  · rw [if_pos hone]
    rcases Nat.lt_or_ge img.length luks1PhdrLen with hlt | hge
    · rw [if_pos (Or.inl ⟨hone, hlt⟩)]
      exact hsure (unlock1_answers_of_header K clk (Spec.header1_of_short hlt) _ _)
    · rw [if_neg (by simp [hone, hge]), if_neg (by simp [hone])]
      exact hsure (unlock1_answers_of_header K clk (Spec.header1_of_ne_magic hge hmagic) _ _)
  · rw [if_neg hone]
    by_cases htwo : beU16 img 6 = 2
    · rw [if_pos htwo]
      rcases Nat.lt_or_ge img.length luks2BinHdrLen with hlt | hge
      · rw [if_pos (Or.inr ⟨htwo, hlt⟩)]
        have hrun : Answers img (fun _ => False) (fun _ => True) (Unlocked.map ImageReader.image <$>
            unlock2WithPassphraseWithin (ρ := ρ) K clk passphrase budget)
            (.error (.io .unexpectedEof)) :=
          unlock2_answers_of_short K clk trivial hlt passphrase
        intro w hw
        exact ⟨Outcome.map_eq_err_iff.mp ((hrun.out not_false hw).resolve_right
            fun ⟨_, he, _⟩ => he),
          fun _ _ => trivial⟩
      · rw [if_neg (by simp [htwo, hge])]
        by_cases hbig : isizeMax < Spec.hdrSize img
        · rw [if_pos ⟨htwo, hbig⟩]
          exact unlock2_stops K clk ⟨hge, hbig⟩ budget passphrase
        · rw [if_neg fun h => hbig h.2]
          exact hsure (unlock2_answers_of_header K clk hge (Nat.le_of_not_lt hbig)
            (Spec.header2_of_ne_magic hge hmagic) _ _)
    · rw [if_neg htwo, if_neg hmagic, if_neg (by simp [hone, htwo]), if_neg (by simp [htwo])]
      exact hsure Triple.throw_follows

/-! ### Naming what is no container -/

/-- **An unlock names what it cannot open**: an image without the magic by the six bytes it
has there, and one of another version by its version. -/
def NamesImage (passphrase img : Bytes) (w : World ρ) : Prop :=
  (bytesN 6 img 0 ≠ luksMagic →
    (unlockWithPassphrase K clk passphrase w).out = .err (.notLuks (bytesN 6 img 0))) ∧
  (bytesN 6 img 0 = luksMagic → beU16 img 6 ≠ 1 → beU16 img 6 ≠ 2 →
    (unlockWithPassphrase K clk passphrase w).out = .err (.unsupportedVersion (beU16 img 6)))

/-- The header that the version calls for can be read: the image has it, or its front, and
a buffer can hold it. -/
def HasHeaderOfVersion (img : Bytes) : Prop :=
  (beU16 img 6 = 1 → luks1PhdrLen ≤ img.length) ∧
    (beU16 img 6 = 2 → luks2BinHdrLen ≤ img.length ∧ Spec.hdrSize img ≤ isizeMax)

/-- Without the magic an image is named as such when its header can be read. -/
theorem withoutMagic_eq_iff {α : Type} :
    (withoutMagic img : Outcome LuksError α) = .err (.notLuks (bytesN 6 img 0)) ↔
      HasHeaderOfVersion img := by
  rw [withoutMagic, HasHeaderOfVersion]
  split_ifs with hshort hbig
  · refine iff_of_false (by simp) fun ⟨hone, htwo⟩ => ?_
    rcases hshort with ⟨h, hlt⟩ | ⟨h, hlt⟩
    · exact Nat.not_le_of_lt hlt (hone h)
    · exact Nat.not_le_of_lt hlt (htwo h).1
  · exact iff_of_false (by simp) fun ⟨_, htwo⟩ => Nat.not_le_of_lt hbig.2 (htwo hbig.1).2
  · refine iff_of_true rfl ⟨fun h => ?_, fun h => ⟨?_, ?_⟩⟩
    · exact Nat.le_of_not_lt fun hlt => hshort (Or.inl ⟨h, hlt⟩)
    · exact Nat.le_of_not_lt fun hlt => hshort (Or.inr ⟨h, hlt⟩)
    · exact Nat.le_of_not_lt fun hlt => hbig ⟨h, hlt⟩

/-- Another version is named as such. -/
theorem unlock_of_version (hlen : 8 ≤ img.length) (hmagic : bytesN 6 img 0 = luksMagic)
    (hone : beU16 img 6 ≠ 1) (htwo : beU16 img 6 ≠ 2) (budget : Duration) (passphrase : Bytes) :
    Triple (Opens (ρ := ρ) img) (unlockWithPassphraseWithin K clk passphrase budget)
      (fun o _ => o = .err (.unsupportedVersion (beU16 img 6))) fun _ => True := by
  refine unlock_dispatch K clk hlen ?_
  rw [if_neg hone, if_neg htwo, if_pos hmagic]
  exact Triple.throw fun _ _ => rfl

/-- **When an unlock names what it cannot open**: on an image with the magic always, and on
one without it exactly when the header that the two version bytes call for can be read. -/
theorem namesImage_iff (passphrase : Bytes) (hlen : 8 ≤ img.length) {w : World ρ}
    (hw : Opens img w) :
    NamesImage K clk passphrase img w ↔
      (bytesN 6 img 0 ≠ luksMagic → HasHeaderOfVersion img) := by
  have hversion : bytesN 6 img 0 = luksMagic → beU16 img 6 ≠ 1 → beU16 img 6 ≠ 2 →
      (unlockWithPassphrase K clk passphrase w).out = .err (.unsupportedVersion (beU16 img 6)) :=
    fun hmagic hone htwo => (unlock_of_version K clk hlen hmagic hone htwo _ passphrase w hw).1
  refine (and_iff_left hversion).trans (forall_congr' fun hmagic => ?_)
  rw [← withoutMagic_eq_iff (α := Unlocked ρ),
    ← (unlock_of_ne_magic K clk hlen hmagic unlockBudget passphrase w hw).1]
  rfl

end Answering

namespace Sample

/-- A reader of eight bytes: six zeros and a version. -/
def eightBytes (version : UInt8) : Cursor :=
  Cursor.new (List.replicate 7 0 ++ [version]) (by simp)

theorem ne_magic_eightBytes (version : UInt8) :
    bytesN 6 (eightBytes version).bytes 0 ≠ luksMagic := by
  intro h
  have hwindow := Luks1Header.bytesN_eq_luksMagic_iff.mp h
  exact absurd (List.cons.inj hwindow).1 (by decide)

end Sample

theorem namesImage_zeros : NamesImage (Sample.tables []).crates Sample.clock Sample.passphrase
    (Sample.eightBytes 0).bytes (World.init (Sample.eightBytes 0)) :=
  (namesImage_iff _ _ _ (by decide) (opens_init (Sample.eightBytes 0))).mpr fun _ =>
    ⟨by decide, by decide⟩

/-- **Eight bytes with version 1** and no magic are not named as such: the unlock wants the
rest of a LUKS1 header. -/
theorem not_namesImage_version1 : ¬NamesImage (Sample.tables []).crates Sample.clock
    Sample.passphrase (Sample.eightBytes 1).bytes (World.init (Sample.eightBytes 1)) := by
  intro h
  have hnamed := h.1 (Sample.ne_magic_eightBytes 1)
  have hout := (unlock_of_ne_magic (Sample.tables []).crates Sample.clock (by decide)
    (Sample.ne_magic_eightBytes 1) unlockBudget Sample.passphrase _
    (opens_init (Sample.eightBytes 1))).1
  rw [unlockWithPassphrase, hout] at hnamed
  have hheader := withoutMagic_eq_iff.mp hnamed
  exact absurd (hheader.1 (by decide)) (by decide)

end Luks
