import Luks.Basis.Flaky
import Luks.Frame
import Luks.PayloadCalls

/-!
# Failures of the reader

What becomes of an unlock, and of the reads after it, on a disk that is going bad. A
failure of the reader ends the call it happens in with an input error, and nothing else
(`Luks.unlock_survives_faults`): no failure is taken for a wrong passphrase, for a keyslot
to pass over or for the end of the container, and none changes a volume that is returned.
Failures in places that the unlock does not look at do not matter to it
(`Luks.unlock_goodBelow`).

A volume over such a reader can be read on after a failure
(`Luks.volume_survives_faults`). The calls that are answered get, in turn, the replies that
a volume over a good reader gives to just those calls, so that a read that is tried again
loses nothing and repeats nothing.
-/

namespace Luks

open Basis

/-- A failure of the reader. -/
def LuksError.IsIo : LuksError → Prop
  | .io _ => True
  | _ => False

section Reading

variable {ρ : Type} [ReadSeek ρ] {img : Bytes}

/-- A program on a reader that may fail **survives**: it comes to what it does on the bytes,
or to a failure of the reader, and in either case the reader may be asked again. -/
def Survives {α : Type} (img : Bytes) (m : Exec ρ α) (x : Except LuksError α) : Prop :=
  Triple (Flaky img) m (Follows (Flaky img) LuksError.IsIo x) fun _ => False

/-- What reads after a seek starts where it went. -/
theorem bind_seekTo_survives {α : Type} {m : Exec ρ α} {x : Except LuksError α} (o : UInt64)
    (h : ∀ stands : ρ → ℕ → Prop, FlakyFrom img stands → Triple (fun r => stands r o.toNat) m
      (Follows (Flaky img) LuksError.IsIo x) fun _ => False) :
    Survives img (seekTo (.start o) >>= fun _ => m) x := by
  rintro r ⟨stands, hflaky, c, hr⟩
  cases hseek : (ReadSeek.seek r (.start o)).1 with
  | ok p =>
    have hrun : (seekTo (.start o) r).out = .ok p := by rw [seekTo, hseek]; rfl
    rw [Prog.bind_of_ok hrun]
    exact h stands hflaky _ (hflaky.seek_start hr hseek)
  | error e =>
    have hrun : (seekTo (.start o) r).out = .err (.io e) := by rw [seekTo, hseek]; rfl
    rw [Prog.bind_of_err hrun]
    exact ⟨⟨⟨stands, hflaky, hflaky.seek_start_failed hr hseek⟩,
      Or.inr (Or.inl ⟨.io e, trivial, rfl⟩)⟩, by simp [seekTo]⟩

theorem readUpTo_survives {stands : ρ → ℕ → Prop} (hflaky : FlakyFrom img stands) (o n : ℕ) :
    Triple (fun r => stands r o) (readUpTo n)
      (Follows (Flaky img) LuksError.IsIo (.ok (window img o n))) fun _ => False := by
  intro r hr
  obtain ⟨hout, hstands⟩ := hflaky.fill hr n
  refine ⟨⟨⟨stands, hflaky, hstands⟩, ?_⟩, by simp [readUpTo]⟩
  rcases hout with hout | ⟨e, hout⟩
  · left
    rw [readUpTo, hout]
    rfl
  · right; left
    refine ⟨.io e, trivial, ?_⟩
    rw [readUpTo, hout]
    rfl

theorem readFillAt_survives (o : UInt64) (n : ℕ) :
    Survives img (readFillAt (ρ := ρ) o n) (Spec.readFill img o.toNat n) :=
  bind_seekTo_survives o fun _ hflaky => readFill_follows (readUpTo_survives hflaky o.toNat n)

theorem readAvailableAt_survives (o : UInt64) (n : ℕ) :
    Survives img (readAvailableAt (ρ := ρ) o n)
      (.ok ((window img o.toNat n).length, zeroFill (window img o.toNat n) n)) :=
  bind_seekTo_survives o fun _ hflaky =>
    Triple.bind_ok_follows (readUpTo_survives hflaky o.toNat n) Triple.pure_follows

theorem seekTo_end_survives : Survives img (seekTo (ρ := ρ) (.fromEnd 0)) (.ok img.length) := by
  rintro r ⟨stands, hflaky, c, hr⟩
  refine ⟨?_, by simp [seekTo]⟩
  obtain ⟨hlen, hstands⟩ := hflaky.seek_fromEnd hr
  refine ⟨⟨stands, hflaky, hstands⟩, ?_⟩
  cases hseek : (ReadSeek.seek r (.fromEnd 0)).1 with
  | ok p =>
    obtain rfl := hlen p hseek
    exact Or.inl (by rw [seekTo, hseek]; rfl)
  | error e => exact Or.inr (Or.inl ⟨.io e, trivial, by rw [seekTo, hseek]; rfl⟩)

end Reading

/-! ### An unlock over such a reader -/

section Unlocking

variable {ρ τ : Type} [ReadSeek ρ] [ImageReader τ] {img : Bytes}

/-- The first reader may fail, the second does not, and both have the bytes `img`. -/
def Mirrors (img : Bytes) (r : ρ) (t : τ) : Prop := Flaky img r ∧ Presents img t

/-- **Where a reader that may fail gives anything**, it gives what one does that does not. -/
theorem readsAlike_mirrors : ReadsAlike LuksError.IsIo id (Mirrors (ρ := ρ) (τ := τ) img) img
    fun _ => True where
  fill o n _ := Falters.of_follows (readFillAt_survives o n) (readFillAt_follows o n)
  available o n _ := by
    refine (Falters.of_follows (readAvailableAt_survives o n)
      (readAvailableAt_follows o n)).mono fun ct ct' h => ?_
    exact ⟨h.1, (Except.ok.inj h.2).symm⟩
  start o := by
    rintro r t ⟨⟨stands, hflaky, c, hr⟩, ht⟩
    obtain ⟨⟨hout, ht'⟩, -⟩ := seekTo_start (E := fun _ => True) o t ht
    cases hseek : (ReadSeek.seek r (.start o)).1 with
    | ok p =>
      refine Or.inl ⟨?_, rfl, ⟨stands, hflaky, _, hflaky.seek_start hr hseek⟩, ht'.1⟩
      rw [hout, seekTo, hseek]
      exact .ok trivial
    | error e =>
      refine Or.inr ⟨⟨.io e, trivial, by rw [seekTo, hseek]; rfl⟩, List.nil_prefix, t, ?_, ht⟩
      exact ⟨stands, hflaky, hflaky.seek_start_failed hr hseek⟩
  fromEnd := (Falters.of_follows seekTo_end_survives seekTo_end).mono fun _ _ h => h.1

/-- **An unlock survives the failures of its reader.** Whatever the entry point, the clock,
the budget and the passphrase: over a reader of some bytes that may fail, it ends as over one
that does not, with the same volume and the same events – or in an input error, having done
the front of that. -/
theorem unlock_survives_faults (K : Crates) (clk : Clock) (e : EntryPoint) (passphrase : Bytes)
    (budget : Duration) {r : ρ} {t : τ} (hr : Flaky (ImageReader.image t) r) :
    Run.Alike id (SameTime (Mirrors (ImageReader.image t)))
        (SameBut (Mirrors (ImageReader.image t)))
        (e.unlock K clk passphrase budget (World.init r))
        (e.unlock K clk passphrase budget (World.init t)) ∨
      Run.CutShort LuksError.IsIo id (SameTime (Mirrors (ImageReader.image t)))
        (e.unlock K clk passphrase budget (World.init r))
        (e.unlock K clk passphrase budget (World.init t)) :=
  e.falters K clk readsAlike_mirrors (fun _ _ => trivial) (Loosens.refl budget) passphrase _ _
    (sameTime_init ⟨hr, rfl⟩)

end Unlocking

/-! ### An unlock where the reader is good -/

section Below

variable {ρ τ : Type} [ReadSeek ρ] [ImageReader τ] {img : Bytes} {good : ℕ}
  {stands : ρ → ℕ → Prop} {G : LuksError → Prop} {E : Event → Prop}

/-- A seek stands where it goes. -/
theorem seekTo_start_goodBelow (h : GoodBelow img good stands) (o : UInt64) :
    Triple (fun r => ∃ c, stands r c) (seekTo (.start o))
      (fun out r => out = .ok o.toNat ∧ stands r o.toNat) E := by
  rintro r ⟨c, hr⟩
  have hseek := h.seek_start_eq o hr
  refine ⟨⟨?_, h.seek_start hr hseek⟩, by simp [seekTo]⟩
  rw [seekTo, hseek]
  rfl

theorem bind_seekTo_goodBelow {α : Type} {m : Exec ρ α} {x : Except LuksError α}
    (h : GoodBelow img good stands) (o : UInt64)
    (hm : Triple (fun r => stands r o.toNat) m (Follows (fun r => ∃ c, stands r c) G x) E) :
    Triple (fun r => ∃ c, stands r c) (seekTo (.start o) >>= fun _ => m)
      (Follows (fun r => ∃ c, stands r c) G x) E := by
  refine Triple.bind (seekTo_start_goodBelow h o) (fun _ => hm.pre fun r hr => hr.2) ?_ ?_
  · rintro e r ⟨he, -⟩
    cases he
  · rintro p r ⟨hp, -⟩
    cases hp

/-- Below, a loop over the reader gives the window. -/
theorem readUpTo_goodBelow (h : GoodBelow img good stands) {o n : ℕ}
    (hgood : ∀ i < n, o + i < good) :
    Triple (fun r => stands r o) (readUpTo n)
      (Follows (fun r => ∃ c, stands r c) G (.ok (window img o n))) E := by
  intro r hr
  have hfill := h.fill hr hgood
  refine ⟨⟨(h.toFlakyFrom.fill hr n).2, Or.inl ?_⟩, by simp [readUpTo]⟩
  rw [readUpTo, hfill]
  rfl

theorem readAvailableAt_goodBelow (h : GoodBelow img good stands) (o : UInt64) {n : ℕ}
    (hgood : ∀ i < n, o.toNat + i < good) :
    Triple (fun r => ∃ c, stands r c) (readAvailableAt o n) (Follows (fun r => ∃ c, stands r c) G
      (.ok ((window img o.toNat n).length, zeroFill (window img o.toNat n) n))) E :=
  bind_seekTo_goodBelow h o
    (Triple.bind_ok_follows (readUpTo_goodBelow h hgood) Triple.pure_follows)

theorem seekTo_end_goodBelow (h : GoodBelow img good stands) :
    Triple (fun r => ∃ c, stands r c) (seekTo (.fromEnd 0))
      (Follows (fun r => ∃ c, stands r c) G (.ok img.length)) E := by
  rintro r ⟨c, hr⟩
  refine ⟨⟨(h.seek_fromEnd hr).2, Or.inl ?_⟩, by simp [seekTo]⟩
  rw [seekTo, h.seek_fromEnd_eq hr]
  rfl

/-- The first reader is good where it is asked, and both have the bytes `img`. -/
def MirrorsBelow (img : Bytes) (stands : ρ → ℕ → Prop) (r : ρ) (t : τ) : Prop :=
  (∃ c, stands r c) ∧ Presents img t

theorem readsAlike_goodBelow (h : GoodBelow img good stands) :
    ReadsAlike (fun _ => False) id (MirrorsBelow (τ := τ) img stands) img (· < good) where
  fill o n hn := Falters.of_follows
    (bind_seekTo_goodBelow h o (readFill_follows (readUpTo_goodBelow h hn)))
    (readFillAt_follows o n)
  available o n hn := by
    refine (Falters.of_follows (readAvailableAt_goodBelow h o hn)
      (readAvailableAt_follows o n)).mono fun ct ct' h => ?_
    exact ⟨h.1, (Except.ok.inj h.2).symm⟩
  start o := by
    have hseek : Triple (fun r => ∃ c, stands r c) (seekTo (.start o))
        (Follows (fun r => ∃ c, stands r c) (fun _ => False) (.ok o.toNat)) fun _ => False :=
      (seekTo_start_goodBelow h o).post fun _ _ hr => ⟨⟨_, hr.2⟩, Or.inl hr.1⟩
    exact (Falters.of_follows hseek (seekTo_start_follows o)).mono fun _ _ _ => trivial
  fromEnd := (Falters.of_follows (seekTo_end_goodBelow h) seekTo_end).mono fun _ _ h => h.1

/-- **An unlock does not notice failures where it does not look**: over a reader that is good
wherever the unlock reads it ends as over one that never fails, after the same events. -/
theorem unlock_goodBelow (K : Crates) (clk : Clock) (e : EntryPoint) (passphrase : Bytes)
    (budget : Duration) {r : ρ} {t : τ} {c : ℕ}
    (h : GoodBelow (ImageReader.image t) good stands) (hr : stands r c)
    (hgood : ∀ i, e.Touches K (ImageReader.image t) i → i < good) :
    Run.Alike id (SameTime (MirrorsBelow (ImageReader.image t) stands))
      (SameBut (MirrorsBelow (ImageReader.image t) stands))
      (e.unlock K clk passphrase budget (World.init r))
      (e.unlock K clk passphrase budget (World.init t)) := by
  rcases e.falters K clk (readsAlike_goodBelow h) hgood (Loosens.refl budget) passphrase _ _
    (sameTime_init ⟨⟨c, hr⟩, rfl⟩) with h | h
  · exact h
  · obtain ⟨err, hfalse, -⟩ := h.out
    exact hfalse.elim

end Below

namespace Sample

/-- A reader of the container whose second and fourth calls fail. -/
def failingReader : Failing :=
  ⟨readerOf fits_metadata [] length_nil_lt, [false, true, false, true]⟩

end Sample

theorem unlock_survives_faults_sample :
    Run.Alike id (SameTime (Mirrors Sample.failingReader.cursor.bytes))
        (SameBut (Mirrors Sample.failingReader.cursor.bytes))
        (EntryPoint.detect.unlock (Sample.cratesOf Sample.metadata) Sample.clock Sample.passphrase
          1 (World.init Sample.failingReader))
        (EntryPoint.detect.unlock (Sample.cratesOf Sample.metadata) Sample.clock Sample.passphrase
          1 (World.init Sample.failingReader.cursor)) ∨
      Run.CutShort LuksError.IsIo id (SameTime (Mirrors Sample.failingReader.cursor.bytes))
        (EntryPoint.detect.unlock (Sample.cratesOf Sample.metadata) Sample.clock Sample.passphrase
          1 (World.init Sample.failingReader))
        (EntryPoint.detect.unlock (Sample.cratesOf Sample.metadata) Sample.clock Sample.passphrase
          1 (World.init Sample.failingReader.cursor)) :=
  unlock_survives_faults _ _ _ _ _ Sample.failingReader.flaky

/-! ### Reading the volume -/

section Calls

variable {ρ τ : Type} [ReadSeek ρ] [ImageReader τ] (K : Crates) {img : Bytes}
  {p : DecryptedPayload ρ} {q : DecryptedPayload τ}

theorem readUnit_falters (h : PayloadsBut (Mirrors img) p q) (pos : ℕ) :
    Falters LuksError.IsIo id (Mirrors img) Eq (p.readUnit (ρ := ρ) K pos)
      (q.readUnit (ρ := τ) K pos) := by
  rw [h.readUnit_eq, DecryptedPayload.readUnit, DecryptedPayload.readUnit]
  refine Falters.bind_eq (Falters.of_agree (checked_agree _ _)) fun skipped => ?_
  refine Falters.bind_eq (Falters.of_agree (checked_agree _ _)) fun physical => ?_
  refine Falters.bind_eq (Falters.of_agree (vecZeroed_agree _)) fun _ => ?_
  refine Falters.bind (readsAlike_mirrors.available _ _ fun _ _ => trivial) fun ct _ hct => ?_
  obtain ⟨rfl, -⟩ := hct
  refine Falters.bind_eq (Falters.emit rfl) fun _ => ?_
  refine Falters.bind_eq (Falters.of_agree (checked_agree _ _)) fun shift => ?_
  refine Falters.bind_eq (Falters.of_agree (checked_agree _ _)) fun tweak => ?_
  exact Falters.of_agree (xtsDecryptArea_agree K _ _ _ _ _)

/-- A read falters in the pass that its reader fails in. -/
theorem readUnits_falters (h : PayloadsBut (Mirrors img) p q) (offset len done : ℕ) :
    Falters LuksError.IsIo id (Mirrors img) Eq (p.readUnits (ρ := ρ) K offset len done)
      (q.readUnits (ρ := τ) K offset len done) := by
  induction done using q.loop_induct len with
  | stop done hdone =>
    rw [DecryptedPayload.readUnits, DecryptedPayload.readUnits, dif_pos hdone, dif_pos hdone]
    exact Falters.pure rfl
  | pass done hdone ih =>
    rw [p.readUnits_of_lt K hdone, q.readUnits_of_lt K hdone, h.unitSize_eq]
    refine Falters.bind_eq (Falters.of_agree (checked_agree _ _)) fun pos => ?_
    refine Falters.bind_eq (readUnit_falters K h pos) fun plain => ?_
    exact Falters.bind_eq (ih pos) fun rest => Falters.pure rfl

/-- What a call on a volume over a reader that may fail comes to, beside one that does not: it
is refused, and nothing but the reader has moved; or both are answered alike. -/
inductive CallSurvives (img : Bytes) (q : DecryptedPayload τ) :
    File.Reply × DecryptedPayload ρ → File.Reply × DecryptedPayload τ → Prop
  /-- The call was refused, and can be made again. -/
  | refused {p' : DecryptedPayload ρ} {y : File.Reply × DecryptedPayload τ}
      (h : PayloadsBut (Mirrors img) p' q) : CallSurvives img q (.refused, p') y
  /-- The call was answered as it is without failures. -/
  | answered {reply : File.Reply} {p' : DecryptedPayload ρ} {q' : DecryptedPayload τ}
      (hreply : reply ≠ .refused) (h : PayloadsBut (Mirrors img) p' q') :
      CallSurvives img q (reply, p') (reply, q')

/-- A program on the volume, if a failure of it leaves all but the reader alone. -/
theorem callSurvives_of_falters {α : Type} {m : Exec (DecryptedPayload ρ) α}
    {n : Exec (DecryptedPayload τ) α} {f : α → File.Reply} (hf : ∀ a, f a ≠ .refused)
    (hmn : Falters LuksError.IsIo id (PayloadsBut (Mirrors img)) Eq m n)
    (h : PayloadsBut (Mirrors img) p q)
    (hkeep : ∀ e, (m p).out = .err e → PayloadsBut (Mirrors img) (m p).final q) :
    CallSurvives img q (.ofOutcome f (m p).out, (m p).final)
      (.ofOutcome f (n q).out, (n q).final) := by
  rcases hmn p q h with ⟨hout, -, hfinal⟩ | ⟨⟨e, -, hout⟩, -, -⟩
  · cases hm : (m p).out with
    | ok a =>
      rw [hm] at hout
      cases hn : (n q).out with
      | ok b =>
        rw [hn] at hout
        obtain rfl := Outcome.ok.inj (Outcome.rel_eq_iff.mp hout)
        exact .answered (hf a) hfinal
      | err e => rw [hn] at hout; cases hout
      | panic x => rw [hn] at hout; cases hout
    | err e => exact .refused (hkeep e hm)
    | panic x =>
      rw [hm] at hout
      cases hn : (n q).out with
      | ok b => rw [hn] at hout; cases hout
      | err e => rw [hn] at hout; cases hout
      | panic y => exact .answered (by simp [File.Reply.ofOutcome]) hfinal
  · rw [hout]
    exact .refused (hkeep e hout)

/-- A read at an offset runs on the reader, so it falters as that does. -/
theorem readAt_falters (offset : UInt64) (len : ℕ) :
    Falters LuksError.IsIo id (PayloadsBut (Mirrors img)) Eq
      (DecryptedPayload.readAt (ρ := ρ) K offset len)
      (DecryptedPayload.readAt (ρ := τ) K offset len) := by
  refine Falters.bind (Falters.of_agree (Agree.get fun _ _ hR => hR)) fun p q hpq => ?_
  refine Falters.zoom (readUnits_falters K hpq _ _ _) (fun _ _ hR => hR.reader) ?_
  exact fun s t hR x y hxy => ⟨hxy, hR.rest⟩

/-- A read of a payload fails for its reader, or gives what it gives over a good one. -/
theorem readAt_survives (h : PayloadsBut (Mirrors img) p q) (offset : UInt64) (len : ℕ) :
    (∃ err, (DecryptedPayload.readAt K offset len p).out = .err (.io err)) ∨
      (DecryptedPayload.readAt K offset len p).out =
        (DecryptedPayload.readAt K offset len q).out := by
  rcases readAt_falters K offset len _ _ h with h | h
  · exact Or.inr (Outcome.rel_eq_iff.mp h.out)
  · obtain ⟨err, herr, hread⟩ := h.out
    cases err with
    | io err => exact Or.inl ⟨err, hread⟩
    | _ => exact herr.elim

/-- Whatever becomes of a read at an offset, it moves the reader only. -/
theorem PayloadsBut.readAt_final (h : PayloadsBut (Mirrors img) p q) (offset : UInt64) (len : ℕ) :
    PayloadsBut (Mirrors img) (DecryptedPayload.readAt K offset len p).final q := by
  obtain ⟨t, hr, -⟩ := (readUnits_falters K h offset.toNat len 0).exists_final h.reader
  rw [DecryptedPayload.readAt_apply]
  exact ⟨⟨hr, h.reader.2⟩, h.rest⟩

/-- A sequential read before the end: a read at the position, which moves if that returned. -/
theorem PayloadsBut.read_survives (h : PayloadsBut (Mirrors img) p q)
    (hlt : p.position.toNat < p.payloadSize) (n : ℕ) :
    CallSurvives img q (p.call K (.read n)) (q.call K (.read n)) := by
  let len := min n (p.payloadSize - p.position.toNat)
  have hread : DecryptedPayload.read K n p = (DecryptedPayload.readAt K p.position len >>= fun bs =>
      DecryptedPayload.advance (p.position.toNat + len) >>= fun _ => pure bs) p :=
    DecryptedPayload.read_of_lt K p hlt
  have hread' : DecryptedPayload.read K n q =
      (DecryptedPayload.readAt K p.position len >>= fun bs =>
      DecryptedPayload.advance (p.position.toNat + len) >>= fun _ => pure bs) q := by
    simp only [len, h.position_eq, h.payloadSize_eq] at hlt ⊢
    exact DecryptedPayload.read_of_lt K q hlt
  rw [DecryptedPayload.call, DecryptedPayload.call, hread, hread']
  refine callSurvives_of_falters (fun _ => by simp) ?_ h fun e he => ?_
  · refine Falters.bind_eq (readAt_falters K _ _) fun bs => ?_
    refine Falters.bind_eq (Falters.of_agree (Agree.modify fun _ _ hR => ?_)) fun _ =>
      Falters.pure rfl
    exact hR.movedTo hR.reader _
  · -- the position is moved after the read only, so a failure comes from the read
    cases hout : (DecryptedPayload.readAt K p.position len p).out with
    | ok bs =>
      rw [Prog.bind_of_ok hout] at he
      cases he
    | err e' =>
      rw [Prog.bind_of_err hout]
      exact h.readAt_final K _ _
    | panic x =>
      rw [Prog.bind_of_panic hout] at he
      cases he

/-- **A call survives** the failures of the reader. -/
theorem call_survives (h : PayloadsBut (Mirrors img) p q) (c : File.Call) :
    CallSurvives img q (p.call K c) (q.call K c) := by
  cases c with
  | readAt offset n =>
    exact callSurvives_of_falters (fun _ => by simp) (readAt_falters K offset n) h fun _ _ =>
      h.readAt_final K offset n
  | seek pos =>
    simp only [DecryptedPayload.call, DecryptedPayload.seek_apply, h.payloadSize_eq,
      h.position_eq]
    split_ifs
    · exact .refused h
    · exact .answered (by simp [File.Reply.ofOutcome]) (h.movedTo h.reader _)
  | read n =>
    rcases Nat.lt_or_ge p.position.toNat p.payloadSize with hlt | hge
    · exact h.read_survives K hlt n
    · have hge' : q.payloadSize ≤ q.position.toNat := by
        rwa [← h.payloadSize_eq, ← h.position_eq]
      rw [DecryptedPayload.call, DecryptedPayload.call, DecryptedPayload.read_of_le K p hge,
        DecryptedPayload.read_of_le K q hge']
      exact .answered (by simp [File.Reply.ofOutcome]) h

/-- The calls of a sequence that were not refused, with their replies. -/
def answered {σ : Type} (step : σ → File.Call → File.Reply × σ) (s : σ) (calls : List File.Call) :
    List (File.Call × File.Reply) :=
  (calls.zip (replies step s calls).1).filter (·.2 ≠ .refused)

theorem answered_cons_refused {σ : Type} {step : σ → File.Call → File.Reply × σ} {s s' : σ}
    {c : File.Call} (h : step s c = (.refused, s')) (calls : List File.Call) :
    answered step s (c :: calls) = answered step s' calls := by
  rw [answered, replies, h]
  simp [answered]

theorem answered_cons {σ : Type} {step : σ → File.Call → File.Reply × σ} {s s' : σ}
    {c : File.Call} {reply : File.Reply} (h : step s c = (reply, s')) (hne : reply ≠ .refused)
    (calls : List File.Call) :
    answered step s (c :: calls) = (c, reply) :: answered step s' calls := by
  rw [answered, replies, h]
  simp [answered, hne]

/-- **What is answered loses nothing and repeats nothing**: the calls on a volume over a reader
that may fail which are answered get the replies that just they get without failures, and
leave what just they leave. -/
theorem answered_survives (h : PayloadsBut (Mirrors img) p q) (calls : List File.Call) :
    (answered (DecryptedPayload.call K) p calls).map Prod.snd =
        (replies (DecryptedPayload.call K) q
          ((answered (DecryptedPayload.call K) p calls).map Prod.fst)).1 ∧
      PayloadsBut (Mirrors img) (replies (DecryptedPayload.call K) p calls).2
        (replies (DecryptedPayload.call K) q
          ((answered (DecryptedPayload.call K) p calls).map Prod.fst)).2 := by
  induction calls generalizing p q with
  | nil => exact ⟨rfl, h⟩
  | cons c calls ih =>
    have hcall := call_survives K h c
    rcases hp : p.call K c with ⟨reply, p'⟩
    rcases hq : q.call K c with ⟨reply', q'⟩
    rw [hp, hq] at hcall
    rw [show (replies (DecryptedPayload.call K) p (c :: calls)).2 =
      (replies (DecryptedPayload.call K) p' calls).2 by rw [replies, hp]]
    by_cases hne : reply = .refused
    · subst hne
      rw [answered_cons_refused hp]
      cases hcall with
      | refused h' => exact ih h'
      | answered hne h' => exact absurd rfl hne
    · cases hcall with
      | refused h' => exact absurd rfl hne
      | answered _ h' =>
        obtain ⟨hreplies, hfinal⟩ := ih h'
        rw [answered_cons hp hne, List.map_cons, List.map_cons, replies, hq]
        exact ⟨congrArg (reply :: ·) hreplies, hfinal⟩

end Calls

/-- **A volume survives the failures of its reader.** A volume that an unlock gave over a
reader that may fail is the one that it gives over a reader of the same bytes that does not.
In any sequence of calls, those that are answered get the replies of that volume to just
these calls; and after any calls a read at an offset fails for its reader, or gives what it
gives on that volume. -/
theorem volume_survives_faults {ρ τ : Type} [ReadSeek ρ] [ImageReader τ] (K : Crates)
    (clk : Clock) (e : EntryPoint) (passphrase : Bytes) (budget : Duration) {r : ρ} {t : τ}
    (hr : Flaky (ImageReader.image t) r) {u : Unlocked ρ}
    (hu : (e.unlock K clk passphrase budget (World.init r)).out = .ok u) :
    ∃ v, (e.unlock K clk passphrase budget (World.init t)).out = .ok v ∧
      (u.map fun _ => ()) = (v.map fun _ => ()) ∧ ∀ calls,
        (answered (DecryptedPayload.call K) u.payload calls).map Prod.snd =
          (replies (DecryptedPayload.call K) v.payload
            ((answered (DecryptedPayload.call K) u.payload calls).map Prod.fst)).1 ∧
        ∀ offset len, (∃ err, (DecryptedPayload.readAt K offset len
            (replies (DecryptedPayload.call K) u.payload calls).2).out = .err (.io err)) ∨
          (DecryptedPayload.readAt K offset len
            (replies (DecryptedPayload.call K) u.payload calls).2).out =
            (DecryptedPayload.readAt K offset len v.payload).out := by
  rcases e.falters K clk readsAlike_mirrors (fun _ _ => trivial) (Loosens.refl budget) passphrase
    _ _ (sameTime_init ⟨hr, rfl⟩) with h | h
  · obtain ⟨v, hv, huv⟩ := h.out.exists_ok hu
    refine ⟨v, hv, huv.rest, fun calls => ?_⟩
    obtain ⟨hreplies, hfinal⟩ := answered_survives K huv.payloadsBut calls
    refine ⟨hreplies, fun offset len => ?_⟩
    rw [← (DecryptedPayload.movedFrom_replies K _).readAt_out K offset len]
    exact readAt_survives K hfinal offset len
  · obtain ⟨err, -, herr⟩ := h.out
    rw [hu] at herr
    cases herr

namespace Sample

/-- Reading where the medium is gone fails. -/
theorem readAvailableAt_badEnd {b : BadEnd} {o : UInt64} {n : ℕ} (ho : b.good ≤ o.toNat)
    (hn : n ≠ 0) : (readAvailableAt o n b).out = .err (.io Failing.failure) := by
  obtain ⟨hseek, -, hpos⟩ := ImageReader.seek_start b.cursor o
  have hrun : (seekTo (.start o) b).out = .ok o.toNat := by
    rw [seekTo, show (ReadSeek.seek b (.start o)).1 = .ok o.toNat from hseek]
    rfl
  have hfill : (fill (seekTo (.start o) b).final n).1 = .error Failing.failure :=
    BadEnd.fill_of_le (show b.good ≤ ImageReader.cursor _ from hpos.symm ▸ ho) hn
  have hread : (readUpTo n (seekTo (.start o) b).final).out = .err (.io Failing.failure) := by
    rw [readUpTo, hfill]
    rfl
  rw [readAvailableAt, Prog.bind_of_ok hrun, readAvailable, Prog.bind_of_err hread]

/-- A reader of the container on a medium that is gone where the payload begins. -/
def badReader : BadEnd := ⟨readerOf fits_metadata [] length_nil_lt, 12288⟩

/-- The unlock does not look there, and the volume cannot be read there. -/
theorem exists_unlock2_badReader : ∃ u,
    (EntryPoint.luks2.unlock (cratesOf metadata) clock passphrase 1 (World.init badReader)).out =
      .ok u ∧
    (DecryptedPayload.readAt (cratesOf metadata) 0 512 u.payload).out =
      .err (.io Failing.failure) := by
  obtain ⟨v, hv, himage⟩ := exists_unlock2_imageOf fits_metadata [] length_nil_lt (by decide) rfl
    rfl rfl stands_clock (show (0 : Duration) < 1 by decide)
  have halike := unlock_goodBelow (cratesOf metadata) clock .luks2 passphrase 1
    (t := readerOf fits_metadata [] length_nil_lt) (BadEnd.goodBelow _ badReader.good)
    (show BadEnd.Stands _ _ badReader 0 from ⟨rfl, rfl, rfl⟩)
    fun i hi => (lt_of_touches length_nil_lt hi).trans (by decide)
  obtain ⟨u, hu, hbut⟩ := halike.out.exists_ok_left hv
  refine ⟨u, hu, ?_⟩
  obtain ⟨⟨c, hgood, -⟩, -⟩ := hbut.reader
  have hpayload : (u.payload.map fun _ => ()) = (metadata.segmentRecord.payload
      (imageOf fits_metadata []) masterKey (imageOf fits_metadata []).length).map fun _ => () := by
    rw [hbut.payloadsBut.rest]
    exact congrArg (fun u : Unlocked Bytes => u.payload.map fun _ => ()) himage
  have haddress : u.payload.unitAddress 0 = 12288 :=
    congrArg (fun p : DecryptedPayload Unit => p.unitAddress 0) hpayload
  have hunit : u.payload.unitSize = 512 :=
    congrArg (fun p : DecryptedPayload Unit => p.unitSize) hpayload
  have hread : (readAvailableAt (UInt64.ofNat (u.payload.unitAddress 0)) u.payload.unitSize
      u.payload.reader).out = .err (.io Failing.failure) := by
    rw [haddress, hunit]
    exact readAvailableAt_badEnd (by rw [hgood]; decide) (by decide)
  exact readUnits_of_first_err (by decide) (by decide)
    (readUnit_of_err (by rw [haddress]; decide) (by rw [hunit]; decide) hread)

end Sample

theorem volume_survives_faults_sample : ∃ (u : Unlocked BadEnd) (v : Unlocked Cursor),
    (EntryPoint.luks2.unlock (Sample.cratesOf Sample.metadata) Sample.clock Sample.passphrase 1
      (World.init Sample.badReader)).out = .ok u ∧
    (EntryPoint.luks2.unlock (Sample.cratesOf Sample.metadata) Sample.clock Sample.passphrase 1
      (World.init Sample.badReader.cursor)).out = .ok v ∧
    (DecryptedPayload.readAt (Sample.cratesOf Sample.metadata) 0 512 u.payload).out =
      .err (.io Failing.failure) ∧
    ((u.map fun _ => ()) = v.map fun _ => ()) ∧ ∀ calls,
      (answered (DecryptedPayload.call (Sample.cratesOf Sample.metadata)) u.payload
          calls).map Prod.snd =
        (replies (DecryptedPayload.call (Sample.cratesOf Sample.metadata)) v.payload
          ((answered (DecryptedPayload.call (Sample.cratesOf Sample.metadata)) u.payload
            calls).map Prod.fst)).1 := by
  obtain ⟨u, hu, hfails⟩ := Sample.exists_unlock2_badReader
  obtain ⟨v, hv, hrest, hcalls⟩ := volume_survives_faults _ _ .luks2 _ _
    (t := Sample.badReader.cursor) Sample.badReader.flaky hu
  exact ⟨u, v, hu, hv, hfails, hrest, fun calls => (hcalls calls).1⟩

end Luks
