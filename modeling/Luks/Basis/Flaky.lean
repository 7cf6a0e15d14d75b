import Luks.Basis.Reader

/-!
# Readers that fail

A reader over a disk that is going bad gives bytes of one fixed sequence, or fails, and may
be asked again after that (`Basis.Flaky`): where it stands after a failure is its own
matter, but what it reads from there is what the sequence has there, and a seek that returns
goes where it says.

A loop over such a reader reads the window it asks for, or fails with an error of the reader
(`Basis.FlakyFrom.fill`) – also when some bytes had come before the failure. A loop does not
fail where the disk is still good (`Basis.GoodBelow.fill`).
-/

namespace Basis

/-- Readers of the bytes `img` that may fail, and go on: `stands r c` says that `r` stands
at `c`. -/
structure FlakyFrom {ρ : Type} [ReadSeek ρ] (img : Bytes) (stands : ρ → ℕ → Prop) : Prop
    extends ShowsFrom img stands where
  /-- After a read that fails it stands somewhere. -/
  read_failed : ∀ {r c n e r'}, stands r c → ReadSeek.read r n = (.failed e, r') →
    ∃ c', stands r' c'
  /-- After a seek from the start that fails it stands somewhere. -/
  seek_start_failed : ∀ {r c o e}, stands r c → (ReadSeek.seek r (.start o)).1 = .error e →
    ∃ c', stands (ReadSeek.seek r (.start o)).2 c'
  /-- A seek to the end tells the length, if it does not fail. -/
  seek_fromEnd : ∀ {r c}, stands r c → (∀ n, (ReadSeek.seek r (.fromEnd 0)).1 = .ok n →
    n = img.length) ∧ ∃ c', stands (ReadSeek.seek r (.fromEnd 0)).2 c'

/-- A reader of the bytes `img` that may fail, and go on. -/
def Flaky {ρ : Type} [ReadSeek ρ] (img : Bytes) (r : ρ) : Prop :=
  ∃ stands : ρ → ℕ → Prop, FlakyFrom img stands ∧ ∃ c, stands r c

theorem map_eq_error_iff {ε α β : Type} {f : α → β} {x : Except ε α} {e : ε} :
    x.map f = .error e ↔ x = .error e := by
  cases x <;> simp [Except.map]

/-- **A loop over such a reader** gives the window it asks for, or fails; in either case the
reader may be asked again. -/
theorem FlakyFrom.fill {ρ : Type} [ReadSeek ρ] {img : Bytes} {stands : ρ → ℕ → Prop}
    (h : FlakyFrom img stands) {r : ρ} {c : ℕ} (hr : stands r c) (n : ℕ) :
    ((fill r n).1 = .ok (window img c n) ∨ ∃ e, (fill r n).1 = .error e) ∧
      ∃ c', stands (fill r n).2 c' := by
  have hok : ∀ bs, (Basis.fill r n).1 = .ok bs → ((Basis.fill r n).1 = .ok (window img c n) ∨
      ∃ e, (Basis.fill r n).1 = .error e) ∧ ∃ c', stands (Basis.fill r n).2 c' := by
    intro bs hbs
    obtain ⟨hwin, hstands⟩ := h.toShowsFrom.fill_eq_ok hr hbs
    exact ⟨Or.inl (hbs.trans (congrArg Except.ok hwin)), _, hstands⟩
  cases hfill : (Basis.fill r n).1 with
  | ok bs => exact hfill ▸ hok bs hfill
  | error e =>
    refine ⟨Or.inr ⟨e, rfl⟩, ?_⟩
    clear hok
    -- the reads before the one that failed went on from each other
    induction r, n using fill.induct generalizing c with
    | case1 r =>
      rw [fill_zero] at hfill
      cases hfill
    | case2 r n hn r' hread =>
      rw [fill_of_end hn hread] at hfill
      cases hfill
    | case3 r n hn b bs r' hread ih =>
      rw [fill_of_data hn hread] at hfill ⊢
      refine ih (h.read_data hr hread).2.2 ?_
      exact map_eq_error_iff.mp hfill
    | case4 r n hn r' hread ih =>
      rw [fill_of_interrupted hn hread] at hfill ⊢
      exact ih (h.read_interrupted hr hread) hfill
    | case5 r n hn e' r' hread =>
      rw [fill_of_failed hn hread]
      exact h.read_failed hr hread

/-- Readers of the bytes `img` that fail in reads from `good` on, and nowhere else. -/
structure GoodBelow {ρ : Type} [ReadSeek ρ] (img : Bytes) (good : ℕ) (stands : ρ → ℕ → Prop) : Prop
    extends FlakyFrom img stands where
  /-- A read that starts below does not fail. -/
  read_ne_failed : ∀ {r c n e r'}, stands r c → c < good → ReadSeek.read r n ≠ (.failed e, r')
  /-- Every position can be seeked to. -/
  seek_start_eq : ∀ {r c} o, stands r c → (ReadSeek.seek r (.start o)).1 = .ok o.toNat
  /-- A seek to the end tells the length. -/
  seek_fromEnd_eq : ∀ {r c}, stands r c → (ReadSeek.seek r (.fromEnd 0)).1 = .ok img.length

/-- **A loop that stays below does not fail**: it gives the window it asks for. -/
theorem GoodBelow.fill {ρ : Type} [ReadSeek ρ] {img : Bytes} {good : ℕ} {stands : ρ → ℕ → Prop}
    (h : GoodBelow img good stands) {r : ρ} {c n : ℕ} (hr : stands r c)
    (hgood : ∀ i < n, c + i < good) : (fill r n).1 = .ok (window img c n) := by
  have hok : ∃ bs, (Basis.fill r n).1 = .ok bs := by
    induction r, n using fill.induct generalizing c with
    | case1 r => exact ⟨[], by rw [fill_zero]⟩
    | case2 r n hn r' hread => exact ⟨[], by rw [fill_of_end hn hread]⟩
    | case3 r n hn b bs r' hread ih =>
      have hlen : (b :: bs).length ≤ n := ReadSeek.length_read_le hread
      obtain ⟨rest, hrest⟩ := ih (h.read_data hr hread).2.2 fun i hi => by
        rw [Nat.add_assoc]
        exact hgood _ (by omega)
      exact ⟨b :: bs ++ rest, by rw [fill_of_data hn hread, hrest]; rfl⟩
    | case4 r n hn r' hread ih =>
      rw [fill_of_interrupted hn hread]
      exact ih (h.read_interrupted hr hread) hgood
    | case5 r n hn e r' hread =>
      exact absurd hread (h.read_ne_failed hr (hgood 0 (Nat.pos_of_ne_zero hn)))
  obtain ⟨bs, hbs⟩ := hok
  rw [hbs, (h.toShowsFrom.fill_eq_ok hr hbs).1]

/-! ### A reader that fails by a schedule -/

/-- A buffer on a medium that fails: each read and each seek does so if its turn in the
schedule says so, and none does after the schedule. -/
structure Failing where
  /-- The buffer. -/
  cursor : Cursor
  /-- Which of the next calls fail. -/
  schedule : List Bool

namespace Failing

/-- The failure of the medium. -/
def failure : IoError := .other "medium error"

/-- One read. -/
def read (f : Failing) (n : ℕ) : ReadResult × Failing :=
  match f.schedule with
  | true :: rest => (.failed failure, { f with schedule := rest })
  | _ => ((ReadSeek.read f.cursor n).1, ⟨(ReadSeek.read f.cursor n).2, f.schedule.tail⟩)

/-- One seek. -/
def seek (f : Failing) (pos : SeekFrom) : Except IoError ℕ × Failing :=
  match f.schedule with
  | true :: rest => (.error failure, { f with schedule := rest })
  | _ => ((ReadSeek.seek f.cursor pos).1, ⟨(ReadSeek.seek f.cursor pos).2, f.schedule.tail⟩)

/-- What a read does: it fails, or it is a read of the buffer. -/
theorem read_cases (f : Failing) (n : ℕ) :
    f.read n = (.failed failure, ⟨f.cursor, f.schedule.tail⟩) ∨
      f.read n = ((ReadSeek.read f.cursor n).1,
        ⟨(ReadSeek.read f.cursor n).2, f.schedule.tail⟩) := by
  obtain ⟨cursor, schedule⟩ := f
  rcases schedule with _ | ⟨_ | _, rest⟩
  · exact Or.inr rfl
  · exact Or.inr rfl
  · exact Or.inl rfl

/-- What a seek does. -/
theorem seek_cases (f : Failing) (pos : SeekFrom) :
    f.seek pos = (.error failure, ⟨f.cursor, f.schedule.tail⟩) ∨
      f.seek pos = ((ReadSeek.seek f.cursor pos).1,
        ⟨(ReadSeek.seek f.cursor pos).2, f.schedule.tail⟩) := by
  obtain ⟨cursor, schedule⟩ := f
  rcases schedule with _ | ⟨_ | _, rest⟩
  · exact Or.inr rfl
  · exact Or.inr rfl
  · exact Or.inl rfl

instance : ReadSeek Failing where
  read := read
  seek := seek
  patience _ := 0
  length_read_le := by
    intro f n bs f' h
    rcases f.read_cases n with hread | hread
    · simp [hread] at h
    · obtain ⟨hbs, -⟩ := Prod.mk.inj (hread.symm.trans h)
      exact ReadSeek.length_read_le (Prod.ext hbs rfl)
  patience_lt := by
    intro f n f' h
    rcases f.read_cases n with hread | hread
    · simp [hread] at h
    · obtain ⟨hbad, -⟩ := Prod.mk.inj (hread.symm.trans h)
      exact absurd hbad (by simp [ReadSeek.read])

/-- Such a reader stands where its buffer does. -/
def Stands (img : Bytes) (f : Failing) (c : ℕ) : Prop := f.cursor.bytes = img ∧ f.cursor.pos = c

theorem showsFrom (img : Bytes) : ShowsFrom img (Stands img) where
  read_data := by
    intro f c n bs f' hf hread
    rcases f.read_cases n with h | h
    · cases h.symm.trans hread
    · obtain ⟨hbs, rfl⟩ := Prod.mk.inj (h.symm.trans hread)
      exact (showsFrom_image img).read_data (r := f.cursor) hf (Prod.ext hbs rfl)
  read_interrupted := by
    intro f c n f' hf hread
    rcases f.read_cases n with h | h
    · cases h.symm.trans hread
    · obtain ⟨hbs, rfl⟩ := Prod.mk.inj (h.symm.trans hread)
      exact (showsFrom_image img).read_interrupted (r := f.cursor) hf (Prod.ext hbs rfl)
  seek_start := by
    intro f c o p hf hseek
    rcases f.seek_cases (.start o) with h | h
    · cases (congrArg Prod.fst h).symm.trans hseek
    · rw [show ReadSeek.seek f (.start o) = _ from h] at hseek ⊢
      exact (showsFrom_image img).seek_start (r := f.cursor) hf hseek

theorem flakyFrom (img : Bytes) : FlakyFrom img (Stands img) where
  toShowsFrom := showsFrom img
  read_failed := by
    intro f c n e f' hf hread
    rcases f.read_cases n with h | h
    · obtain ⟨-, rfl⟩ := Prod.mk.inj (h.symm.trans hread)
      exact ⟨c, hf⟩
    · obtain ⟨hbs, -⟩ := Prod.mk.inj (h.symm.trans hread)
      cases hbs
  seek_start_failed := by
    intro f c o e hf hseek
    rcases f.seek_cases (.start o) with h | h
    · rw [show ReadSeek.seek f (.start o) = _ from h]
      exact ⟨c, hf⟩
    · rw [show ReadSeek.seek f (.start o) = _ from h] at hseek
      cases (ImageReader.seek_start f.cursor o).1.symm.trans hseek
  seek_fromEnd := by
    rintro f c ⟨rfl, rfl⟩
    rcases f.seek_cases (.fromEnd 0) with h | h
    · rw [show ReadSeek.seek f (.fromEnd 0) = _ from h]
      exact ⟨nofun, _, rfl, rfl⟩
    · obtain ⟨hend, himg⟩ := ImageReader.seek_fromEnd f.cursor
      rw [show ReadSeek.seek f (.fromEnd 0) = _ from h]
      exact ⟨fun n hseek => Except.ok.inj (hseek.symm.trans hend), _, himg, rfl⟩

/-- **Such a reader is flaky**, whatever its schedule. -/
theorem flaky (f : Failing) : Flaky f.cursor.bytes f := ⟨_, flakyFrom _, _, rfl, rfl⟩

end Failing

/-! ### A reader that fails from a place on -/

/-- A buffer on a medium whose end is gone: a read ends where that begins, and one from there
fails. -/
structure BadEnd where
  /-- The buffer. -/
  cursor : Cursor
  /-- Where the medium is gone. -/
  good : ℕ

namespace BadEnd

/-- One read. -/
def read (b : BadEnd) (n : ℕ) : ReadResult × BadEnd :=
  if b.good ≤ b.cursor.pos then (.failed Failing.failure, b)
  else ((ReadSeek.read b.cursor (min n (b.good - b.cursor.pos))).1,
    ⟨(ReadSeek.read b.cursor (min n (b.good - b.cursor.pos))).2, b.good⟩)

/-- One seek. -/
def seek (b : BadEnd) (pos : SeekFrom) : Except IoError ℕ × BadEnd :=
  ((ReadSeek.seek b.cursor pos).1, ⟨(ReadSeek.seek b.cursor pos).2, b.good⟩)

theorem read_of_le {b : BadEnd} (h : b.good ≤ b.cursor.pos) (n : ℕ) :
    b.read n = (.failed Failing.failure, b) := if_pos h

theorem read_of_lt {b : BadEnd} (h : b.cursor.pos < b.good) (n : ℕ) :
    b.read n = ((ReadSeek.read b.cursor (min n (b.good - b.cursor.pos))).1,
      ⟨(ReadSeek.read b.cursor (min n (b.good - b.cursor.pos))).2, b.good⟩) :=
  if_neg (Nat.not_le_of_lt h)

/-- It is never interrupted. -/
theorem read_ne_interrupted {b b' : BadEnd} {n : ℕ} : b.read n ≠ (.interrupted, b') := by
  intro h
  rcases Nat.lt_or_ge b.cursor.pos b.good with hlt | hge
  · obtain ⟨hbad, -⟩ := Prod.mk.inj ((read_of_lt hlt n).symm.trans h)
    exact absurd hbad (by simp [ReadSeek.read])
  · cases (read_of_le hge n).symm.trans h

instance : ReadSeek BadEnd where
  read := read
  seek := seek
  patience _ := 0
  length_read_le := by
    intro b n bs b' h
    rcases Nat.lt_or_ge b.cursor.pos b.good with hlt | hge
    · obtain ⟨hbs, -⟩ := Prod.mk.inj ((read_of_lt hlt n).symm.trans h)
      exact (ReadSeek.length_read_le (Prod.ext hbs rfl)).trans (Nat.min_le_left _ _)
    · cases (read_of_le hge n).symm.trans h
  patience_lt h := absurd h read_ne_interrupted

/-- Such a reader stands where its buffer does. -/
def Stands (img : Bytes) (good : ℕ) (b : BadEnd) (c : ℕ) : Prop :=
  b.good = good ∧ b.cursor.bytes = img ∧ b.cursor.pos = c

theorem goodBelow (img : Bytes) (good : ℕ) : GoodBelow img good (Stands img good) where
  read_data := by
    rintro b c n bs b' ⟨rfl, hb⟩ hread
    rcases Nat.lt_or_ge b.cursor.pos b.good with hlt | hge
    · obtain ⟨hbs, rfl⟩ := Prod.mk.inj ((read_of_lt hlt n).symm.trans hread)
      obtain ⟨hwin, hend, hstands⟩ :=
        (showsFrom_image img).read_data (r := b.cursor) hb (Prod.ext hbs rfl)
      exact ⟨hwin, fun hnil => (hend hnil).imp_left fun hmin => by omega, rfl, hstands⟩
    · cases (read_of_le hge n).symm.trans hread
  read_interrupted _ hread := absurd hread read_ne_interrupted
  seek_start := by
    rintro b c o p ⟨rfl, hb⟩ hseek
    exact ⟨rfl, (showsFrom_image img).seek_start (r := b.cursor) hb hseek⟩
  read_failed := by
    rintro b c n e b' ⟨rfl, hb⟩ hread
    rcases Nat.lt_or_ge b.cursor.pos b.good with hlt | hge
    · obtain ⟨hbs, -⟩ := Prod.mk.inj ((read_of_lt hlt n).symm.trans hread)
      exact (ImageReader.read_ne_failed (r := b.cursor) (Prod.ext hbs rfl)).elim
    · obtain ⟨-, rfl⟩ := Prod.mk.inj ((read_of_le hge n).symm.trans hread)
      exact ⟨c, rfl, hb⟩
  seek_start_failed := by
    intro b c o e _ hseek
    cases (ImageReader.seek_start b.cursor o).1.symm.trans hseek
  seek_fromEnd := by
    rintro b c ⟨rfl, rfl, rfl⟩
    obtain ⟨hend, himg⟩ := ImageReader.seek_fromEnd b.cursor
    exact ⟨fun n hseek => Except.ok.inj (hseek.symm.trans hend), _, rfl, himg, rfl⟩
  read_ne_failed := by
    rintro b c n e b' ⟨rfl, -, rfl⟩ hlt hread
    obtain ⟨hbs, -⟩ := Prod.mk.inj ((read_of_lt hlt n).symm.trans hread)
    exact ImageReader.read_ne_failed (r := b.cursor) (Prod.ext hbs rfl)
  seek_start_eq := by
    rintro b c o -
    exact (ImageReader.seek_start b.cursor o).1
  seek_fromEnd_eq := by
    rintro b c ⟨-, rfl, -⟩
    exact (ImageReader.seek_fromEnd b.cursor).1

/-- A loop from where the medium is gone fails. -/
theorem fill_of_le {b : BadEnd} (h : b.good ≤ b.cursor.pos) {n : ℕ} (hn : n ≠ 0) :
    (fill b n).1 = .error Failing.failure := by
  rw [fill_of_failed hn (read_of_le h n)]

/-- **Such a reader is flaky**, wherever its medium is gone. -/
theorem flaky (b : BadEnd) : Flaky b.cursor.bytes b :=
  ⟨_, (goodBelow _ b.good).toFlakyFrom, _, rfl, rfl, rfl⟩

end BadEnd

end Basis
