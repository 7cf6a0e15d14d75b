import Luks.Basis.Window

/-!
# Readers that can seek

The two standard traits a random-access byte source implements, as one class
(`Basis.ReadSeek`): a read asks for at most `n` bytes and may return fewer, may be
interrupted, or may fail; a seek moves the cursor. Both give back the reader they
leave behind.

A read that is interrupted is tried again by every loop over a reader, so a loop
ends only because a reader is interrupted finitely often. The class carries that
as a measure (`Basis.ReadSeek.patience`) that every interruption lowers.

`Basis.ImageReader` is the class of readers that present a fixed sequence of
bytes: they return non-empty pieces of it, of whatever length they please, and
nothing only at its end. The loop `Basis.fill` then reads exactly the window of
the image that was asked for (`Basis.fill_eq_window`), however the reader chops
it up.
-/

namespace Basis

/-- A sequence of bytes. -/
abbrev Bytes : Type := List UInt8

/-- The errors of an input stream. -/
inductive IoError where
  /-- The stream ended before a buffer could be filled. -/
  | unexpectedEof
  /-- The request makes no sense to the stream. -/
  | invalidInput (msg : String)
  /-- Any other failure, by its text. -/
  | other (msg : String)
  deriving DecidableEq, Repr

/-- Where a seek goes: from the start, from the end, or from the cursor. -/
inductive SeekFrom where
  /-- To a position from the start. -/
  | start (o : UInt64)
  /-- To a position relative to the end. -/
  | fromEnd (o : Int64)
  /-- To a position relative to the cursor. -/
  | current (o : Int64)
  deriving DecidableEq

/-- What one read gives. -/
inductive ReadResult where
  /-- Some bytes; none at the end of the stream. -/
  | data (bs : Bytes)
  /-- Nothing yet: try again. -/
  | interrupted
  /-- A failure. -/
  | failed (e : IoError)

/-- A byte source with a cursor. -/
class ReadSeek (ρ : Type) where
  /-- Read at most `n` bytes. -/
  read : ρ → ℕ → ReadResult × ρ
  /-- Move the cursor, and say where it is. -/
  seek : ρ → SeekFrom → Except IoError ℕ × ρ
  /-- How many more interruptions there can be before bytes come. -/
  patience : ρ → ℕ
  /-- A read fits the buffer it was given. -/
  length_read_le : ∀ {r n bs r'}, read r n = (.data bs, r') → bs.length ≤ n
  /-- An interruption uses up patience. -/
  patience_lt : ∀ {r n r'}, read r n = (.interrupted, r') → patience r' < patience r

/-- Read on until `n` bytes have come or the stream has ended. -/
def fill {ρ : Type} [ReadSeek ρ] (r : ρ) (n : ℕ) : Except IoError Bytes × ρ :=
  if n = 0 then (.ok [], r) else
    match _h : ReadSeek.read r n with
    | (.data [], r') => (.ok [], r')
    | (.data (b :: bs), r') =>
        ((fill r' (n - (b :: bs).length)).1.map fun rest => b :: bs ++ rest,
          (fill r' (n - (b :: bs).length)).2)
    | (.interrupted, r') => fill r' n
    | (.failed e, r') => (.error e, r')
termination_by (n, ReadSeek.patience r)
decreasing_by
  all_goals first
    | exact Prod.Lex.right _ (ReadSeek.patience_lt _h)
    | exact Prod.Lex.left _ _ (by rw [List.length_cons]; omega)

section FillSteps

variable {ρ : Type} [ReadSeek ρ] {r r' : ρ} {n : ℕ}

theorem fill_zero (r : ρ) : fill r 0 = (.ok [], r) := by
  rw [fill, if_pos rfl]

theorem fill_of_end (hn : n ≠ 0) (h : ReadSeek.read r n = (.data [], r')) :
    fill r n = (.ok [], r') := by
  rw [fill, if_neg hn]
  split <;> simp_all

theorem fill_of_data {b : UInt8} {bs : Bytes} (hn : n ≠ 0)
    (h : ReadSeek.read r n = (.data (b :: bs), r')) :
    fill r n = ((fill r' (n - (b :: bs).length)).1.map fun rest => b :: bs ++ rest,
      (fill r' (n - (b :: bs).length)).2) := by
  rw [fill, if_neg hn]
  split <;> simp_all

theorem fill_of_interrupted (hn : n ≠ 0) (h : ReadSeek.read r n = (.interrupted, r')) :
    fill r n = fill r' n := by
  rw [fill, if_neg hn]
  split <;> simp_all

theorem fill_of_failed {e : IoError} (hn : n ≠ 0) (h : ReadSeek.read r n = (.failed e, r')) :
    fill r n = (.error e, r') := by
  rw [fill, if_neg hn]
  split <;> simp_all

theorem map_eq_ok_iff {ε α β : Type} {f : α → β} {x : Except ε α} {b : β} :
    x.map f = .ok b ↔ ∃ a, x = .ok a ∧ f a = b := by
  cases x <;> simp [Except.map]

/-- What was read fits the buffer. -/
theorem length_le_of_fill {bs : Bytes} (h : (fill r n).1 = .ok bs) : bs.length ≤ n := by
  induction r, n using fill.induct generalizing bs with
  | case1 r =>
    rw [fill_zero] at h
    obtain rfl := Except.ok.inj h
    exact Nat.le_refl 0
  | case2 r n hn r' hread =>
    rw [fill_of_end hn hread] at h
    obtain rfl := Except.ok.inj h
    exact Nat.zero_le n
  | case3 r n hn b bs' r' hread ih =>
    rw [fill_of_data hn hread] at h
    obtain ⟨rest, hfill, rfl⟩ := map_eq_ok_iff.mp h
    have hfirst := ReadSeek.length_read_le hread
    have hrest := ih hfill
    rw [List.length_append]
    omega
  | case4 r n hn r' hread ih =>
    rw [fill_of_interrupted hn hread] at h
    exact ih h
  | case5 r n hn e r' hread =>
    rw [fill_of_failed hn hread] at h
    cases h

end FillSteps

/-- A reader that presents a fixed sequence of bytes. -/
class ImageReader (ρ : Type) extends ReadSeek ρ where
  /-- The bytes it presents. -/
  image : ρ → Bytes
  /-- Where it stands in them. -/
  cursor : ρ → ℕ
  /-- Offsets into the image fit a signed 64-bit integer. -/
  image_lt : ∀ r, (image r).length < 2 ^ 63
  /-- A read returns what comes next, and nothing only at the end. -/
  read_data : ∀ {r n bs r'}, read r n = (.data bs, r') →
    bs = window (image r) (cursor r) bs.length ∧ (bs = [] → n = 0 ∨ (image r).length ≤ cursor r) ∧
      image r' = image r ∧ cursor r' = cursor r + bs.length
  /-- An interruption reads nothing. -/
  read_interrupted : ∀ {r n r'}, read r n = (.interrupted, r') →
    image r' = image r ∧ cursor r' = cursor r
  /-- Reads do not fail. -/
  read_ne_failed : ∀ {r n e r'}, read r n ≠ (.failed e, r')
  /-- Every position can be seeked to. -/
  seek_start : ∀ r o, (seek r (.start o)).1 = .ok o.toNat ∧
    image (seek r (.start o)).2 = image r ∧ cursor (seek r (.start o)).2 = o.toNat
  /-- A seek to the end tells the length. -/
  seek_fromEnd : ∀ r, (seek r (.fromEnd 0)).1 = .ok (image r).length ∧
    image (seek r (.fromEnd 0)).2 = image r

/-- Readers that show the bytes `img` as far as they do not fail: `stands r c` says that `r`
stands at `c`. -/
structure ShowsFrom {ρ : Type} [ReadSeek ρ] (img : Bytes) (stands : ρ → ℕ → Prop) : Prop where
  /-- A read returns what comes next, and nothing only at the end. -/
  read_data : ∀ {r c n bs r'}, stands r c → ReadSeek.read r n = (.data bs, r') →
    bs = window img c bs.length ∧ (bs = [] → n = 0 ∨ img.length ≤ c) ∧ stands r' (c + bs.length)
  /-- An interruption reads nothing. -/
  read_interrupted : ∀ {r c n r'}, stands r c → ReadSeek.read r n = (.interrupted, r') →
    stands r' c
  /-- A seek that does not fail goes where it says. -/
  seek_start : ∀ {r c o p}, stands r c → (ReadSeek.seek r (.start o)).1 = .ok p →
    stands (ReadSeek.seek r (.start o)).2 o.toNat

/-- A reader that shows the bytes `img` as far as it does not fail. -/
def Shows {ρ : Type} [ReadSeek ρ] (img : Bytes) (r : ρ) : Prop :=
  ∃ stands : ρ → ℕ → Prop, ShowsFrom img stands ∧ ∃ c, stands r c

/-- **What a loop over such a reader returns** is the window it asks for, however the reader
chops its data. -/
theorem ShowsFrom.fill_eq_ok {ρ : Type} [ReadSeek ρ] {img : Bytes} {stands : ρ → ℕ → Prop}
    (h : ShowsFrom img stands) {r : ρ} {n c : ℕ} {bs : Bytes} (hr : stands r c)
    (hok : (fill r n).1 = .ok bs) : bs = window img c n ∧ stands (fill r n).2 (c + bs.length) := by
  induction r, n using fill.induct generalizing c bs with
  | case1 r =>
    rw [fill_zero] at hok ⊢
    obtain rfl : [] = bs := Except.ok.inj hok
    exact ⟨(window_zero_right _ _).symm, hr⟩
  | case2 r n hn r' hread =>
    obtain ⟨-, hend, hr'⟩ := h.read_data hr hread
    have hle : img.length ≤ c := (hend rfl).resolve_left hn
    rw [fill_of_end hn hread] at hok ⊢
    obtain rfl : [] = bs := Except.ok.inj hok
    exact ⟨(window_of_length_le n hle).symm, hr'⟩
  | case3 r n hn b bs' r' hread ih =>
    obtain ⟨hbs, -, hr'⟩ := h.read_data hr hread
    have hlen : (b :: bs').length ≤ n := ReadSeek.length_read_le hread
    rw [fill_of_data hn hread] at hok ⊢
    obtain ⟨rest, hrest, rfl⟩ := map_eq_ok_iff.mp hok
    obtain ⟨hwin, hstands⟩ := ih hr' hrest
    -- the piece just read and the window after it make the window asked for
    refine ⟨?_, ?_⟩
    · rw [hwin]
      nth_rewrite 1 [hbs]
      rw [window_append, Nat.add_sub_cancel' hlen]
    · rw [List.length_append, ← Nat.add_assoc]
      exact hstands
  | case4 r n hn r' hread ih =>
    rw [fill_of_interrupted hn hread] at hok ⊢
    exact ih (h.read_interrupted hr hread) hok
  | case5 r n hn e r' hread =>
    rw [fill_of_failed hn hread] at hok
    cases hok

section Filling

variable {ρ : Type} [ImageReader ρ]

open ImageReader

/-- The readers of an image show it. -/
theorem showsFrom_image (img : Bytes) :
    ShowsFrom (ρ := ρ) img fun r c => image r = img ∧ cursor r = c where
  read_data := by
    rintro r c n bs r' ⟨rfl, rfl⟩ hread
    obtain ⟨hbs, hend, himg, hcur⟩ := ImageReader.read_data hread
    exact ⟨hbs, hend, himg, hcur⟩
  read_interrupted := by
    rintro r c n r' ⟨rfl, rfl⟩ hread
    exact ImageReader.read_interrupted hread
  seek_start := by
    rintro r c o p ⟨rfl, rfl⟩ -
    exact (ImageReader.seek_start r o).2

theorem shows_image (r : ρ) : Shows (image r) r := ⟨_, showsFrom_image (image r), _, rfl, rfl⟩

/-- A loop over an image reader does not fail. -/
theorem exists_fill_eq_ok (r : ρ) (n : ℕ) : ∃ bs, (fill r n).1 = .ok bs := by
  induction r, n using fill.induct with
  | case1 r => exact ⟨[], by rw [fill_zero]⟩
  | case2 r n hn r' hread => exact ⟨[], by rw [fill_of_end hn hread]⟩
  | case3 r n hn b bs r' hread ih =>
    obtain ⟨rest, hrest⟩ := ih
    exact ⟨b :: bs ++ rest, by rw [fill_of_data hn hread, hrest]; rfl⟩
  | case4 r n hn r' hread ih => rwa [fill_of_interrupted hn hread]
  | case5 r n hn e r' hread => exact absurd hread read_ne_failed

/-- **A loop over an image reader reads the window it asks for**, however the
reader chops its data. -/
theorem fill_eq_window (r : ρ) (n : ℕ) :
    (fill r n).1 = .ok (window (image r) (cursor r) n) ∧ image (fill r n).2 = image r := by
  obtain ⟨bs, hbs⟩ := exists_fill_eq_ok r n
  obtain ⟨hwin, himg, -⟩ := (showsFrom_image (image r)).fill_eq_ok ⟨rfl, rfl⟩ hbs
  exact ⟨hbs.trans (congrArg Except.ok hwin), himg⟩

end Filling

/-! ### A reader over a buffer in memory -/

/-- A buffer with a position in it. -/
structure Cursor where
  /-- The buffer. -/
  bytes : Bytes
  /-- The position, which may be past the end. -/
  pos : ℕ
  /-- The buffer fits in memory. -/
  bytes_lt : bytes.length < 2 ^ 63

namespace Cursor

/-- A cursor at the start of a buffer. -/
def new (bytes : Bytes) (h : bytes.length < 2 ^ 63) : Cursor := ⟨bytes, 0, h⟩

/-- Move to an absolute target, refused if it is negative. -/
def moveTo (c : Cursor) (target : ℤ) : Except IoError ℕ × Cursor :=
  if target < 0 then
    (.error (.invalidInput "invalid seek to a negative or overflowing position"), c)
  else (.ok target.toNat, { c with pos := target.toNat })

theorem moveTo_natCast (c : Cursor) (n : ℕ) :
    c.moveTo n = (.ok n, { c with pos := n }) := by
  rw [moveTo, if_neg (by omega), Int.toNat_natCast]

instance : ImageReader Cursor where
  read c n :=
    (.data (window c.bytes c.pos n), { c with pos := c.pos + (window c.bytes c.pos n).length })
  seek c
    | .start o => c.moveTo o.toNat
    | .fromEnd o => c.moveTo (c.bytes.length + o.toInt)
    | .current o => c.moveTo (c.pos + o.toInt)
  patience _ := 0
  length_read_le := by
    intro c n bs c' h
    obtain ⟨rfl, -⟩ : window c.bytes c.pos n = bs ∧ _ := by simpa using h
    simp
  patience_lt := by
    intro c n c' h
    simp at h
  image := bytes
  cursor := pos
  image_lt := bytes_lt
  read_data := by
    intro c n bs c' h
    obtain ⟨rfl, rfl⟩ : window c.bytes c.pos n = bs ∧
        { c with pos := c.pos + (window c.bytes c.pos n).length } = c' := Prod.mk.inj h |>.imp_left
      ReadResult.data.inj
    refine ⟨?_, fun hnil => ?_, rfl, rfl⟩
    · rw [length_window]
      refine List.ext_getElem? fun i => ?_
      rw [getElem?_window, getElem?_window]
      by_cases hi : i < min n (c.bytes.length - c.pos)
      · rw [if_pos hi, if_pos (by omega)]
      · rw [if_neg hi]
        by_cases hin : i < n
        · rw [if_pos hin, List.getElem?_eq_none (by omega)]
        · rw [if_neg hin]
    · have hlen := congrArg List.length hnil
      rw [length_window, List.length_nil] at hlen
      omega
  read_interrupted := by
    intro c n c' h
    simp at h
  read_ne_failed := by
    intro c n e c' h
    simp at h
  seek_start c o := by
    change (c.moveTo (o.toNat : ℕ)).1 = _ ∧ (c.moveTo (o.toNat : ℕ)).2.bytes = _ ∧
      (c.moveTo (o.toNat : ℕ)).2.pos = _
    rw [moveTo_natCast]
    exact ⟨rfl, rfl, rfl⟩
  seek_fromEnd c := by
    change (c.moveTo ((c.bytes.length : ℤ) + (0 : Int64).toInt)).1 = _ ∧
      (c.moveTo ((c.bytes.length : ℤ) + (0 : Int64).toInt)).2.bytes = _
    rw [Int64.toInt_zero, add_zero, moveTo_natCast]
    exact ⟨rfl, rfl⟩

end Cursor

/-! ### A reader that chops -/

/-- A buffer that is read by a schedule: each read is interrupted, or returns at most so
many bytes and one more. After the schedule a read returns all it was asked for. -/
structure Chopped where
  /-- The buffer. -/
  cursor : Cursor
  /-- What the next reads do. -/
  schedule : List (Option ℕ)

namespace Chopped

/-- One read. -/
def read (c : Chopped) (n : ℕ) : ReadResult × Chopped :=
  match c.schedule with
  | [] => ((ReadSeek.read c.cursor n).1, { c with cursor := (ReadSeek.read c.cursor n).2 })
  | none :: rest => (.interrupted, { c with schedule := rest })
  | some k :: rest =>
      ((ReadSeek.read c.cursor (min n (k + 1))).1,
        ⟨(ReadSeek.read c.cursor (min n (k + 1))).2, rest⟩)

/-- What a read does: it is interrupted, or returns what the buffer gives for a part of
what was asked for. -/
theorem read_cases (c : Chopped) (n : ℕ) :
    (∃ rest, c.schedule = none :: rest ∧ c.read n = (.interrupted, ⟨c.cursor, rest⟩)) ∨
      ∃ k rest, k ≤ n ∧ (k = 0 → n = 0) ∧
        c.read n = ((ReadSeek.read c.cursor k).1, ⟨(ReadSeek.read c.cursor k).2, rest⟩) := by
  obtain ⟨cursor, schedule⟩ := c
  rcases schedule with _ | ⟨_ | k, rest⟩
  · exact Or.inr ⟨n, [], le_refl n, id, rfl⟩
  · exact Or.inl ⟨rest, rfl, rfl⟩
  · exact Or.inr ⟨min n (k + 1), rest, min_le_left _ _, by omega, rfl⟩

instance : ImageReader Chopped where
  read := read
  seek c pos :=
    ((ReadSeek.seek c.cursor pos).1, { c with cursor := (ReadSeek.seek c.cursor pos).2 })
  patience c := c.schedule.length
  length_read_le := by
    intro c n bs c' h
    rcases c.read_cases n with ⟨rest, -, hread⟩ | ⟨k, rest, hk, -, hread⟩
    · simp [hread] at h
    · obtain ⟨hbs, -⟩ := Prod.mk.inj (hread.symm.trans h)
      exact le_trans (ReadSeek.length_read_le (Prod.ext hbs rfl)) hk
  patience_lt := by
    intro c n c' h
    rcases c.read_cases n with ⟨rest, hschedule, hread⟩ | ⟨k, rest, -, -, hread⟩
    · obtain ⟨-, rfl⟩ := Prod.mk.inj (hread.symm.trans h)
      simp [hschedule]
    · obtain ⟨hbad, -⟩ := Prod.mk.inj (hread.symm.trans h)
      cases hbad
  image c := c.cursor.bytes
  cursor c := c.cursor.pos
  image_lt c := c.cursor.bytes_lt
  read_data := by
    intro c n bs c' h
    rcases c.read_cases n with ⟨rest, -, hread⟩ | ⟨k, rest, -, hk, hread⟩
    · simp [hread] at h
    · obtain ⟨hbs, rfl⟩ := Prod.mk.inj (hread.symm.trans h)
      obtain ⟨hwin, hend, himg, hcur⟩ := ImageReader.read_data (r := c.cursor) (Prod.ext hbs rfl)
      exact ⟨hwin, fun hnil => (hend hnil).imp_left hk, himg, hcur⟩
  read_interrupted := by
    intro c n c' h
    rcases c.read_cases n with ⟨rest, -, hread⟩ | ⟨k, rest, -, -, hread⟩
    · obtain ⟨-, rfl⟩ := Prod.mk.inj (hread.symm.trans h)
      exact ⟨rfl, rfl⟩
    · obtain ⟨hbad, -⟩ := Prod.mk.inj (hread.symm.trans h)
      cases hbad
  read_ne_failed := by
    intro c n e c' h
    rcases c.read_cases n with ⟨rest, -, hread⟩ | ⟨k, rest, -, -, hread⟩
    · simp [hread] at h
    · obtain ⟨hbad, -⟩ := Prod.mk.inj (hread.symm.trans h)
      cases hbad
  seek_start c o := ImageReader.seek_start c.cursor o
  seek_fromEnd c := ImageReader.seek_fromEnd c.cursor

end Chopped

end Basis
