import Luks.Machine

/-!
# Reading a container

The two ways the code reads: `Luks.readFill` insists on every byte it asks for, and
`Luks.readAvailable` takes what there is and fills the rest with zeros. Both follow
a seek, so both are functions of the image alone, whatever reader presents it
(`Luks.readFillAt_follows`, `Luks.readAvailableAt_follows`).
-/

namespace Luks

open Basis

section Programs

variable {ρ : Type} [ReadSeek ρ]

/-- Move the cursor of the reader. -/
def seekTo (pos : SeekFrom) : Exec ρ ℕ := fun r =>
  ⟨.ofExcept ((ReadSeek.seek r pos).1.mapError .io), [], (ReadSeek.seek r pos).2⟩

/-- Read until a buffer of `n` bytes is full or the reader has ended. -/
def readUpTo (n : ℕ) : Exec ρ Bytes := fun r =>
  ⟨.ofExcept ((fill r n).1.mapError .io), [], (fill r n).2⟩

/-- Read exactly `n` bytes. -/
def readFill (n : ℕ) : Exec ρ Bytes := do
  let bs ← readUpTo n
  -- `read_exact`: the stream ended before the buffer was full
  if bs.length < n then Prog.throw (.io .unexpectedEof) else return bs

/-- `bs` filled up with zeros to `n` bytes. -/
def zeroFill (bs : Bytes) (n : ℕ) : Bytes := bs ++ List.replicate (n - bs.length) 0

/-- Read up to `n` bytes and fill the remainder with zeros: the number of bytes
read, and the buffer. -/
def readAvailable (n : ℕ) : Exec ρ (ℕ × Bytes) := do
  let bs ← readUpTo n
  return (bs.length, zeroFill bs n)

/-- Seek, and read exactly `n` bytes. -/
def readFillAt (o : UInt64) (n : ℕ) : Exec ρ Bytes := do
  let _ ← seekTo (.start o)
  readFill n

/-- Seek, and read up to `n` bytes. -/
def readAvailableAt (o : UInt64) (n : ℕ) : Exec ρ (ℕ × Bytes) := do
  let _ ← seekTo (.start o)
  readAvailable n

end Programs

@[simp] theorem length_zeroFill {bs : Bytes} {n : ℕ} (h : bs.length ≤ n) :
    (zeroFill bs n).length = n := by
  rw [zeroFill, List.length_append, List.length_replicate]
  omega

theorem zeroFill_of_length {bs : Bytes} {n : ℕ} (h : bs.length = n) : zeroFill bs n = bs := by
  rw [zeroFill, h, Nat.sub_self, List.replicate_zero, List.append_nil]

/-- The bytes of a window filled up with zeros. -/
theorem getElem?_zeroFill_window (img : Bytes) (o n i : ℕ) :
    (zeroFill (window img o n) n)[i]? = if i < n then some (img[o + i]?.getD 0) else none := by
  have hlen := length_window img o n
  rw [zeroFill]
  rcases Nat.lt_or_ge i (window img o n).length with hlt | hge
  · rw [List.getElem?_append_left hlt, getElem?_window, if_pos (by omega), if_pos (by omega),
      List.getElem?_eq_getElem (by omega)]
    rfl
  · rw [List.getElem?_append_right hge, List.getElem?_replicate]
    by_cases hi : i < n
    · rw [if_pos (by omega), if_pos hi, List.getElem?_eq_none (by omega)]
      rfl
    · rw [if_neg (by omega), if_neg hi]

/-- A window of an image, filled up with zeros where the image has ended. -/
@[simp] theorem length_zeroFill_window (img : Bytes) (o n : ℕ) :
    (zeroFill (window img o n) n).length = n := by
  refine length_zeroFill ?_
  rw [length_window]
  omega

namespace Spec

/-- The `n` bytes at `o`, if the image has them. -/
def readFill (img : Bytes) (o n : ℕ) : Except LuksError Bytes :=
  if (window img o n).length < n then .error (.io .unexpectedEof) else .ok (window img o n)

theorem readFill_of_le {img : Bytes} {o n : ℕ} (h : o + n ≤ img.length) :
    readFill img o n = .ok (window img o n) := by
  rw [readFill, if_neg]
  rw [length_window_of_le h]
  omega

/-- What is read at the front of an image that has that much. -/
theorem readFill_front {img : Bytes} {n : ℕ} (h : n ≤ img.length) :
    readFill img 0 n = .ok (window img 0 n) :=
  readFill_of_le (by simpa using h)

theorem readFill_of_gt {img : Bytes} {o n : ℕ} (hn : 0 < n) (h : img.length < o + n) :
    readFill img o n = .error (.io .unexpectedEof) := by
  rw [readFill, if_pos]
  rw [length_window]
  omega

/-- What was read exactly is a window inside the image. -/
theorem readFill_eq_ok {img bs : Bytes} {o n : ℕ} (h : readFill img o n = .ok bs) :
    bs = window img o n ∧ (window img o n).length = n := by
  rw [readFill] at h
  split_ifs at h with hlen
  refine ⟨(Except.ok.inj h).symm, ?_⟩
  rw [length_window] at hlen ⊢
  omega

end Spec

/-! ### Reading an image -/

section Following

variable {ρ : Type} [ImageReader ρ] {img : Bytes} {G : LuksError → Prop} {E : Event → Prop}

/-- A reader that presents the bytes `img`. -/
def Presents (img : Bytes) (r : ρ) : Prop := ImageReader.image r = img

/-- A reader that presents the bytes `img` and stands at `o`. -/
def PresentsFrom (img : Bytes) (o : ℕ) (r : ρ) : Prop := Presents img r ∧ ImageReader.cursor r = o

/-- Seeking from the start: the reader stands there afterwards. -/
theorem seekTo_start (o : UInt64) :
    Triple (Presents img) (seekTo (ρ := ρ) (.start o))
      (fun out r => out = .ok o.toNat ∧ PresentsFrom img o.toNat r) E := by
  rintro r rfl
  obtain ⟨hok, himg, hcur⟩ := ImageReader.seek_start r o
  refine ⟨⟨?_, himg, hcur⟩, by simp [seekTo]⟩
  simp only [seekTo, hok]
  rfl

theorem seekTo_start_follows (o : UInt64) :
    Triple (Presents img) (seekTo (ρ := ρ) (.start o))
      (Follows (Presents img) G (.ok o.toNat)) E :=
  (seekTo_start o).post fun _ _ h => ⟨h.2.1, Or.inl h.1⟩

/-- Seeking to the end tells the size of the image. -/
theorem seekTo_end :
    Triple (Presents img) (seekTo (ρ := ρ) (.fromEnd 0))
      (Follows (Presents img) G (.ok img.length)) E := by
  rintro r rfl
  obtain ⟨hok, himg⟩ := ImageReader.seek_fromEnd r
  refine ⟨⟨himg, Or.inl ?_⟩, by simp [seekTo]⟩
  simp only [seekTo, hok]
  rfl

theorem readUpTo_follows (o n : ℕ) :
    Triple (PresentsFrom img o) (readUpTo (ρ := ρ) n)
      (Follows (Presents img) G (.ok (window img o n))) E := by
  rintro r ⟨rfl, rfl⟩
  obtain ⟨hok, himg⟩ := fill_eq_window r n
  refine ⟨⟨himg, Or.inl ?_⟩, by simp [readUpTo]⟩
  simp only [readUpTo, hok]
  rfl

/-- What follows a seek starts where it went. -/
theorem bind_seekTo_follows {α : Type} {m : Exec ρ α} {x : Except LuksError α} (o : UInt64)
    (h : Triple (PresentsFrom img o.toNat) m (Follows (Presents img) G x) E) :
    Triple (Presents img) (seekTo (.start o) >>= fun _ => m) (Follows (Presents img) G x) E := by
  refine Triple.bind (seekTo_start o) (fun n => h.pre fun r hr => hr.2) ?_ ?_
  · rintro e r ⟨h, -⟩
    cases h
  · rintro p r ⟨h, -⟩
    cases h

/-- Reading exactly, where reading until the end gives a window. -/
theorem readFill_follows {ρ : Type} [ReadSeek ρ] {P I : ρ → Prop} {o n : ℕ}
    (h : Triple P (readUpTo n) (Follows I G (.ok (window img o n))) E) :
    Triple P (readFill n) (Follows I G (Spec.readFill img o n)) E := by
  refine Triple.bind_ok_follows h ?_
  rw [Spec.readFill]
  split_ifs
  · exact Triple.throw_follows
  · exact Triple.pure_follows

/-- **Reading exactly `n` bytes** gives the window of the image, or names its end. -/
theorem readFillAt_follows (o : UInt64) (n : ℕ) :
    Triple (Presents img) (readFillAt (ρ := ρ) o n)
      (Follows (Presents img) G (Spec.readFill img o.toNat n)) E :=
  bind_seekTo_follows o (readFill_follows (readUpTo_follows o.toNat n))

theorem ofExcept_mapError_eq_ok_iff {α : Type} {x : Except IoError α} {a : α} :
    Outcome.ofExcept (x.mapError LuksError.io) = .ok a ↔ x = .ok a := by
  cases x with
  | ok b => simp [Except.mapError]
  | error e => simp [Except.mapError]

/-- **Reading what there is** gives the window of the image, filled with zeros. -/
theorem readAvailableAt_follows (o : UInt64) (n : ℕ) :
    Triple (Presents img) (readAvailableAt (ρ := ρ) o n) (Follows (Presents img) G
      (.ok ((window img o.toNat n).length, zeroFill (window img o.toNat n) n))) E :=
  bind_seekTo_follows o (Triple.bind_sure (readUpTo_follows o.toNat n) Triple.pure_follows)

/-- A buffer that is filled up with zeros has its length, whatever was read. -/
theorem readAvailableAt_gives {ρ : Type} [ReadSeek ρ] (o : UInt64) (n : ℕ) :
    Gives (fun ct : ℕ × Bytes => ct.2.length = n) (readAvailableAt (ρ := ρ) o n) := by
  have hread : Gives (fun bs => bs.length ≤ n) (readUpTo (ρ := ρ) n) :=
    fun r bs h => length_le_of_fill (ofExcept_mapError_eq_ok_iff.mp h)
  exact Gives.bind_right fun _ => hread.bind fun bs hle => Gives.pure (length_zeroFill hle)

/-- Reading leaves nothing. -/
theorem leaves_seekTo {ρ : Type} [ReadSeek ρ] (pos : SeekFrom) :
    Leaves E (seekTo pos : Exec ρ ℕ) := fun _ _ => ⟨trivial, by simp [seekTo]⟩

theorem leaves_readUpTo {ρ : Type} [ReadSeek ρ] (n : ℕ) : Leaves E (readUpTo n : Exec ρ Bytes) :=
  fun _ _ => ⟨trivial, by simp [readUpTo]⟩

theorem leaves_readFillAt {ρ : Type} [ReadSeek ρ] (o : UInt64) (n : ℕ) :
    Leaves E (readFillAt o n : Exec ρ Bytes) := by
  refine (leaves_seekTo _).bind fun _ => (leaves_readUpTo n).bind fun bs => ?_
  split_ifs
  · exact Leaves.throw _
  · exact Leaves.pure _

theorem leaves_readAvailableAt {ρ : Type} [ReadSeek ρ] (o : UInt64) (n : ℕ) :
    Leaves E (readAvailableAt o n : Exec ρ (ℕ × Bytes)) :=
  (leaves_seekTo _).bind fun _ => (leaves_readUpTo n).bind fun _ => Leaves.pure _

end Following

/-! ### Reading what may fail -/

section Failing

variable {ρ : Type} [ReadSeek ρ] {img : Bytes}

/-- A seek that returns keeps what the reader shows, and goes where it says. -/
theorem seekTo_returns (o : UInt64) : Returns (Shows img) (seekTo (ρ := ρ) (.start o))
    fun _ r => ∃ stands, ShowsFrom img stands ∧ stands r o.toNat := by
  rintro r ⟨stands, hshows, c, hr⟩ p h
  exact ⟨stands, hshows, hshows.seek_start hr (ofExcept_mapError_eq_ok_iff.mp h)⟩

/-- **Reading exactly `n` bytes** gives the window of what the reader shows, if it gives
anything. -/
theorem readFillAt_returns (o : UInt64) (n : ℕ) : Returns (Shows img) (readFillAt (ρ := ρ) o n)
    fun bs r => Spec.readFill img o.toNat n = .ok bs ∧ Shows img r := by
  refine (seekTo_returns o).bind fun _ => Returns.bind (Q := fun bs r =>
    bs = window img o.toNat n ∧ Shows img r) ?_ fun bs => ?_
  · rintro r ⟨stands, hshows, hr⟩ bs h
    obtain ⟨hbs, hstands⟩ := hshows.fill_eq_ok hr (ofExcept_mapError_eq_ok_iff.mp h)
    exact ⟨hbs, stands, hshows, _, hstands⟩
  · rintro r ⟨rfl, hr⟩ bs h
    rw [Spec.readFill]
    split_ifs at h ⊢ with hshort
    · cases h
    · obtain rfl := Outcome.ok.inj h
      exact ⟨rfl, hr⟩

end Failing

end Luks
