import Luks.PayloadCalls
import Luks.Vfs

/-!
# The two views of a payload agree

A payload can be read at offsets through a source (`Luks.LuksSource`), or as a stream: by a
seek and a read. The two clip a read at the end of the payload each in its own way, and the
stream moves a position that the source has no use for. They give the same all the same
(`Luks.LuksSource.readAt_out`), and what was read before makes no difference to either
(`Luks.source_reads_eq_stream_reads`).
-/

namespace Luks

open Basis

variable {ρ : Type} [ImageReader ρ] (escaped : Char → Bool) (K : Crates)

/-- Read into a buffer at an offset, as a stream does: seek there, and read once. -/
def DecryptedPayload.seekRead (offset : UInt64) (buf : Bytes) :
    Exec (DecryptedPayload ρ) (ℕ × Bytes) := do
  let _ ← DecryptedPayload.seek (.start offset)
  DecryptedPayload.readInto K buf

section Source

variable {s : LuksSource ρ} {offset : UInt64} (buf : Bytes)

/-- A read of a source at or past the end writes nothing. -/
theorem LuksSource.readAt_of_le (h : s.len ≤ offset.toNat) :
    LuksSource.readAt escaped K offset buf s = ⟨.ok (0, buf), [], s⟩ := by
  rw [LuksSource.readAt, Prog.bind_apply]
  simp only [Prog.bind, Prog.get, id, Nat.sub_eq_zero_of_le h, if_true, Prog.pure_apply,
    List.append_nil]

/-- A read of a source before the end is a read of its payload, of what there is. -/
theorem LuksSource.readAt_of_lt (h : offset.toNat < s.len) :
    LuksSource.readAt escaped K offset buf s =
      (Prog.zoom LuksSource.inner (fun p s => { s with inner := p })
        (Prog.mapError (mapLuksErr escaped)
          (DecryptedPayload.readAt K offset (min buf.length (s.len - offset.toNat)))) >>=
        fun bs => pure (min buf.length (s.len - offset.toNat),
          bs ++ buf.drop (min buf.length (s.len - offset.toNat)))) s := by
  have havail : ¬s.len - offset.toNat = 0 := by omega
  have hslice : slice? buf 0 (min buf.length (s.len - offset.toNat)) =
      some (window buf 0 (min buf.length (s.len - offset.toNat))) :=
    slice?_of_le (Nat.zero_le _) (min_le_left _ _)
  have hlen : (window buf 0 (min buf.length (s.len - offset.toNat))).length =
      min buf.length (s.len - offset.toNat) := length_window_of_le (by omega)
  rw [LuksSource.readAt, Prog.bind_apply]
  simp only [Prog.bind, Prog.get, id, if_neg havail, hslice, hlen]
  rfl

end Source

section Stream

variable {p : DecryptedPayload ρ} {offset : UInt64} (buf : Bytes)

omit [ImageReader ρ] in
/-- A seek to an offset puts the position there. -/
theorem DecryptedPayload.seek_start : DecryptedPayload.seek (.start offset) p =
    ⟨.ok offset, [], p.movedTo p.reader offset⟩ := by
  rw [seek_apply, if_neg (by simp [File.target])]
  simp [File.target]

/-- A stream at or past the end reads nothing. -/
theorem DecryptedPayload.seekRead_of_le (h : p.payloadSize ≤ offset.toNat) :
    (DecryptedPayload.seekRead K offset buf p).out = .ok (0, buf) := by
  have hread : DecryptedPayload.read K buf.length (p.movedTo p.reader offset) =
      ⟨.ok [], [], p.movedTo p.reader offset⟩ := DecryptedPayload.read_of_le K _ h
  rw [seekRead, Prog.bind_of_ok (by rw [seek_start]), seek_start, readInto,
    Prog.bind_of_ok (by rw [hread])]
  rfl

/-- A stream before the end reads what there is at the offset. -/
theorem DecryptedPayload.seekRead_of_lt (h : offset.toNat < p.payloadSize) :
    (DecryptedPayload.seekRead K offset buf p).out =
      (DecryptedPayload.readAt K offset (min buf.length (p.payloadSize - offset.toNat)) p).out.map
        fun bs => (bs.length, bs ++ buf.drop bs.length) := by
  have hread : (DecryptedPayload.read K buf.length (p.movedTo p.reader offset)).out =
      (DecryptedPayload.readAt K offset (min buf.length (p.payloadSize - offset.toNat)) p).out := by
    rw [DecryptedPayload.read_of_lt K (p.movedTo p.reader offset) h,
      Prog.bind_out_of_keeps fun bs q => rfl]
    exact DecryptedPayload.MovedFrom.readAt_out K ⟨p.reader, offset, rfl, rfl⟩ offset _
  have hinto : DecryptedPayload.readInto (ρ := ρ) K buf =
      (fun bs => (bs.length, bs ++ buf.drop bs.length)) <$>
        DecryptedPayload.read K buf.length := (map_eq_pure_bind _ _).symm
  rw [seekRead, Prog.bind_of_ok (by rw [seek_start]), seek_start, hinto, Prog.map_apply, hread]

/-- What a seek and a read give does not depend on where the reader and the position are. -/
theorem DecryptedPayload.MovedFrom.seekRead_out {q : DecryptedPayload ρ} (h : p.MovedFrom q) :
    (DecryptedPayload.seekRead K offset buf p).out =
      (DecryptedPayload.seekRead K offset buf q).out := by
  rcases Nat.lt_or_ge offset.toNat q.payloadSize with hlt | hge
  · rw [seekRead_of_lt K buf hlt, seekRead_of_lt K buf (h.payloadSize_eq ▸ hlt), h.readAt_out,
      h.payloadSize_eq]
  · rw [seekRead_of_le K buf hge, seekRead_of_le K buf (h.payloadSize_eq ▸ hge)]

end Stream

/-! ### A source reads as a stream does -/

namespace LuksSource

/-- A source has the length of its payload. -/
def Sized (s : LuksSource ρ) : Prop := s.len = s.inner.payloadSize

variable {s : LuksSource ρ} {offset : UInt64} {buf : Bytes}

/-- **A read of a source** ends as a seek and a read of its payload do, the error put in the
terms of the file system. -/
theorem Sized.readAt_out (h : s.Sized) : (LuksSource.readAt escaped K offset buf s).out =
    (DecryptedPayload.seekRead K offset buf s.inner).out.mapError (mapLuksErr escaped) := by
  -- before the end both clip to the same length; at or past it neither touches the reader
  rcases Nat.lt_or_ge offset.toNat s.len with hlt | hge
  · rw [LuksSource.readAt_of_lt escaped K buf hlt,
      DecryptedPayload.seekRead_of_lt K buf (h ▸ hlt), ← h]
    have hzoom : (Prog.zoom LuksSource.inner (fun p s => { s with inner := p })
        (Prog.mapError (mapLuksErr escaped) (DecryptedPayload.readAt K offset
          (min buf.length (s.len - offset.toNat)))) s).out =
        (DecryptedPayload.readAt K offset (min buf.length (s.len - offset.toNat))
          s.inner).out.mapError (mapLuksErr escaped) := rfl
    cases hout : (DecryptedPayload.readAt K offset (min buf.length (s.len - offset.toNat))
      s.inner).out with
    | ok bs =>
      rw [hout] at hzoom
      rw [Prog.bind_of_ok hzoom, Prog.pure_apply, Outcome.map, Outcome.mapError,
        length_of_readAt K hout]
    | err e =>
      rw [hout] at hzoom
      rw [Prog.bind_of_err hzoom]
      rfl
    | panic q =>
      rw [hout] at hzoom
      rw [Prog.bind_of_panic hzoom]
      rfl
  · rw [LuksSource.readAt_of_le escaped K buf hge,
      DecryptedPayload.seekRead_of_le K buf (h ▸ hge)]
    rfl

/-- A read of a source that returns counts as many bytes as fit the buffer and there are. -/
theorem count_of_readAt {s : LuksSource ρ} {offset : UInt64} {buf out : Bytes} {count : ℕ}
    (h : (LuksSource.readAt escaped K offset buf s).out = .ok (count, out)) :
    count = min buf.length (s.len - offset.toNat) := by
  rcases Nat.lt_or_ge offset.toNat s.len with hlt | hge
  · rw [LuksSource.readAt_of_lt escaped K buf hlt] at h
    obtain ⟨bs, -, hbs⟩ := Prog.bind_out_eq_ok_iff.mp h
    exact (Prod.mk.inj (Outcome.ok.inj hbs)).1.symm
  · rw [LuksSource.readAt_of_le escaped K buf hge] at h
    rw [Nat.sub_eq_zero_of_le hge, Nat.min_zero]
    exact (Prod.mk.inj (Outcome.ok.inj h)).1.symm

/-- A read of a source moves the reader and the position of its payload, and leaves all
else. -/
theorem readAt_final (s : LuksSource ρ) (offset : UInt64) (buf : Bytes) :
    (LuksSource.readAt escaped K offset buf s).final.len = s.len ∧
      (LuksSource.readAt escaped K offset buf s).final.inner.MovedFrom s.inner := by
  rcases Nat.lt_or_ge offset.toNat s.len with hlt | hge
  · rw [LuksSource.readAt_of_lt escaped K buf hlt, Prog.bind_pure_final]
    exact ⟨rfl, DecryptedPayload.movedFrom_readAt K offset _⟩
  · rw [LuksSource.readAt_of_le escaped K buf hge]
    exact ⟨rfl, DecryptedPayload.MovedFrom.refl _⟩

/-- The source of a payload, after some reads of it. -/
structure Serves (s : LuksSource ρ) (p : DecryptedPayload ρ) : Prop where
  /-- It has the length of the payload. -/
  len_eq : s.len = p.payloadSize
  /-- The payload is where the reads have left it. -/
  moved : s.inner.MovedFrom p

theorem serves_new (p : DecryptedPayload ρ) : (LuksSource.new p).Serves p :=
  ⟨rfl, DecryptedPayload.MovedFrom.refl p⟩

theorem Serves.sized {p : DecryptedPayload ρ} (h : s.Serves p) : s.Sized := by
  rw [Sized, h.len_eq, h.moved.payloadSize_eq]

/-- One read of a source: what it gives, and the source after it. -/
def call (s : LuksSource ρ) (c : UInt64 × Bytes) :
    Outcome VfsError (ℕ × Bytes) × LuksSource ρ :=
  ((LuksSource.readAt escaped K c.1 c.2 s).out, (LuksSource.readAt escaped K c.1 c.2 s).final)

theorem Serves.call {p : DecryptedPayload ρ} (h : s.Serves p) (c : UInt64 × Bytes) :
    (s.call escaped K c).2.Serves p := by
  obtain ⟨hlen, hmoved⟩ := readAt_final escaped K s c.1 c.2
  exact ⟨hlen.trans h.len_eq, hmoved.trans h.moved⟩

theorem Serves.replies {p : DecryptedPayload ρ} (h : s.Serves p) (calls : List (UInt64 × Bytes)) :
    (replies (LuksSource.call escaped K) s calls).2.Serves p := by
  induction calls generalizing s with
  | nil => exact h
  | cons c calls ih => exact ih (h.call escaped K c)

/-- Reads of a source, one after the other, give what the stream of its payload gives for
each alone. -/
theorem Serves.replies_eq {p : DecryptedPayload ρ} (h : s.Serves p)
    (calls : List (UInt64 × Bytes)) : (Basis.replies (LuksSource.call escaped K) s calls).1 =
      calls.map fun c =>
        (DecryptedPayload.seekRead K c.1 c.2 p).out.mapError (mapLuksErr escaped) := by
  induction calls generalizing s with
  | nil => rfl
  | cons c calls ih =>
    have hread : (s.call escaped K c).1 =
        (DecryptedPayload.seekRead K c.1 c.2 p).out.mapError (mapLuksErr escaped) := by
      rw [LuksSource.call, h.sized.readAt_out, h.moved.seekRead_out]
    rw [Basis.replies, List.map_cons, hread, ih (h.call escaped K c)]

end LuksSource

/-- **The two views of a payload agree.** Every read of a source gives what a seek and a read
of the payload give – the count, the bytes and the rest of the buffer – and none depends on
the reads before it. -/
theorem source_reads_eq_stream_reads (p : DecryptedPayload ρ) (calls : List (UInt64 × Bytes)) :
    (replies (LuksSource.call escaped K) (LuksSource.new p) calls).1 =
        (calls.map fun c =>
          (DecryptedPayload.seekRead K c.1 c.2 p).out.mapError (mapLuksErr escaped)) ∧
      ∀ s, s = (replies (LuksSource.call escaped K) (LuksSource.new p) calls).2 →
        ∀ offset buf, (LuksSource.readAt escaped K offset buf s).out =
            (DecryptedPayload.seekRead K offset buf s.inner).out.mapError (mapLuksErr escaped) ∧
          (LuksSource.readAt escaped K offset buf s).out =
            (LuksSource.readAt escaped K offset buf (LuksSource.new p)).out := by
  refine ⟨(LuksSource.serves_new p).replies_eq escaped K calls, ?_⟩
  rintro s rfl offset buf
  have hserves := (LuksSource.serves_new p).replies escaped K calls
  refine ⟨hserves.sized.readAt_out escaped K, ?_⟩
  rw [hserves.sized.readAt_out, (LuksSource.serves_new p).sized.readAt_out,
    hserves.moved.seekRead_out]
  rfl

end Luks
