import Luks.Basis.File
import Luks.Payload
import Luks.Tables

/-!
# The payload is a read-only file

An unlocked payload answers the calls of a read-only file (`Basis.File`) whose
contents are the payload decrypted as a whole. The link is a fact about single units:
decrypting the payload in one go and decrypting one unit of it give the same bytes at
the same place (`Luks.Spec.decrypts_of_bulk`). A read walks over the units of
its range and puts their parts together (`Luks.Spec.readUnits_eq_window`), and the
three calls share nothing but the reader, whose own cursor each of them sets anew.
-/

namespace Luks

open Basis

variable (K : Crates)

namespace Spec

/-- `P` is what the units of a payload decrypt to, as far as `P` goes. -/
structure Decrypts (p : DecryptedPayload Bytes) (P : Bytes) (k : ℕ) : Prop where
  /-- `P` is a whole number of units. -/
  length_eq : P.length = k * p.unitSize
  /-- Each unit decrypts to its part of `P`. -/
  unit : ∀ u < k, decryptedUnit K p u = .ok (window P (u * p.unitSize) p.unitSize)

variable {K} {p : DecryptedPayload Bytes} {P : Bytes} {k : ℕ}

/-- **Reading goes over the units of the range**, and gives that part of the
plaintext. -/
theorem readUnits_eq_window (h : Decrypts K p P k) {offset len : ℕ}
    (hrange : offset + len ≤ P.length) (done : ℕ) :
    readUnits K p offset len done = .ok (window P (offset + done) (len - done)) := by
  have hpos := p.unitSize_pos
  -- the window of the plaintext shrinks from the front
  induction done using p.loop_induct len with
  | stop done hdone =>
    rw [readUnits, dif_pos hdone, show len - done = 0 by omega, window_zero_right]
  | pass done hdone ih =>
    have htake := p.take_pos (offset + done) (Nat.not_le_of_lt hdone)
    have hunit : (offset + done) / p.unitSize < k := by
      rw [Nat.div_lt_iff_lt_mul hpos, ← h.length_eq]
      omega
    have hdecomp : (offset + done) / p.unitSize * p.unitSize + (offset + done) % p.unitSize =
        offset + done := by
      rw [Nat.mul_comm]
      exact Nat.div_add_mod _ _
    have hmod := Nat.mod_lt (offset + done) hpos
    rw [readUnits, dif_neg (Nat.not_le_of_lt hdone), h.unit _ hunit]
    dsimp only
    change (readUnits K p offset len _ >>= _) = _
    rw [ih]
    change Except.ok _ = _
    rw [window_window _ (by omega), hdecomp, ← Nat.add_assoc, window_append]
    congr 2
    omega

/-- Decrypting whole units keeps the length. -/
theorem length_of_xtsDecryptArea_eq_ok {cipherMode : String} {key buffer out : Bytes}
    {unitSize base : ℕ} (hunit : 0 < unitSize) (hlen : buffer.length = k * unitSize)
    (h : xtsDecryptArea K cipherMode key buffer unitSize base = .ok out) :
    out.length = k * unitSize := by
  obtain ⟨-, dec, hdec, rfl⟩ := (xtsDecryptArea_eq_ok_iff K).mp h
  refine length_mapUnits hunit hlen fun u c hc => ?_
  rw [length_decryptUnit (length_of_xtsCipher K hdec), hc]

/-- **One unit of a whole payload**: decrypting the first units of a payload in one go
and decrypting unit `u` of it give the same bytes at the same place. -/
theorem decrypts_of_bulk {n : ℕ} (hsize : n = k * p.unitSize)
    (hfit : p.payloadOffset.toNat + n ≤ p.reader.length)
    (hbulk : xtsDecryptArea K p.cipherMode p.masterKey
      (window p.reader p.payloadOffset.toNat n) p.unitSize p.ivTweak.toNat = .ok P) :
    Decrypts K p P k := by
  have hpos := p.unitSize_pos
  have hge : ¬p.unitSize < 16 := not_lt_of_ge (le_trans (by omega) p.sector_le)
  have hlen : (window p.reader p.payloadOffset.toNat n).length = k * p.unitSize := by
    rw [length_window_of_le hfit, hsize]
  have hlenP := length_of_xtsDecryptArea_eq_ok hpos hlen hbulk
  obtain ⟨hmode, dec, hdec, rfl⟩ := (xtsDecryptArea_eq_ok_iff K).mp hbulk
  have hmap : ∀ base u c, c.length = p.unitSize →
      (decryptUnit dec base (tweakStep p.unitSize) u c).length = p.unitSize := by
    intro base u c hc
    rw [length_decryptUnit (length_of_xtsCipher K hdec), hc]
  refine ⟨hlenP, fun u hu => ?_⟩
  have hmul : u * p.unitSize + p.unitSize ≤ n := by
    have := Nat.mul_le_mul_right p.unitSize hu
    rw [Nat.succ_mul] at this
    omega
  have hwin : window (window p.reader p.payloadOffset.toNat n) (u * p.unitSize)
      p.unitSize = window p.reader (p.payloadOffset.toNat + u * p.unitSize) p.unitSize :=
    window_window _ hmul
  have hunit : (window p.reader (p.payloadOffset.toNat + u * p.unitSize) p.unitSize).length =
      p.unitSize := length_window_of_le (by omega)
  -- a unit of the bulk, with its number in the tweak, is that unit by itself
  have hbulkUnit := window_mapUnits (f := decryptUnit dec p.ivTweak.toNat (tweakStep p.unitSize))
    (w := 0) (m := p.unitSize) hpos hlen (hmap _) hu (by omega)
  rw [Nat.add_zero, hwin] at hbulkUnit
  rw [decryptedUnit, zeroFill_of_length hunit, (xtsDecryptArea_eq_ok_iff K).mpr
    ⟨hmode, dec, hdec, rfl⟩, decryptUnits, decryptUnits, hbulkUnit,
    mapUnits_of_length hpos hunit, window_of_length (hmap p.ivTweak.toNat u _ hunit)]
  rw [decryptUnit, decryptUnit, hunit, if_neg hge, if_neg hge, Nat.zero_mul, Nat.add_zero]

end Spec

/-! ### Runs of the three calls -/

namespace DecryptedPayload

/-- The same payload over another reader, at another position. -/
def movedTo {τ : Type} (p : DecryptedPayload τ) (r : τ) (pos : UInt64) : DecryptedPayload τ :=
  { p with reader := r, position := pos }

/-- Put the position at `n`. -/
def advance {τ : Type} (n : ℕ) : Exec (DecryptedPayload τ) Unit :=
  Prog.modify fun p => { p with position := UInt64.ofNat n }

section Runs

variable {ρ : Type} [ReadSeek ρ] (p : DecryptedPayload ρ)

/-- A read at an offset runs on the reader, and leaves everything else alone. -/
theorem readAt_apply (offset : UInt64) (len : ℕ) : readAt K offset len p =
    ⟨(p.readUnits K offset.toNat len 0 p.reader).out,
      (p.readUnits K offset.toNat len 0 p.reader).events,
      p.movedTo (p.readUnits K offset.toNat len 0 p.reader).final p.position⟩ := rfl

/-- A sequential read at or past the end reads nothing. -/
theorem read_of_le {len : ℕ} (h : p.payloadSize ≤ p.position.toNat) :
    read K len p = ⟨.ok [], [], p⟩ := by
  rw [read, Prog.bind_apply]
  simp only [Prog.bind, Prog.get, id, if_pos h, Prog.pure_apply, List.append_nil]

/-- A sequential read before the end is a read at the position, after which the position
advances – if it returned. -/
theorem read_of_lt {len : ℕ} (h : p.position.toNat < p.payloadSize) : read K len p =
    (readAt K p.position (min len (p.payloadSize - p.position.toNat)) >>= fun bs =>
      advance (p.position.toNat + min len (p.payloadSize - p.position.toNat)) >>= fun _ =>
        pure bs) p := by
  have hlt := p.payloadSize_lt
  have hadd : p.position.toNat + min len (p.payloadSize - p.position.toNat) < 2 ^ 64 := by omega
  rw [read, Prog.bind_apply]
  simp only [Prog.bind, Prog.get, id, if_neg (Nat.not_le_of_lt h), addU64_of_lt hadd, pure_bind]
  rfl

/-- **A read that fails leaves the position alone.** -/
theorem position_of_read_err {len : ℕ} {e : LuksError} (h : (read K len p).out = .err e) :
    (read K len p).final.position = p.position := by
  rcases Nat.lt_or_ge p.position.toNat p.payloadSize with hlt | hge
  · rw [read_of_lt K p hlt] at h ⊢
    cases hout : (readAt K p.position (min len (p.payloadSize - p.position.toNat)) p).out with
    | ok bs =>
      rw [Prog.bind_of_ok hout] at h
      cases h
    | err e' => rw [Prog.bind_of_err hout, readAt_apply, movedTo]
    | panic q => rw [Prog.bind_of_panic hout, readAt_apply, movedTo]
  · rw [read_of_le K p hge]

end Runs

section Seeking

variable {ρ : Type} (p : DecryptedPayload ρ)

/-- A seek moves the position to its target, cut to 64 bits, unless that is
negative. -/
theorem seek_apply (pos : SeekFrom) : seek pos p =
    if File.target p.payloadSize p.position.toNat pos < 0 then
      ⟨.err (.io (.invalidInput "seek before start")), [], p⟩
    else
      ⟨.ok (UInt64.ofNat (File.target p.payloadSize p.position.toNat pos).toNat), [],
        p.movedTo p.reader
          (UInt64.ofNat (File.target p.payloadSize p.position.toNat pos).toNat)⟩ := by
  have hseek : seek pos p =
      (if File.target p.payloadSize p.position.toNat pos < 0 then
        Prog.throw (.io (.invalidInput "seek before start"))
      else
        advance (File.target p.payloadSize p.position.toNat pos).toNat >>= fun _ =>
          pure (UInt64.ofNat (File.target p.payloadSize p.position.toNat pos).toNat) :
        Exec (DecryptedPayload ρ) UInt64) p := by
    cases pos <;> rfl
  rw [hseek]
  split_ifs <;> rfl

/-- A seek that fails leaves the position alone. -/
theorem position_of_seek_err {pos : SeekFrom} {e : LuksError} (h : (seek pos p).out = .err e) :
    (seek pos p).final.position = p.position := by
  rw [seek_apply] at h ⊢
  split_ifs at h ⊢
  rfl

end Seeking

section Reading

variable {ρ : Type} [ImageReader ρ] {K} {p : DecryptedPayload ρ} {img P : Bytes} {k : ℕ}

/-- The payload of an image, as far as reading it is concerned: it lies in the image,
its units decrypt to `P`, and each has a tweak. -/
structure Shows (K : Crates) (p : DecryptedPayload ρ) (img P : Bytes) (k : ℕ) : Prop where
  /-- The reader presents the image. -/
  presents : Presents img p.reader
  /-- The plaintext, if there is any, is inside it. -/
  fits : 0 < P.length → p.payloadOffset.toNat + P.length ≤ img.length
  /-- The units decrypt to `P`. -/
  decrypts : Spec.Decrypts K (p.map fun _ => img) P k
  /-- The units have tweaks. -/
  tweak : ∀ u < k, p.ivTweak.toNat + u * tweakStep p.unitSize < 2 ^ 128

theorem Shows.movedTo (h : Shows K p img P k) {r : ρ} (hr : Presents img r) (pos : UInt64) :
    Shows K (p.movedTo r pos) img P k :=
  ⟨hr, h.fits, ⟨h.decrypts.length_eq, h.decrypts.unit⟩, h.tweak⟩

/-- The units of a range inside the plaintext are read off it. -/
theorem Shows.readUnits (h : Shows K p img P k) {offset len : ℕ}
    (hrange : offset + len ≤ P.length) :
    (p.readUnits K offset len 0 p.reader).out = .ok (window P offset len) ∧
      Presents img (p.readUnits K offset len 0 p.reader).final := by
  have hlt : img.length < 2 ^ 63 := h.presents ▸ ImageReader.image_lt p.reader
  have hlen : P.length = k * p.unitSize := h.decrypts.length_eq
  have hfits := h.fits
  have hspec := Spec.readUnits_eq_window h.decrypts hrange 0
  -- an empty read looks at no unit, and has no bound to keep
  rcases Nat.eq_zero_or_pos len with rfl | hpos
  · rw [DecryptedPayload.readUnits, dif_pos (le_refl 0), window_zero_right]
    exact ⟨rfl, h.presents⟩
  · have hunits : ∀ u, u * p.unitSize < offset + len → u < k := by
      intro u hu
      exact Nat.lt_of_mul_lt_mul_right (a := p.unitSize) (by omega)
    have hk : 0 < k := hunits 0 (by omega)
    have hss : p.unitSize ≤ isizeMax := by
      have := Nat.mul_le_mul_right p.unitSize hk
      have := hfits (by omega)
      rw [isizeMax]
      omega
    have hfit : p.payloadOffset.toNat + offset + len < 2 ^ 64 := by
      have := hfits (by omega)
      omega
    obtain ⟨hout, himg⟩ := (readUnits_follows (E := fun _ => True) K p hfit hss
      (fun u hu => h.tweak u (hunits u hu)) trivial (fun _ _ => trivial) (fun _ _ => trivial)
      0).sure h.presents
    rw [hspec] at hout
    exact ⟨by simpa using hout, himg⟩

/-- **A read inside the plaintext** gives that part of it. -/
theorem Shows.readAt (h : Shows K p img P k) {offset : UInt64} {len : ℕ}
    (hrange : offset.toNat + len ≤ P.length) :
    (DecryptedPayload.readAt K offset len p).out = .ok (window P offset.toNat len) := by
  rw [readAt_apply]
  exact (h.readUnits hrange).1

end Reading

/-! ### Any sequence of calls -/

/-- One call on a payload, as a file answers it. -/
def call {ρ : Type} [ReadSeek ρ] (K : Crates) (p : DecryptedPayload ρ) :
    File.Call → File.Reply × DecryptedPayload ρ
  | .readAt offset n =>
      (.ofOutcome .bytes (readAt K offset n p).out, (readAt K offset n p).final)
  | .read n => (.ofOutcome .bytes (read K n p).out, (read K n p).final)
  | .seek pos =>
      (.ofOutcome (fun n => .position n.toNat) (seek pos p).out, (seek pos p).final)

section Refinement

variable {ρ : Type} [ImageReader ρ] {K} {p : DecryptedPayload ρ} {img P : Bytes} {k : ℕ}
  {f : File}

/-- A payload stands for a file: it shows its contents, has its size, and is at its
position. -/
structure StandsFor (K : Crates) (img : Bytes) (k : ℕ) (p : DecryptedPayload ρ) (f : File) :
    Prop where
  /-- The payload shows the contents. -/
  shows_contents : Shows K p img f.contents k
  /-- It has their size. -/
  size_eq : p.payloadSize = f.contents.length
  /-- It is at the position of the file. -/
  pos_eq : f.pos = p.position.toNat

theorem StandsFor.call_readAt (h : StandsFor K img k p f) {offset : UInt64} {n : ℕ}
    (hlegal : File.Legal f (.readAt offset n)) :
    (p.call K (.readAt offset n)).1 = (f.step (.readAt offset n)).1 ∧
      StandsFor K img k (p.call K (.readAt offset n)).2 (f.step (.readAt offset n)).2 := by
  obtain ⟨hout, himg⟩ := h.shows_contents.readUnits hlegal
  refine ⟨?_, ?_⟩
  · rw [call, h.shows_contents.readAt hlegal]
    rfl
  · rw [call, readAt_apply]
    exact ⟨h.shows_contents.movedTo himg _, h.size_eq, h.pos_eq⟩

theorem StandsFor.call_read (h : StandsFor K img k p f) (n : ℕ) :
    (p.call K (.read n)).1 = (f.step (.read n)).1 ∧
      StandsFor K img k (p.call K (.read n)).2 (f.step (.read n)).2 := by
  have hpos := h.pos_eq
  have hsize := h.size_eq
  -- at or past the end nothing is read, and the position stays
  rcases Nat.lt_or_ge p.position.toNat p.payloadSize with hlt | hge
  · have hlt64 := p.payloadSize_lt
    have hrange : p.position.toNat + min n (p.payloadSize - p.position.toNat) ≤
        f.contents.length := by omega
    have hread := h.shows_contents.readAt hrange
    obtain ⟨-, himg⟩ := h.shows_contents.readUnits hrange
    have hrun : read K n p = _ := read_of_lt K p hlt
    rw [Prog.bind_of_ok hread, readAt_apply] at hrun
    refine ⟨?_, ?_⟩
    · rw [call, hrun, hsize, window_min, File.step, hpos]
      rfl
    · rw [call, hrun, File.step]
      refine ⟨h.shows_contents.movedTo himg _, hsize, ?_⟩
      change f.pos + min n (f.contents.length - f.pos) =
        (UInt64.ofNat (p.position.toNat + min n (p.payloadSize - p.position.toNat))).toNat
      rw [UInt64.toNat_ofNat_of_lt' (lt_of_le_of_lt (b := p.payloadSize) (by omega) hlt64), hpos,
        hsize]
  · rw [call, read_of_le K p hge, File.step, window_of_length_le n (by omega)]
    refine ⟨rfl, h.shows_contents, hsize, ?_⟩
    dsimp only
    omega

theorem StandsFor.call_seek (h : StandsFor K img k p f) {dest : SeekFrom}
    (hlegal : File.Legal f (.seek dest)) :
    (p.call K (.seek dest)).1 = (f.step (.seek dest)).1 ∧
      StandsFor K img k (p.call K (.seek dest)).2 (f.step (.seek dest)).2 := by
  have hlt : File.target f.contents.length f.pos dest < 2 ^ 64 := hlegal
  rw [call, seek_apply, File.step, h.size_eq, ← h.pos_eq]
  split_ifs with hneg
  · exact ⟨rfl, h⟩
  · have hnat : (UInt64.ofNat (File.target f.contents.length f.pos dest).toNat).toNat =
        (File.target f.contents.length f.pos dest).toNat :=
      UInt64.toNat_ofNat_of_lt' (show _ < 2 ^ 64 by omega)
    refine ⟨?_, h.shows_contents.movedTo h.shows_contents.presents _, h.size_eq, hnat.symm⟩
    simp only [File.Reply.ofOutcome, hnat]

/-- **Every legal call is answered as the file answers it**, and leaves the payload
standing for the file. -/
theorem StandsFor.call (h : StandsFor K img k p f) (c : File.Call) (hlegal : File.Legal f c) :
    (p.call K c).1 = (f.step c).1 ∧ StandsFor K img k (p.call K c).2 (f.step c).2 := by
  cases c with
  | readAt offset n => exact h.call_readAt hlegal
  | read n => exact h.call_read n
  | seek dest => exact h.call_seek hlegal

/-- The payload of an image decrypted in one go, by the code. -/
def decryptWhole {τ : Type} (K : Crates) (img : Bytes) (p : DecryptedPayload τ) :
    Exec Unit Bytes :=
  xtsDecryptArea K p.cipherMode p.masterKey (window img p.payloadOffset.toNat p.payloadSize)
    p.unitSize p.ivTweak.toNat

/-- **Decrypting the payload in one go shows the contents** of the file it stands
for. -/
theorem standsFor_of_bulk (hsize : p.payloadSize = k * p.unitSize)
    (htotal : p.totalSize.toNat = (ImageReader.image p.reader).length) {P : Bytes}
    (hbulk : (decryptWhole K (ImageReader.image p.reader) p ()).out = .ok P) :
    StandsFor K (ImageReader.image p.reader) k p ⟨P, p.position.toNat⟩ := by
  have hsector : 16 ≤ p.unitSize := le_trans (by omega) p.sector_le
  have hlen : (window (ImageReader.image p.reader) p.payloadOffset.toNat p.payloadSize).length =
      k * p.unitSize := by
    rw [length_window, ← htotal, payloadSize, min_self, ← hsize, payloadSize]
  obtain ⟨hspec, htweak⟩ := xtsDecryptArea_eq_ok K hsector hlen hbulk
  have hP := Spec.length_of_xtsDecryptArea_eq_ok p.unitSize_pos hlen hspec
  -- an empty payload may start past the end of the image
  have hfit : 0 < P.length →
      p.payloadOffset.toNat + p.payloadSize ≤ (ImageReader.image p.reader).length := by
    intro hpos
    rw [hP, ← hsize, payloadSize] at hpos
    rw [payloadSize]
    omega
  have hdecrypts : Spec.Decrypts K (p.map fun _ => ImageReader.image p.reader) P k := by
    rcases Nat.eq_zero_or_pos k with rfl | hpos
    · exact ⟨hP, fun u hu => absurd hu (Nat.not_lt_zero u)⟩
    · refine Spec.decrypts_of_bulk hsize (hfit ?_) hspec
      rw [hP]
      exact Nat.mul_pos hpos p.unitSize_pos
  rw [← hsize] at hP
  exact ⟨⟨rfl, fun hpos => hP ▸ hfit hpos, hdecrypts, htweak⟩, hP.symm, rfl⟩

end Refinement

end DecryptedPayload

/-! ### The refinement -/

/-- **A payload is a read-only file.** Let the payload be a whole number of data units,
and `P` its decryption in one go. Then any sequence of reads and seeks – reads at an
offset inside the payload, seeks to targets that fit 64 bits – is answered as a file
with the contents `P` answers it, and ends at the same position. On any reader, a read
at an offset never moves the position, and neither does a call that fails. -/
theorem payload_refines_file {ρ : Type} [ImageReader ρ] (p : DecryptedPayload ρ) {k : ℕ}
    {P : Bytes} {calls : List File.Call} (hsize : p.payloadSize = k * p.unitSize)
    (htotal : p.totalSize.toNat = (ImageReader.image p.reader).length)
    (hbulk : (DecryptedPayload.decryptWhole K (ImageReader.image p.reader) p ()).out = .ok P)
    (hlegal : AllLegal File.step File.Legal ⟨P, p.position.toNat⟩ calls) :
    ((replies (DecryptedPayload.call K) p calls).1 =
        (replies File.step ⟨P, p.position.toNat⟩ calls).1 ∧
      (replies (DecryptedPayload.call K) p calls).2.position.toNat =
        (replies File.step ⟨P, p.position.toNat⟩ calls).2.pos) ∧
    ∀ {τ : Type} [ReadSeek τ] (q : DecryptedPayload τ),
      (∀ offset len, (DecryptedPayload.readAt K offset len q).final.position = q.position) ∧
      (∀ len e, (DecryptedPayload.read K len q).out = .err e →
        (DecryptedPayload.read K len q).final.position = q.position) ∧
      ∀ dest e, (DecryptedPayload.seek dest q).out = .err e →
        (DecryptedPayload.seek dest q).final.position = q.position := by
  have hstands := DecryptedPayload.standsFor_of_bulk hsize htotal hbulk
  obtain ⟨hreplies, hend⟩ := replies_of_simulates
    (R := DecryptedPayload.StandsFor K (ImageReader.image p.reader) k)
    (fun q f c hR hc => hR.call c hc) hstands hlegal
  refine ⟨⟨hreplies, hend.pos_eq.symm⟩, fun {τ} _ q => ⟨fun offset len => ?_, fun len e h => ?_,
    fun dest e h => ?_⟩⟩
  · rw [DecryptedPayload.readAt_apply, DecryptedPayload.movedTo]
  · exact DecryptedPayload.position_of_read_err K q h
  · exact DecryptedPayload.position_of_seek_err q h

namespace Sample

/-- The encrypted payload. -/
@[irreducible] def sectorImage : Bytes := encryptArea (tables []).xtsSector masterKey plain 512 0

theorem length_plain : plain.length = 1 * 512 := by
  rw [Nat.one_mul]
  exact List.length_replicate

theorem length_sectorImage : sectorImage.length = 512 := by
  unfold sectorImage
  exact ((tables []).inverts.length_encryptArea (by decide) length_plain 0).trans (Nat.one_mul 512)

/-- A payload of one sector, which is the whole container. -/
def sectorPayload : DecryptedPayload Cursor where
  reader := Cursor.new sectorImage (by rw [length_sectorImage]; decide)
  masterKey := masterKey
  cipherMode := "xts-plain64"
  payloadOffset := 0
  sectorSize := 512
  ivTweak := 0
  totalSize := 512
  position := 0
  info := ⟨1, "aes", "xts-plain64", 32, 512⟩
  sector_le := by decide

/-- Reads and seeks: some inside the sector, one over its end, one before its start. -/
def calls : List File.Call :=
  [.seek (.start 100), .read 50, .readAt 10 20, .read 1000, .seek (.fromEnd (-600))]

theorem allLegal_calls :
    AllLegal File.step File.Legal ⟨plain, sectorPayload.position.toNat⟩ calls := by
  have hlen : plain.length = 512 := List.length_replicate
  refine ⟨?_, trivial, ?_, trivial, ?_, trivial⟩
  · change ((100 : UInt64).toNat : ℤ) < 2 ^ 64
    decide
  · change (10 : UInt64).toNat + 20 ≤ plain.length
    rw [hlen]
    decide
  · simp only [File.Legal, File.target, File.contents_step, hlen]
    decide

theorem unitSize_sectorPayload : sectorPayload.unitSize = 512 := by
  decide

theorem payloadSize_sectorPayload : sectorPayload.payloadSize = 1 * sectorPayload.unitSize := by
  decide

theorem totalSize_sectorPayload :
    sectorPayload.totalSize.toNat = (ImageReader.image sectorPayload.reader).length :=
  Eq.trans (by decide) length_sectorImage.symm

theorem decryptWhole_sectorPayload :
    (DecryptedPayload.decryptWhole (tables []).crates sectorImage sectorPayload ()).out =
      .ok plain := by
  have hlen : sectorImage.length = 1 * 512 := length_sectorImage.trans (Nat.one_mul 512).symm
  have hwin : window sectorImage sectorPayload.payloadOffset.toNat sectorPayload.payloadSize =
      sectorImage := by
    rw [payloadSize_sectorPayload, unitSize_sectorPayload]
    exact window_of_length hlen
  have htweak : ∀ u < 1, sectorPayload.ivTweak.toNat + u * tweakStep 512 < 2 ^ 128 := by
    decide
  rw [DecryptedPayload.decryptWhole, hwin, unitSize_sectorPayload,
    xtsDecryptArea_out _ _ _ () (by decide) hlen htweak]
  unfold sectorImage
  exact congrArg Outcome.ofExcept (Spec.xtsDecryptArea_encryptArea (tables []).inverts
    (Or.inl rfl) (by decide) length_plain 0)

end Sample

theorem payload_refines_file_sample :
    (replies (DecryptedPayload.call (Sample.tables []).crates) Sample.sectorPayload
        Sample.calls).1 =
      (replies File.step ⟨Sample.plain, Sample.sectorPayload.position.toNat⟩ Sample.calls).1 :=
  (payload_refines_file (Sample.tables []).crates Sample.sectorPayload
    Sample.payloadSize_sectorPayload Sample.totalSize_sectorPayload
    Sample.decryptWhole_sectorPayload Sample.allLegal_calls).1.1

end Luks
