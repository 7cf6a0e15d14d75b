import Luks.Agreement
import Luks.PayloadFile

/-!
# What calls leave of a payload

Reading and seeking move two things, the reader and the position; the image behind the
reader and all else about the payload stay (`Luks.DecryptedPayload.movedFrom_replies`).
So what holds of a payload whatever its reader's state and position are holds after any
sequence of calls.

The errors that a read can report are those of decrypting a unit
(`Luks.readUnits_reports`), and a read that returns gives as many bytes as it was asked
for (`Luks.readUnits_gives`).
-/

namespace Luks

open Basis

section Decrypting

variable {σ : Type} (K : Crates) {I : σ → Prop} {G : LuksError → Prop}

theorem decryptUnits_reports (dec : Bytes → Bytes → Bytes) (buffer : Bytes)
    (unitSize base step : ℕ) : Reports I G (decryptUnits dec buffer unitSize base step) := by
  rw [decryptUnits]
  split_ifs
  · exact Reports.abort _
  · refine (Reports.mapM fun a _ => ?_).bind fun _ => Reports.pure _
    dsimp only
    split_ifs
    · exact (Reports.emit _).bind fun _ => Reports.pure _
    · refine (checked_reports _ _).bind fun _ => (checked_reports _ _).bind fun _ => ?_
      exact (Reports.emit _).bind fun _ => Reports.pure _

/-- Decrypting reports another mode, and a key of another size. -/
theorem xtsDecryptArea_reports {cipherMode : String} {key : Bytes}
    (hmode : cipherMode ≠ "xts-plain64" → G (.unsupported "cipher mode" cipherMode))
    (hkey : ∀ e, xtsCipher K key = .error e → G e) (buffer : Bytes) (unitSize base : ℕ) :
    Reports I G (xtsDecryptArea K cipherMode key buffer unitSize base) := by
  rw [xtsDecryptArea]
  split_ifs with h
  · exact Reports.throw (hmode h)
  · refine Reports.bind ?_ fun dec => decryptUnits_reports _ _ _ _ _
    cases hcipher : xtsCipher K key with
    | ok dec => exact Reports.pure _
    | error e => exact Reports.throw (hkey e hcipher)

end Decrypting

/-! ### The state after a call -/

section Calls

variable {ρ : Type} [ImageReader ρ] (K : Crates) {G : LuksError → Prop} {img : Bytes}

/-- A pass of a read reports what decrypting a unit does, and leaves the image alone. -/
theorem readUnit_reports {τ : Type} (p : DecryptedPayload τ)
    (hxts : ∀ buffer tweak, Reports (Presents (ρ := ρ) img) G
      (xtsDecryptArea K p.cipherMode p.masterKey buffer p.unitSize tweak)) (pos : ℕ) :
    Reports (Presents (ρ := ρ) img) G (p.readUnit K pos) := by
  rw [DecryptedPayload.readUnit]
  refine (checked_reports _ _).bind fun skipped => (checked_reports _ _).bind fun physical => ?_
  refine (vecZeroed_reports _).bind fun _ => Reports.bind ?_ fun ct => ?_
  · exact Reports.of_follows (H := fun _ => False) (E := fun _ => True)
      (readAvailableAt_follows _ _) (by simp) fun _ h => h.elim
  · refine (Reports.emit _).bind fun _ => (checked_reports _ _).bind fun shift => ?_
    exact (checked_reports _ _).bind fun tweak => hxts _ _

/-- **A read reports what decrypting a unit does**, and leaves the image alone. -/
theorem readUnits_reports {τ : Type} (p : DecryptedPayload τ)
    (hxts : ∀ buffer tweak, Reports (Presents (ρ := ρ) img) G
      (xtsDecryptArea K p.cipherMode p.masterKey buffer p.unitSize tweak)) (offset len done : ℕ) :
    Reports (Presents (ρ := ρ) img) G (p.readUnits K offset len done) := by
  induction done using p.loop_induct len with
  | stop done hdone =>
    rw [DecryptedPayload.readUnits, dif_pos hdone]
    exact Reports.pure _
  | pass done hdone ih =>
    rw [p.readUnits_of_lt K hdone]
    refine (checked_reports _ _).bind fun pos => ?_
    refine (readUnit_reports K p hxts pos).bind fun plain => ?_
    exact (ih pos).bind fun rest => Reports.pure _

theorem readUnits_keeps {τ : Type} (p : DecryptedPayload τ) (offset len done : ℕ) :
    Reports (Presents (ρ := ρ) img) (fun _ => True) (p.readUnits K offset len done) :=
  readUnits_reports K p (fun _ _ => xtsDecryptArea_reports K (fun _ => trivial)
    (fun _ _ => trivial) _ _ _) offset len done

/-- A pass gives a whole unit, as a unit is decrypted in place. -/
theorem readUnit_gives {τ : Type} (p : DecryptedPayload τ) (pos : ℕ) :
    Gives (fun plain => plain.length = p.unitSize) (p.readUnit (ρ := ρ) K pos) := by
  rw [DecryptedPayload.readUnit]
  refine Gives.bind_right fun skipped => Gives.bind_right fun physical => ?_
  refine Gives.bind_right fun _ => (readAvailableAt_gives _ _).bind fun ct hct => ?_
  refine Gives.bind_right fun _ => Gives.bind_right fun shift => Gives.bind_right fun tweak => ?_
  intro r plain h
  have hunit : ct.2.length = 1 * p.unitSize := by rw [hct, Nat.one_mul]
  have hspec := (xtsDecryptArea_eq_ok K (le_trans (by omega) p.sector_le) hunit h).1
  rw [Spec.length_of_xtsDecryptArea_eq_ok p.unitSize_pos hunit hspec, Nat.one_mul]

/-- **A read gives as many bytes as it was asked for**: each pass of the loop takes what it
needs from one unit. -/
theorem readUnits_gives {τ : Type} (p : DecryptedPayload τ) (offset len done : ℕ) :
    Gives (fun bs => bs.length = len - done) (p.readUnits (ρ := ρ) K offset len done) := by
  induction done using p.loop_induct len with
  | stop done hdone =>
    rw [DecryptedPayload.readUnits, dif_pos hdone]
    exact Gives.pure (show 0 = len - done by omega)
  | pass done hdone ih =>
    rw [p.readUnits_of_lt K hdone]
    refine Gives.bind_right fun pos => (readUnit_gives K p pos).bind fun plain hlen => ?_
    have htake := p.take_pos pos (Nat.not_le_of_lt hdone)
    have hmod := Nat.mod_lt pos p.unitSize_pos
    refine (ih pos).bind fun rest hrest => Gives.pure ?_
    rw [List.length_append, length_window, hlen, hrest]
    omega

/-- A read at an offset that returns gives as many bytes as it was asked for. -/
theorem length_of_readAt {p : DecryptedPayload ρ} {offset : UInt64} {len : ℕ} {bs : Bytes}
    (h : (DecryptedPayload.readAt K offset len p).out = .ok bs) : bs.length = len :=
  readUnits_gives K p offset.toNat len 0 p.reader bs h

/-- A read does not look at the reader and the position of a payload. -/
theorem readUnits_movedTo {τ : Type} (p : DecryptedPayload τ) (r : τ) (pos : UInt64)
    (offset len done : ℕ) : (p.movedTo r pos).readUnits (ρ := ρ) K offset len done =
      p.readUnits K offset len done := by
  induction done using p.loop_induct len with
  | stop done hdone =>
    rw [DecryptedPayload.readUnits, DecryptedPayload.readUnits, dif_pos hdone, dif_pos hdone]
  | pass done hdone ih =>
    rw [(p.movedTo r pos).readUnits_of_lt K hdone, p.readUnits_of_lt K hdone]
    refine bind_congr fun start => bind_congr fun plain => ?_
    exact congrArg (· >>= _) (ih start)

end Calls

/-! ### What a pass comes to -/

section Passes

variable {ρ τ : Type} [ImageReader ρ] (K : Crates) (p : DecryptedPayload τ) {offset len pos : ℕ}

/-- A unit without an address stops the pass. -/
theorem readUnit_of_ge (h : 2 ^ 64 ≤ p.unitAddress pos) (r : ρ) :
    (p.readUnit K pos r).out = .panic .arithmeticOverflow := by
  rw [DecryptedPayload.unitAddress] at h
  rw [DecryptedPayload.readUnit]
  rcases Nat.lt_or_ge (pos / p.unitSize * p.unitSize) (2 ^ 64) with hmul | hmul
  · rw [mulU64_of_lt hmul, pure_bind, addU64_of_ge h, Prog.abort_bind]
    rfl
  · rw [mulU64_of_ge hmul, Prog.abort_bind]
    rfl

/-- A unit without a buffer stops the pass in another way. -/
theorem readUnit_of_isizeMax_lt (h : p.unitAddress pos < 2 ^ 64) (hss : isizeMax < p.unitSize)
    (r : ρ) : (p.readUnit K pos r).out = .panic .capacityOverflow := by
  rw [DecryptedPayload.unitAddress] at h
  rw [DecryptedPayload.readUnit, mulU64_of_lt (by omega), pure_bind, addU64_of_lt h, pure_bind,
    vecZeroed_of_lt hss, Prog.abort_bind]
  rfl

/-- A unit with an address, a buffer and a tweak comes to what decrypting it does. -/
theorem readUnit_out (h : p.unitAddress pos < 2 ^ 64) (hss : p.unitSize ≤ isizeMax)
    (htweak : p.ivTweak.toNat + pos / p.unitSize * tweakStep p.unitSize < 2 ^ 128) (r : ρ) :
    (p.readUnit K pos r).out = .ofExcept
      (Spec.decryptedUnit K (p.map fun _ => ImageReader.image r) (pos / p.unitSize)) :=
  ((readUnit_follows (E := fun _ => True) K p h hss htweak trivial trivial trivial).sure
    (show Presents (ImageReader.image r) r from rfl)).1

end Passes

section FirstPass

variable {ρ τ : Type} [ReadSeek ρ] {K : Crates} {p : DecryptedPayload τ} {offset len pos : ℕ}

/-- A unit that the reader cannot read fails the pass. -/
theorem readUnit_of_err (h : p.unitAddress pos < 2 ^ 64) (hss : p.unitSize ≤ isizeMax) {r : ρ}
    {e : LuksError}
    (hread : (readAvailableAt (UInt64.ofNat (p.unitAddress pos)) p.unitSize r).out = .err e) :
    (p.readUnit K pos r).out = .err e := by
  rw [DecryptedPayload.unitAddress] at h hread
  have halloc : (vecZeroed p.unitSize : Exec ρ Bytes) =
      (Prog.emit (.alloc p.unitSize) >>= fun _ => pure (List.replicate p.unitSize 0)) :=
    if_neg (Nat.not_lt_of_le hss)
  rw [DecryptedPayload.readUnit, mulU64_of_lt (by omega), pure_bind, addU64_of_lt h, pure_bind,
    halloc, bind_assoc, Prog.bind_of_ok (a := ()) rfl, pure_bind]
  dsimp only [Prog.emit]
  rw [Prog.bind_of_err hread]

/-- A read that is stopped in its first pass is stopped. -/
theorem readUnits_of_first_panic (hlen : 0 < len) (hoffset : offset < 2 ^ 64) {r : ρ} {q : Panic}
    (h : (p.readUnit K offset r).out = .panic q) :
    (p.readUnits K offset len 0 r).out = .panic q := by
  rw [p.readUnits_of_lt K hlen, addU64_of_lt (by omega), pure_bind]
  exact congrArg Run.out (Prog.bind_of_panic h)

/-- A read that fails in its first pass fails. -/
theorem readUnits_of_first_err (hlen : 0 < len) (hoffset : offset < 2 ^ 64) {r : ρ}
    {e : LuksError} (h : (p.readUnit K offset r).out = .err e) :
    (p.readUnits K offset len 0 r).out = .err e := by
  rw [p.readUnits_of_lt K hlen, addU64_of_lt (by omega), pure_bind]
  exact congrArg Run.out (Prog.bind_of_err h)

end FirstPass

/-! ### Any calls -/

namespace DecryptedPayload

variable {ρ : Type} [ImageReader ρ] (K : Crates) (p : DecryptedPayload ρ)

/-- The payload is another one with its reader and position moved. -/
def MovedFrom (p q : DecryptedPayload ρ) : Prop :=
  ∃ r pos, SameImage r q.reader ∧ p = q.movedTo r pos

theorem MovedFrom.refl : p.MovedFrom p := ⟨p.reader, p.position, rfl, rfl⟩

variable {p} {q s : DecryptedPayload ρ}

theorem MovedFrom.trans (h : p.MovedFrom q) (h' : q.MovedFrom s) : p.MovedFrom s := by
  obtain ⟨r, pos, hr, rfl⟩ := h
  obtain ⟨r', pos', hr', rfl⟩ := h'
  exact ⟨r, pos, hr.trans hr', rfl⟩

theorem MovedFrom.payloadSize_eq (h : p.MovedFrom q) : p.payloadSize = q.payloadSize := by
  obtain ⟨r, pos, -, rfl⟩ := h
  rfl

theorem MovedFrom.payloadOffset_eq (h : p.MovedFrom q) : p.payloadOffset = q.payloadOffset := by
  obtain ⟨r, pos, -, rfl⟩ := h
  rfl

/-- **A read at an offset gives the same** wherever the reader and the position are. -/
theorem MovedFrom.readAt_out (h : p.MovedFrom q) (offset : UInt64) (len : ℕ) :
    (readAt K offset len p).out = (readAt K offset len q).out := by
  obtain ⟨r, pos, hr, rfl⟩ := h
  rw [readAt_apply, readAt_apply, readUnits_movedTo]
  exact Outcome.rel_eq_iff.mp
    (readUnits_agree K (rfl : SamePayload q q) offset.toNat len 0 r q.reader hr).out

/-- A sequential read that returns gives as many bytes as it was asked for and there are. -/
theorem length_of_read {len : ℕ} {bs : Bytes} (h : (read K len p).out = .ok bs) :
    bs.length = min len (p.payloadSize - p.position.toNat) := by
  rcases Nat.lt_or_ge p.position.toNat p.payloadSize with hlt | hge
  · rw [read_of_lt K p hlt, Prog.bind_out_of_keeps fun bs q => rfl] at h
    exact length_of_readAt K h
  · rw [read_of_le K p hge] at h
    obtain rfl : [] = bs := Outcome.ok.inj h
    rw [Nat.sub_eq_zero_of_le hge, Nat.min_zero, List.length_nil]

theorem movedFrom_readAt (offset : UInt64) (len : ℕ) :
    (readAt K offset len p).final.MovedFrom p :=
  ⟨_, p.position, (readUnits_keeps K p offset.toNat len 0 p.reader rfl).1.1, rfl⟩

theorem movedFrom_read (len : ℕ) : (read K len p).final.MovedFrom p := by
  rcases Nat.lt_or_ge p.position.toNat p.payloadSize with hlt | hge
  · have hread := movedFrom_readAt K (p := p) p.position
      (min len (p.payloadSize - p.position.toNat))
    rw [read_of_lt K p hlt]
    cases hout : (readAt K p.position (min len (p.payloadSize - p.position.toNat)) p).out with
    | ok bs =>
      obtain ⟨r, pos, hr, hfinal⟩ := hread
      rw [Prog.bind_of_ok hout, hfinal]
      exact ⟨r, _, hr, rfl⟩
    | err e =>
      rw [Prog.bind_of_err hout]
      exact hread
    | panic q =>
      rw [Prog.bind_of_panic hout]
      exact hread
  · rw [read_of_le K p hge]
    exact MovedFrom.refl p

theorem movedFrom_seek (pos : SeekFrom) : (seek pos p).final.MovedFrom p := by
  rw [seek_apply]
  split_ifs
  · exact MovedFrom.refl p
  · exact ⟨p.reader, _, rfl, rfl⟩

theorem movedFrom_call (c : File.Call) : (p.call K c).2.MovedFrom p := by
  cases c with
  | readAt offset n => exact movedFrom_readAt K offset n
  | read n => exact movedFrom_read K n
  | seek pos => exact movedFrom_seek pos

/-- **Calls move the reader and the position**, and leave all else. -/
theorem movedFrom_replies (calls : List File.Call) :
    (replies (call K) p calls).2.MovedFrom p := by
  induction calls generalizing p with
  | nil => exact MovedFrom.refl p
  | cons c calls ih => exact ih.trans (movedFrom_call K c)

end DecryptedPayload

end Luks
