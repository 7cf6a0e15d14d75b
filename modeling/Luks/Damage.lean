import Luks.Frame
import Luks.PayloadCalls

/-!
# Damage stays where it is

Of a container that is damaged in its payload, everything can be read that is not in a data
unit with damage (`Luks.damage_stays`). An unlock does not notice, as it does not look there
(`Luks.EntryPoint.Touches`). And the two volumes, that of the container and that of the damaged
one, go through any calls in step: they are asked for the same units, they fail together, and
what they read differs in the bytes of damaged units only.
-/

namespace Luks

open Basis

/-! ### Two images -/

section Images

variable {ρ τ : Type} [ImageReader ρ] [ImageReader τ] {img img' : Bytes}

/-- A reader of one image, and one of the other. -/
def Beside (img img' : Bytes) (r : ρ) (t : τ) : Prop := Presents img r ∧ Presents img' t

/-- Programs that read the two images silently agree on what they give as far as the images
do. -/
theorem agree_beside {α β : Type} {S : α → β → Prop} {m : Exec ρ α} {n : Exec τ β} {x : α} {y : β}
    (hm : Triple (Presents img) m (Follows (Presents img) (fun _ => False) (.ok x)) fun _ => False)
    (hn : Triple (Presents img') n (Follows (Presents img') (fun _ => False) (.ok y))
      fun _ => False) (hS : S x y) : Agree (Beside img img') S m n := by
  rintro r t ⟨hr, ht⟩
  obtain ⟨hout, hfinal⟩ := hm.sure hr
  obtain ⟨hout', hfinal'⟩ := hn.sure ht
  refine ⟨?_, ?_, hfinal, hfinal'⟩
  · rw [hout, hout']
    exact .ok hS
  · rw [List.eq_nil_iff_forall_not_mem.mpr (hm r hr).2,
      List.eq_nil_iff_forall_not_mem.mpr (hn t ht).2]

/-- A buffer of the one image and one of the other, of a length. -/
structure BuffersBeside (n : ℕ) (same : Prop) (x y : Bytes) : Prop where
  /-- The length of the first. -/
  length_left : x.length = n
  /-- The length of the second. -/
  length_right : y.length = n
  /-- Where they are to be the same. -/
  eq : same → x = y

/-- What there is at a place of two images. -/
theorem readAvailableAt_beside (o : UInt64) (n : ℕ) : Agree (Beside img img')
    (fun x y : ℕ × Bytes => BuffersBeside n (window img o.toNat n = window img' o.toNat n) x.2 y.2)
    (readAvailableAt (ρ := ρ) o n) (readAvailableAt (ρ := τ) o n) := by
  refine agree_beside (readAvailableAt_follows o n) (readAvailableAt_follows o n) ⟨?_, ?_, ?_⟩
  · exact length_zeroFill_window ..
  · exact length_zeroFill_window ..
  · intro hsame
    rw [hsame]

end Images

/-! ### One data unit -/

section Units

variable {σ τ : Type} {R : σ → τ → Prop} (K : Crates) {n : ℕ} {same : Prop} {x y : Bytes}

/-- A number that is checked on both sides is itself, and in bounds. -/
theorem checked_beside (bound k : ℕ) :
    Agree R (fun a b => (a = k ∧ b = k) ∧ k < bound) (checked bound k) (checked bound k) :=
  Agree.ite (fun hlt => Agree.pure ⟨⟨rfl, rfl⟩, hlt⟩) fun _ => Agree.abort _

/-- **Decrypting one unit** of each of two buffers: the steps are the same, whatever is in
them. -/
theorem decryptUnits_beside {dec : Bytes → Bytes → Bytes}
    (hdec : ∀ tweak unit, (dec tweak unit).length = unit.length) (hn : 16 ≤ n)
    (h : BuffersBeside n same x y) (base step : ℕ) : Agree R (BuffersBeside n same)
      (decryptUnits dec x n base step) (decryptUnits dec y n base step) := by
  have hne : ¬n = 0 := by omega
  have hlong : ¬n < 16 := Nat.not_lt_of_le hn
  rw [decryptUnits, decryptUnits, if_neg hne, if_neg hne,
    chunks_of_length (by omega) h.length_left, chunks_of_length (by omega) h.length_right]
  simp only [List.zipIdx_singleton, List.mapM_cons, List.mapM_nil, bind_assoc, pure_bind,
    h.length_left, h.length_right, if_neg hlong]
  refine Agree.bind_eq (checked_agree _ _) fun shift => ?_
  refine Agree.bind_eq (checked_agree _ _) fun tweak => ?_
  refine Agree.bind_eq (Agree.emit _) fun _ => Agree.pure ⟨?_, ?_, fun hsame => ?_⟩
  · rw [List.flatten_singleton, hdec, h.length_left]
  · rw [List.flatten_singleton, hdec, h.length_right]
  · rw [h.eq hsame]

theorem xtsDecryptArea_beside (cipherMode : String) (key : Bytes) (hn : 16 ≤ n)
    (h : BuffersBeside n same x y) (base : ℕ) : Agree R (BuffersBeside n same)
      (xtsDecryptArea K cipherMode key x n base) (xtsDecryptArea K cipherMode key y n base) := by
  refine Agree.ite (fun _ => Agree.throw _) fun _ => ?_
  cases hcipher : xtsCipher K key with
  | error e => exact Agree.bind (S := fun _ _ => False) (Agree.throw e) fun _ _ h => h.elim
  | ok dec =>
    refine Agree.bind (S := fun a b => a = dec ∧ b = dec) (Agree.pure ⟨rfl, rfl⟩) ?_
    rintro a b ⟨rfl, rfl⟩
    exact decryptUnits_beside (length_of_xtsCipher K hcipher) hn h _ _

end Units

/-! ### Reads of a volume -/

/-- The data unit of a position reads the same in two images. -/
def DecryptedPayload.Intact {υ : Type} (p : DecryptedPayload υ) (img img' : Bytes) (pos : ℕ) :
    Prop := window img (p.unitAddress pos) p.unitSize = window img' (p.unitAddress pos) p.unitSize

/-- The positions of a data unit are intact together. -/
theorem DecryptedPayload.intact_add_iff {υ : Type} (p : DecryptedPayload υ) {img img' : Bytes}
    {pos i : ℕ} (h : pos % p.unitSize + i < p.unitSize) :
    p.Intact img img' (pos + i) ↔ p.Intact img img' pos := by
  have haddress : p.unitAddress (pos + i) = p.unitAddress pos := by
    rw [DecryptedPayload.unitAddress, DecryptedPayload.unitAddress, (add_div_mod_of_lt h).1]
  rw [DecryptedPayload.Intact, haddress, DecryptedPayload.Intact]

/-- Bytes of one length from a position on, which differ in places that are not intact only. -/
structure BesideFrom (intact : ℕ → Prop) (pos : ℕ) (bs bs' : Bytes) : Prop where
  /-- They have one length. -/
  length_eq : bs.length = bs'.length
  /-- They are the same where all is intact. -/
  getElem?_eq : ∀ i, intact (pos + i) → bs[i]? = bs'[i]?

theorem BesideFrom.nil {intact : ℕ → Prop} {pos : ℕ} : BesideFrom intact pos [] [] :=
  ⟨rfl, fun _ _ => rfl⟩

/-- Bytes and the ones after them. -/
theorem BesideFrom.append {intact : ℕ → Prop} {pos n : ℕ} {x x' bs bs' : Bytes}
    (hx : BesideFrom intact pos x x') (hn : x.length = n) (h : BesideFrom intact (pos + n) bs bs') :
    BesideFrom intact pos (x ++ bs) (x' ++ bs') := by
  subst hn
  refine ⟨by rw [List.length_append, List.length_append, hx.length_eq, h.length_eq], ?_⟩
  intro i hi
  rcases Nat.lt_or_ge i x.length with hlt | hge
  · rw [List.getElem?_append_left hlt, List.getElem?_append_left (hx.length_eq ▸ hlt)]
    exact hx.getElem?_eq i hi
  · rw [List.getElem?_append_right hge, List.getElem?_append_right (hx.length_eq ▸ hge),
      ← hx.length_eq]
    refine h.getElem?_eq _ ?_
    rwa [Nat.add_assoc, Nat.add_sub_cancel' hge]

section Reads

variable {ρ τ : Type} [ImageReader ρ] [ImageReader τ] (K : Crates) {img img' : Bytes}
  {p : DecryptedPayload ρ} {q : DecryptedPayload τ}

/-- **One data unit of both**: where it is intact, it is the same. -/
theorem readUnit_beside (h : PayloadsBut (Beside img img') p q) (pos : ℕ) :
    Agree (Beside img img') (BuffersBeside q.unitSize (q.Intact img img' pos))
      (p.readUnit (ρ := ρ) K pos) (q.readUnit (ρ := τ) K pos) := by
  have hlarge : 16 ≤ q.unitSize := le_trans (by decide) q.sector_le
  rw [h.readUnit_eq, DecryptedPayload.readUnit, DecryptedPayload.readUnit]
  refine Agree.bind (checked_beside _ _) ?_
  rintro skipped skipped' ⟨⟨rfl, rfl⟩, -⟩
  refine Agree.bind (checked_beside _ _) ?_
  rintro physical physical' ⟨⟨rfl, rfl⟩, hfit⟩
  refine Agree.bind_eq (vecZeroed_agree _) fun _ => ?_
  refine Agree.bind (readAvailableAt_beside _ _) fun ct ct' hct => ?_
  rw [UInt64.toNat_ofNat_of_lt' hfit] at hct
  refine Agree.bind_eq (Agree.emit _) fun _ => ?_
  refine Agree.bind_eq (checked_agree _ _) fun shift => ?_
  refine Agree.bind_eq (checked_agree _ _) fun tweak => ?_
  exact xtsDecryptArea_beside K _ _ hlarge hct _

/-- **The loop over both**: it walks over the same units, and puts them together in the same
way. -/
theorem readUnits_beside (h : PayloadsBut (Beside img img') p q) (offset len done : ℕ) :
    Agree (Beside img img') (BesideFrom (q.Intact img img') (offset + done))
      (p.readUnits (ρ := ρ) K offset len done) (q.readUnits (ρ := τ) K offset len done) := by
  induction done using q.loop_induct len with
  | stop done hdone =>
    rw [DecryptedPayload.readUnits, DecryptedPayload.readUnits, dif_pos hdone, dif_pos hdone]
    exact Agree.pure BesideFrom.nil
  | pass done hdone ih =>
    rw [p.readUnits_of_lt K hdone, q.readUnits_of_lt K hdone, h.unitSize_eq]
    refine Agree.bind (checked_beside _ _) ?_
    rintro pos pos' ⟨⟨rfl, rfl⟩, -⟩
    refine Agree.bind (readUnit_beside K h _) fun plain plain' hplain => ?_
    refine Agree.bind (ih (offset + done)) fun rest rest' hrest => Agree.pure ?_
    have hmod := Nat.mod_lt (offset + done) q.unitSize_pos
    generalize hn : min (q.unitSize - (offset + done) % q.unitSize) (len - done) = n at hrest ⊢
    have hle : (offset + done) % q.unitSize + n ≤ q.unitSize := by omega
    refine BesideFrom.append ⟨?_, fun i hi => ?_⟩ (length_window_of_le ?_) ?_
    · rw [length_window, length_window, hplain.length_left, hplain.length_right]
    · rw [getElem?_window, getElem?_window]
      split_ifs with hlt
      · rw [hplain.eq ((q.intact_add_iff (by omega)).mp hi)]
      · rfl
    · rw [hplain.length_left]
      exact hle
    · rwa [Nat.add_assoc]

/-- A read at an offset of both. -/
theorem PayloadsBut.readAt_beside (h : PayloadsBut (Beside img img') p q) (offset : UInt64)
    (len : ℕ) : Outcome.Rel (BesideFrom (q.Intact img img') offset.toNat)
        (DecryptedPayload.readAt K offset len p).out
        (DecryptedPayload.readAt K offset len q).out ∧
      PayloadsBut (Beside img img') (DecryptedPayload.readAt K offset len p).final
        (DecryptedPayload.readAt K offset len q).final := by
  have hunits := readUnits_beside K h offset.toNat len 0 _ _ h.reader
  rw [DecryptedPayload.readAt_apply, DecryptedPayload.readAt_apply, ← h.position_eq]
  exact ⟨hunits.out, h.movedTo hunits.final _⟩

/-- A sequential read of both. -/
theorem PayloadsBut.read_beside (h : PayloadsBut (Beside img img') p q) (len : ℕ) :
    Outcome.Rel (BesideFrom (q.Intact img img') q.position.toNat)
        (DecryptedPayload.read K len p).out (DecryptedPayload.read K len q).out ∧
      PayloadsBut (Beside img img') (DecryptedPayload.read K len p).final
        (DecryptedPayload.read K len q).final := by
  rcases Nat.lt_or_ge q.position.toNat q.payloadSize with hlt | hge
  · have hlt' : p.position.toNat < p.payloadSize := by
      rwa [h.position_eq, h.payloadSize_eq]
    have hread : DecryptedPayload.read K len p = _ := DecryptedPayload.read_of_lt K p hlt'
    rw [h.position_eq, h.payloadSize_eq] at hread
    rw [hread, DecryptedPayload.read_of_lt K q hlt]
    obtain ⟨hout, hfinal⟩ :=
      h.readAt_beside K q.position (min len (q.payloadSize - q.position.toNat))
    generalize hx : (DecryptedPayload.readAt K q.position
      (min len (q.payloadSize - q.position.toNat)) p).out = x at hout
    generalize hy : (DecryptedPayload.readAt K q.position
      (min len (q.payloadSize - q.position.toNat)) q).out = y at hout
    -- the position moves on both sides, or on none
    cases hout with
    | ok hbytes =>
      rw [Prog.bind_of_ok hx, Prog.bind_of_ok hy]
      exact ⟨.ok hbytes, hfinal.movedTo hfinal.reader _⟩
    | err e =>
      rw [Prog.bind_of_err hx, Prog.bind_of_err hy]
      exact ⟨.err e, hfinal⟩
    | panic r =>
      rw [Prog.bind_of_panic hx, Prog.bind_of_panic hy]
      exact ⟨.panic r, hfinal⟩
  · rw [DecryptedPayload.read_of_le K p (by rwa [h.position_eq, h.payloadSize_eq]),
      DecryptedPayload.read_of_le K q hge]
    exact ⟨.ok BesideFrom.nil, h⟩

/-- Replies to a call that starts at a position, which differ in bytes that are not intact
only. -/
inductive RepliesBeside (intact : ℕ → Prop) (pos : ℕ) : File.Reply → File.Reply → Prop
  /-- Bytes. -/
  | bytes {bs bs' : Bytes} (h : BesideFrom intact pos bs bs') :
      RepliesBeside intact pos (.bytes bs) (.bytes bs')
  /-- The same reply. -/
  | same (reply : File.Reply) : RepliesBeside intact pos reply reply

theorem RepliesBeside.of_rel {intact : ℕ → Prop} {pos : ℕ} {x y : Outcome LuksError Bytes}
    (h : Outcome.Rel (BesideFrom intact pos) x y) :
    RepliesBeside intact pos (.ofOutcome .bytes x) (.ofOutcome .bytes y) := by
  cases h with
  | ok hbytes => exact .bytes hbytes
  | err e => exact .same .refused
  | panic r => exact .same .stopped

/-- Where a call starts. -/
def DecryptedPayload.startOf {υ : Type} (p : DecryptedPayload υ) : File.Call → ℕ
  | .readAt offset _ => offset.toNat
  | _ => p.position.toNat

theorem PayloadsBut.startOf_eq (h : PayloadsBut (Beside img img') p q) (c : File.Call) :
    p.startOf c = q.startOf c :=
  congrArg (fun p : DecryptedPayload Unit => p.startOf c) h.rest

theorem PayloadsBut.intact_eq (h : PayloadsBut (Beside img img') p q) :
    p.Intact img img' = q.Intact img img' :=
  congrArg (fun p : DecryptedPayload Unit => p.Intact img img') h.rest

/-- What is intact does not depend on where the reader and the position are. -/
theorem DecryptedPayload.MovedFrom.intact_eq {p' : DecryptedPayload ρ} (h : p'.MovedFrom p)
    (img img' : Bytes) : p'.Intact img img' = p.Intact img img' := by
  obtain ⟨r, pos, -, rfl⟩ := h
  rfl

/-- **A call on both** gives the same but for what is not intact, and leaves them in step. -/
theorem PayloadsBut.call_beside (h : PayloadsBut (Beside img img') p q) (c : File.Call) :
    RepliesBeside (q.Intact img img') (q.startOf c) (p.call K c).1 (q.call K c).1 ∧
      PayloadsBut (Beside img img') (p.call K c).2 (q.call K c).2 := by
  cases c with
  | readAt offset n =>
    obtain ⟨hout, hfinal⟩ := h.readAt_beside K offset n
    exact ⟨.of_rel hout, hfinal⟩
  | read n =>
    obtain ⟨hout, hfinal⟩ := h.read_beside K n
    exact ⟨.of_rel hout, hfinal⟩
  | seek pos =>
    simp only [DecryptedPayload.call, DecryptedPayload.seek_apply, h.payloadSize_eq,
      h.position_eq]
    split_ifs
    · exact ⟨.same _, h⟩
    · exact ⟨.same _, h.movedTo h.reader _⟩

/-- Any calls leave them in step. -/
theorem PayloadsBut.replies_beside (h : PayloadsBut (Beside img img') p q)
    (calls : List File.Call) :
    PayloadsBut (Beside img img') (replies (DecryptedPayload.call K) p calls).2
      (replies (DecryptedPayload.call K) q calls).2 := by
  induction calls generalizing p q with
  | nil => exact h
  | cons c calls ih => exact ih (h.call_beside K c).2

end Reads

/-- **Damage stays where it is.** Let a container be damaged where an unlock of it does not
look. Then the damaged one unlocks to a volume as well, the same but for what it reads; after
any calls both are at the same position, and the next call gives the same on both, but for the
bytes that are in a data unit with damage. -/
theorem damage_stays {ρ τ : Type} [ImageReader ρ] [ImageReader τ] (K : Crates) (clk : Clock)
    (e : EntryPoint) (passphrase : Bytes) (budget : Duration) {r : ρ} {t : τ}
    (h : AgreeOn (e.Touches K (ImageReader.image r)) (ImageReader.image r) (ImageReader.image t))
    {u : Unlocked ρ} (hu : (e.unlock K clk passphrase budget (World.init r)).out = .ok u) :
    ∃ v, (e.unlock K clk passphrase budget (World.init t)).out = .ok v ∧
      (u.map fun _ => ()) = (v.map fun _ => ()) ∧ ∀ calls c,
        (replies (DecryptedPayload.call K) u.payload calls).2.position =
          (replies (DecryptedPayload.call K) v.payload calls).2.position ∧
        RepliesBeside (u.payload.Intact (ImageReader.image r) (ImageReader.image t))
          ((replies (DecryptedPayload.call K) u.payload calls).2.startOf c)
          ((replies (DecryptedPayload.call K) u.payload calls).2.call K c).1
          ((replies (DecryptedPayload.call K) v.payload calls).2.call K c).1 := by
  rcases e.falters K clk (readsAlike_agreeOn h) (fun _ hi => hi) (Loosens.refl budget) passphrase
    _ _ (sameTime_init ⟨rfl, rfl⟩) with hruns | hruns
  · obtain ⟨v, hv, huv⟩ := hruns.out.exists_ok hu
    have hbeside : PayloadsBut (Beside (ImageReader.image r) (ImageReader.image t)) u.payload
      v.payload := huv.payloadsBut
    refine ⟨v, hv, huv.rest, fun calls c => ?_⟩
    have hnow := hbeside.replies_beside K calls
    have hmoved := (DecryptedPayload.movedFrom_replies K (p := u.payload) calls).intact_eq
      (ImageReader.image r) (ImageReader.image t)
    have hcall := (hnow.call_beside K c).1
    rw [← hnow.startOf_eq, ← hnow.intact_eq, hmoved] at hcall
    exact ⟨hnow.position_eq, hcall⟩
  · obtain ⟨err, hfalse, -⟩ := hruns.out
    exact hfalse.elim

theorem damage_stays_sample : ∃ u v : Unlocked Cursor,
    (EntryPoint.luks2.unlock (Sample.cratesOf Sample.metadata) Sample.clock Sample.passphrase 1
      (World.init (Sample.readerOf Sample.fits_metadata [1] (by decide)))).out = .ok u ∧
    (EntryPoint.luks2.unlock (Sample.cratesOf Sample.metadata) Sample.clock Sample.passphrase 1
      (World.init (Sample.readerOf Sample.fits_metadata [2] (by decide)))).out = .ok v ∧
    RepliesBeside (u.payload.Intact (Sample.imageOf Sample.fits_metadata [1])
        (Sample.imageOf Sample.fits_metadata [2])) 0
      (u.payload.call (Sample.cratesOf Sample.metadata) (.readAt 0 513)).1
      (v.payload.call (Sample.cratesOf Sample.metadata) (.readAt 0 513)).1 := by
  obtain ⟨u, hu, -⟩ := Sample.exists_unlock2_imageOf Sample.fits_metadata [1] (by decide)
    (by decide) rfl rfl rfl Sample.stands_clock (show (0 : Duration) < 1 by decide)
  obtain ⟨v, hv, -, hcalls⟩ := damage_stays (Sample.cratesOf Sample.metadata) Sample.clock .luks2
    Sample.passphrase 1 (r := Sample.readerOf Sample.fits_metadata [1] (by decide))
    (t := Sample.readerOf Sample.fits_metadata [2] (by decide)) Sample.agreeOn_imageOf hu
  exact ⟨u, v, hu, hv, (hcalls [] (.readAt 0 513)).2⟩

end Luks
