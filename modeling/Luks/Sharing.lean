import Luks.Basis.Lock
import Luks.PayloadFile
import Luks.SourceReads

/-!
# A source is shared

A source of plaintext is read by any number of threads at once. A read that is at or past
the end is answered without a look at the payload. Any other takes the lock and reads unit
by unit: it seeks to the unit, reads it, and decrypts it into the buffer of the caller, and
the steps of the other threads come between. Where a read is stopped in the middle the lock
is poisoned, and is taken all the same by the reads after it.

The steps of a read under the lock do what a read alone does
(`Luks.DecryptedPayload.carries_readAtSteps`), and what a read gives does not depend on what
other reads, also those that failed or were stopped, have left of the payload. So every read
gives what it gives alone on the fresh source, in any interleaving of any threads
(`Luks.shared_reads`).
-/

namespace Luks

open Basis

namespace DecryptedPayload

variable {ρ τ υ : Type} [ReadSeek ρ] (K : Crates)

/-- Seek to the data unit of a position: what a pass of the loop starts with. -/
def seekUnit (p : DecryptedPayload τ) (pos : ℕ) : Exec ρ ℕ := do
  let physical ← addU64 p.payloadOffset.toNat (← mulU64 (pos / p.unitSize) p.unitSize)
  let _ ← vecZeroed p.unitSize
  let _ ← seekTo (.start (UInt64.ofNat physical))
  return physical

/-- Decrypt what was read of the data unit of a position: what a pass ends with. -/
def decryptUnit (p : DecryptedPayload τ) (pos physical : ℕ) (ct : ℕ × Bytes) : Exec ρ Bytes := do
  Prog.emit (.unit physical)
  let tweak ← addU128 p.ivTweak.toNat (← mulU128 (pos / p.unitSize) (tweakStep p.unitSize))
  xtsDecryptArea K p.cipherMode p.masterKey ct.2 p.unitSize tweak

theorem readUnit_eq (p : DecryptedPayload τ) (pos : ℕ) : p.readUnit (ρ := ρ) K pos =
    p.seekUnit pos >>= fun physical => readAvailable p.unitSize >>= fun ct =>
      p.decryptUnit K pos physical ct := by
  simp only [readUnit, seekUnit, decryptUnit, readAvailableAt, bind_assoc, pure_bind]

/-- The loop of a read, as the steps it takes on the reader: `acc` is in the buffer. -/
def readUnitsSteps (p : DecryptedPayload τ) (offset len : ℕ) (stop : Outcome LuksError Bytes → υ)
    (done : ℕ) (acc : Bytes) : Routine ρ υ :=
  if _h : len ≤ done then .done (stop (.ok acc))
  else
    .after (addU64 offset done >>= fun pos => Prod.mk pos <$> p.seekUnit pos) stop fun a =>
    .after (readAvailable p.unitSize) stop fun ct =>
    .after (p.decryptUnit K a.1 a.2 ct) stop fun plain =>
      let take := min (p.unitSize - a.1 % p.unitSize) (len - done)
      readUnitsSteps p offset len stop (done + take) (acc ++ window plain (a.1 % p.unitSize) take)
termination_by len - done
decreasing_by
  have := p.take_pos a.1 _h
  omega

/-- **The steps carry out the loop.** -/
theorem carries_readUnitsSteps (p : DecryptedPayload τ) (offset len : ℕ)
    (stop : Outcome LuksError Bytes → υ) (done : ℕ) (acc : Bytes) :
    (p.readUnitsSteps (ρ := ρ) K offset len stop done acc).Carries
      ((acc ++ ·) <$> p.readUnits K offset len done) stop := by
  induction done using p.loop_induct len generalizing acc with
  | stop done hdone =>
    rw [readUnitsSteps, dif_pos hdone, readUnits, dif_pos hdone, map_pure, List.append_nil]
    exact Routine.carries_done acc
  | pass done hdone ih =>
    have hloop : ((acc ++ ·) <$> p.readUnits (ρ := ρ) K offset len done) =
        (addU64 offset done >>= fun pos => Prod.mk pos <$> p.seekUnit pos) >>= fun a =>
        readAvailable p.unitSize >>= fun ct => p.decryptUnit K a.1 a.2 ct >>= fun plain =>
        (((acc ++ window plain (a.1 % p.unitSize)
            (min (p.unitSize - a.1 % p.unitSize) (len - done))) ++ ·) <$>
          p.readUnits K offset len (done + min (p.unitSize - a.1 % p.unitSize) (len - done))) := by
      rw [p.readUnits_of_lt K hdone]
      simp only [readUnit_eq, map_eq_pure_bind, bind_assoc, pure_bind, List.append_assoc]
    rw [readUnitsSteps, dif_neg (Nat.not_le_of_lt hdone), hloop]
    exact Routine.carries_after fun a => Routine.carries_after fun ct =>
      Routine.carries_after fun plain => ih a.1 _

/-- The steps of a read at an offset, on the payload. -/
def readAtSteps (offset : UInt64) (len : ℕ) (stop : Outcome LuksError Bytes → υ) :
    Routine (DecryptedPayload ρ) υ :=
  .act id fun p => (p.readUnitsSteps K offset.toNat len stop 0 []).zoom reader
    fun r p => { p with reader := r }

/-- **The steps carry out a read at an offset.** -/
theorem carries_readAtSteps (offset : UInt64) (len : ℕ) (stop : Outcome LuksError Bytes → υ) :
    (readAtSteps (ρ := ρ) K offset len stop).Carries (readAt K offset len) stop := by
  intro p
  have hzoom := Routine.run_zoom reader (fun (r : ρ) p => { p with reader := r })
    (fun _ _ => rfl) (fun _ _ _ => rfl) (fun _ => rfl)
    (p.readUnitsSteps K offset.toNat len stop 0 []) p
  rw [readAtSteps, Routine.run]
  refine hzoom.trans ?_
  rw [p.carries_readUnitsSteps K]
  simp only [List.nil_append, id_map']
  rfl

end DecryptedPayload

namespace LuksSource

variable {ρ : Type} [ReadSeek ρ] (escaped : Char → Bool) (K : Crates)

/-- What a read of a source gives: how many bytes it wrote, and the buffer. -/
abbrev Reply : Type := Outcome VfsError (ℕ × Bytes)

/-- How a source of `len` bytes serves a read into a buffer at an offset. -/
def service (len : ℕ) (c : UInt64 × Bytes) : Service (DecryptedPayload ρ) Reply :=
  let avail := len - c.1.toNat
  if avail = 0 then .free (.ok (0, c.2))
  else
    let want := min c.2.length avail
    match slice? c.2 0 want with
    | none => .free (.ok (0, c.2))
    | some dst =>
        .locked (DecryptedPayload.readAtSteps K c.1 dst.length fun o =>
          (o.mapError (mapLuksErr escaped)).map fun bs => (want, bs ++ c.2.drop want))

/-- A thread that panics leaves the lock poisoned. -/
def poisons : Reply → Bool
  | .panic _ => true
  | _ => false

/-- **A read that is made alone** is the read of the source. -/
theorem run_service (s : LuksSource ρ) (c : UInt64 × Bytes) :
    (service escaped K s.len c).run s.inner =
      ((LuksSource.readAt escaped K c.1 c.2 s).out,
        (LuksSource.readAt escaped K c.1 c.2 s).final.inner) := by
  rw [service, LuksSource.readAt, Prog.bind_apply]
  simp only [Prog.bind, Prog.get, id]
  by_cases havail : s.len - c.1.toNat = 0
  · rw [if_pos havail, if_pos havail]
    rfl
  rw [if_neg havail, if_neg havail]
  cases slice? c.2 0 (min c.2.length (s.len - c.1.toNat)) with
  | none => rfl
  | some dst =>
    have hsteps := DecryptedPayload.carries_readAtSteps (ρ := ρ) K c.1 dst.length
      (fun o => (o.mapError (mapLuksErr escaped)).map fun bs =>
        (min c.2.length (s.len - c.1.toNat),
          bs ++ c.2.drop (min c.2.length (s.len - c.1.toNat)))) s.inner
    refine hsteps.trans ?_
    dsimp only
    rw [Prog.bind_apply]
    simp only [Prog.bind, Prog.zoom, Prog.mapError]
    cases (DecryptedPayload.readAt K c.1 dst.length s.inner).out <;> rfl

end LuksSource

section Sharing

variable {ρ : Type} [ImageReader ρ] (escaped : Char → Bool) (K : Crates)

/-- What a read of a source gives alone. -/
def LuksSource.alone (p : DecryptedPayload ρ) (c : UInt64 × Bytes) : LuksSource.Reply :=
  (LuksSource.readAt escaped K c.1 c.2 (LuksSource.new p)).out

/-- **Reads that are made one after the other** give what each gives alone. -/
theorem sequential_service {p q : DecryptedPayload ρ} (hq : q.MovedFrom p)
    (calls : List (UInt64 × Bytes)) :
    (Lock.sequential (LuksSource.service escaped K p.payloadSize) q calls).1 =
      calls.map (LuksSource.alone escaped K p) := by
  induction calls generalizing q with
  | nil => rfl
  | cons c calls ih =>
    have hserves : (⟨q, p.payloadSize⟩ : LuksSource ρ).Serves p := ⟨rfl, hq⟩
    have hrun := LuksSource.run_service escaped K ⟨q, p.payloadSize⟩ c
    have hout : (LuksSource.readAt escaped K c.1 c.2 ⟨q, p.payloadSize⟩).out =
        LuksSource.alone escaped K p c := by
      rw [LuksSource.alone, hserves.sized.readAt_out,
        (LuksSource.serves_new p).sized.readAt_out, hq.seekRead_out]
      rfl
    rw [Lock.sequential, replies, List.map_cons, hrun, hout]
    exact congrArg _ (ih (hserves.call escaped K c).moved)

/-- **Threads that share a source do not disturb each other.** However the steps of any number
of threads interleave that read one source, and whatever became of the reads before: one
thread at most is in the payload; every read that came to an end gave what it gives alone on
the fresh source; and one that waits can come to its end, also after a read was stopped under
the lock. -/
theorem shared_reads {ι : Type} [DecidableEq ι] (p : DecryptedPayload ρ)
    {x : Lock.Config ι (UInt64 × Bytes) (DecryptedPayload ρ) LuksSource.Reply}
    (h : Lock.Reaches (LuksSource.service escaped K p.payloadSize) LuksSource.poisons
      (Lock.Config.init p) x) :
    (∀ i j c d q r, x.phase i = .inside c q → x.phase j = .inside d r → i = j) ∧
    (∀ i c a, (i, c, a) ∈ x.log →
      a = (LuksSource.readAt escaped K c.1 c.2 (LuksSource.new p)).out) ∧
    ∀ i c, x.phase i = .waiting c → ∃ y,
      Lock.Reaches (LuksSource.service escaped K p.payloadSize) LuksSource.poisons x y ∧
        y.phase i = .idle ∧
        (i, c, (LuksSource.readAt escaped K c.1 c.2 (LuksSource.new p)).out) ∈ y.log := by
  have hlog : ∀ {y : Lock.Config ι (UInt64 × Bytes) (DecryptedPayload ρ) LuksSource.Reply},
      Lock.Reaches (LuksSource.service escaped K p.payloadSize) LuksSource.poisons
        (Lock.Config.init p) y → ∀ i c a, (i, c, a) ∈ y.log →
          a = LuksSource.alone escaped K p c := by
    intro y hy i c a hmem
    have hreplies := (Lock.serial_of_reaches hy).replies
    rw [sequential_service escaped K (DecryptedPayload.MovedFrom.refl p), Lock.Config.replies,
      Lock.Config.calls, List.map_map] at hreplies
    exact List.map_inj_left.mp hreplies _ hmem
  have hserial := Lock.serial_of_reaches h
  refine ⟨fun i j c d q r hi hj => hserial.unique hi hj, hlog h, fun i c hi => ?_⟩
  obtain ⟨y, a, hy, hidle, hmem⟩ := Lock.exists_served h hi
  obtain rfl := hlog (h.trans hy) i c a hmem
  exact ⟨y, hy, hidle, hmem⟩

namespace Sample

/-- Two reads, of the first bytes of the sector and over its end. -/
def wanted : Bool → UInt64 × Bytes
  | true => (0, List.replicate 4 0)
  | false => (500, List.replicate 40 0)

theorem locked_wanted {ρ : Type} [ReadSeek ρ] (i : Bool) : ∃ r,
    LuksSource.service (ρ := ρ) (fun _ => false) (tables []).crates 512 (wanted i) =
      .locked r := by
  cases i <;> exact ⟨_, rfl⟩

end Sample

theorem shared_reads_sample :
    ∃ y : Lock.Config Bool (UInt64 × Bytes) (DecryptedPayload Cursor) LuksSource.Reply,
      y.phase true = .idle ∧
      (true, Sample.wanted true, (LuksSource.readAt (fun _ => false) (Sample.tables []).crates
        (Sample.wanted true).1 (Sample.wanted true).2
        (LuksSource.new Sample.sectorPayload)).out) ∈ y.log := by
  obtain ⟨q, hq⟩ := Sample.locked_wanted (ρ := Cursor) false
  obtain ⟨r, hr⟩ := Sample.locked_wanted (ρ := Cursor) true
  -- one thread is in its read, and the other waits
  have hreaches : Lock.Reaches
      (LuksSource.service (fun _ => false) (Sample.tables []).crates
        Sample.sectorPayload.payloadSize)
      LuksSource.poisons (Lock.Config.init Sample.sectorPayload) _ :=
    ((Relation.ReflTransGen.single (.call (i := false) rfl hq)).tail
      (.call (i := true) rfl hr)).tail (.lock (i := false) rfl hq rfl)
  obtain ⟨y, -, hidle, hmem⟩ := (shared_reads (fun _ => false) (Sample.tables []).crates
    Sample.sectorPayload hreaches).2.2 true (Sample.wanted true) rfl
  exact ⟨y, hidle, hmem⟩

end Sharing

end Luks
