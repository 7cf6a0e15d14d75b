import Luks.Faults
import Luks.Sharing
import Mathlib.Data.List.Forall2

/-!
# Threads over a reader that fails

The threads that share a source may read it over a disk that is going bad. A read that fails
under the lock leaves the reader somewhere, and gives the lock back; one that is stopped under
it leaves the lock poisoned; and the reads after it go on with what is left. None of this
shows: a read gives what it gives alone on a source over a good disk, or it reports the
failure of the reader that it met itself (`Luks.shared_reads_survive_faults`).
-/

namespace Luks

open Basis

section Sharing

variable {ρ τ : Type} [ReadSeek ρ] [ImageReader τ] (escaped : Char → Bool) (K : Crates)
  {img : Bytes} {p : DecryptedPayload ρ} {q : DecryptedPayload τ}

/-- A reply over a reader that may fail: the failure of the reader, or the reply over one that
does not. -/
def SurvivedBy (a b : LuksSource.Reply) : Prop :=
  (∃ err, a = .err (mapLuksErr escaped (.io err))) ∨ a = b

/-- A read of a source before its end is a read of the payload, as much as there is. -/
theorem run_service_of_lt {υ : Type} [ReadSeek υ] {len : ℕ} {c : UInt64 × Bytes}
    (h : c.1.toNat < len) (s : DecryptedPayload υ) :
    (LuksSource.service escaped K len c).run s =
      (((DecryptedPayload.readAt K c.1 (min c.2.length (len - c.1.toNat)) s).out.mapError
          (mapLuksErr escaped)).map fun bs => (min c.2.length (len - c.1.toNat),
            bs ++ c.2.drop (min c.2.length (len - c.1.toNat))),
        (DecryptedPayload.readAt K c.1 (min c.2.length (len - c.1.toNat)) s).final) := by
  have havail : ¬len - c.1.toNat = 0 := by omega
  have hslice : slice? c.2 0 (min c.2.length (len - c.1.toNat)) =
      some (window c.2 0 (min c.2.length (len - c.1.toNat))) :=
    slice?_of_le (Nat.zero_le _) (min_le_left _ _)
  have hlen : (window c.2 0 (min c.2.length (len - c.1.toNat))).length =
      min c.2.length (len - c.1.toNat) := length_window_of_le (by omega)
  rw [LuksSource.service, if_neg havail]
  simp only [hslice, hlen]
  exact DecryptedPayload.carries_readAtSteps K c.1 _ _ s

/-- **One read of a source** fails for its reader, or gives what it gives over a good one; and
nothing but the reader has moved. -/
theorem service_survives (h : PayloadsBut (Mirrors img) p q) (len : ℕ) (c : UInt64 × Bytes) :
    SurvivedBy escaped ((LuksSource.service escaped K len c).run p).1
        ((LuksSource.service escaped K len c).run q).1 ∧
      PayloadsBut (Mirrors img) ((LuksSource.service escaped K len c).run p).2 q := by
  rcases Nat.lt_or_ge c.1.toNat len with hlt | hge
  · rw [run_service_of_lt escaped K hlt, run_service_of_lt escaped K hlt]
    refine ⟨?_, h.readAt_final K _ _⟩
    rcases readAt_survives K h c.1 (min c.2.length (len - c.1.toNat)) with ⟨err, hread⟩ | hread
    · rw [hread]
      exact Or.inl ⟨err, rfl⟩
    · rw [hread]
      exact Or.inr rfl
  · have hend : len - c.1.toNat = 0 := by omega
    rw [LuksSource.service, if_pos hend, LuksSource.service, if_pos hend]
    exact ⟨Or.inr rfl, h⟩

/-- Reads one after the other. -/
theorem sequential_survives (h : PayloadsBut (Mirrors img) p q) (calls : List (UInt64 × Bytes)) :
    List.Forall₂ (SurvivedBy escaped)
      (Lock.sequential (LuksSource.service escaped K q.payloadSize) p calls).1
      (calls.map (LuksSource.alone escaped K q)) := by
  induction calls generalizing p with
  | nil => exact List.Forall₂.nil
  | cons c calls ih =>
    obtain ⟨hreply, hfinal⟩ := service_survives escaped K h q.payloadSize c
    have halone : LuksSource.alone escaped K q c =
        ((LuksSource.service escaped K q.payloadSize c).run q).1 :=
      (congrArg Prod.fst (LuksSource.run_service escaped K (LuksSource.new q) c)).symm
    rw [List.map_cons, halone]
    exact List.Forall₂.cons hreply (ih hfinal)

end Sharing

/-- **Threads that share a source over a reader that fails** do not disturb each other either.
However their steps interleave, and whatever became of the reads before: a read that came to
an end gave what it gives alone on the fresh source of the same volume over a good reader, or
it reports a failure of the reader; and one that waits can come to its end. -/
theorem shared_reads_survive_faults {ι ρ τ : Type} [DecidableEq ι] [ReadSeek ρ] [ImageReader τ]
    (escaped : Char → Bool) (K : Crates) {img : Bytes} {p : DecryptedPayload ρ}
    {q : DecryptedPayload τ} (h : PayloadsBut (Mirrors img) p q)
    {x : Lock.Config ι (UInt64 × Bytes) (DecryptedPayload ρ) LuksSource.Reply}
    (hx : Lock.Reaches (LuksSource.service escaped K p.payloadSize) LuksSource.poisons
      (Lock.Config.init p) x) :
    (∀ i c a, (i, c, a) ∈ x.log →
      (∃ err, a = .err (mapLuksErr escaped (.io err))) ∨
        a = (LuksSource.readAt escaped K c.1 c.2 (LuksSource.new q)).out) ∧
    ∀ i c, x.phase i = .waiting c → ∃ y a,
      Lock.Reaches (LuksSource.service escaped K p.payloadSize) LuksSource.poisons x y ∧
        y.phase i = .idle ∧ (i, c, a) ∈ y.log := by
  refine ⟨fun i c a hmem => ?_, fun i c hi => Lock.exists_served hx hi⟩
  have hsurvive := sequential_survives escaped K h x.calls
  rw [← h.payloadSize_eq, ← (Lock.serial_of_reaches hx).replies, Lock.Config.replies,
    Lock.Config.calls, List.map_map, List.forall₂_map_left_iff, List.forall₂_map_right_iff,
    List.forall₂_same] at hsurvive
  exact hsurvive _ hmem

namespace Sample

/-- The payload of one sector, on a medium whose second and fourth calls fail. -/
def failingPayload : DecryptedPayload Failing :=
  sectorPayload.map fun r => ⟨r, [false, true, false, true]⟩

theorem mirrors_failingPayload :
    PayloadsBut (Mirrors sectorPayload.reader.bytes) failingPayload sectorPayload :=
  ⟨⟨Failing.flaky failingPayload.reader, rfl⟩, rfl⟩

end Sample

theorem shared_reads_survive_faults_sample :
    ∃ (y : Lock.Config Bool (UInt64 × Bytes) (DecryptedPayload Failing) LuksSource.Reply)
      (a : LuksSource.Reply), y.phase true = .idle ∧ (true, Sample.wanted true, a) ∈ y.log ∧
      ((∃ err, a = .err (mapLuksErr (fun _ => false) (.io err))) ∨
        a = (LuksSource.readAt (fun _ => false) (Sample.tables []).crates (Sample.wanted true).1
          (Sample.wanted true).2 (LuksSource.new Sample.sectorPayload)).out) := by
  obtain ⟨q, hq⟩ := Sample.locked_wanted (ρ := Failing) false
  obtain ⟨r, hr⟩ := Sample.locked_wanted (ρ := Failing) true
  have hreaches : Lock.Reaches
      (LuksSource.service (fun _ => false) (Sample.tables []).crates
        Sample.failingPayload.payloadSize)
      LuksSource.poisons (Lock.Config.init Sample.failingPayload) _ :=
    ((Relation.ReflTransGen.single (.call (i := false) rfl hq)).tail
      (.call (i := true) rfl hr)).tail (.lock (i := false) rfl hq rfl)
  obtain ⟨y, a, hy, hidle, hmem⟩ := (shared_reads_survive_faults (fun _ => false)
    (Sample.tables []).crates Sample.mirrors_failingPayload hreaches).2 true
      (Sample.wanted true) rfl
  exact ⟨y, a, hidle, hmem, (shared_reads_survive_faults (fun _ => false)
    (Sample.tables []).crates Sample.mirrors_failingPayload (hreaches.trans hy)).1 _ _ _ hmem⟩

end Luks
