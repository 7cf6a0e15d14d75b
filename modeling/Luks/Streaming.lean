import Luks.Basis.Schedule
import Luks.Basis.Units
import Luks.PayloadFile

/-!
# The work of reading

What reading costs is the data units that are decrypted. A read decrypts the units that its
range has a byte of, each of them once and in their order, up to where it is stopped
(`Luks.DecryptedPayload.readUnits_scheduled`).

To read on in pieces is to go on from unit to unit: it never goes back, and decrypts a unit
again only for a piece that starts inside it. Pieces of whole units, from the front of a unit
on, decrypt each unit once (`Luks.stream_work`).
-/

namespace Luks

open Basis

/-- The address of the data unit that an event shows. -/
def Event.unitAddress : Event → Option ℕ
  | .unit physical => some physical
  | _ => none

namespace DecryptedPayload

section Units

variable {ρ τ : Type} [ReadSeek ρ] (K : Crates) (p : DecryptedPayload τ)

/-- Where data unit `u` stands in the container. -/
def addressOfUnit (p : DecryptedPayload τ) (u : ℕ) : ℕ := p.payloadOffset.toNat + u * p.unitSize

/-- How far a sequential read goes. -/
def reach (p : DecryptedPayload τ) (len : ℕ) : ℕ := min len (p.payloadSize - p.position.toNat)

theorem reach_of_le {p : DecryptedPayload τ} {len : ℕ} (h : p.payloadSize ≤ p.position.toNat) :
    p.reach len = 0 := by
  rw [reach, Nat.sub_eq_zero_of_le h, Nat.min_zero]

/-- After an arithmetic step, which may stop the run. -/
theorem checked_scheduled {α σ : Type} {plan : List ℕ} {bound n : ℕ} {f : ℕ → Exec σ α}
    (h : n < bound → Scheduled (fun _ => True) Event.unitAddress Outcome.IsOk plan (f n)) :
    Scheduled (fun _ => True) Event.unitAddress Outcome.IsOk plan (checked bound n >>= f) := by
  rw [checked]
  split_ifs with hlt
  · rw [pure_bind]
    exact h hlt
  · rw [Prog.abort_bind]
    exact Scheduled.abort (Outcome.not_isOk_panic _)

/-- **A pass decrypts the unit of its position.** -/
theorem readUnit_scheduled (pos : ℕ) : Scheduled (fun _ => True) Event.unitAddress Outcome.IsOk
    [p.addressOfUnit (pos / p.unitSize)] (p.readUnit (ρ := ρ) K pos) := by
  have hok : ∀ o : Outcome LuksError Bytes, o.IsOk → o.IsOk := fun _ h => h
  rw [readUnit]
  refine checked_scheduled fun _ => checked_scheduled fun _ => ?_
  refine Scheduled.andThen_leaves (leaves_vecZeroed rfl) (fun _ => ?_) hok
  refine Scheduled.andThen_leaves (leaves_readAvailableAt _ _) (fun ct => ?_) hok
  refine Scheduled.emit_andThen rfl (fun _ => Scheduled.of_leaves ?_) hok
  refine (leaves_checked _ _).bind fun _ => (leaves_checked _ _).bind fun tweak => ?_
  exact leaves_xtsDecryptArea K (fun _ => rfl) (fun _ _ => rfl) _ _ _ _ _

/-- **A read decrypts the units of its range**, one pass after the other. -/
theorem readUnits_scheduled (offset len done : ℕ) :
    Scheduled (fun _ => True) Event.unitAddress Outcome.IsOk
      ((unitsOf p.unitSize (offset + done) (len - done)).map p.addressOfUnit)
      (p.readUnits (ρ := ρ) K offset len done) := by
  induction done using p.loop_induct len with
  | stop done hdone =>
    rw [readUnits, dif_pos hdone, Nat.sub_eq_zero_of_le hdone, unitsOf_zero]
    exact Scheduled.pure []
  | pass done hdone ih =>
    rw [p.readUnits_of_lt K hdone, unitsOf_eq_cons p.unitSize_pos (by omega), List.map_cons]
    refine checked_scheduled fun _ => ?_
    refine Scheduled.andThen (readUnit_scheduled K p _) (fun plain => ?_) fun _ h => h
    rw [← List.append_nil (List.map _ _), Nat.sub_sub, Nat.add_assoc offset]
    exact Scheduled.andThen (ih _) (fun rest => Scheduled.pure _) fun _ h => h

end Units

variable {ρ : Type} [ReadSeek ρ] (K : Crates) (p : DecryptedPayload ρ)

theorem readAt_keepsTo (offset : UInt64) (len : ℕ) : KeepsTo Event.unitAddress Outcome.IsOk
    ((unitsOf p.unitSize offset.toNat len).map p.addressOfUnit) (readAt K offset len p) := by
  have hrun := readUnits_scheduled (ρ := ρ) K p offset.toNat len 0 p.reader trivial
  rw [readAt_apply]
  exact ⟨hrun.isPrefix, hrun.whole⟩

/-- A sequential read before the end, in terms of how far it goes. -/
theorem read_of_reach {len : ℕ} (h : p.position.toNat < p.payloadSize) : read K len p =
    (readAt K p.position (p.reach len) >>= fun bs =>
      advance (p.position.toNat + p.reach len) >>= fun _ => pure bs) p := read_of_lt K p h

/-- A sequential read decrypts the units of what it reads. -/
theorem read_keepsTo (len : ℕ) : KeepsTo Event.unitAddress Outcome.IsOk
    ((unitsOf p.unitSize p.position.toNat (p.reach len)).map p.addressOfUnit) (read K len p) := by
  rcases Nat.lt_or_ge p.position.toNat p.payloadSize with hlt | hge
  · rw [read_of_reach K p hlt]
    exact (readAt_keepsTo K p p.position (p.reach len)).bind_unseen fun _ =>
      (Leaves.modify _).bind fun _ => Leaves.pure _
  · rw [read_of_le K p hge, reach_of_le hge, unitsOf_zero]
    exact ⟨List.prefix_rfl, fun _ => rfl⟩

/-- A sequential read that returns leaves the position behind what it read. -/
theorem read_final {len : ℕ} {bs : Bytes} (h : (read K len p).out = .ok bs) :
    ∃ (r : ρ) (pos : UInt64), pos.toNat = p.position.toNat + p.reach len ∧
      (read K len p).final = p.movedTo r pos := by
  rcases Nat.lt_or_ge p.position.toNat p.payloadSize with hlt | hge
  · have hfit : p.position.toNat + p.reach len < 2 ^ 64 := by
      have hsize := p.payloadSize_lt
      rw [reach]
      omega
    rw [read_of_reach K p hlt] at h ⊢
    obtain ⟨bs', hout, -⟩ := Prog.bind_out_eq_ok_iff.mp h
    rw [Prog.bind_of_ok hout, readAt_apply]
    exact ⟨_, _, UInt64.toNat_ofNat_of_lt hfit, rfl⟩
  · rw [read_of_le K p hge, reach_of_le hge]
    exact ⟨p.reader, p.position, rfl, rfl⟩

/-- **To read on in pieces is to go on from unit to unit.** -/
theorem mapM_read_keepsTo (sizes : List ℕ) : KeepsTo Event.unitAddress Outcome.IsOk
    ((pieceUnits p.unitSize p.payloadSize p.position.toNat sizes).map p.addressOfUnit)
    (sizes.mapM (read K) p) := by
  induction sizes generalizing p with
  | nil => exact ⟨List.prefix_rfl, fun _ => rfl⟩
  | cons len sizes ih =>
    have hread := read_keepsTo K p len
    rw [List.mapM_cons, pieceUnits, List.map_append]
    cases hout : (read K len p).out with
    | ok bs =>
      obtain ⟨r, pos, hpos, hfinal⟩ := read_final K p hout
      -- the rest is read from where this piece left the position
      have hrest := ih (p.movedTo r pos)
      rw [show (p.movedTo r pos).position = pos from rfl, hpos] at hrest
      rw [Prog.bind_of_ok hout, hfinal]
      exact .after (hread.whole ⟨bs, hout⟩) (hrest.bind_unseen fun _ => Leaves.pure _)
    | err e =>
      rw [Prog.bind_of_err hout]
      exact hread.stopped (Outcome.not_isOk_err e)
    | panic q =>
      rw [Prog.bind_of_panic hout]
      exact hread.stopped (Outcome.not_isOk_panic q)

end DecryptedPayload

/-! ### Reading on -/

section Streams

variable {ρ : Type} [ReadSeek ρ]

/-- The data units that a payload is read on over, from its position, in pieces of some sizes. -/
def DecryptedPayload.unitsAhead (p : DecryptedPayload ρ) (sizes : List ℕ) : List ℕ :=
  unitsOf p.unitSize p.position.toNat (pieceTotal p.payloadSize p.position.toNat sizes)

/-- What reading on in pieces may decrypt, of the addresses of data units. -/
structure StreamsUnits (p : DecryptedPayload ρ) (sizes addresses : List ℕ) : Prop where
  /-- Nothing beside the range, and nothing at or past the end of the payload. -/
  within : ∀ a ∈ addresses, ∃ u ∈ p.unitsAhead sizes, a = p.addressOfUnit u
  /-- It does not go back. -/
  forward : addresses.Pairwise (· ≤ ·)
  /-- A unit is decrypted again once at most for each piece. -/
  length_le : addresses.length ≤ (p.unitsAhead sizes).length + sizes.length
  /-- In whole units, each of them is decrypted once. -/
  once : p.unitSize ∣ p.position.toNat → (∀ n ∈ sizes, p.unitSize ∣ n) →
    addresses <+: (p.unitsAhead sizes).map p.addressOfUnit

/-- **The work of reading on.** Reading in pieces of any sizes decrypts the data units of the
range and no others, goes forward only, and decrypts again one unit at most for each piece, and
none where the pieces are of whole units; that is so also when it is stopped. When it returns,
every unit of the range was decrypted. -/
theorem stream_work (K : Crates) (p : DecryptedPayload ρ) (sizes : List ℕ) :
    StreamsUnits p sizes
      ((sizes.mapM (DecryptedPayload.read K) p).events.filterMap Event.unitAddress) ∧
    ((sizes.mapM (DecryptedPayload.read K) p).out.IsOk → ∀ u ∈ p.unitsAhead sizes,
      p.addressOfUnit u ∈
        (sizes.mapM (DecryptedPayload.read K) p).events.filterMap Event.unitAddress) := by
  have hrun := DecryptedPayload.mapM_read_keepsTo K p sizes
  have hpos := p.unitSize_pos
  refine ⟨⟨fun a ha => ?_, ?_, ?_, fun hfront hwhole => ?_⟩, fun hok u hu => ?_⟩
  · obtain ⟨u, hu, rfl⟩ := List.mem_map.mp (hrun.isPrefix.subset ha)
    exact ⟨u, (mem_pieceUnits hpos).mp hu, rfl⟩
  · refine (List.Pairwise.map _ (fun u v huv => ?_) (pairwise_pieceUnits hpos _ _ _)).sublist
      hrun.isPrefix.sublist
    exact Nat.add_le_add_left (Nat.mul_le_mul_right _ huv) _
  · have hlen := hrun.isPrefix.length_le
    rw [List.length_map] at hlen
    exact hlen.trans (length_pieceUnits_le _ _ _ _)
  · rw [DecryptedPayload.unitsAhead, ← pieceUnits_of_dvd hpos hfront hwhole]
    exact hrun.isPrefix
  · rw [hrun.whole hok]
    exact List.mem_map.mpr ⟨u, (mem_pieceUnits hpos).mpr hu, rfl⟩

end Streams

end Luks
