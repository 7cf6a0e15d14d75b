import Luks.Basis.Effect
import Luks.Error
import Mathlib.Order.Monotone.Basic

/-!
# The machine a container is opened on

What the code asks of the machine below it, and what a run of it leaves in the
trace.

* **Buffers.** Every zeroed buffer is asked for by `Luks.vecZeroed`, which records
  its length and is stopped when no address space could hold it. Vectors that grow are
  recorded with what they have grown to (`Luks.vecsCollected`).
* **Integers.** Sums and products of sizes that a header or a caller chooses go
  through `Luks.addU64` and its siblings, which are stopped when the result leaves
  the type, as a build with overflow checks is. A `usize` has 64 bits.
* **Time.** A `Luks.Clock` gives the instant of each reading, counted from the
  start of the run; it never goes back, and is otherwise arbitrary. How far it
  advances between two readings is how long the steps between them took.

The trace (`Luks.Event`) is not part of what the code returns: it records what
happened, for the statements about buffers, about time, and about what was read
and decrypted.
-/

namespace Luks

open Basis

/-! ### Events -/

/-- One call of the PBKDF2 derivation, as the trace records it. -/
structure Pbkdf2Run where
  /-- The instant of the deadline check before the call, at which it starts. -/
  start : ℕ
  /-- The time it was given. -/
  allowance : Duration
  /-- The iterations asked for. -/
  iters : ℕ
  /-- The instants around the calibration, if there was one. -/
  probe : Option (ℕ × ℕ)
  /-- Whether the full count was run. -/
  ran : Bool
  /-- The instant at which the call ended. -/
  finish : ℕ

/-- What happens during a run. -/
inductive Event where
  /-- A buffer of this length was asked for. -/
  | alloc (len : ℕ)
  /-- A derivation was started at an instant, with an allowance. -/
  | derive (start : ℕ) (allowance : Duration)
  /-- A PBKDF2 derivation came to its end. -/
  | pbkdf2 (run : Pbkdf2Run)
  /-- Key material of this extent is about to be decrypted and merged. -/
  | material (offset len : ℕ)
  /-- A data unit of this length was decrypted under this tweak. -/
  | sector (len : ℕ) (tweak : Bytes)
  /-- A data unit of this length was too short and was passed through. -/
  | passed (len : ℕ)
  /-- A data unit was read at this address. -/
  | unit (physical : ℕ)

/-- A program on states `σ`, with the errors and events of the container code. -/
abbrev Exec (σ α : Type) : Type := Prog LuksError Event σ α

variable {σ : Type}

/-! ### Buffers and integers -/

/-- The longest buffer a process can have: `isize::MAX`. -/
def isizeMax : ℕ := 2 ^ 63 - 1

/-- An event asks for no buffer of more than `n` bytes. -/
def AllocAtMost (n : ℕ) : Event → Prop
  | .alloc len => len ≤ n
  | _ => True

/-- `vec![0u8; n]`. -/
def vecZeroed (n : ℕ) : Exec σ Bytes :=
  if isizeMax < n then Prog.abort .capacityOverflow
  else do
    Prog.emit (.alloc n)
    return List.replicate n 0

/-- The capacity of a vector that has grown to `n` elements, one by one: four, doubled until
they fit. -/
def vecCapacity (n : ℕ) : ℕ := if n = 0 then 0 else max 4 n.nextPowerOfTwo

/-- `collect` into vectors that come to take so many bytes. What they are collected from is in
memory already, and they fit it. -/
def vecsCollected (sizes : List ℕ) : Exec σ Unit :=
  sizes.foldlM (fun _ n => Prog.emit (.alloc n)) ()

/-- A slice of bytes: like a buffer, no longer than a process can have. -/
structure Slice where
  /-- The bytes. -/
  bytes : Bytes
  /-- They fit the memory of a process. -/
  length_le : bytes.length ≤ isizeMax

/-- An arithmetic result, if it fits the type whose values lie below `bound`. -/
def checked (bound n : ℕ) : Exec σ ℕ :=
  if n < bound then return n else Prog.abort .arithmeticOverflow

/-- A sum of `u64` or `usize` values. -/
def addU64 (a b : ℕ) : Exec σ ℕ := checked (2 ^ 64) (a + b)

/-- A product of `u64` or `usize` values. -/
def mulU64 (a b : ℕ) : Exec σ ℕ := checked (2 ^ 64) (a * b)

/-- A sum of `u128` values. -/
def addU128 (a b : ℕ) : Exec σ ℕ := checked (2 ^ 128) (a + b)

/-- A product of `u128` values. -/
def mulU128 (a b : ℕ) : Exec σ ℕ := checked (2 ^ 128) (a * b)

section Rules

variable {I : σ → Prop} {G : LuksError → Prop} {E : Event → Prop} {a b n : ℕ}

theorem checked_out_eq_ok_iff {bound m : ℕ} {s : σ} :
    (checked bound n s).out = .ok m ↔ n < bound ∧ n = m := by
  rw [checked]
  split_ifs with hlt
  · exact ⟨fun h => ⟨hlt, Outcome.ok.inj h⟩, fun h => congrArg _ h.2⟩
  · exact ⟨fun h => (nomatch h), fun h => absurd h.1 hlt⟩

theorem checked_out_eq_ok {bound m : ℕ} {s : σ} (h : (checked bound n s).out = .ok m) :
    n < bound := (checked_out_eq_ok_iff.mp h).1

theorem addU64_of_lt (h : a + b < 2 ^ 64) : (addU64 a b : Exec σ ℕ) = pure (a + b) := if_pos h

theorem mulU64_of_lt (h : a * b < 2 ^ 64) : (mulU64 a b : Exec σ ℕ) = pure (a * b) := if_pos h

theorem addU128_of_lt (h : a + b < 2 ^ 128) : (addU128 a b : Exec σ ℕ) = pure (a + b) := if_pos h

theorem mulU128_of_lt (h : a * b < 2 ^ 128) : (mulU128 a b : Exec σ ℕ) = pure (a * b) := if_pos h

theorem addU64_of_ge (h : 2 ^ 64 ≤ a + b) :
    (addU64 a b : Exec σ ℕ) = Prog.abort .arithmeticOverflow := if_neg (not_lt_of_ge h)

theorem mulU64_of_ge (h : 2 ^ 64 ≤ a * b) :
    (mulU64 a b : Exec σ ℕ) = Prog.abort .arithmeticOverflow := if_neg (not_lt_of_ge h)

theorem vecZeroed_of_lt (h : isizeMax < n) :
    (vecZeroed n : Exec σ Bytes) = Prog.abort .capacityOverflow := if_pos h

/-- A buffer that fits the address space is given out, and recorded. -/
theorem vecZeroed_follows (hn : n ≤ isizeMax) (hE : E (.alloc n)) :
    Triple I (vecZeroed n) (Follows I G (.ok (List.replicate n 0))) E := by
  rw [vecZeroed, if_neg (by omega)]
  exact Triple.bind_ok_follows (Triple.emit_follows hE) Triple.pure_follows

theorem vecZeroed_out_eq_ok {bs : Bytes} {s : σ} (h : (vecZeroed n s).out = .ok bs) :
    n ≤ isizeMax := by
  rw [vecZeroed] at h
  split_ifs at h with hlt
  · cases h
  · exact Nat.le_of_not_lt hlt

/-- Collecting in vectors leaves their sizes. -/
theorem vecsCollected_follows {S : Prop} {sizes : List ℕ} (hE : ∀ n ∈ sizes, E (.alloc n)) :
    Triple I (vecsCollected sizes) (FollowsUnless S I G (.ok ())) E :=
  Triple.foldlM (g := fun _ _ => ()) (J := fun _ => True) trivial (fun _ _ _ => trivial)
    fun _ n hn _ => Triple.emit_follows (hE n hn)

/-- Where one of them may not have its size, that goes wrong. -/
theorem breaks_vecsCollected {sizes : List ℕ} (h : ∃ n ∈ sizes, ¬E (.alloc n)) :
    Breaks I (vecsCollected sizes) E := by
  obtain ⟨n, hn, hbad⟩ := h
  obtain ⟨l₁, l₂, rfl⟩ := List.append_of_mem hn
  rw [vecsCollected, List.foldlM_append]
  refine Breaks.bind_right (vecsCollected_follows (E := fun _ => True) fun _ _ => trivial) ?_
  rw [List.foldlM_cons]
  exact Breaks.bind_left (Breaks.emit hbad)

/-- Arithmetic leaves nothing. -/
theorem leaves_checked (bound n : ℕ) : Leaves E (checked bound n : Exec σ ℕ) := by
  rw [checked]
  split_ifs
  · exact Leaves.pure _
  · exact Leaves.abort _

/-- What follows an arithmetic step goes on with the exact result. -/
theorem leaves_checked_bind {α : Type} {bound n : ℕ} {f : ℕ → Exec σ α}
    (h : n < bound → Leaves E (f n)) : Leaves E (checked bound n >>= f) := by
  rw [checked]
  split_ifs with hlt
  · rw [pure_bind]
    exact h hlt
  · rw [Prog.abort_bind]
    exact Leaves.abort _

/-- A buffer leaves its length. -/
theorem leaves_vecZeroed (hE : E (.alloc n)) : Leaves E (vecZeroed n : Exec σ Bytes) := by
  rw [vecZeroed]
  split_ifs
  · exact Leaves.abort _
  · exact (Leaves.emit hE).bind fun _ => Leaves.pure _

/-- Vectors leave their sizes. -/
theorem leaves_vecsCollected {sizes : List ℕ} (hE : ∀ n ∈ sizes, E (.alloc n)) :
    Leaves E (vecsCollected sizes : Exec σ Unit) :=
  Leaves.foldlM (fun _ n hn => Leaves.emit (hE n hn)) ()

/-- Arithmetic reports no error: what does not fit stops the program. -/
theorem checked_reports (bound n : ℕ) : Reports I G (checked bound n) := by
  rw [checked]
  split_ifs
  · exact Reports.pure _
  · exact Reports.abort _

/-- Neither does collecting in vectors. -/
theorem vecsCollected_reports (sizes : List ℕ) : Reports I G (vecsCollected sizes) :=
  Reports.foldlM (fun _ _ _ => Reports.emit _) ()

/-- And neither does asking for a buffer. -/
theorem vecZeroed_reports (n : ℕ) : Reports I G (vecZeroed n) := by
  rw [vecZeroed]
  split_ifs
  · exact Reports.abort _
  · exact (Reports.emit _).bind fun _ => Reports.pure _

end Rules

/-! ### Time -/

/-- The instants that successive readings of the clock give, in nanoseconds. -/
structure Clock where
  /-- The instant of each reading. -/
  now : ℕ → ℕ
  /-- The clock never goes back. -/
  mono : Monotone now

/-- The clock stands still, as it does for a run that takes no time. -/
def Clock.Stands (clk : Clock) : Prop := ∀ m n, clk.now m = clk.now n

/-- The clock that stands at `t`. -/
def Clock.stopped (t : ℕ) : Clock := ⟨fun _ => t, monotone_const⟩

theorem Clock.stands_stopped (t : ℕ) : (Clock.stopped t).Stands := fun _ _ => rfl

/-- The state of an unlock: the reader, and the clock's position. -/
structure World (ρ : Type) where
  /-- The reader of the container. -/
  reader : ρ
  /-- How often the clock has been read. -/
  ticks : ℕ
  /-- The instant of the last reading. -/
  now : ℕ

/-- The state an unlock is started in. -/
def World.init {ρ : Type} (r : ρ) : World ρ := ⟨r, 0, 0⟩

variable {ρ : Type} (clk : Clock)

/-- `Instant::now`. -/
def instantNow : Exec (World ρ) ℕ := fun w =>
  ⟨.ok (clk.now w.ticks), [], { w with ticks := w.ticks + 1, now := clk.now w.ticks }⟩

/-- A program on the reader, in an unlock. -/
def onReader {α : Type} (m : Exec ρ α) : Exec (World ρ) α :=
  Prog.zoom World.reader (fun r w => { w with reader := r }) m

end Luks
