import Luks.Basis.File
import Luks.Basis.Effect
import Mathlib.Logic.Function.Basic
import Mathlib.Logic.Relation

/-!
# Calls under a lock

An object that any number of threads call at once, and that serves the calls one at a time.
A call is answered at once, without a look at the state, or by a routine that acts on the
state step by step while its thread holds the lock (`Basis.Service`). The lock may be left
by a routine that was stopped in the middle; it is poisoned then, and the next thread takes
it all the same.

The steps of the threads interleave in any way (`Basis.Lock.Step`). The system is
**serial** (`Basis.Lock.serial_of_reaches`): in every configuration it can reach, one thread
at most is in its routine, and the calls that were answered got the replies that they get
when they are made one after the other, in the order of the answers. And it does not come to
a stop: a thread that waits can be served (`Basis.Lock.exists_served`).
-/

namespace Basis

/-- A routine on a state: it is done, or acts on the state and goes on, which may depend on
what it found. -/
inductive Routine (σ υ : Type) where
  /-- Done, with a reply. -/
  | done (a : υ)
  /-- One action. -/
  | act (step : σ → σ) (next : σ → Routine σ υ)

namespace Routine

variable {σ υ : Type}

/-- The reply of a routine that runs alone, and the state it leaves. -/
def run : Routine σ υ → σ → υ × σ
  | done a, s => (a, s)
  | act step next, s => (next s).run (step s)

/-- A routine on a part of the state, run on the whole of it. -/
def zoom {τ : Type} (part : σ → τ) (put : τ → σ → σ) : Routine τ υ → Routine σ υ
  | done a => done a
  | act step next => act (fun s => put (step (part s)) s) fun s => (next (part s)).zoom part put

/-- What it does to the part, it does to the whole, if the part is what was put there. -/
theorem run_zoom {τ : Type} (part : σ → τ) (put : τ → σ → σ) (hpart : ∀ t s, part (put t s) = t)
    (hput : ∀ t t' s, put t' (put t s) = put t' s) (hsame : ∀ s, put (part s) s = s)
    (r : Routine τ υ) (s : σ) :
    (r.zoom part put).run s = ((r.run (part s)).1, put (r.run (part s)).2 s) := by
  induction r generalizing s with
  | done a => exact Prod.ext rfl (hsame s).symm
  | act step next ih =>
    rw [zoom, run, ih, hpart, hput]
    rfl

section Programs

variable {ε ν α β : Type}

/-- Run a program as one action, and go on if it returns; else end with how it ended. -/
def after (m : Prog ε ν σ α) (stop : Outcome ε β → υ) (next : α → Routine σ υ) : Routine σ υ :=
  act (fun s => (m s).final) fun s =>
    match (m s).out with
    | .ok a => next a
    | .err e => done (stop (.err e))
    | .panic p => done (stop (.panic p))

/-- A routine **carries out** a program: alone, it ends with what the program does. -/
def Carries (r : Routine σ υ) (m : Prog ε ν σ β) (stop : Outcome ε β → υ) : Prop :=
  ∀ s, r.run s = (stop (m s).out, (m s).final)

variable {stop : Outcome ε β → υ}

theorem carries_done (b : β) :
    Carries (done (stop (.ok b)) : Routine σ υ) (pure b : Prog ε ν σ β) stop := fun _ => rfl

/-- **Sequencing**: a program as an action, and then the rest of the routine. -/
theorem carries_after {m : Prog ε ν σ α} {f : α → Prog ε ν σ β} {next : α → Routine σ υ}
    (h : ∀ a, Carries (next a) (f a) stop) : Carries (after m stop next) (m >>= f) stop := by
  intro s
  rw [after, run, Prog.bind_apply]
  rcases hm : m s with ⟨out, events, final⟩
  cases out with
  | ok a =>
    simp only [Prog.bind, hm]
    exact h a final
  | err e =>
    simp only [Prog.bind, hm]
    rfl
  | panic p =>
    simp only [Prog.bind, hm]
    rfl

end Programs

end Routine

/-- What a call comes to. -/
inductive Service (σ υ : Type) where
  /-- An answer at once. -/
  | free (a : υ)
  /-- A routine under the lock. -/
  | locked (r : Routine σ υ)

/-- The reply to a call that is made alone, and the state it leaves. -/
def Service.run {σ υ : Type} : Service σ υ → σ → υ × σ
  | free a, s => (a, s)
  | locked r, s => r.run s

namespace Lock

variable {ι κ σ υ : Type}

/-- Where a thread is. -/
inductive Phase (κ σ υ : Type) where
  /-- It makes no call. -/
  | idle
  /-- It waits for the lock, to make a call. -/
  | waiting (c : κ)
  /-- It holds the lock, with so much of its routine to go. -/
  | inside (c : κ) (r : Routine σ υ)

/-- A configuration of the system. -/
structure Config (ι κ σ υ : Type) where
  /-- The state of the object. -/
  state : σ
  /-- The thread that holds the lock. -/
  holder : Option ι
  /-- A routine was stopped under the lock. -/
  poisoned : Bool
  /-- Where the threads are. -/
  phase : ι → Phase κ σ υ
  /-- The calls that were answered: by which thread they were made, and the replies. -/
  log : List (ι × κ × υ)

/-- The start: nobody makes a call. -/
def Config.init (s : σ) : Config ι κ σ υ := ⟨s, none, false, fun _ => .idle, []⟩

variable (service : κ → Service σ υ) (stops : υ → Bool)

/-- One step of one thread. -/
inductive Step [DecidableEq ι] : Config ι κ σ υ → Config ι κ σ υ → Prop
  /-- A call is answered at once. -/
  | answer {s : Config ι κ σ υ} {i : ι} {c : κ} {a : υ} (hi : s.phase i = .idle)
      (hc : service c = .free a) : Step s { s with log := s.log ++ [(i, c, a)] }
  /-- A call has to wait for the lock. -/
  | call {s : Config ι κ σ υ} {i : ι} {c : κ} {r : Routine σ υ} (hi : s.phase i = .idle)
      (hc : service c = .locked r) :
      Step s { s with phase := Function.update s.phase i (.waiting c) }
  /-- The lock is free, and taken: whether it is poisoned makes no difference. -/
  | lock {s : Config ι κ σ υ} {i : ι} {c : κ} {r : Routine σ υ} (hi : s.phase i = .waiting c)
      (hc : service c = .locked r) (hfree : s.holder = none) :
      Step s { s with holder := some i, phase := Function.update s.phase i (.inside c r) }
  /-- The routine acts. -/
  | act {s : Config ι κ σ υ} {i : ι} {c : κ} {step : σ → σ} {next : σ → Routine σ υ}
      (hi : s.phase i = .inside c (.act step next)) :
      Step s { s with
        state := step s.state
        phase := Function.update s.phase i (.inside c (next s.state)) }
  /-- The routine is done, or was stopped, and the lock is left. -/
  | unlock {s : Config ι κ σ υ} {i : ι} {c : κ} {a : υ} (hi : s.phase i = .inside c (.done a)) :
      Step s { s with
        holder := none
        poisoned := s.poisoned || stops a
        phase := Function.update s.phase i .idle
        log := s.log ++ [(i, c, a)] }

/-- Any number of steps, of whichever threads. -/
def Reaches [DecidableEq ι] : Config ι κ σ υ → Config ι κ σ υ → Prop :=
  Relation.ReflTransGen (Step service stops)

/-! ### Serial configurations -/

/-- The replies to calls that are made one after the other, and the state after them. -/
def sequential (s : σ) (calls : List κ) : List υ × σ :=
  replies (fun s c => (service c).run s) s calls

/-- One more call gets its reply in the state that the others left. -/
theorem sequential_append (s : σ) (calls : List κ) (c : κ) :
    sequential service s (calls ++ [c]) =
      ((sequential service s calls).1 ++ [((service c).run (sequential service s calls).2).1],
        ((service c).run (sequential service s calls).2).2) := by
  induction calls generalizing s with
  | nil => rfl
  | cons d calls ih =>
    simp only [sequential, List.cons_append, replies] at ih ⊢
    rw [ih]

/-- The calls that were answered, in the order of the answers. -/
def Config.calls (x : Config ι κ σ υ) : List κ := x.log.map fun e => e.2.1

/-- Their replies. -/
def Config.replies (x : Config ι κ σ υ) : List υ := x.log.map fun e => e.2.2

/-- **A configuration is serial**: the threads in it do not meet, and it looks as if its calls
had been made one after the other from the state `s`. -/
structure Serial (s : σ) (x : Config ι κ σ υ) : Prop where
  /-- Who is in a routine holds the lock. -/
  inside : ∀ i c r, x.phase i = .inside c r → x.holder = some i
  /-- Who holds the lock is in a routine. -/
  holder : ∀ i, x.holder = some i → ∃ c r, x.phase i = .inside c r
  /-- Who waits, waits for a routine. -/
  waiting : ∀ i c, x.phase i = .waiting c → ∃ r, service c = .locked r
  /-- The calls got the replies that they get one after the other. -/
  replies : x.replies = (sequential service s x.calls).1
  /-- When nobody holds the lock, the state is the one that they leave. -/
  state : x.holder = none → x.state = (sequential service s x.calls).2
  /-- What is left of a routine comes to what all of it does from that state. -/
  rest : ∀ i c r, x.phase i = .inside c r →
    r.run x.state = (service c).run (sequential service s x.calls).2

theorem serial_init (s : σ) : Serial service s (Config.init s : Config ι κ σ υ) where
  inside _ _ _ h := nomatch h
  holder _ h := nomatch h
  waiting _ _ h := nomatch h
  replies := rfl
  state _ := rfl
  rest _ _ _ h := nomatch h

variable {service stops} {s : σ} {x y : Config ι κ σ υ}

/-- An answer at once adds to the log, and to nothing else. -/
theorem Serial.answer (h : Serial service s x) {i : ι} {c : κ} {a : υ}
    (hc : service c = .free a) : Serial service s { x with log := x.log ++ [(i, c, a)] } := by
  have hafter : sequential service s (x.calls ++ [c]) =
      ((sequential service s x.calls).1 ++ [a], (sequential service s x.calls).2) := by
    rw [sequential_append, hc]
    rfl
  have hcalls : ({ x with log := x.log ++ [(i, c, a)] } : Config ι κ σ υ).calls =
      x.calls ++ [c] := List.map_append
  refine ⟨h.inside, h.holder, h.waiting, ?_, ?_, ?_⟩
  · rw [hcalls, hafter, ← h.replies]
    exact List.map_append
  · rw [hcalls, hafter]
    exact h.state
  · rw [hcalls, hafter]
    exact h.rest

/-- Who is in a routine is alone there. -/
theorem Serial.unique (h : Serial service s x) {i j : ι} {c d : κ} {q r : Routine σ υ}
    (hi : x.phase i = .inside c q) (hj : x.phase j = .inside d r) : i = j :=
  Option.some.inj ((h.inside i c q hi).symm.trans (h.inside j d r hj))

variable [DecidableEq ι]

/-- A thread is where it was put, or where it was. -/
theorem update_cases {phase : ι → Phase κ σ υ} {i j : ι} {p q : Phase κ σ υ}
    (h : Function.update phase i p j = q) : j = i ∧ p = q ∨ j ≠ i ∧ phase j = q := by
  rw [Function.update_apply] at h
  split_ifs at h with hj
  · exact Or.inl ⟨hj, h⟩
  · exact Or.inr ⟨hj, h⟩

/-- A thread that goes to wait is not in a routine. -/
theorem Serial.call (h : Serial service s x) {i : ι} {c : κ} {r : Routine σ υ}
    (hi : x.phase i = .idle) (hc : service c = .locked r) :
    Serial service s { x with phase := Function.update x.phase i (.waiting c) } where
  inside j d q hj := by
    rcases update_cases hj with ⟨-, hp⟩ | ⟨-, hj⟩
    · cases hp
    · exact h.inside j d q hj
  holder j hj := by
    obtain ⟨d, q, hq⟩ := h.holder j hj
    have hne : j ≠ i := by
      rintro rfl
      cases hi.symm.trans hq
    exact ⟨d, q, (Function.update_of_ne hne _ _).trans hq⟩
  waiting j d hj := by
    rcases update_cases hj with ⟨-, hp⟩ | ⟨-, hj⟩
    · cases hp
      exact ⟨r, hc⟩
    · exact h.waiting j d hj
  replies := h.replies
  state := h.state
  rest j d q hj := by
    rcases update_cases hj with ⟨-, hp⟩ | ⟨-, hj⟩
    · cases hp
    · exact h.rest j d q hj

/-- A thread that takes the lock has all of its routine to go, and meets nobody. -/
theorem Serial.lock (h : Serial service s x) {i : ι} {c : κ} {r : Routine σ υ}
    (hc : service c = .locked r) (hfree : x.holder = none) :
    Serial service s
      { x with holder := some i, phase := Function.update x.phase i (.inside c r) } := by
  have hnobody : ∀ j d q, x.phase j ≠ .inside d q := by
    intro j d q hj
    cases hfree.symm.trans (h.inside j d q hj)
  refine ⟨?_, ?_, ?_, h.replies, nofun, ?_⟩
  · intro j d q hj
    rcases update_cases hj with ⟨rfl, -⟩ | ⟨-, hj⟩
    · rfl
    · exact absurd hj (hnobody j d q)
  · intro j hj
    obtain rfl := Option.some.inj hj
    exact ⟨c, r, Function.update_self ..⟩
  · intro j d hj
    rcases update_cases hj with ⟨-, hp⟩ | ⟨-, hj⟩
    · cases hp
    · exact h.waiting j d hj
  · intro j d q hj
    rcases update_cases hj with ⟨-, hp⟩ | ⟨-, hj⟩
    · obtain ⟨rfl, rfl⟩ := Phase.inside.inj hp
      rw [hc]
      exact congrArg r.run (h.state hfree)
    · exact absurd hj (hnobody j d q)

/-- An action leaves the rest of the routine to go. -/
theorem Serial.act (h : Serial service s x) {i : ι} {c : κ} {step : σ → σ}
    {next : σ → Routine σ υ} (hi : x.phase i = .inside c (.act step next)) :
    Serial service s { x with
      state := step x.state
      phase := Function.update x.phase i (.inside c (next x.state)) } := by
  have hheld := h.inside i c _ hi
  refine ⟨?_, ?_, ?_, h.replies, ?_, ?_⟩
  · intro j d q hj
    rcases update_cases hj with ⟨rfl, -⟩ | ⟨-, hj⟩
    · exact hheld
    · exact h.inside j d q hj
  · intro j hj
    obtain rfl := Option.some.inj (hheld.symm.trans hj)
    exact ⟨c, _, Function.update_self ..⟩
  · intro j d hj
    rcases update_cases hj with ⟨-, hp⟩ | ⟨-, hj⟩
    · cases hp
    · exact h.waiting j d hj
  · intro hfree
    cases hheld.symm.trans hfree
  · intro j d q hj
    rcases update_cases hj with ⟨-, hp⟩ | ⟨hne, hj⟩
    · obtain ⟨rfl, rfl⟩ := Phase.inside.inj hp
      exact h.rest i c _ hi
    · exact absurd (h.unique hj hi) hne

/-- A thread that is done gets the reply of its call made after the others. -/
theorem Serial.unlock (h : Serial service s x) {i : ι} {c : κ} {a : υ} {poisoned : Bool}
    (hi : x.phase i = .inside c (.done a)) :
    Serial service s { x with
      holder := none
      poisoned := poisoned
      phase := Function.update x.phase i .idle
      log := x.log ++ [(i, c, a)] } := by
  have hrun : (service c).run (sequential service s x.calls).2 = (a, x.state) :=
    (h.rest i c _ hi).symm
  have hafter : sequential service s (x.calls ++ [c]) =
      ((sequential service s x.calls).1 ++ [a], x.state) := by
    rw [sequential_append, hrun]
  have hcalls : (x.log ++ [(i, c, a)]).map (fun e => e.2.1) = x.calls ++ [c] := List.map_append
  refine ⟨?_, nofun, ?_, ?_, ?_, ?_⟩
  · intro j d q hj
    rcases update_cases hj with ⟨-, hp⟩ | ⟨hne, hj⟩
    · cases hp
    · exact absurd (h.unique hj hi) hne
  · intro j d hj
    rcases update_cases hj with ⟨-, hp⟩ | ⟨-, hj⟩
    · cases hp
    · exact h.waiting j d hj
  · rw [Config.calls, hcalls, hafter, ← h.replies]
    exact List.map_append
  · intro _
    rw [Config.calls, hcalls, hafter]
  · intro j d q hj
    rcases update_cases hj with ⟨-, hp⟩ | ⟨hne, hj⟩
    · cases hp
    · exact absurd (h.unique hj hi) hne

/-- **A step keeps a configuration serial.** -/
theorem Serial.step (h : Serial service s x) (hstep : Step service stops x y) :
    Serial service s y := by
  cases hstep with
  | answer _ hc => exact h.answer hc
  | call hi hc => exact h.call hi hc
  | lock _ hc hfree => exact h.lock hc hfree
  | act hi => exact h.act hi
  | unlock hi => exact h.unlock hi

/-- **Every configuration that the system can reach is serial.** -/
theorem serial_of_reaches (h : Reaches service stops (Config.init s) x) : Serial service s x := by
  induction h with
  | refl => exact serial_init service s
  | tail _ hstep ih => exact ih.step hstep

/-! ### The system goes on -/

variable (service stops) in
/-- A routine under the lock can be run to its end, by the steps of its thread. -/
theorem exists_finished {i : ι} {c : κ} {r : Routine σ υ} (hi : x.phase i = .inside c r) :
    ∃ y a, Reaches service stops x y ∧ y.phase i = .idle ∧ y.holder = none ∧
      y.log = x.log ++ [(i, c, a)] ∧ ∀ j ≠ i, y.phase j = x.phase j := by
  induction r generalizing x with
  | done a =>
    refine ⟨_, a, Relation.ReflTransGen.single (.unlock hi), Function.update_self .., rfl, rfl, ?_⟩
    exact fun j hj => Function.update_of_ne hj _ _
  | act step next ih =>
    have hstep : Step service stops x { x with
        state := step x.state
        phase := Function.update x.phase i (.inside c (next x.state)) } := .act hi
    obtain ⟨y, a, hy, hidle, hfree, hlog, hothers⟩ :=
      ih x.state (x := { x with
        state := step x.state
        phase := Function.update x.phase i (.inside c (next x.state)) }) (Function.update_self ..)
    refine ⟨y, a, Relation.ReflTransGen.head hstep hy, hidle, hfree, hlog, fun j hj => ?_⟩
    exact (hothers j hj).trans (Function.update_of_ne hj _ _)

/-- **A thread that waits can be served**, whoever holds the lock, and whether or not a routine
was stopped under it before. -/
theorem exists_served (h : Reaches service stops (Config.init s) x) {i : ι} {c : κ}
    (hi : x.phase i = .waiting c) :
    ∃ y a, Reaches service stops x y ∧ y.phase i = .idle ∧ (i, c, a) ∈ y.log := by
  have hserial := serial_of_reaches h
  obtain ⟨r, hr⟩ := hserial.waiting i c hi
  -- whoever holds the lock comes to the end of its routine first
  obtain ⟨z, hz, hwaits, hfree⟩ : ∃ z, Reaches service stops x z ∧ z.phase i = .waiting c ∧
      z.holder = none := by
    cases hheld : x.holder with
    | none => exact ⟨x, Relation.ReflTransGen.refl, hi, hheld⟩
    | some j =>
      obtain ⟨d, q, hj⟩ := hserial.holder j hheld
      have hne : i ≠ j := by
        rintro rfl
        cases hi.symm.trans hj
      obtain ⟨z, a, hz, -, hfree, -, hothers⟩ := exists_finished service stops hj
      exact ⟨z, hz, (hothers i hne).trans hi, hfree⟩
  have hlock : Step service stops z _ := .lock hwaits hr hfree
  obtain ⟨y, a, hy, hidle, -, hlog, -⟩ := exists_finished service stops
    (x := { z with holder := some i, phase := Function.update z.phase i (.inside c r) })
    (Function.update_self ..)
  refine ⟨y, a, (hz.tail hlock).trans hy, hidle, ?_⟩
  rw [hlog]
  exact List.mem_append_right _ (List.mem_singleton_self _)

end Lock

end Basis
