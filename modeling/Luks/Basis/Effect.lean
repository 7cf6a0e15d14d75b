import Mathlib.Logic.Basic

/-!
# Programs with state, errors, panics and a trace

The computations of a systems program, as functions of its state. A program
(`Basis.Prog`) takes a state and gives back three things: how it ended
(`Basis.Outcome` – a value, an error it reports, or a panic), the events it left
in the trace, and the state it ended in. The state and the trace are there also
when the program failed, so a statement can speak about what a failing run did.

## The triple

`Basis.Triple` is the one judgement of the file: started in a state satisfying a
precondition, the program ends with an outcome and a state satisfying the
postcondition, and every event it left satisfies an event predicate. The rules
follow the program – `Basis.Triple.bind` for sequencing, `Basis.Triple.zoom` for
a program run on a part of a larger state – and the loops have their own in
`Basis.Triple.findSomeM?` and `Basis.Triple.foldlM`.

## Following a pure computation

Most postconditions say that a program *follows* a pure computation
`spec : Except ε α` (`Basis.Follows`): it ends as `spec` does, or it gives up with
one of a named set of errors, and it leaves an invariant standing in either
case. `Basis.Triple.bind_follows` composes these, so that a long program follows
the same sequence of pure steps. A program that can be stopped follows it *unless*
some proposition holds (`Basis.FollowsUnless`), and is stopped only where the pure
computation fails.
-/

namespace Basis

/-- The ways a program can be stopped by the language rather than by itself. -/
inductive Panic where
  /-- A buffer longer than the address space allows was asked for. -/
  | capacityOverflow
  /-- An unsigned machine integer left its range. -/
  | arithmeticOverflow
  /-- A slice was taken outside of its buffer, or split in chunks of no length. -/
  | sliceBounds
  deriving DecidableEq, Repr

/-- How a program ends. -/
inductive Outcome (ε α : Type) where
  /-- It returned a value. -/
  | ok (a : α)
  /-- It reported an error. -/
  | err (e : ε)
  /-- It was stopped. -/
  | panic (p : Panic)
  deriving DecidableEq, Repr

/-- The outcome a pure computation stands for. -/
def Outcome.ofExcept {ε α : Type} : Except ε α → Outcome ε α
  | .ok a => .ok a
  | .error e => .err e

@[simp] theorem Outcome.ofExcept_ok {ε α : Type} (a : α) :
    Outcome.ofExcept (.ok a : Except ε α) = .ok a := rfl

@[simp] theorem Outcome.ofExcept_error {ε α : Type} (e : ε) :
    Outcome.ofExcept (.error e : Except ε α) = .err e := rfl

@[simp] theorem Outcome.ofExcept_eq_ok_iff {ε α : Type} {x : Except ε α} {a : α} :
    Outcome.ofExcept x = .ok a ↔ x = .ok a := by
  cases x <;> simp

@[simp] theorem Outcome.ofExcept_eq_err_iff {ε α : Type} {x : Except ε α} {e : ε} :
    Outcome.ofExcept x = .err e ↔ x = .error e := by
  cases x <;> simp

/-- A pure computation is not stopped. -/
@[simp] theorem Outcome.ofExcept_ne_panic {ε α : Type} (x : Except ε α) (p : Panic) :
    Outcome.ofExcept x ≠ .panic p := by
  cases x <;> simp

/-- The same ending, with the value transformed. -/
def Outcome.map {ε α β : Type} (f : α → β) : Outcome ε α → Outcome ε β
  | .ok a => .ok (f a)
  | .err e => .err e
  | .panic p => .panic p

theorem Outcome.map_eq_ok_iff {ε α β : Type} {f : α → β} {o : Outcome ε α} {b : β} :
    o.map f = .ok b ↔ ∃ a, o = .ok a ∧ f a = b := by
  cases o <;> simp [Outcome.map]

theorem Outcome.map_eq_err_iff {ε α β : Type} {f : α → β} {o : Outcome ε α} {e : ε} :
    o.map f = .err e ↔ o = .err e := by
  cases o <;> simp [Outcome.map]

/-- The same ending, with the error transformed. -/
def Outcome.mapError {ε ε' α : Type} (f : ε → ε') : Outcome ε α → Outcome ε' α
  | .ok a => .ok a
  | .err e => .err (f e)
  | .panic p => .panic p

/-- What a run of a program leaves behind. -/
structure Run (ε ν σ α : Type) where
  /-- How the run ended. -/
  out : Outcome ε α
  /-- The events of the run, in the order they happened. -/
  events : List ν
  /-- The state the run ended in. -/
  final : σ

/-- A program on states `σ` with errors `ε` and trace events `ν`. -/
def Prog (ε ν σ α : Type) : Type := σ → Run ε ν σ α

variable {ε ν σ τ α β : Type}

namespace Prog

/-- The program that returns `a` and does nothing else. -/
protected def pure (a : α) : Prog ε ν σ α := fun s => ⟨.ok a, [], s⟩

/-- Sequencing: the second program runs only if the first returned. -/
protected def bind (m : Prog ε ν σ α) (f : α → Prog ε ν σ β) : Prog ε ν σ β := fun s =>
  match (m s).out with
  | .ok a =>
      ⟨(f a (m s).final).out, (m s).events ++ (f a (m s).final).events, (f a (m s).final).final⟩
  | .err e => ⟨.err e, (m s).events, (m s).final⟩
  | .panic p => ⟨.panic p, (m s).events, (m s).final⟩

instance : Monad (Prog ε ν σ) where
  pure := Prog.pure
  bind := Prog.bind

/-- Report an error. -/
def throw (e : ε) : Prog ε ν σ α := fun s => ⟨.err e, [], s⟩

/-- Be stopped. -/
def abort (p : Panic) : Prog ε ν σ α := fun s => ⟨.panic p, [], s⟩

/-- Leave an event in the trace. -/
def emit (v : ν) : Prog ε ν σ Unit := fun s => ⟨.ok (), [v], s⟩

/-- Read off the state. -/
def get (f : σ → α) : Prog ε ν σ α := fun s => ⟨.ok (f s), [], s⟩

/-- Change the state. -/
def modify (f : σ → σ) : Prog ε ν σ Unit := fun s => ⟨.ok (), [], f s⟩

/-- A pure computation, as a program. -/
def ofExcept : Except ε α → Prog ε ν σ α
  | .ok a => Prog.pure a
  | .error e => Prog.throw e

/-- A program on a part `τ` of the state, run on the whole of it. -/
def zoom (part : σ → τ) (put : τ → σ → σ) (m : Prog ε ν τ α) : Prog ε ν σ α := fun s =>
  ⟨(m (part s)).out, (m (part s)).events, put (m (part s)).final s⟩

/-- A program, reporting its errors in other terms. -/
def mapError {ε' : Type} (f : ε → ε') (m : Prog ε ν σ α) : Prog ε' ν σ α := fun s =>
  ⟨(m s).out.mapError f, (m s).events, (m s).final⟩

/-- A program whose errors are values: it is stopped or returns how it went. -/
def attempt {ε' : Type} (m : Prog ε ν σ α) : Prog ε' ν σ (Except ε α) := fun s =>
  ⟨match (m s).out with
    | .ok a => .ok (.ok a)
    | .err e => .ok (.error e)
    | .panic p => .panic p,
    (m s).events, (m s).final⟩

instance : LawfulMonad (Prog ε ν σ) := by
  refine LawfulMonad.mk' (Prog ε ν σ) ?_ (fun _ _ => ?_) ?_
  · intro α x
    funext s
    change Prog.bind x Prog.pure s = x s
    rcases h : x s with ⟨out, events, final⟩
    cases out <;> simp [Prog.bind, Prog.pure, h]
  · funext s
    change Prog.bind (Prog.pure _) _ s = _
    simp [Prog.bind, Prog.pure]
  · intro α β γ x f g
    funext s
    change Prog.bind (Prog.bind x f) g s = Prog.bind x (fun a => Prog.bind (f a) g) s
    rcases h : x s with ⟨out, events, final⟩
    cases out with
    | ok a =>
      rcases h' : f a final with ⟨out', events', final'⟩
      cases out' <;> simp [Prog.bind, h, h']
    | err e => simp [Prog.bind, h]
    | panic p => simp [Prog.bind, h]

theorem bind_apply (m : Prog ε ν σ α) (f : α → Prog ε ν σ β) (s : σ) :
    (m >>= f) s = Prog.bind m f s := rfl

section Bind

variable {m : Prog ε ν σ α} {f : α → Prog ε ν σ β} {s : σ}

theorem bind_of_ok {a : α} (h : (m s).out = .ok a) : (m >>= f) s =
    ⟨(f a (m s).final).out, (m s).events ++ (f a (m s).final).events,
      (f a (m s).final).final⟩ := by
  simp only [bind_apply, Prog.bind, h]

theorem bind_of_err {e : ε} (h : (m s).out = .err e) :
    (m >>= f) s = ⟨.err e, (m s).events, (m s).final⟩ := by
  simp only [bind_apply, Prog.bind, h]

theorem bind_of_panic {p : Panic} (h : (m s).out = .panic p) :
    (m >>= f) s = ⟨.panic p, (m s).events, (m s).final⟩ := by
  simp only [bind_apply, Prog.bind, h]

theorem mem_events_bind_left {v : ν} (hv : v ∈ (m s).events) : v ∈ ((m >>= f) s).events := by
  rw [bind_apply]
  rcases hm : m s with ⟨out, events, final⟩
  rw [hm] at hv
  cases out <;> simp [Prog.bind, hm, hv]

theorem mem_events_bind_right {a : α} {v : ν} (h : (m s).out = .ok a)
    (hv : v ∈ (f a (m s).final).events) : v ∈ ((m >>= f) s).events := by
  rw [bind_of_ok h]
  exact List.mem_append_right _ hv

/-- Nothing follows a stop. -/
theorem abort_bind (p : Panic) (f : α → Prog ε ν σ β) :
    (abort p : Prog ε ν σ α) >>= f = abort p := rfl

theorem attempt_of_ok {ε' : Type} {a : α} (h : (m s).out = .ok a) :
    (attempt m : Prog ε' ν σ (Except ε α)) s = ⟨.ok (.ok a), (m s).events, (m s).final⟩ := by
  simp only [attempt, h]

theorem attempt_of_err {ε' : Type} {e : ε} (h : (m s).out = .err e) :
    (attempt m : Prog ε' ν σ (Except ε α)) s = ⟨.ok (.error e), (m s).events, (m s).final⟩ := by
  simp only [attempt, h]

end Bind

@[simp] theorem pure_apply (a : α) (s : σ) :
    (pure a : Prog ε ν σ α) s = ⟨.ok a, [], s⟩ := rfl

/-- A pure computation leaves the state alone. -/
theorem ofExcept_final (x : Except ε α) (s : σ) :
    ((ofExcept x : Prog ε ν σ α) s).final = s := by
  cases x <;> rfl

/-- Transforming the value of a program transforms the value of its runs. -/
theorem map_apply (f : α → β) (m : Prog ε ν σ α) (s : σ) :
    (f <$> m) s = ⟨(m s).out.map f, (m s).events, (m s).final⟩ := by
  rw [map_eq_pure_bind, bind_apply]
  rcases hm : m s with ⟨out, events, final⟩
  cases out <;> simp [Prog.bind, hm, Outcome.map]

/-- A sequence returns exactly when both of its parts do. -/
theorem bind_out_eq_ok_iff {m : Prog ε ν σ α} {f : α → Prog ε ν σ β} {s : σ} {b : β} :
    ((m >>= f) s).out = .ok b ↔ ∃ a, (m s).out = .ok a ∧ (f a (m s).final).out = .ok b := by
  rw [bind_apply]
  rcases hm : m s with ⟨out, events, final⟩
  cases out <;> simp [Prog.bind, hm]

/-- A second part that gives back the value of the first does not change the outcome. -/
theorem bind_out_of_keeps {m : Prog ε ν σ α} {f : α → Prog ε ν σ α}
    (h : ∀ a s, (f a s).out = .ok a) (s : σ) : ((m >>= f) s).out = (m s).out := by
  rw [bind_apply]
  rcases hm : m s with ⟨out, events, final⟩
  cases out <;> simp [Prog.bind, hm, h]

/-- A last step that does not touch the state leaves it as the part before it does. -/
theorem bind_pure_final (m : Prog ε ν σ α) (f : α → β) (s : σ) :
    ((m >>= fun a => pure (f a)) s).final = (m s).final := by
  rw [bind_apply]
  rcases hm : m s with ⟨out, events, final⟩
  cases out <;> simp [Prog.bind, hm]

/-- A map of steps that return and leave the state alone. -/
theorem mapM_eq {f : α → Prog ε ν σ β} {g : α → β} {t : α → List ν} {l : List α} {s : σ}
    (h : ∀ a ∈ l, f a s = ⟨.ok (g a), t a, s⟩) :
    l.mapM f s = ⟨.ok (l.map g), l.flatMap t, s⟩ := by
  induction l with
  | nil => rfl
  | cons a l ih =>
    have ha := h a (by simp)
    have hl := ih fun b hb => h b (by simp [hb])
    rw [List.mapM_cons, bind_of_ok (by rw [ha]), ha, bind_of_ok (by rw [hl]), hl]
    simp

/-- What is made of the values of such a map. -/
theorem mapM_bind_pure {γ : Type} {f : α → Prog ε ν σ β} {g : α → β} {t : α → List ν}
    {k : List β → γ} {l : List α} {s : σ} (h : ∀ a ∈ l, f a s = ⟨.ok (g a), t a, s⟩) :
    (l.mapM f >>= fun bs => pure (k bs)) s = ⟨.ok (k (l.map g)), l.flatMap t, s⟩ := by
  have hmap := mapM_eq h
  rw [bind_of_ok (by rw [hmap]), hmap]
  simp

/-- A map returns only if every step does, each from some state. -/
theorem exists_ok_of_mapM {f : α → Prog ε ν σ β} {l : List α} {s : σ} {bs : List β}
    (h : (l.mapM f s).out = .ok bs) : ∀ a ∈ l, ∃ s' b, (f a s').out = .ok b := by
  induction l generalizing s bs with
  | nil => simp
  | cons a l ih =>
    rw [List.mapM_cons] at h
    obtain ⟨b, hb, h⟩ := bind_out_eq_ok_iff.mp h
    obtain ⟨bs', hbs, -⟩ := bind_out_eq_ok_iff.mp h
    intro x hx
    rcases List.mem_cons.mp hx with rfl | hx
    · exact ⟨s, b, hb⟩
    · exact ih hbs x hx

@[simp] theorem throw_apply (e : ε) (s : σ) :
    (throw e : Prog ε ν σ α) s = ⟨.err e, [], s⟩ := rfl

end Prog

/-! ### Triples -/

/-- **The triple**: from a state satisfying `P` the program ends with an outcome
and a state satisfying `Q`, and every event it leaves satisfies `E`. -/
def Triple (P : σ → Prop) (m : Prog ε ν σ α) (Q : Outcome ε α → σ → Prop) (E : ν → Prop) :
    Prop :=
  ∀ s, P s → Q (m s).out (m s).final ∧ ∀ v ∈ (m s).events, E v

namespace Triple

variable {P P' : σ → Prop} {m : Prog ε ν σ α} {f : α → Prog ε ν σ β}
  {Q Q' : Outcome ε α → σ → Prop} {R : Outcome ε β → σ → Prop} {E : ν → Prop}

theorem conseq (h : Triple P m Q E) (hP : ∀ s, P' s → P s) (hQ : ∀ o s, Q o s → Q' o s) :
    Triple P' m Q' E := by
  intro s hs
  obtain ⟨hq, hE⟩ := h s (hP s hs)
  exact ⟨hQ _ _ hq, hE⟩

theorem pre (h : Triple P m Q E) (hP : ∀ s, P' s → P s) : Triple P' m Q E :=
  h.conseq hP fun _ _ hq => hq

theorem post (h : Triple P m Q E) (hQ : ∀ o s, Q o s → Q' o s) : Triple P m Q' E :=
  h.conseq (fun _ hs => hs) hQ

/-- A triple may be shown for each value of a reading of the state. -/
theorem of_forall_eq {γ : Type} (g : σ → γ)
    (h : ∀ c, Triple (fun s => P s ∧ g s = c) m Q E) : Triple P m Q E :=
  fun s hs => h (g s) s ⟨hs, rfl⟩

theorem pure {a : α} (h : ∀ s, P s → Q (.ok a) s) :
    Triple P (Pure.pure a : Prog ε ν σ α) Q E :=
  fun s hs => ⟨h s hs, by simp⟩

theorem throw {e : ε} (h : ∀ s, P s → Q (.err e) s) : Triple P (Prog.throw e) Q E :=
  fun s hs => ⟨h s hs, by simp⟩

theorem emit {v : ν} {Q : Outcome ε Unit → σ → Prop} (hv : E v) (h : ∀ s, P s → Q (.ok ()) s) :
    Triple P (Prog.emit v) Q E :=
  fun s hs => ⟨h s hs, by simpa [Prog.emit] using hv⟩

theorem get {g : σ → α} (h : ∀ s, P s → Q (.ok (g s)) s) : Triple P (Prog.get g) Q E :=
  fun s hs => ⟨h s hs, by simp [Prog.get]⟩

theorem modify {g : σ → σ} {Q : Outcome ε Unit → σ → Prop} (h : ∀ s, P s → Q (.ok ()) (g s)) :
    Triple P (Prog.modify g) Q E :=
  fun s hs => ⟨h s hs, by simp [Prog.modify]⟩

/-- **Sequencing.** What the first program promises of a value is what the second
one starts from; what it promises of an error or a panic has to be what the whole
promises of it. -/
theorem bind (hm : Triple P m Q E) (hf : ∀ a, Triple (Q (.ok a)) (f a) R E)
    (herr : ∀ e s, Q (.err e) s → R (.err e) s)
    (hpanic : ∀ p s, Q (.panic p) s → R (.panic p) s) :
    Triple P (m >>= f) R E := by
  intro s hs
  obtain ⟨hq, hE⟩ := hm s hs
  change R (Prog.bind m f s).out (Prog.bind m f s).final ∧ ∀ v ∈ (Prog.bind m f s).events, E v
  rcases h : m s with ⟨out, events, final⟩
  rw [h] at hq hE
  cases out with
  | ok a =>
    obtain ⟨hr, hE'⟩ := hf a final hq
    simp only [Prog.bind, h]
    refine ⟨hr, fun v hv => ?_⟩
    rcases List.mem_append.mp hv with hv | hv
    · exact hE v hv
    · exact hE' v hv
  | err e =>
    simp only [Prog.bind, h]
    exact ⟨herr e final hq, hE⟩
  | panic p =>
    simp only [Prog.bind, h]
    exact ⟨hpanic p final hq, hE⟩

/-- Reading off a part of the state whose value is known. -/
theorem bind_get {g : σ → α} {c : α} (h : Triple P (f c) R E) :
    Triple (fun s => P s ∧ g s = c) (Prog.get g >>= f) R E := by
  refine bind (Q := fun o s => o = .ok c ∧ P s) (get fun s hs => ⟨by rw [hs.2], hs.1⟩)
    (fun a s hs => ?_) (fun e s hs => by simp at hs) (fun p s hs => by simp at hs)
  obtain ⟨ha, hP⟩ := hs
  obtain rfl : a = c := by simpa using ha
  exact h s hP

/-- A program on a part of the state keeps its triple on the whole of it. -/
theorem zoom {part : σ → τ} {put : τ → σ → σ} {m : Prog ε ν τ α} {P : τ → Prop}
    {Q : Outcome ε α → τ → Prop} {P' : σ → Prop} {Q' : Outcome ε α → σ → Prop}
    (h : Triple P m Q E) (hP : ∀ s, P' s → P (part s))
    (hQ : ∀ s, P' s → ∀ o t, Q o t → Q' o (put t s)) :
    Triple P' (Prog.zoom part put m) Q' E := by
  intro s hs
  obtain ⟨hq, hE⟩ := h (part s) (hP s hs)
  exact ⟨hQ s hs _ _ hq, hE⟩

end Triple

/-! ### Following a pure computation -/

/-- The postcondition of a program that follows `spec` **unless** `S`: the invariant
stands, and the outcome is that of `spec` unless the program gave up, or `S` holds and
it was stopped where `spec` fails. -/
def FollowsUnless (S : Prop) (I : σ → Prop) (G : ε → Prop) (spec : Except ε α) (o : Outcome ε α)
    (s : σ) : Prop :=
  I s ∧ (o = .ofExcept spec ∨ (∃ e, G e ∧ o = .err e) ∨
    S ∧ (∃ e, spec = .error e) ∧ ∃ p, o = .panic p)

/-- The postcondition of a program that **follows** `spec`: the invariant stands,
and the outcome is that of `spec` unless the program gave up. -/
abbrev Follows (I : σ → Prop) (G : ε → Prop) (spec : Except ε α) : Outcome ε α → σ → Prop :=
  FollowsUnless False I G spec

section FollowsUnless

variable {S S' : Prop} {I : σ → Prop} {G : ε → Prop} {spec : Except ε α} {o : Outcome ε α} {s : σ}

theorem FollowsUnless.mono (h : FollowsUnless S I G spec o s) (hS : S → S') :
    FollowsUnless S' I G spec o s := by
  obtain ⟨hI, hout | hout | ⟨hs, hstop⟩⟩ := h
  · exact ⟨hI, Or.inl hout⟩
  · exact ⟨hI, Or.inr (Or.inl hout)⟩
  · exact ⟨hI, Or.inr (Or.inr ⟨hS hs, hstop⟩)⟩

/-- A program that follows is not stopped. -/
theorem FollowsUnless.of_not (h : FollowsUnless S I G spec o s) (hS : ¬S) :
    I s ∧ (o = .ofExcept spec ∨ ∃ e, G e ∧ o = .err e) := by
  obtain ⟨hI, hout | hout | ⟨hs, -⟩⟩ := h
  · exact ⟨hI, Or.inl hout⟩
  · exact ⟨hI, Or.inr hout⟩
  · exact absurd hs hS

/-- It ends as `spec` does, or gives up. -/
theorem Follows.out (h : Follows I G spec o s) : o = .ofExcept spec ∨ ∃ e, G e ∧ o = .err e :=
  (h.of_not not_false).2

/-- A value that it returns is that of `spec`, also where it could be stopped. -/
theorem FollowsUnless.eq_ok {a : α} (h : FollowsUnless S I G spec (.ok a) s) : spec = .ok a := by
  obtain ⟨-, hout | ⟨e, -, hout⟩ | ⟨-, -, p, hout⟩⟩ := h
  · exact Outcome.ofExcept_eq_ok_iff.mp hout.symm
  · cases hout
  · cases hout

/-- An error that it reports is that of `spec`, or it gave up. -/
theorem FollowsUnless.eq_error {e : ε} (h : FollowsUnless S I G spec (.err e) s) :
    spec = .error e ∨ G e := by
  obtain ⟨-, hout | ⟨e', he, hout⟩ | ⟨-, -, p, hout⟩⟩ := h
  · exact Or.inl (Outcome.ofExcept_eq_err_iff.mp hout.symm)
  · obtain rfl := Outcome.err.inj hout
    exact Or.inr he
  · cases hout

/-- It is stopped only where it may be, and where `spec` fails. -/
theorem FollowsUnless.stopped {p : Panic} (h : FollowsUnless S I G spec (.panic p) s) :
    S ∧ ∃ e, spec = .error e := by
  obtain ⟨-, hout | ⟨e, -, hout⟩ | ⟨hs, hspec, -⟩⟩ := h
  · exact absurd hout.symm (Outcome.ofExcept_ne_panic spec p)
  · cases hout
  · exact ⟨hs, hspec⟩

end FollowsUnless

/-- The postcondition of a program that gives up or returns a value satisfying
`A`. -/
def Yields (I : σ → Prop) (G : ε → Prop) (A : α → σ → Prop) (o : Outcome ε α) (s : σ) : Prop :=
  I s ∧ ((∃ a, o = .ok a ∧ A a s) ∨ ∃ e, G e ∧ o = .err e)

namespace Triple

variable {P I : σ → Prop} {G : ε → Prop} {m : Prog ε ν σ α} {f : α → Prog ε ν σ β}
  {E : ν → Prop} {S : Prop}

theorem pure_follows {a : α} :
    Triple I (Pure.pure a : Prog ε ν σ α) (FollowsUnless S I G (.ok a)) E :=
  pure fun _ hs => ⟨hs, Or.inl rfl⟩

theorem throw_follows {e : ε} :
    Triple I (Prog.throw e : Prog ε ν σ α) (FollowsUnless S I G (.error e)) E :=
  throw fun _ hs => ⟨hs, Or.inl rfl⟩

/-- Giving up follows anything. -/
theorem throw_giveUp {e : ε} {x : Except ε α} (he : G e) :
    Triple I (Prog.throw e : Prog ε ν σ α) (FollowsUnless S I G x) E :=
  throw fun _ hs => ⟨hs, Or.inr (Or.inl ⟨e, he, rfl⟩)⟩

/-- So does being stopped, where that may be and the pure step fails. -/
theorem abort_follows {p : Panic} {x : Except ε α} (hS : S) (hx : ∃ e, x = .error e) :
    Triple I (Prog.abort p : Prog ε ν σ α) (FollowsUnless S I G x) E :=
  fun _ hs => ⟨⟨hs, Or.inr (Or.inr ⟨hS, hx, p, rfl⟩)⟩, by simp [Prog.abort]⟩

theorem ofExcept_follows (x : Except ε α) :
    Triple I (Prog.ofExcept x : Prog ε ν σ α) (FollowsUnless S I G x) E := by
  cases x with
  | ok a => exact pure_follows
  | error e => exact throw_follows

theorem emit_follows {v : ν} (hv : E v) :
    Triple I (Prog.emit v : Prog ε ν σ Unit) (FollowsUnless S I G (.ok ())) E :=
  emit hv fun _ hs => ⟨hs, Or.inl rfl⟩

/-- What follows in any case follows unless something holds. -/
theorem orStopped {S' : Prop} {x : Except ε α} (hm : Triple P m (FollowsUnless S' I G x) E)
    (hS : S' → S) : Triple P m (FollowsUnless S I G x) E :=
  hm.post fun _ _ h => h.mono hS

/-- A step that is never stopped, among others that may be. -/
theorem unstopped {x : Except ε α} (hm : Triple P m (Follows I G x) E) :
    Triple P m (FollowsUnless S I G x) E :=
  hm.orStopped False.elim

/-- A step that could be stopped is not, where the pure step gives a value. -/
theorem returns {a : α} (hm : Triple P m (FollowsUnless S I G (.ok a)) E) :
    Triple P m (Follows I G (.ok a)) E := by
  refine hm.post fun o s h => ?_
  obtain ⟨hI, hout | hout | ⟨-, ⟨e, he⟩, -⟩⟩ := h
  · exact ⟨hI, Or.inl hout⟩
  · exact ⟨hI, Or.inr (Or.inl hout)⟩
  · cases he

/-- **Sequencing of followers**: the two programs follow the two pure steps. -/
theorem bind_follows {x : Except ε α} {g : α → Except ε β}
    (hm : Triple P m (FollowsUnless S I G x) E)
    (hf : ∀ a, x = .ok a → Triple I (f a) (FollowsUnless S I G (g a)) E) :
    Triple P (m >>= f) (FollowsUnless S I G (x >>= g)) E := by
  refine bind (Q := FollowsUnless S I G x) hm (fun a s hs => ?_) (fun e s hs => ?_)
    fun p s hs => ?_
  · obtain rfl := hs.eq_ok
    exact hf a rfl s hs.1
  · rcases hs.eq_error with rfl | he
    · exact ⟨hs.1, Or.inl rfl⟩
    · exact ⟨hs.1, Or.inr (Or.inl ⟨e, he, rfl⟩)⟩
  · obtain ⟨hS, e, rfl⟩ := hs.stopped
    exact ⟨hs.1, Or.inr (Or.inr ⟨hS, ⟨e, rfl⟩, p, rfl⟩)⟩

/-- Sequencing after a step that always returns one value. -/
theorem bind_ok_follows {a : α} {x : Except ε β} (hm : Triple P m (FollowsUnless S I G (.ok a)) E)
    (hf : Triple I (f a) (FollowsUnless S I G x) E) :
    Triple P (m >>= f) (FollowsUnless S I G x) E := by
  refine bind_follows (g := fun _ => x) hm fun b hb => ?_
  obtain rfl : a = b := by simpa using hb
  exact hf

/-- Sequencing after a step that always fails. -/
theorem bind_error_follows {e : ε} (hm : Triple P m (FollowsUnless S I G (.error e)) E) :
    Triple P (m >>= f) (FollowsUnless S I G (.error e)) E :=
  bind_follows (g := fun _ => .error e) hm fun _ h => by cases h

/-- Sequencing before a part that leaves the value alone. -/
theorem bind_keep_follows {x : Except ε α} {f : α → Prog ε ν σ α}
    (hm : Triple P m (FollowsUnless S I G x) E)
    (hf : ∀ a, x = .ok a → Triple I (f a) (FollowsUnless S I G (.ok a)) E) :
    Triple P (m >>= f) (FollowsUnless S I G x) E := by
  have h : Triple P (m >>= f) (FollowsUnless S I G (x >>= Except.ok)) E := bind_follows hm hf
  rwa [show (x >>= Except.ok) = x from bind_pure x] at h

/-- Sequencing after a trial of the rest: a step whose value is not used, and which
fails only as the rest does. -/
theorem bind_trial_follows {x : Except ε α} {z : Except ε β}
    (hm : Triple P m (FollowsUnless S I G x) E) (hx : (x >>= fun _ => z) = z)
    (hf : ∀ a, x = .ok a → Triple I (f a) (FollowsUnless S I G z) E) :
    Triple P (m >>= f) (FollowsUnless S I G z) E := by
  rw [← hx]
  exact bind_follows hm hf

/-- **A program that never gives up** comes to what it follows. -/
theorem sure {x : Except ε α} (hm : Triple P m (Follows I (fun _ => False) x) E) {s : σ}
    (hs : P s) : (m s).out = .ofExcept x ∧ I (m s).final := by
  have h := (hm s hs).1
  exact ⟨h.out.resolve_right fun ⟨_, he, _⟩ => he, h.1⟩

/-- Sequencing after a step that returns one value for sure. -/
theorem bind_sure {a : α} {R : Outcome ε β → σ → Prop}
    (hm : Triple P m (Follows I (fun _ => False) (.ok a)) E) (hf : Triple I (f a) R E) :
    Triple P (m >>= f) R E := by
  refine bind hm (fun b s hs => ?_) (fun e s hs => ?_) fun p s hs => ?_
  · obtain rfl : a = b := Except.ok.inj hs.eq_ok
    exact hf s hs.1
  · rcases hs.eq_error with he | he
    · cases he
    · exact he.elim
  · exact hs.stopped.1.elim

/-- **Sequencing after a choice**: whatever value the first program returns, the
second one follows the same pure computation. -/
theorem bind_yields {A : α → σ → Prop} {x : Except ε β} (hm : Triple P m (Yields I G A) E)
    (hf : ∀ a, Triple (fun s => I s ∧ A a s) (f a) (FollowsUnless S I G x) E) :
    Triple P (m >>= f) (FollowsUnless S I G x) E := by
  refine bind (Q := Yields I G A) hm (fun a => ?_) ?_ ?_
  · rintro s ⟨hI, ⟨b, hb, hA⟩ | ⟨e, -, he⟩⟩
    · obtain rfl : a = b := by simpa using hb
      exact hf a s ⟨hI, hA⟩
    · simp at he
  · rintro e s ⟨hI, ⟨b, hb, -⟩ | ⟨e', he', h⟩⟩
    · simp at hb
    · exact ⟨hI, Or.inr (Or.inl ⟨e', he', by simpa using h⟩)⟩
  · rintro p s ⟨-, ⟨b, hb, -⟩ | ⟨e, -, h⟩⟩
    · simp at hb
    · simp at h

/-- **A search follows a search**: if each step of the loop follows a pure step,
the loop follows the pure loop. A step may use that the ones before it found
nothing. -/
theorem findSomeM? {l : List α} {f : α → Prog ε ν σ (Option β)} {g : α → Except ε (Option β)}
    (h : ∀ l₁ a l₂, l = l₁ ++ a :: l₂ → (∀ x ∈ l₁, g x = .ok none) →
      Triple I (f a) (FollowsUnless S I G (g a)) E) :
    Triple I (l.findSomeM? f) (FollowsUnless S I G (l.findSomeM? g)) E := by
  induction l with
  | nil => exact pure_follows
  | cons a l ih =>
    rw [List.findSomeM?_cons, List.findSomeM?_cons]
    refine bind_follows (h [] a l rfl (by simp)) fun b hb => ?_
    cases b with
    | some b => exact pure_follows
    | none =>
      -- passed over: the rest is searched with one more that found nothing
      refine ih fun l₁ a' l₂ hl hnone => h (a :: l₁) a' l₂ (by rw [hl]; rfl) fun x hx => ?_
      rcases List.mem_cons.mp hx with rfl | hx
      · exact hb
      · exact hnone x hx

/-- **A map follows a map.** -/
theorem mapM {l : List α} {f : α → Prog ε ν σ β} {g : α → β}
    (h : ∀ a ∈ l, Triple I (f a) (FollowsUnless S I G (.ok (g a))) E) :
    Triple I (l.mapM f) (FollowsUnless S I G (.ok (l.map g))) E := by
  induction l with
  | nil => exact pure_follows
  | cons a l ih =>
    rw [List.mapM_cons, List.map_cons]
    refine bind_ok_follows (h a (by simp)) ?_
    exact bind_ok_follows (ih fun a ha => h a (by simp [ha])) pure_follows

/-- **A fold follows a fold**, along an invariant of the accumulator. -/
theorem foldlM {l : List α} {f : β → α → Prog ε ν σ β} {g : β → α → β} {J : β → Prop} {b : β}
    (hb : J b) (hJ : ∀ b a, J b → J (g b a))
    (h : ∀ b a, a ∈ l → J b → Triple I (f b a) (FollowsUnless S I G (.ok (g b a))) E) :
    Triple I (l.foldlM f b) (FollowsUnless S I G (.ok (l.foldl g b))) E := by
  induction l generalizing b with
  | nil => exact pure_follows
  | cons a l ih =>
    rw [List.foldlM_cons, List.foldl_cons]
    exact bind_ok_follows (h b a (by simp) hb) (ih (hJ b a hb) fun b a ha => h b a (by simp [ha]))

end Triple

/-! ### Being stopped -/

/-- The postcondition of a program that **is stopped**, unless it gave up before. -/
def Halts (p : Panic) (G : ε → Prop) (o : Outcome ε α) (_ : σ) : Prop :=
  o = .panic p ∨ ∃ e, G e ∧ o = .err e

namespace Triple

variable {P I : σ → Prop} {G : ε → Prop} {p : Panic} {m : Prog ε ν σ α} {f : α → Prog ε ν σ β}
  {E : ν → Prop}

theorem abort_halts : Triple P (Prog.abort p : Prog ε ν σ α) (Halts p G) E :=
  fun _ _ => ⟨Or.inl rfl, by simp [Prog.abort]⟩

/-- A sequence is stopped where its first part is. -/
theorem bind_left_halts (hm : Triple P m (Halts p G) E) : Triple P (m >>= f) (Halts p G) E := by
  intro s hs
  obtain ⟨hout | ⟨e, he, hout⟩, hE⟩ := hm s hs
  · rw [Prog.bind_of_panic hout]
    exact ⟨Or.inl rfl, hE⟩
  · rw [Prog.bind_of_err hout]
    exact ⟨Or.inr ⟨e, he, rfl⟩, hE⟩

/-- It is stopped where its second part is, after whatever value the first returns. -/
theorem bind_yields_halts {A : α → σ → Prop} (hm : Triple P m (Yields I G A) E)
    (hf : ∀ a, Triple (fun s => I s ∧ A a s) (f a) (Halts p G) E) :
    Triple P (m >>= f) (Halts p G) E := by
  refine bind hm (fun a s hs => ?_) (fun e s hs => ?_) fun q s hs => ?_
  · obtain ⟨hI, ⟨b, hb, hA⟩ | ⟨e, -, he⟩⟩ := hs
    · obtain rfl := Outcome.ok.inj hb
      exact hf a s ⟨hI, hA⟩
    · cases he
  · obtain ⟨-, ⟨b, hb, -⟩ | ⟨e', he', h⟩⟩ := hs
    · cases hb
    · exact Or.inr ⟨e', he', congrArg _ (Outcome.err.inj h)⟩
  · obtain ⟨-, ⟨b, hb, -⟩ | ⟨e, -, h⟩⟩ := hs
    · cases hb
    · cases h

/-- It is stopped where its second part is, after a first that follows a pure step. -/
theorem bind_halts {a : α} (hm : Triple P m (Follows I G (.ok a)) E)
    (hf : Triple I (f a) (Halts p G) E) : Triple P (m >>= f) (Halts p G) E := by
  refine bind hm (fun b s hs => ?_) (fun e s hs => ?_) fun q s hs => hs.stopped.1.elim
  · obtain rfl : a = b := Except.ok.inj hs.eq_ok
    exact hf s hs.1
  · rcases hs.eq_error with he | he
    · cases he
    · exact Or.inr ⟨e, he, rfl⟩

/-- **A search is stopped** at an element that is, after others that are passed over. -/
theorem findSomeM?_halts {l₁ l₂ : List α} {a : α} {f : α → Prog ε ν σ (Option β)}
    (hpass : ∀ x ∈ l₁, Triple I (f x) (Follows I G (.ok none)) E)
    (hf : Triple I (f a) (Halts p G) E) :
    Triple I ((l₁ ++ a :: l₂).findSomeM? f) (Halts p G) E := by
  induction l₁ with
  | nil =>
    rw [List.nil_append, List.findSomeM?_cons]
    exact bind_left_halts hf
  | cons x l₁ ih =>
    rw [List.cons_append, List.findSomeM?_cons]
    exact bind_halts (hpass x (by simp)) (ih fun y hy => hpass y (by simp [hy]))

end Triple

/-! ### What a program leaves -/

/-- Every event the program can leave satisfies `E`, wherever it is started. -/
def Leaves (E : ν → Prop) (m : Prog ε ν σ α) : Prop :=
  Triple (fun _ => True) m (fun _ _ => True) E

namespace Leaves

variable {E : ν → Prop} {m : Prog ε ν σ α} {f : α → Prog ε ν σ β}

theorem pure (a : α) : Leaves E (Pure.pure a : Prog ε ν σ α) :=
  Triple.pure fun _ _ => trivial

theorem throw (e : ε) : Leaves E (Prog.throw e : Prog ε ν σ α) :=
  Triple.throw fun _ _ => trivial

theorem abort (p : Panic) : Leaves E (Prog.abort p : Prog ε ν σ α) :=
  fun _ _ => ⟨trivial, by simp [Prog.abort]⟩

theorem emit {v : ν} (hv : E v) : Leaves E (Prog.emit v : Prog ε ν σ Unit) :=
  Triple.emit hv fun _ _ => trivial

theorem modify (g : σ → σ) : Leaves E (Prog.modify g : Prog ε ν σ Unit) :=
  Triple.modify fun _ _ => trivial

theorem ofExcept (x : Except ε α) : Leaves E (Prog.ofExcept x : Prog ε ν σ α) := by
  cases x with
  | ok a => exact pure a
  | error e => exact throw e

theorem bind (hm : Leaves E m) (hf : ∀ a, Leaves E (f a)) : Leaves E (m >>= f) :=
  Triple.bind hm hf (fun _ _ _ => trivial) fun _ _ _ => trivial

theorem zoom {part : σ → τ} {put : τ → σ → σ} {m : Prog ε ν τ α} (hm : Leaves E m) :
    Leaves E (Prog.zoom part put m : Prog ε ν σ α) :=
  Triple.zoom hm (fun _ _ => trivial) fun _ _ _ _ _ => trivial

theorem findSomeM? {l : List α} {f : α → Prog ε ν σ (Option β)} (hf : ∀ a ∈ l, Leaves E (f a)) :
    Leaves E (l.findSomeM? f) := by
  induction l with
  | nil => exact pure none
  | cons a l ih =>
    rw [List.findSomeM?_cons]
    refine bind (hf a (by simp)) fun b => ?_
    cases b with
    | some b => exact pure _
    | none => exact ih fun a ha => hf a (by simp [ha])

theorem mapM {l : List α} {f : α → Prog ε ν σ β} (hf : ∀ a ∈ l, Leaves E (f a)) :
    Leaves E (l.mapM f) := by
  induction l with
  | nil => exact pure []
  | cons a l ih =>
    rw [List.mapM_cons]
    exact bind (hf a (by simp)) fun b => bind (ih fun a ha => hf a (by simp [ha])) fun _ => pure _

theorem foldlM {l : List α} {f : β → α → Prog ε ν σ β} (hf : ∀ b, ∀ a ∈ l, Leaves E (f b a))
    (b : β) : Leaves E (l.foldlM f b) := by
  induction l generalizing b with
  | nil => exact pure b
  | cons a l ih =>
    rw [List.foldlM_cons]
    exact bind (hf b a (by simp)) fun b => ih (fun b a ha => hf b a (by simp [ha])) b

end Leaves

/-! ### What a program reports -/

/-- Started where `I` holds, the program keeps `I`, and every error it reports satisfies
`G`. -/
def Reports (I : σ → Prop) (G : ε → Prop) (m : Prog ε ν σ α) : Prop :=
  Triple I m (fun o s => I s ∧ ∀ e, o = .err e → G e) fun _ => True

namespace Reports

variable {I : σ → Prop} {G : ε → Prop} {m : Prog ε ν σ α} {f : α → Prog ε ν σ β}

/-- A program that follows a computation reports what that does. -/
theorem of_follows {S : Prop} {H : ε → Prop} {x : Except ε α} {E : ν → Prop}
    (h : Triple I m (FollowsUnless S I H x) E) (hx : ∀ e, x = .error e → G e)
    (hG : ∀ e, H e → G e) : Reports I G m := by
  intro s hs
  have hfollows := (h s hs).1
  refine ⟨⟨hfollows.1, fun e he => ?_⟩, fun _ _ => trivial⟩
  rw [he] at hfollows
  rcases hfollows.eq_error with herr | herr
  · exact hx e herr
  · exact hG e herr

theorem pure (a : α) : Reports I G (Pure.pure a : Prog ε ν σ α) :=
  Triple.pure fun _ hs => ⟨hs, by simp⟩

theorem throw {e : ε} (he : G e) : Reports I G (Prog.throw e : Prog ε ν σ α) :=
  Triple.throw fun _ hs => ⟨hs, fun e' h => by
    obtain rfl : e = e' := by simpa using h
    exact he⟩

theorem abort (p : Panic) : Reports I G (Prog.abort p : Prog ε ν σ α) :=
  fun _ hs => ⟨⟨hs, by simp [Prog.abort]⟩, fun _ _ => trivial⟩

theorem emit (v : ν) : Reports I G (Prog.emit v : Prog ε ν σ Unit) :=
  Triple.emit trivial fun _ hs => ⟨hs, by simp⟩

theorem mono {G' : ε → Prop} (h : Reports I G m) (hG : ∀ e, G e → G' e) : Reports I G' m :=
  h.post fun _ _ hs => ⟨hs.1, fun e he => hG e (hs.2 e he)⟩

theorem get (g : σ → α) : Reports I G (Prog.get g : Prog ε ν σ α) :=
  Triple.get fun _ hs => ⟨hs, by simp⟩

theorem ofExcept {x : Except ε α} (hx : ∀ e, x = .error e → G e) :
    Reports I G (Prog.ofExcept x : Prog ε ν σ α) :=
  of_follows (S := False) (H := G) (E := fun _ => True) (Triple.ofExcept_follows x) hx
    fun _ he => he

/-- After a first part, with what is known of its value. -/
theorem bind_of {A : α → Prop} (hm : Reports I G m)
    (hA : ∀ s a, I s → (m s).out = .ok a → A a) (hf : ∀ a, A a → Reports I G (f a)) :
    Reports I G (m >>= f) := by
  have hboth : Triple I m (fun o s => (I s ∧ ∀ e, o = .err e → G e) ∧ ∀ a, o = .ok a → A a)
      fun _ => True :=
    fun s hs => ⟨⟨(hm s hs).1, fun a => hA s a hs⟩, fun _ _ => trivial⟩
  refine Triple.bind hboth (fun a s hs => hf a (hs.2 a rfl) s hs.1.1) ?_
    fun p s hs => ⟨hs.1.1, by simp⟩
  rintro e s ⟨⟨hs, he⟩, -⟩
  refine ⟨hs, fun e' h => ?_⟩
  obtain rfl : e = e' := by simpa using h
  exact he e rfl

theorem bind (hm : Reports I G m) (hf : ∀ a, Reports I G (f a)) : Reports I G (m >>= f) :=
  bind_of (A := fun _ => True) hm (fun _ _ _ _ => trivial) fun a _ => hf a

/-- After a first part that follows a computation, with what that gives. -/
theorem bind_follows {S : Prop} {H : ε → Prop} {E : ν → Prop} {x : Except ε α}
    (hm : Reports I G m) (hx : Triple I m (FollowsUnless S I H x) E)
    (hf : ∀ a, x = .ok a → Reports I G (f a)) : Reports I G (m >>= f) := by
  refine bind_of (A := fun a => x = .ok a) hm (fun s a hs ha => ?_) hf
  have hfollows := (hx s hs).1
  rw [ha] at hfollows
  exact hfollows.eq_ok

/-- After a pure computation. -/
theorem bind_ofExcept {x : Except ε α} (hx : ∀ e, x = .error e → G e)
    (hf : ∀ a, x = .ok a → Reports I G (f a)) : Reports I G (Prog.ofExcept x >>= f) :=
  bind_follows (S := False) (H := fun _ => False) (E := fun _ => True) (ofExcept hx)
    (Triple.ofExcept_follows x) hf

theorem findSomeM? {l : List α} {f : α → Prog ε ν σ (Option β)}
    (hf : ∀ a ∈ l, Reports I G (f a)) : Reports I G (l.findSomeM? f) := by
  induction l with
  | nil => exact pure none
  | cons a l ih =>
    rw [List.findSomeM?_cons]
    refine bind (hf a (by simp)) fun b => ?_
    cases b with
    | some b => exact pure _
    | none => exact ih fun a ha => hf a (by simp [ha])

/-- **A search in order reports** what one of its steps does, after others that passed. The
step knows how many they are. -/
theorem findSomeM?_zipIdx {l : List α} {f : α × Nat → Prog ε ν σ (Option β)} {P : α → Prop}
    (hpass : ∀ a n s, I s → (f (a, n) s).out = .ok none → P a)
    (hf : ∀ before a after, l = before ++ a :: after → (∀ x ∈ before, P x) →
      Reports I G (f (a, before.length))) : Reports I G (l.zipIdx.findSomeM? f) := by
  -- what is left of the list, after the front of it was passed over
  suffices ∀ before rest, l = before ++ rest → (∀ x ∈ before, P x) →
      Reports I G ((rest.zipIdx before.length).findSomeM? f) from this [] l rfl (by simp)
  intro before rest hl hbefore
  induction rest generalizing before with
  | nil => exact pure none
  | cons a rest ih =>
    rw [List.zipIdx_cons, List.findSomeM?_cons]
    refine bind_of (A := fun b => b = none → P a) (hf before a rest hl hbefore)
      (fun s b hs hb hnone => hpass a _ s hs (by rw [hb, hnone])) fun b hb => ?_
    cases b with
    | some b => exact pure _
    | none =>
      have hrest := ih (before ++ [a]) (by rw [hl, List.append_assoc]; rfl) fun x hx => by
        rcases List.mem_append.mp hx with hx | hx
        · exact hbefore x hx
        · rw [List.mem_singleton.mp hx]
          exact hb rfl
      rwa [List.length_append, List.length_singleton] at hrest

theorem mapM {l : List α} {f : α → Prog ε ν σ β} (hf : ∀ a ∈ l, Reports I G (f a)) :
    Reports I G (l.mapM f) := by
  induction l with
  | nil => exact pure []
  | cons a l ih =>
    rw [List.mapM_cons]
    exact bind (hf a (by simp)) fun b => bind (ih fun a ha => hf a (by simp [ha])) fun _ => pure _

theorem foldlM {l : List α} {f : β → α → Prog ε ν σ β} (hf : ∀ b, ∀ a ∈ l, Reports I G (f b a))
    (b : β) : Reports I G (l.foldlM f b) := by
  induction l generalizing b with
  | nil => exact pure b
  | cons a l ih =>
    rw [List.foldlM_cons]
    exact bind (hf b a (by simp)) fun b => ih (fun b a ha => hf b a (by simp [ha])) b

end Reports

/-! ### What a program gives -/

/-- Every value the program returns satisfies `A`. -/
def Gives (A : α → Prop) (m : Prog ε ν σ α) : Prop := ∀ s a, (m s).out = .ok a → A a

namespace Gives

variable {A B : α → Prop} {C : β → Prop} {m : Prog ε ν σ α} {f : α → Prog ε ν σ β}

theorem trivial (m : Prog ε ν σ α) : Gives (fun _ => True) m := fun _ _ _ => True.intro

theorem pure {a : α} (ha : A a) : Gives A (Pure.pure a : Prog ε ν σ α) := by
  intro s b h
  obtain rfl : a = b := by simpa using h
  exact ha

theorem throw (e : ε) : Gives A (Prog.throw e : Prog ε ν σ α) := fun _ _ h => by
  simp at h

theorem abort (p : Panic) : Gives A (Prog.abort p : Prog ε ν σ α) := fun _ _ h => by
  simp [Prog.abort] at h

theorem bind (hm : Gives A m) (hf : ∀ a, A a → Gives C (f a)) : Gives C (m >>= f) := by
  intro s b h
  obtain ⟨a, ha, hb⟩ := Prog.bind_out_eq_ok_iff.mp h
  exact hf a (hm s a ha) _ b hb

/-- After a first part whose value does not matter. -/
theorem bind_right (hf : ∀ a, Gives C (f a)) : Gives C (m >>= f) :=
  bind (Gives.trivial m) fun a _ => hf a

end Gives

/-! ### What a program returns -/

/-- Started where `P` holds, the program returns a value that satisfies `Q` where it ends, if
it returns one. -/
def Returns (P : σ → Prop) (m : Prog ε ν σ α) (Q : α → σ → Prop) : Prop :=
  ∀ s, P s → ∀ a, (m s).out = .ok a → Q a (m s).final

namespace Returns

variable {P : σ → Prop} {m : Prog ε ν σ α} {f : α → Prog ε ν σ β} {Q : α → σ → Prop}
  {R : β → σ → Prop}

theorem post {Q' : α → σ → Prop} (h : Returns P m Q) (hQ : ∀ a s, Q a s → Q' a s) :
    Returns P m Q' :=
  fun s hs a ha => hQ a _ (h s hs a ha)

/-- What holds of no state in particular is known of the whole run. -/
theorem pre_and {φ : Prop} (h : φ → Returns P m Q) : Returns (fun s => φ ∧ P s) m Q :=
  fun s hs => h hs.1 s hs.2

theorem throw (e : ε) : Returns P (Prog.throw e : Prog ε ν σ α) Q := fun _ _ _ h => by
  cases h

theorem bind (hm : Returns P m Q) (hf : ∀ a, Returns (Q a) (f a) R) : Returns P (m >>= f) R := by
  intro s hs b h
  obtain ⟨a, ha, hb⟩ := Prog.bind_out_eq_ok_iff.mp h
  rw [Prog.bind_of_ok ha]
  exact hf a _ (hm s hs a ha) b hb

/-- A pure computation leaves the state alone. -/
theorem ofExcept (x : Except ε α) :
    Returns P (Prog.ofExcept x : Prog ε ν σ α) fun a s => x = .ok a ∧ P s := by
  intro s hs a h
  cases x with
  | ok b => exact ⟨congrArg Except.ok (Outcome.ok.inj h), hs⟩
  | error e => cases h

theorem zoom {part : σ → τ} {put : τ → σ → σ} {m : Prog ε ν τ α} {P : τ → Prop}
    {Q : α → τ → Prop} (hm : Returns P m Q) (hput : ∀ t s, part (put t s) = t) :
    Returns (fun s => P (part s)) (Prog.zoom part put m : Prog ε ν σ α)
      fun a s => Q a (part s) := by
  intro s hs a h
  change Q a (part (put (m (part s)).final s))
  rw [hput]
  exact hm (part s) hs a h

/-- Whatever state it ends in. -/
theorem of_gives {A : α → Prop} (h : Gives A m) : Returns P m fun a _ => A a :=
  fun s _ a ha => h s a ha

end Returns

/-! ### Going wrong -/

/-- Started in a state satisfying `P`, the program is stopped, or leaves an event
that does not satisfy `E`. -/
def Breaks (P : σ → Prop) (m : Prog ε ν σ α) (E : ν → Prop) : Prop :=
  ∀ s, P s → (∃ p, (m s).out = .panic p) ∨ ∃ v ∈ (m s).events, ¬E v

namespace Breaks

variable {P I : σ → Prop} {m : Prog ε ν σ α} {f : α → Prog ε ν σ β} {E : ν → Prop}

theorem abort {p : Panic} : Breaks P (Prog.abort p : Prog ε ν σ α) E :=
  fun _ _ => Or.inl ⟨p, rfl⟩

theorem emit {v : ν} (hv : ¬E v) : Breaks P (Prog.emit v : Prog ε ν σ Unit) E :=
  fun _ _ => Or.inr ⟨v, by simp [Prog.emit], hv⟩

/-- What goes wrong in the first part goes wrong in the whole. -/
theorem bind_left (h : Breaks P m E) : Breaks P (m >>= f) E := by
  intro s hs
  rw [Prog.bind_apply]
  rcases hm : m s with ⟨out, events, final⟩
  rcases h s hs with ⟨p, hp⟩ | ⟨v, hv, hbad⟩
  · rw [hm] at hp
    obtain rfl : out = .panic p := hp
    exact Or.inl ⟨p, by simp [Prog.bind, hm]⟩
  · rw [hm] at hv
    refine Or.inr ⟨v, ?_, hbad⟩
    cases out <;> simp_all [Prog.bind]

/-- What goes wrong in the second part, after a first that returns, goes wrong in
the whole. -/
theorem bind_right {a : α} {F : ν → Prop}
    (hm : Triple P m (Follows I (fun _ => False) (.ok a)) F) (hf : Breaks I (f a) E) :
    Breaks P (m >>= f) E := by
  intro s hs
  rw [Prog.bind_apply]
  rcases hrun : m s with ⟨out, events, final⟩
  obtain ⟨hout, hI⟩ := hm.sure hs
  rw [hrun] at hI hout
  obtain rfl : out = .ok a := hout
  simp only [Prog.bind, hrun]
  rcases hf final hI with hp | ⟨v, hv, hbad⟩
  · exact Or.inl hp
  · exact Or.inr ⟨v, List.mem_append_right _ hv, hbad⟩

end Breaks

end Basis
