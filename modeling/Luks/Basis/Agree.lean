import Luks.Basis.Effect

/-!
# Programs that agree

Two programs on different states **agree** along a relation of the states
(`Basis.Agree`): from related states they end the same way, with related values, leave
the same events, and end in related states. So what a relation of states forgets makes no
difference to what a program answers.

The rules follow the program, as those of the triple do: `Basis.Agree.bind` for
sequencing, `Basis.Agree.zoom` for a program on a part of the state, and one for each
loop. A program that is the same on both sides up to the state it runs on agrees with
itself by them.
-/

namespace Basis

/-- The same ending, up to a relation of the values. -/
inductive Outcome.Rel {ε α β : Type} (S : α → β → Prop) : Outcome ε α → Outcome ε β → Prop
  /-- Related values. -/
  | ok {a : α} {b : β} (h : S a b) : Rel S (.ok a) (.ok b)
  /-- The same error. -/
  | err (e : ε) : Rel S (.err e) (.err e)
  /-- The same panic. -/
  | panic (p : Panic) : Rel S (.panic p) (.panic p)

/-- Runs that cannot be told apart but by what the relations forget. -/
structure Run.Rel {ε ν σ τ α β : Type} (R : σ → τ → Prop) (S : α → β → Prop)
    (x : Run ε ν σ α) (y : Run ε ν τ β) : Prop where
  /-- They end the same way. -/
  out : Outcome.Rel S x.out y.out
  /-- They leave the same events. -/
  events : x.events = y.events
  /-- They end in related states. -/
  final : R x.final y.final

/-- **The programs agree**: from related states their runs are related. -/
def Agree {ε ν σ τ α β : Type} (R : σ → τ → Prop) (S : α → β → Prop) (m : Prog ε ν σ α)
    (n : Prog ε ν τ β) : Prop :=
  ∀ s t, R s t → Run.Rel R S (m s) (n t)

theorem Outcome.rel_eq_iff {ε α : Type} {x y : Outcome ε α} : Outcome.Rel Eq x y ↔ x = y := by
  constructor
  · rintro (⟨rfl⟩ | _ | _) <;> rfl
  · rintro rfl
    cases x with
    | ok a => exact .ok rfl
    | err e => exact .err e
    | panic p => exact .panic p

theorem Outcome.Rel.mono {ε α β : Type} {S S' : α → β → Prop} {x : Outcome ε α}
    {y : Outcome ε β} (h : Outcome.Rel S x y) (hS : ∀ a b, S a b → S' a b) :
    Outcome.Rel S' x y := by
  cases h with
  | ok h => exact .ok (hS _ _ h)
  | err e => exact .err e
  | panic p => exact .panic p

/-- Outcomes that are the same after transforming their values. -/
theorem Outcome.rel_of_map_eq {ε α β γ : Type} {f : α → γ} {g : β → γ} {x : Outcome ε α}
    {y : Outcome ε β} (h : x.map f = y.map g) : Outcome.Rel (fun a b => f a = g b) x y := by
  cases x <;> cases y <;> simp only [Outcome.map, reduceCtorEq, Outcome.ok.injEq,
    Outcome.err.injEq, Outcome.panic.injEq] at h
  · exact .ok h
  · exact h ▸ .err _
  · exact h ▸ .panic _

namespace Agree

variable {ε ν σ τ α β γ δ : Type} {R : σ → τ → Prop} {S : α → β → Prop} {U : γ → δ → Prop}
  {m : Prog ε ν σ α} {n : Prog ε ν τ β} {f : α → Prog ε ν σ γ} {g : β → Prog ε ν τ δ}

theorem pure {a : α} {b : β} (h : S a b) :
    Agree R S (Pure.pure a : Prog ε ν σ α) (Pure.pure b : Prog ε ν τ β) :=
  fun _ _ hR => ⟨.ok h, rfl, hR⟩

theorem throw (e : ε) : Agree R S (Prog.throw e : Prog ε ν σ α) (Prog.throw e : Prog ε ν τ β) :=
  fun _ _ hR => ⟨.err e, rfl, hR⟩

theorem abort (p : Panic) :
    Agree R S (Prog.abort p : Prog ε ν σ α) (Prog.abort p : Prog ε ν τ β) :=
  fun _ _ hR => ⟨.panic p, rfl, hR⟩

theorem emit (v : ν) :
    Agree R Eq (Prog.emit v : Prog ε ν σ Unit) (Prog.emit v : Prog ε ν τ Unit) :=
  fun _ _ hR => ⟨.ok rfl, rfl, hR⟩

theorem get {p : σ → α} {q : τ → β} (h : ∀ s t, R s t → S (p s) (q t)) :
    Agree R S (Prog.get p : Prog ε ν σ α) (Prog.get q : Prog ε ν τ β) :=
  fun s t hR => ⟨.ok (h s t hR), rfl, hR⟩

theorem modify {p : σ → σ} {q : τ → τ} (h : ∀ s t, R s t → R (p s) (q t)) :
    Agree R Eq (Prog.modify p : Prog ε ν σ Unit) (Prog.modify q : Prog ε ν τ Unit) :=
  fun s t hR => ⟨.ok rfl, rfl, h s t hR⟩

theorem ofExcept (x : Except ε α) :
    Agree R Eq (Prog.ofExcept x : Prog ε ν σ α) (Prog.ofExcept x : Prog ε ν τ α) := by
  cases x with
  | ok a => exact pure rfl
  | error e => exact throw e

/-- **Sequencing of programs that agree.** -/
theorem bind (hm : Agree R S m n) (hf : ∀ a b, S a b → Agree R U (f a) (g b)) :
    Agree R U (m >>= f) (n >>= g) := by
  intro s t hR
  obtain ⟨hout, hevents, hfinal⟩ := hm s t hR
  rw [Prog.bind_apply, Prog.bind_apply]
  rcases hms : m s with ⟨o, ev, s'⟩
  rcases hnt : n t with ⟨o', ev', t'⟩
  rw [hms, hnt] at hout hevents hfinal
  obtain rfl : ev = ev' := hevents
  cases hout with
  | ok h =>
    obtain ⟨hout', hevents', hfinal'⟩ := hf _ _ h s' t' hfinal
    simp only [Prog.bind, hms, hnt]
    exact ⟨hout', by rw [hevents'], hfinal'⟩
  | err e =>
    simp only [Prog.bind, hms, hnt]
    exact ⟨.err e, rfl, hfinal⟩
  | panic p =>
    simp only [Prog.bind, hms, hnt]
    exact ⟨.panic p, rfl, hfinal⟩

/-- Sequencing after a step that gives the same value on both sides. -/
theorem bind_eq {n : Prog ε ν τ α} {g : α → Prog ε ν τ δ} (hm : Agree R Eq m n)
    (hf : ∀ a, Agree R U (f a) (g a)) : Agree R U (m >>= f) (n >>= g) :=
  bind hm fun a _ h => h ▸ hf a

/-- The same choice on both sides. -/
theorem ite {c : Prop} [Decidable c] {m' : Prog ε ν σ α} {n' : Prog ε ν τ β}
    (hm : c → Agree R S m n) (hm' : ¬c → Agree R S m' n') :
    Agree R S (if c then m else m') (if c then n else n') := by
  split
  · exact hm ‹_›
  · exact hm' ‹_›

/-- Programs on related parts of the states agree on the whole of them. -/
theorem zoom {σ' τ' : Type} {R' : σ' → τ' → Prop} {part : σ' → σ} {put : σ → σ' → σ'}
    {part' : τ' → τ} {put' : τ → τ' → τ'} (h : Agree R S m n)
    (hpart : ∀ s t, R' s t → R (part s) (part' t))
    (hput : ∀ s t, R' s t → ∀ x y, R x y → R' (put x s) (put' y t)) :
    Agree R' S (Prog.zoom part put m) (Prog.zoom part' put' n) := by
  intro s t hR
  obtain ⟨hout, hevents, hfinal⟩ := h _ _ (hpart s t hR)
  exact ⟨hout, hevents, hput s t hR _ _ hfinal⟩

theorem map {p : α → γ} {q : β → δ} (h : Agree R S m n) (hpq : ∀ a b, S a b → U (p a) (q b)) :
    Agree R U (p <$> m) (q <$> n) := by
  rw [map_eq_pure_bind, map_eq_pure_bind]
  exact bind h fun a b hab => pure (hpq a b hab)

/-- Searches whose steps agree. -/
theorem findSomeM? {ι : Type} {l : List ι} {f : ι → Prog ε ν σ (Option α)}
    {g : ι → Prog ε ν τ (Option α)} (h : ∀ i ∈ l, Agree R Eq (f i) (g i)) :
    Agree R Eq (l.findSomeM? f) (l.findSomeM? g) := by
  induction l with
  | nil => exact pure rfl
  | cons i l ih =>
    rw [List.findSomeM?_cons, List.findSomeM?_cons]
    refine bind_eq (h i (by simp)) fun a => ?_
    cases a with
    | some a => exact pure rfl
    | none => exact ih fun i hi => h i (by simp [hi])

/-- Maps whose steps agree. -/
theorem mapM {ι : Type} {l : List ι} {f : ι → Prog ε ν σ α} {g : ι → Prog ε ν τ α}
    (h : ∀ i ∈ l, Agree R Eq (f i) (g i)) : Agree R Eq (l.mapM f) (l.mapM g) := by
  induction l with
  | nil => exact pure rfl
  | cons i l ih =>
    rw [List.mapM_cons, List.mapM_cons]
    exact bind_eq (h i (by simp)) fun a =>
      bind_eq (ih fun i hi => h i (by simp [hi])) fun as => pure rfl

/-- Folds whose steps agree. -/
theorem foldlM {ι : Type} {l : List ι} {f : α → ι → Prog ε ν σ α} {g : α → ι → Prog ε ν τ α}
    (h : ∀ a, ∀ i ∈ l, Agree R Eq (f a i) (g a i)) (a : α) :
    Agree R Eq (l.foldlM f a) (l.foldlM g a) := by
  induction l generalizing a with
  | nil => exact pure rfl
  | cons i l ih =>
    rw [List.foldlM_cons, List.foldlM_cons]
    exact bind_eq (h a i (by simp)) fun b => ih (fun b i hi => h b i (by simp [hi])) b

end Agree

end Basis
