import Mathlib.Data.List.Basic

/-!
# Searching a list with steps that may fail

A search `List.findSomeM?` in `Except` tries the elements of a list in order: a
step that returns `none` passes on to the next element, one that returns a value
ends the search with it, and one that fails ends the search with its error. This
file reads the three results back: the search found a value exactly when some
element gives it and the ones before it pass
(`Basis.findSomeM?_eq_some_iff`), found nothing exactly when all pass, and failed
exactly when some element fails and the ones before it pass.

Of alternatives, the first that succeeds is taken, and the last failure is reported where
none does (`Basis.tryEach`).
-/

namespace Basis

variable {ε α β γ : Type} {f : α → Except ε (Option β)} {l : List α}

theorem ok_bind (a : α) (g : α → Except ε β) : ((.ok a : Except ε α) >>= g) = g a := rfl

/-- Two steps in a row return exactly when both do. -/
theorem bind_eq_ok_iff {x : Except ε α} {g : α → Except ε β} {b : β} :
    (x >>= g) = .ok b ↔ ∃ a, x = .ok a ∧ g a = .ok b := by
  constructor
  · intro h
    cases x with
    | error e => cases h
    | ok a => exact ⟨a, rfl, h⟩
  · rintro ⟨a, rfl, h⟩
    exact h

/-- Two steps in a row fail exactly when one does, the second after the first. -/
theorem bind_eq_error_iff {x : Except ε α} {g : α → Except ε β} {e : ε} :
    (x >>= g) = .error e ↔ x = .error e ∨ ∃ a, x = .ok a ∧ g a = .error e := by
  constructor
  · intro h
    cases x with
    | error e' =>
      obtain rfl : e' = e := Except.error.inj h
      exact Or.inl rfl
    | ok a => exact Or.inr ⟨a, rfl, h⟩
  · rintro (rfl | ⟨a, rfl, h⟩)
    · rfl
    · exact h

/-- A step fails exactly when it neither passes nor gives a value. -/
theorem exists_eq_error_iff {x : Except ε (Option β)} :
    (∃ e, x = .error e) ↔ ¬x = .ok none ∧ ¬∃ b, x = .ok (some b) := by
  rcases x with e | _ | b <;> simp

theorem findSomeM?_cons_of_pass {a : α} (h : f a = .ok none) :
    (a :: l).findSomeM? f = l.findSomeM? f := by
  rw [List.findSomeM?_cons, h]
  rfl

theorem findSomeM?_cons_of_some {a : α} {b : β} (h : f a = .ok (some b)) :
    (a :: l).findSomeM? f = .ok (some b) := by
  rw [List.findSomeM?_cons, h]
  rfl

theorem findSomeM?_cons_of_error {a : α} {e : ε} (h : f a = .error e) :
    (a :: l).findSomeM? f = .error e := by
  rw [List.findSomeM?_cons, h]
  rfl

/-- Elements that pass do not change the search. -/
theorem findSomeM?_append_of_pass {l₁ l₂ : List α} (h : ∀ x ∈ l₁, f x = .ok none) :
    (l₁ ++ l₂).findSomeM? f = l₂.findSomeM? f := by
  induction l₁ with
  | nil => rfl
  | cons a l₁ ih =>
    rw [List.cons_append, findSomeM?_cons_of_pass (h a (by simp)),
      ih fun x hx => h x (by simp [hx])]

/-- **The search finds nothing exactly when every element passes.** -/
theorem findSomeM?_eq_none_iff : l.findSomeM? f = .ok none ↔ ∀ x ∈ l, f x = .ok none := by
  induction l with
  | nil => simp [pure, Except.pure]
  | cons a l ih =>
    rcases h : f a with e | _ | b
    · rw [findSomeM?_cons_of_error h]
      simp [h]
    · rw [findSomeM?_cons_of_pass h, ih]
      simp [h]
    · rw [findSomeM?_cons_of_some h]
      simp [h]

/-- **A search that does not find nothing stops somewhere**, and has the result
of the first element that does not pass. -/
theorem exists_stop_of_ne_none (h : l.findSomeM? f ≠ .ok none) :
    ∃ l₁ a l₂, l = l₁ ++ a :: l₂ ∧ (∀ x ∈ l₁, f x = .ok none) ∧ f a ≠ .ok none ∧
      l.findSomeM? f = f a := by
  induction l with
  | nil => exact absurd rfl h
  | cons a l ih =>
    rcases ha : f a with e | _ | b
    · exact ⟨[], a, l, rfl, by simp, by simp [ha], by rw [findSomeM?_cons_of_error ha, ha]⟩
    · rw [findSomeM?_cons_of_pass ha] at h
      obtain ⟨l₁, x, l₂, hl, hpass, hstop, hres⟩ := ih h
      refine ⟨a :: l₁, x, l₂, by rw [hl]; rfl, fun y hy => ?_, hstop, ?_⟩
      · rcases List.mem_cons.mp hy with rfl | hy
        · exact ha
        · exact hpass y hy
      · rw [findSomeM?_cons_of_pass ha, hres]
    · exact ⟨[], a, l, rfl, by simp, by simp [ha], by rw [findSomeM?_cons_of_some ha, ha]⟩

/-- The result of a search is that of its first element that does not pass. -/
theorem findSomeM?_eq_of_stop {l₁ l₂ : List α} {a : α} (hpass : ∀ x ∈ l₁, f x = .ok none)
    (hstop : f a ≠ .ok none) : (l₁ ++ a :: l₂).findSomeM? f = f a := by
  rw [findSomeM?_append_of_pass hpass]
  rcases ha : f a with e | _ | b
  · rw [findSomeM?_cons_of_error ha]
  · exact absurd ha hstop
  · rw [findSomeM?_cons_of_some ha]

/-- **The search finds `b` exactly when some element gives `b` and the ones before
it pass.** -/
theorem findSomeM?_eq_some_iff {b : β} : l.findSomeM? f = .ok (some b) ↔
    ∃ l₁ a l₂, l = l₁ ++ a :: l₂ ∧ (∀ x ∈ l₁, f x = .ok none) ∧ f a = .ok (some b) := by
  constructor
  · intro h
    obtain ⟨l₁, a, l₂, hl, hpass, -, hres⟩ := exists_stop_of_ne_none (f := f) (l := l)
      (by rw [h]; simp)
    exact ⟨l₁, a, l₂, hl, hpass, hres ▸ h⟩
  · rintro ⟨l₁, a, l₂, rfl, hpass, ha⟩
    rw [findSomeM?_eq_of_stop hpass (by rw [ha]; simp), ha]

/-- **The search fails with `e` exactly when some element fails with `e` and the
ones before it pass.** -/
theorem findSomeM?_eq_error_iff {e : ε} : l.findSomeM? f = .error e ↔
    ∃ l₁ a l₂, l = l₁ ++ a :: l₂ ∧ (∀ x ∈ l₁, f x = .ok none) ∧ f a = .error e := by
  constructor
  · intro h
    obtain ⟨l₁, a, l₂, hl, hpass, -, hres⟩ := exists_stop_of_ne_none (f := f) (l := l)
      (by rw [h]; simp)
    exact ⟨l₁, a, l₂, hl, hpass, hres ▸ h⟩
  · rintro ⟨l₁, a, l₂, rfl, hpass, ha⟩
    rw [findSomeM?_eq_of_stop hpass (by rw [ha]; simp), ha]

/-- A search whose steps give values with `P` or pass, and do not all pass, gives a
value with `P`. -/
theorem exists_findSomeM?_eq_some {P : β → Prop}
    (h : ∀ x ∈ l, f x = .ok none ∨ ∃ b, f x = .ok (some b) ∧ P b)
    (hstop : ∃ x ∈ l, f x ≠ .ok none) : ∃ b, l.findSomeM? f = .ok (some b) ∧ P b := by
  have hne : l.findSomeM? f ≠ .ok none := fun hnone =>
    hstop.elim fun x hx => hx.2 (findSomeM?_eq_none_iff.mp hnone x hx.1)
  obtain ⟨l₁, a, l₂, rfl, -, ha, hres⟩ := exists_stop_of_ne_none hne
  obtain ⟨b, hb, hP⟩ := (h a (by simp)).resolve_left ha
  exact ⟨b, hres.trans hb, hP⟩

/-! ### What stands first

Whether a search succeeds or fails depends on which of the two kinds of elements
stands first, those that give a value or those that fail. -/

/-- An element with `good` is **reached**: none with `bad` stands before it. -/
def Reaches (l : List α) (bad good : α → Prop) : Prop :=
  ∃ l₁ a l₂, l = l₁ ++ a :: l₂ ∧ (∀ x ∈ l₁, ¬bad x) ∧ good a

section Reaches

variable {bad good bad' good' : α → Prop}

theorem Reaches.mono (h : Reaches l bad good) (hbad : ∀ x ∈ l, bad' x → bad x)
    (hgood : ∀ x ∈ l, good x → good' x) : Reaches l bad' good' := by
  obtain ⟨l₁, a, l₂, rfl, hclear, ha⟩ := h
  exact ⟨l₁, a, l₂, rfl, fun x hx hb => hclear x hx (hbad x (by simp [hx]) hb),
    hgood a (by simp) ha⟩

theorem Reaches.exists_mem (h : Reaches l bad good) : ∃ x ∈ l, good x := by
  obtain ⟨l₁, a, l₂, rfl, -, ha⟩ := h
  exact ⟨a, by simp, ha⟩

/-- Where nothing is bad, everything is reached. -/
theorem reaches_of_mem {a : α} (ha : a ∈ l) (hgood : good a) (hclear : ∀ x ∈ l, ¬bad x) :
    Reaches l bad good := by
  obtain ⟨l₁, l₂, rfl⟩ := List.append_of_mem ha
  exact ⟨l₁, a, l₂, rfl, fun x hx => hclear x (by simp [hx]), hgood⟩

end Reaches

theorem not_reaches_nil {bad good : α → Prop} : ¬Reaches [] bad good := fun h => by
  obtain ⟨x, hx, -⟩ := h.exists_mem
  simp at hx

/-- The head of a list is reached, or lets the rest be reached. -/
theorem reaches_cons {a : α} {bad good : α → Prop} :
    Reaches (a :: l) bad good ↔ good a ∨ ¬bad a ∧ Reaches l bad good := by
  constructor
  · rintro ⟨l₁, b, l₂, hl, hclear, hb⟩
    cases l₁ with
    | nil =>
      obtain ⟨rfl, -⟩ := List.cons.inj hl
      exact Or.inl hb
    | cons c l₁ =>
      obtain ⟨rfl, rfl⟩ := List.cons.inj hl
      exact Or.inr ⟨hclear a (by simp), l₁, b, l₂, rfl, fun x hx => hclear x (by simp [hx]), hb⟩
  · rintro (ha | ⟨hna, l₁, b, l₂, rfl, hclear, hb⟩)
    · exact ⟨[], a, l, rfl, by simp, ha⟩
    · refine ⟨a :: l₁, b, l₂, rfl, fun x hx => ?_, hb⟩
      rcases List.mem_cons.mp hx with rfl | hx
      · exact hna
      · exact hclear x hx

/-- **A search succeeds exactly when it reaches an element that gives a value**
before one that fails. -/
theorem exists_findSomeM?_eq_some_iff : (∃ b, l.findSomeM? f = .ok (some b)) ↔
    Reaches l (fun x => ∃ e, f x = .error e) (fun x => ∃ b, f x = .ok (some b)) := by
  induction l with
  | nil => simp [pure, Except.pure, not_reaches_nil]
  | cons a l ih =>
    rw [reaches_cons]
    rcases ha : f a with e | _ | b
    · rw [findSomeM?_cons_of_error ha]
      simp
    · rw [findSomeM?_cons_of_pass ha, ih]
      simp
    · rw [findSomeM?_cons_of_some ha]
      simp

/-- **A search fails exactly when it reaches an element that fails** before one that
gives a value. -/
theorem exists_findSomeM?_eq_error_iff : (∃ e, l.findSomeM? f = .error e) ↔
    Reaches l (fun x => ∃ b, f x = .ok (some b)) (fun x => ∃ e, f x = .error e) := by
  induction l with
  | nil => simp [pure, Except.pure, not_reaches_nil]
  | cons a l ih =>
    rw [reaches_cons]
    rcases ha : f a with e | _ | b
    · rw [findSomeM?_cons_of_error ha]
      simp
    · rw [findSomeM?_cons_of_pass ha, ih]
      simp
    · rw [findSomeM?_cons_of_some ha]
      simp

section Monad

variable {m : Type → Type} [Monad m] {α β δ : Type}

/-- Two steps with the same images are the same before a step that asks for images only. -/
theorem bind_eq_of_map_eq [LawfulMonad m] {x y : m α} {f : α → β} (h : f <$> x = f <$> y)
    (g : β → m δ) {k : α → m δ} (hk : ∀ a, k a = g (f a)) : x >>= k = y >>= k := by
  have himages : k = fun a => g (f a) := funext hk
  rw [himages, ← bind_map_left f x g, h, bind_map_left]

/-- A search over images is a search. -/
theorem findSomeM?_map (g : γ → α) (f : α → m (Option β)) (l : List γ) :
    (l.map g).findSomeM? f = l.findSomeM? fun c => f (g c) := by
  induction l with
  | nil => rfl
  | cons c l ih => rw [List.map_cons, List.findSomeM?_cons, List.findSomeM?_cons, ih]

theorem findSomeM?_congr {f g : α → m (Option β)} {l : List α} (h : ∀ a ∈ l, f a = g a) :
    l.findSomeM? f = l.findSomeM? g := by
  induction l with
  | nil => rfl
  | cons a l ih =>
    rw [List.findSomeM?_cons, List.findSomeM?_cons, h a (by simp),
      ih fun b hb => h b (by simp [hb])]

/-- What a search finds can be transformed at each of its steps. -/
theorem map_findSomeM? [LawfulMonad m] (g : β → δ) (f : α → m (Option β)) (l : List α) :
    Option.map g <$> l.findSomeM? f = l.findSomeM? fun a => Option.map g <$> f a := by
  induction l with
  | nil => simp
  | cons a l ih =>
    rw [List.findSomeM?_cons, List.findSomeM?_cons, ← ih, map_bind, bind_map_left]
    refine bind_congr fun b => ?_
    cases b <;> simp

/-- A search through one element is a trial of it. -/
theorem findSomeM?_singleton [LawfulMonad m] (f : α → m (Option β)) (a : α) :
    [a].findSomeM? f = f a := by
  rw [List.findSomeM?_cons]
  conv_rhs => rw [← bind_pure (f a)]
  refine bind_congr fun b => ?_
  cases b <;> rfl

end Monad

/-- Numbering the images of numbered elements gives them the numbers they had. -/
theorem zipIdx_map_zipIdx (g : α × ℕ → β) (l : List α) :
    (l.zipIdx.map g).zipIdx = l.zipIdx.map fun p => (g p, p.2) := by
  refine List.ext_getElem (by simp) fun i _ _ => ?_
  simp

/-- Numbering the elements does not change a search that ignores the numbers. -/
theorem findSomeM?_zipIdx (l : List α) (k : ℕ) :
    ((l.zipIdx k).findSomeM? fun p => f p.1) = l.findSomeM? f := by
  rw [← findSomeM?_map Prod.fst f, List.zipIdx_map_fst]

/-! ### Alternatives

A search of another kind goes on after a failure, and remembers it: the result is that of
the first alternative that succeeds, or the failure of the last one. -/

/-- Try alternatives in turn, after `last`. -/
def tryEach (f : α → Except ε β) : List α → Option ε → Except (Option ε) β
  | [], last => .error last
  | a :: l, _ =>
    match f a with
    | .ok b => .ok b
    | .error e => tryEach f l (some e)

section Alternatives

variable {f : α → Except ε β} {l₁ l₂ : List α} {a : α}

/-- **The first alternative that succeeds gives the result**, whatever stands after it. -/
theorem tryEach_of_ok {b : β} (hfail : ∀ x ∈ l₁, ∃ e, f x = .error e) (ha : f a = .ok b)
    (last : Option ε) : tryEach f (l₁ ++ a :: l₂) last = .ok b := by
  induction l₁ generalizing last with
  | nil => rw [List.nil_append, tryEach, ha]
  | cons x l₁ ih =>
    obtain ⟨e, he⟩ := hfail x (by simp)
    rw [List.cons_append, tryEach, he]
    exact ih (fun y hy => hfail y (by simp [hy])) _

/-- **Where all fail, the last failure is reported.** -/
theorem tryEach_of_error {e : ε} (hfail : ∀ x ∈ l₁, ∃ e, f x = .error e) (ha : f a = .error e)
    (last : Option ε) : tryEach f (l₁ ++ [a]) last = .error (some e) := by
  induction l₁ generalizing last with
  | nil => simp [tryEach, ha]
  | cons x l₁ ih =>
    obtain ⟨e', he'⟩ := hfail x (by simp)
    rw [List.cons_append, tryEach, he']
    exact ih (fun y hy => hfail y (by simp [hy])) _

/-- What is found was given by an alternative. -/
theorem exists_of_tryEach_eq_ok {l : List α} {last : Option ε} {b : β}
    (h : tryEach f l last = .ok b) : ∃ a ∈ l, f a = .ok b := by
  induction l generalizing last with
  | nil => cases h
  | cons x l ih =>
    rw [tryEach] at h
    cases hx : f x with
    | ok c =>
      obtain rfl : c = b := by
        rw [hx] at h
        exact Except.ok.inj h
      exact ⟨x, by simp, hx⟩
    | error e =>
      rw [hx] at h
      obtain ⟨a, ha, hfa⟩ := ih h
      exact ⟨a, by simp [ha], hfa⟩

/-- Once there was a failure, there is one to report. -/
theorem tryEach_some_ne (l : List α) (e : ε) : tryEach f l (some e) ≠ .error none := by
  induction l generalizing e with
  | nil => simp [tryEach]
  | cons a l ih =>
    rw [tryEach]
    cases f a with
    | ok b => simp
    | error e' => exact ih e'

/-- There is nothing to report exactly where there is nothing to try. -/
theorem tryEach_eq_error_none_iff {l : List α} :
    tryEach f l none = .error none ↔ l = [] := by
  cases l with
  | nil => simp [tryEach]
  | cons a l =>
    rw [tryEach]
    cases f a with
    | ok b => simp
    | error e => simpa using tryEach_some_ne l e

end Alternatives

end Basis
