import Mathlib.Logic.Function.Basic
import Mathlib.Logic.Relation

namespace Interaction

-- A program acts on its surroundings only by calls. Each call is answered by a value or by an
-- exception, and the rest of the program is a function of that answer. So a handler for exceptions
-- is nothing but a program that looks at the answers of another one.
inductive Program (Op : Type → Type) (ε α : Type) : Type 1
  | pure (a : α)
  | throw (e : ε)
  | call {β : Type} (op : Op β) (k : Except ε β → Program Op ε α)

namespace Program

variable {Op : Type → Type} {ε α β γ σ : Type}

def bind (p : Program Op ε α) (f : α → Program Op ε β) : Program Op ε β :=
  match p with
  | pure a    => f a
  | throw e   => throw e
  | call op k => call op (fun r => (k r).bind f)

instance : Monad (Program Op ε) where
  pure := pure
  bind := bind

def tryCatch (p : Program Op ε α) (h : ε → Program Op ε α) : Program Op ε α :=
  match p with
  | pure a    => pure a
  | throw e   => h e
  | call op k => call op (fun r => (k r).tryCatch h)

-- The cleanup runs in either case. What it raises itself takes the place of the outcome.
def withFinally (p : Program Op ε α) (cleanup : Program Op ε Unit) : Program Op ε α :=
  match p with
  | pure a    => cleanup.bind (fun _ => pure a)
  | throw e   => cleanup.bind (fun _ => throw e)
  | call op k => call op (fun r => (k r).withFinally cleanup)

def ofExcept : Except ε α → Program Op ε α
  | .ok a    => pure a
  | .error e => throw e

-- The program with its calls taken for calls of another kind.
def lift {Op' : Type → Type} (f : ∀ {β : Type}, Op β → Op' β) (p : Program Op ε α) :
    Program Op' ε α :=
  match p with
  | pure a    => pure a
  | throw e   => throw e
  | call op k => call (f op) (fun r => (k r).lift f)

-- The program that makes one call and passes its answer on.
def perform (op : Op α) : Program Op ε α :=
  call op ofExcept

@[simp]
theorem pure_bind (a : α) (f : α → Program Op ε β) : (pure a >>= f) = f a :=
  rfl

@[simp]
theorem pure_bind' (a : α) (f : α → Program Op ε β) :
    ((Pure.pure a : Program Op ε α) >>= f) = f a :=
  rfl

@[simp]
theorem pure_eq (a : α) : (Pure.pure a : Program Op ε α) = .pure a :=
  rfl

@[simp]
theorem throw_bind (e : ε) (f : α → Program Op ε β) : (throw e >>= f) = throw e :=
  rfl

@[simp]
theorem ofExcept_ok (a : α) : (ofExcept (.ok a) : Program Op ε α) = .pure a :=
  rfl

@[simp]
theorem ofExcept_error (e : ε) : (ofExcept (.error e) : Program Op ε α) = .throw e :=
  rfl

-- ### Surroundings

-- A handler answers every call in one way. It describes surroundings in which nothing fails unless
-- the state asks for it.
abbrev Handler (Op : Type → Type) (ε σ : Type) := ∀ β, Op β → σ → Except ε β × σ

-- An environment says which answers a call may get.
abbrev Env (Op : Type → Type) (ε σ : Type) := ∀ β, Op β → σ → Except ε β → σ → Prop

-- The surroundings of a handler in which, moreover, a call may fail with one of the given
-- exceptions. A failing call has no effect on the state.
inductive Faulty (h : Handler Op ε σ) (fault : ∀ β, Op β → σ → ε → Prop) : Env Op ε σ
  | done {β : Type} (op : Op β) (s : σ) : Faulty h fault β op s (h β op s).1 (h β op s).2
  | fault {β : Type} {op : Op β} {s : σ} {e : ε} :
      fault β op s e → Faulty h fault β op s (.error e) s

theorem faulty_ok_iff {h : Handler Op ε σ} {fault : ∀ β, Op β → σ → ε → Prop} {op : Op β}
    {s s' : σ} {b : β} : Faulty h fault β op s (.ok b) s' ↔ h β op s = (.ok b, s') := by
  constructor
  case mp =>
    intro hf
    generalize hr : Except.ok b = r at hf
    cases hf
    case done  => rfl
    case fault => cases hr
  case mpr =>
    intro he
    have hd := @Faulty.done _ _ _ h fault _ op s
    rwa [he] at hd

-- The surroundings that answer as `E` does, but only while the calls respect the guard.
def Guarded (E : Env Op ε σ) (guard : ∀ β, Op β → σ → Prop) : Env Op ε σ :=
  fun β op s r s' => E β op s r s' ∧ guard β op s

-- ### Runs

def run (h : Handler Op ε σ) (p : Program Op ε α) (s : σ) : Except ε α × σ :=
  match p with
  | pure a    => (.ok a, s)
  | throw e   => (.error e, s)
  | call op k => (k (h _ op s).1).run h (h _ op s).2

-- A run of a program up to any point: it may be cut between any two calls.
inductive Steps (E : Env Op ε σ) : σ → Program Op ε α → σ → Program Op ε α → Prop
  | refl (s : σ) (p : Program Op ε α) : Steps E s p s p
  | call {β : Type} {op : Op β} {k : Except ε β → Program Op ε α} {r : Except ε β} {s s₁ s₂ : σ}
      {q : Program Op ε α} : E β op s r s₁ → Steps E s₁ (k r) s₂ q → Steps E s (.call op k) s₂ q

-- A run of a program to its end.
def Returns (E : Env Op ε σ) (s : σ) (p : Program Op ε α) (s' : σ) (a : α) : Prop :=
  Steps E s p s' (.pure a)

section Run

variable {h : Handler Op ε σ} {s : σ}

@[simp]
theorem run_pure (a : α) : (pure a : Program Op ε α).run h s = (.ok a, s) :=
  rfl

@[simp]
theorem run_ofExcept (x : Except ε α) : (ofExcept x : Program Op ε α).run h s = (x, s) := by
  cases x <;> rfl

@[simp]
theorem run_perform (op : Op α) : (perform op : Program Op ε α).run h s = h α op s := by
  simp [perform, run]

theorem run_bind (p : Program Op ε α) (f : α → Program Op ε β) :
    (p >>= f).run h s =
      match p.run h s with
      | (.ok a, s')    => (f a).run h s'
      | (.error e, s') => (.error e, s') := by
  induction p generalizing s
  case pure  => rfl
  case throw => rfl
  case call op k ih => exact ih _

theorem run_bind_of_ok {p : Program Op ε α} {f : α → Program Op ε β} {s' : σ} {a : α}
    (hp : p.run h s = (.ok a, s')) : (p >>= f).run h s = (f a).run h s' := by
  rw [run_bind, hp]

theorem run_tryCatch (p : Program Op ε α) (f : ε → Program Op ε α) :
    (p.tryCatch f).run h s =
      match p.run h s with
      | (.ok a, s')    => (.ok a, s')
      | (.error e, s') => (f e).run h s' := by
  induction p generalizing s
  case pure  => rfl
  case throw => rfl
  case call op k ih => exact ih _

theorem run_tryCatch_of_ok {p : Program Op ε α} {f : ε → Program Op ε α} {s' : σ} {a : α}
    (hp : p.run h s = (.ok a, s')) : (p.tryCatch f).run h s = (.ok a, s') := by
  rw [run_tryCatch, hp]

end Run

-- ### Programs that leave exceptions alone

inductive Propagates : Program Op ε α → Prop
  | pure (a : α) : Propagates (.pure a)
  | throw (e : ε) : Propagates (.throw e)
  | call {β : Type} {op : Op β} {k : Except ε β → Program Op ε α} :
      (∀ e, k (.error e) = .throw e) → (∀ b, Propagates (k (.ok b))) → Propagates (.call op k)

namespace Propagates

theorem ofExcept (x : Except ε α) : Propagates (ofExcept x : Program Op ε α) := by
  cases x
  case ok a    => exact pure a
  case error e => exact throw e

theorem perform (op : Op α) : Propagates (perform op : Program Op ε α) :=
  call (fun _ => rfl) (fun b => pure b)

theorem bind {p : Program Op ε α} {f : α → Program Op ε β} (hp : Propagates p)
    (hf : ∀ a, Propagates (f a)) : Propagates (p >>= f) := by
  induction hp
  case pure a  => exact hf a
  case throw e => exact throw e
  case call k he _ ih =>
    refine call (fun e => ?_) ih
    show k (.error e) >>= f = .throw e
    rw [he e]
    rfl

end Propagates

theorem steps_pure_iff {E : Env Op ε σ} {s s' : σ} {a : α} {q : Program Op ε α} :
    Steps E s (.pure a) s' q ↔ s' = s ∧ q = .pure a := by
  constructor
  case mp  => rintro ⟨⟩; exact ⟨rfl, rfl⟩
  case mpr => rintro ⟨rfl, rfl⟩; exact .refl _ _

theorem steps_throw_iff {E : Env Op ε σ} {s s' : σ} {e : ε} {q : Program Op ε α} :
    Steps E s (.throw e) s' q ↔ s' = s ∧ q = .throw e := by
  constructor
  case mp  => rintro ⟨⟩; exact ⟨rfl, rfl⟩
  case mpr => rintro ⟨rfl, rfl⟩; exact .refl _ _

theorem throw_ne_pure {e : ε} (a : α) : (throw e : Program Op ε α) ≠ .pure a := by
  intro h
  cases h

theorem perform_bind_ne_pure {op : Op β} {f : β → Program Op ε α} (a : α) :
    (perform op >>= f) ≠ .pure a := by
  intro h
  cases h

-- What the first call of a program may do to a run that is cut somewhere.
theorem steps_perform_bind_iff {E : Env Op ε σ} {s s' : σ} {op : Op β} {f : β → Program Op ε α}
    {q : Program Op ε α} :
    Steps E s (perform op >>= f) s' q ↔
      (s' = s ∧ q = perform op >>= f) ∨
      (∃ b s₁, E β op s (.ok b) s₁ ∧ Steps E s₁ (f b) s' q) ∨
      (∃ e, E β op s (.error e) s' ∧ q = .throw e) := by
  constructor
  case mp =>
    intro hs
    generalize hp : (perform op >>= f : Program Op ε α) = p at hs
    cases hs
    case refl => exact .inl ⟨rfl, rfl⟩
    case call op' k r s₁ he hs =>
      change Program.call op (fun r => ofExcept r >>= f) = Program.call op' k at hp
      cases hp
      cases r
      case ok b    => exact .inr <| .inl ⟨b, s₁, he, hs⟩
      case error e =>
        obtain ⟨rfl, rfl⟩ := steps_throw_iff.mp hs
        exact .inr <| .inr ⟨e, he, rfl⟩
  case mpr =>
    rintro (⟨rfl, rfl⟩ | ⟨b, s₁, he, hs⟩ | ⟨e, he, rfl⟩)
    · exact .refl _ _
    · exact .call he hs
    · exact .call he (.refl _ _)

theorem steps_run {E : Env Op ε σ} {h : Handler Op ε σ}
    (hE : ∀ β (op : Op β) s, E β op s (h β op s).1 (h β op s).2) (p : Program Op ε α) (s : σ) :
    Steps E s p (p.run h s).2 (ofExcept (p.run h s).1) := by
  induction p generalizing s
  case pure | throw => exact .refl _ _
  case call op k ih => exact .call (hE _ op s) (ih _ _)

theorem returns_of_run {E : Env Op ε σ} {h : Handler Op ε σ}
    (hE : ∀ β (op : Op β) s, E β op s (h β op s).1 (h β op s).2) {p : Program Op ε α} {s s' : σ}
    {a : α} (hr : p.run h s = (.ok a, s')) : Returns E s p s' a := by
  have hs := steps_run hE p s
  rwa [hr] at hs

-- A run that is played returns what it is seen to return.
theorem returns_of_map {E : Env Op ε σ} {h : Handler Op ε σ}
    (hE : ∀ β (op : Op β) s, E β op s (h β op s).1 (h β op s).2) {p : Program Op ε α} {s : σ}
    {f : α → β} {b : β} (hf : (p.run h s).1.toOption.map f = some b) :
    ∃ a, Returns E s p (p.run h s).2 a ∧ f a = b := by
  have ⟨a, ha, hb⟩ := Option.map_eq_some_iff.mp hf
  refine ⟨a, returns_of_run hE (Prod.ext ?_ rfl), hb⟩
  cases hr : (p.run h s).1
  case ok    => simpa [hr, Except.toOption] using ha
  case error => simp [hr, Except.toOption] at ha

theorem run_of_returns {h : Handler Op ε σ} {fault : ∀ β, Op β → σ → ε → Prop}
    {p : Program Op ε α} (hp : Propagates p) {s s' : σ} {a : α}
    (hr : Returns (Faulty h fault) s p s' a) : p.run h s = (.ok a, s') := by
  induction hp generalizing s
  case pure b =>
    obtain ⟨rfl, hq⟩ := steps_pure_iff.mp hr
    cases hq
    rfl
  case throw e =>
    have ⟨_, hq⟩ := steps_throw_iff.mp hr
    cases hq
  case call op k he _ ih =>
    cases hr
    case call s₁ r hE hs =>
      cases r
      case ok b =>
        have hh := faulty_ok_iff.mp hE
        simp only [run, hh]
        exact ih b hs
      case error e =>
        rw [he e] at hs
        have ⟨_, hq⟩ := steps_throw_iff.mp hs
        cases hq

-- Where a program leaves exceptions alone, faults can stop it but never change what it returns.
theorem returns_iff_run {h : Handler Op ε σ} {fault : ∀ β, Op β → σ → ε → Prop}
    {p : Program Op ε α} (hp : Propagates p) {s s' : σ} {a : α} :
    Returns (Faulty h fault) s p s' a ↔ p.run h s = (.ok a, s') :=
  ⟨run_of_returns hp, returns_of_run (fun _ op s => .done op s)⟩

-- ### Invariants

-- The calls a program may make at all.
inductive Uses (A : ∀ β, Op β → Prop) : Program Op ε α → Prop
  | pure (a : α) : Uses A (.pure a)
  | throw (e : ε) : Uses A (.throw e)
  | call {β : Type} {op : Op β} {k : Except ε β → Program Op ε α} :
      A β op → (∀ r, Uses A (k r)) → Uses A (.call op k)

namespace Uses

variable {A : ∀ β, Op β → Prop}

theorem ofExcept (x : Except ε α) : Uses A (ofExcept x : Program Op ε α) := by
  cases x
  case ok a    => exact pure a
  case error e => exact throw e

theorem perform {op : Op α} (h : A α op) : Uses A (perform op : Program Op ε α) :=
  call h ofExcept

theorem bind {p : Program Op ε α} {f : α → Program Op ε β} (hp : Uses A p)
    (hf : ∀ a, Uses A (f a)) : Uses A (p >>= f) := by
  induction hp
  case pure a     => exact hf a
  case throw e    => exact throw e
  case call h _ ih => exact call h ih

theorem tryCatch {p : Program Op ε α} {h : ε → Program Op ε α} (hp : Uses A p)
    (hh : ∀ e, Uses A (h e)) : Uses A (p.tryCatch h) := by
  induction hp
  case pure a      => exact pure a
  case throw e     => exact hh e
  case call hA _ ih => exact call hA ih

theorem foldlM {f : α → β → Program Op ε α} (hf : ∀ a b, Uses A (f a b)) (l : List β) (a : α) :
    Uses A (l.foldlM f a) := by
  induction l generalizing a
  case nil       => exact pure a
  case cons b l ih => exact (hf a b).bind ih

end Uses

theorem Uses.of_call {A : ∀ β, Op β → Prop} {op : Op β} {k : Except ε β → Program Op ε α}
    (h : Uses A (.call op k)) : A β op := by
  cases h
  case call h _ => exact h

-- Wherever a run is cut, the rest of the program makes no other calls.
theorem Steps.uses {E : Env Op ε σ} {A : ∀ β, Op β → Prop} {s s' : σ} {p q : Program Op ε α}
    (hs : Steps E s p s' q) (hu : Uses A p) : Uses A q := by
  induction hs
  case refl => exact hu
  case call ih =>
    cases hu
    case call hk => exact ih (hk _)

-- What every call of a program preserves, every run of it preserves, wherever the run is cut.
theorem Steps.invariant {E : Env Op ε σ} {A : ∀ β, Op β → Prop} {I : σ → Prop}
    (hI : ∀ {β} {op : Op β} {s r s'}, A β op → E β op s r s' → I s → I s')
    {s s' : σ} {p q : Program Op ε α} (hs : Steps E s p s' q) (hu : Uses A p) (h : I s) : I s' := by
  induction hs
  case refl => exact h
  case call he _ ih =>
    cases hu
    case call hA hk => exact ih (hk _) (hI hA he h)

-- ### Several programs on one state

-- The programs of a pool take turns in any order, one call at a time.
inductive Pool.Step {ι : Type} [DecidableEq ι] (E : Env Op ε σ) :
    σ × (ι → Program Op ε α) → σ × (ι → Program Op ε α) → Prop
  | mk {s s' : σ} {P : ι → Program Op ε α} {β : Type} {op : Op β}
      {k : Except ε β → Program Op ε α} {r : Except ε β} (i : ι) :
      P i = .call op k → E β op s r s' → Pool.Step E (s, P) (s', Function.update P i (k r))

abbrev Pool.Steps {ι : Type} [DecidableEq ι] (E : Env Op ε σ) :
    σ × (ι → Program Op ε α) → σ × (ι → Program Op ε α) → Prop :=
  Relation.ReflTransGen (Pool.Step E)

-- What one turn preserves, every interleaving preserves.
theorem Pool.Steps.invariant {ι : Type} [DecidableEq ι] {E : Env Op ε σ}
    {I : σ × (ι → Program Op ε α) → Prop} (hI : ∀ {c c'}, Pool.Step E c c' → I c → I c')
    {c c' : σ × (ι → Program Op ε α)} (hs : Pool.Steps E c c') (h : I c) : I c' := by
  induction hs
  case refl           => exact h
  case tail _ hstep ih => exact hI hstep ih

-- The interleaving in which the programs take the turns of the given schedule, as long as their
-- calls respect the guard.
def Pool.play {ι : Type} [DecidableEq ι] (h : Handler Op ε σ) (guard : ∀ β, Op β → σ → Bool) :
    List ι → σ × (ι → Program Op ε α) → Option (σ × (ι → Program Op ε α))
  | [], c => some c
  | i :: is, (s, P) =>
    match P i with
    | .call op k =>
      if guard _ op s then
        Pool.play h guard is ((h _ op s).2, Function.update P i (k (h _ op s).1))
      else none
    | _ => Pool.play h guard is (s, P)

theorem Pool.steps_play {ι : Type} [DecidableEq ι] {E : Env Op ε σ} {h : Handler Op ε σ}
    {guard : ∀ β, Op β → σ → Bool} (hE : ∀ β (op : Op β) s, E β op s (h β op s).1 (h β op s).2)
    {is : List ι} {c c' : σ × (ι → Program Op ε α)} (hp : Pool.play h guard is c = some c') :
    Pool.Steps (Guarded E fun β op s => guard β op s) c c' := by
  induction is generalizing c
  case nil =>
    cases hp
    exact .refl
  case cons i is ih =>
    have ⟨s, P⟩ := c
    simp only [Pool.play] at hp
    split at hp
    case h_1 op k hP =>
      split at hp
      case isTrue hg  => exact .head (.mk i hP ⟨hE _ op s, hg⟩) (ih hp)
      case isFalse    => cases hp
    case h_2 => exact ih hp

theorem Pool.Steps.mono {ι : Type} [DecidableEq ι] {E E' : Env Op ε σ}
    (hE : ∀ {β} {op : Op β} {s r s'}, E β op s r s' → E' β op s r s')
    {c c' : σ × (ι → Program Op ε α)} (hs : Pool.Steps E c c') : Pool.Steps E' c c' := by
  induction hs
  case refl => exact .refl
  case tail hstep ih =>
    have ⟨i, hP, he⟩ := hstep
    exact ih.tail (.mk i hP (hE he))

-- Surroundings that give the answers of others are as good as those in every interleaving.
theorem Pool.Steps.simulate {ι τ : Type} [DecidableEq ι] {E : Env Op ε σ} {E' : Env Op ε τ}
    {R : σ → τ → Prop}
    (hR : ∀ {β} {op : Op β} {s r s' t}, E β op s r s' → R s t → ∃ t', E' β op t r t' ∧ R s' t')
    {s s' : σ} {t : τ} {P Q : ι → Program Op ε α} (hs : Pool.Steps E (s, P) (s', Q)) (h : R s t) :
    ∃ t', Pool.Steps E' (t, P) (t', Q) ∧ R s' t' := by
  generalize hc : (s', Q) = c at hs
  induction hs generalizing s' Q
  case refl => cases hc; exact ⟨t, .refl, h⟩
  case tail hstep ih =>
    cases hc
    have ⟨i, hP, he⟩ := hstep
    have ⟨t₁, hs₁, h₁⟩ := ih rfl
    have ⟨t₂, he₂, h₂⟩ := hR he h₁
    exact ⟨t₂, hs₁.tail (.mk i hP he₂), h₂⟩

-- What a program has come to.
def value : Program Op ε α → Option α
  | pure a => some a
  | _      => none

theorem eq_pure_of_value {p : Program Op ε α} {a : α} (h : p.value = some a) : p = .pure a := by
  cases p <;> cases h
  rfl

end Program
end Interaction
