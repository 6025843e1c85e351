/-
**Stores that fail in place: `EStateM` outcomes, their inversion and their frames.**

A program that issues one statement after another against a store without a transaction either
returns a value or fails, and in both cases leaves the store where it got to: nothing is rolled
back. `EStateM ε σ` is exactly that semantics. This module collects what the proofs about such
programs use, for any error type `ε` and store type `σ`.

* `run_bind_eq_ok`, `run_bind_eq_error` — **inversion of a sequence**: a successful (failed)
  `x >>= f` is `x` succeeding and `f` succeeding (failing), or `x` failing.
* `Respects r x` — every outcome of `x` is `r`-related to the store it started from, failures
  included. For a reflexive and transitive `r` it is closed under `pure`, `bind`, `ite` and the
  two loops (`Respects.bind`, `Respects.forM`, `Respects.foldlM`); frame conditions ("this table
  is untouched") and invariants ("`P` stays true") are its two uses.
* `run_forM_eq_ok` — a successful loop is a successful first step and a successful rest;
  `forM_ok_induct` is the loop rule: an invariant indexed by the elements already processed.
  `run_forM_of_pure` and `run_foldlM_of_pure` run loops whose every step only reads;
  `forM_run_of_step` is the progress rule: a step that always succeeds from the invariant runs the
  whole loop.
* `Result.store`, `Result.error?`, `Result.value?` — what an outcome leaves, and its error or
  value, so that a concrete run can be stated and decided.
* `Closed neutral Good` — a property of programs that the `neutral` programs have and sequencing
  keeps: a proof by the structure of a program, stated once over `Good`, serves each such
  property (`Respects.closed`, `Guards.closed`).
* `Guards P fatal x` — from a store with `P`, `x` leaves one with `P` unless it stops at a fatal
  error, and one that succeeds keeps `P` (`Guards.of_run_ok`), as does every run when no error is
  fatal (`Guards.run_store`); `Restores` drops the assumption on the start. `Guards.bind_restores` is the rule for a
  statement that fails in place (`FailsInPlace`) followed by a check that restores `P`;
  `Restores.after` — when every error is allowed, only the last part of a sequence matters.
* `Safe P fatal x` — from a store with `P`, `x` leaves one with `P` and never stops at a fatal
  error; closed under `bind`, `ite` and `forM`, and with every error fatal it is "always
  succeeds" (`Safe.run_ok`).
-/

import Mathlib.Order.Basic
import Mathlib.Logic.Relation

set_option linter.unusedSectionVars false

namespace EStateM

variable {ε σ α β : Type}

/-! ### The store an outcome leaves -/

/-- The store an outcome leaves behind, whether it succeeded or failed. -/
def Result.store : Result ε σ α → σ
  | .ok _ s => s
  | .error _ s => s

@[simp] theorem Result.store_ok (a : α) (s : σ) : (Result.ok a s : Result ε σ α).store = s := rfl

@[simp] theorem Result.store_error (e : ε) (s : σ) :
    (Result.error e s : Result ε σ α).store = s := rfl

/-- The error of a failed outcome, `none` for a success. -/
def Result.error? : Result ε σ α → Option ε
  | .ok _ _ => none
  | .error e _ => some e

/-- The value of a successful outcome, `none` for a failure. -/
def Result.value? : Result ε σ α → Option α
  | .ok a _ => some a
  | .error _ _ => none

/-- An outcome without an error is a success. -/
theorem Result.exists_ok_of_error? {r : Result ε σ α} (succeeded : r.error? = none) :
    ∃ a s, r = .ok a s := by
  cases r with
  | ok a s => exact ⟨a, s, rfl⟩
  | error _ _ => cases succeeded

/-- A failed outcome is its error and the store it left. -/
theorem Result.eq_error_of_error? {r : Result ε σ α} {e : ε} (failed : r.error? = some e) :
    r = .error e r.store := by
  cases r with
  | ok _ _ => cases failed
  | error e' s =>
    cases failed
    rfl

/-! ### Inversion of a sequence -/

section Inversion

variable {x : EStateM ε σ α} {f : α → EStateM ε σ β} {s s' : σ}

/-- **A successful sequence is two successful steps.** -/
theorem run_bind_eq_ok {b : β} :
    (x >>= f).run s = .ok b s' ↔ ∃ a s₁, x.run s = .ok a s₁ ∧ (f a).run s₁ = .ok b s' := by
  rw [run_bind]
  cases first : x.run s with
  | ok a s₁ =>
    constructor
    · intro second
      exact ⟨a, s₁, rfl, second⟩
    · rintro ⟨a', s₂, same, second⟩
      cases same
      exact second
  | error e s₁ => simp

/-- **A failed sequence failed in its first step or in its second.** -/
theorem run_bind_eq_error {e : ε} :
    (x >>= f).run s = .error e s' ↔
      x.run s = .error e s' ∨ ∃ a s₁, x.run s = .ok a s₁ ∧ (f a).run s₁ = .error e s' := by
  rw [run_bind]
  cases first : x.run s with
  | ok a s₁ =>
    constructor
    · intro second
      exact .inr ⟨a, s₁, rfl, second⟩
    · rintro (failed | ⟨a', s₂, same, second⟩)
      · cases failed
      · cases same
        exact second
  | error e₁ s₁ => simp

theorem run_bind_of_ok {a : α} {s₁ : σ} (first : x.run s = .ok a s₁) :
    (x >>= f).run s = (f a).run s₁ := by
  rw [run_bind, first]

theorem run_bind_of_error {e : ε} {s₁ : σ} (first : x.run s = .error e s₁) :
    (x >>= f).run s = .error e s₁ := by
  rw [run_bind, first]

end Inversion

/-- **A successful loop** is its first step succeeding and the rest of the loop succeeding. -/
theorem run_forM_eq_ok {γ : Type} {g : γ → EStateM ε σ PUnit} {c : γ} {cs : List γ} {s s' : σ} :
    (List.forM (c :: cs) g).run s = .ok ⟨⟩ s' ↔
      ∃ s₁, (g c).run s = .ok ⟨⟩ s₁ ∧ (List.forM cs g).run s₁ = .ok ⟨⟩ s' := by
  change (g c >>= fun _ => List.forM cs g).run s = _ ↔ _
  rw [run_bind_eq_ok]
  constructor
  · rintro ⟨⟨⟩, s₁, step, rest⟩
    exact ⟨s₁, step, rest⟩
  · rintro ⟨s₁, step, rest⟩
    exact ⟨⟨⟩, s₁, step, rest⟩

/-- **A loop over two lists** is the loop over the first followed by the loop over the second. -/
theorem run_forM_append {γ : Type} {g : γ → EStateM ε σ PUnit} (xs ys : List γ) (s : σ) :
    (List.forM (xs ++ ys) g).run s = (List.forM xs g >>= fun _ => List.forM ys g).run s := by
  induction xs generalizing s with
  | nil => rfl
  | cons x xs ih =>
    change (g x >>= fun _ => List.forM (xs ++ ys) g).run s =
      ((g x >>= fun _ => List.forM xs g) >>= fun _ => List.forM ys g).run s
    rw [run_bind, run_bind, run_bind]
    cases (g x).run s with
    | ok _ s₁ =>
      dsimp only
      rw [ih s₁, run_bind]
    | error e s₁ => rfl

/-- **The loop rule.** An invariant `Q done s` of the elements `done` a loop has processed and the
store `s` it reached, kept by every successful step, holds of the whole list when the loop
succeeds. -/
theorem forM_ok_induct {γ : Type} {g : γ → EStateM ε σ PUnit} {Q : List γ → σ → Prop}
    (step : ∀ done c s s', Q done s → (g c).run s = .ok ⟨⟩ s' → Q (done ++ [c]) s') :
    ∀ (cs done : List γ) (s s' : σ), Q done s → (List.forM cs g).run s = .ok ⟨⟩ s' →
      Q (done ++ cs) s'
  | [], done, s, s', holds, ok => by
    cases ok
    simpa using holds
  | c :: cs, done, s, s', holds, ok => by
    obtain ⟨s₁, first, rest⟩ := run_forM_eq_ok.mp ok
    have next := forM_ok_induct step cs (done ++ [c]) s₁ s' (step done c s s₁ holds first) rest
    simpa using next

/-- **The loop rule for progress.** An invariant `Q rest s` of the elements still to process and
the store, under which the next step succeeds and keeps it for the rest, makes the loop succeed. -/
theorem forM_run_of_step {γ : Type} {g : γ → EStateM ε σ PUnit} {Q : List γ → σ → Prop}
    (step : ∀ c cs s, Q (c :: cs) s → ∃ s', (g c).run s = .ok ⟨⟩ s' ∧ Q cs s') :
    ∀ (cs : List γ) (s : σ), Q cs s → ∃ s', (List.forM cs g).run s = .ok ⟨⟩ s' ∧ Q [] s'
  | [], s, holds => ⟨s, rfl, holds⟩
  | c :: cs, s, holds => by
    obtain ⟨s₁, first, holds₁⟩ := step c cs s holds
    obtain ⟨s', rest, done⟩ := forM_run_of_step step cs s₁ holds₁
    exact ⟨s', run_forM_eq_ok.mpr ⟨s₁, first, rest⟩, done⟩

/-- **A loop of reads**: when every step succeeds and leaves the store as it is, so does the
loop. -/
theorem run_forM_of_pure {γ : Type} {g : γ → EStateM ε σ PUnit} {s : σ} :
    ∀ cs : List γ, (∀ c ∈ cs, (g c).run s = .ok ⟨⟩ s) → (List.forM cs g).run s = .ok ⟨⟩ s
  | [], _ => rfl
  | c :: cs, steps => by
    change (g c >>= fun _ => List.forM cs g).run s = _
    rw [run_bind_of_ok (steps c List.mem_cons_self)]
    exact run_forM_of_pure cs fun c' member => steps c' (List.mem_cons_of_mem c member)

/-- **A fold of reads** computes the pure fold and leaves the store as it is. -/
theorem run_foldlM_of_pure {γ : Type} {f : β → γ → EStateM ε σ β} {g : β → γ → β} {s : σ}
    (steps : ∀ acc c, (f acc c).run s = .ok (g acc c) s) :
    ∀ (cs : List γ) (init : β), (cs.foldlM f init).run s = .ok (cs.foldl g init) s
  | [], _ => rfl
  | c :: cs, init => by
    rw [List.foldlM_cons, run_bind_of_ok (steps init c)]
    exact run_foldlM_of_pure steps cs (g init c)

/-! ### Frames and invariants -/

section Respects

variable (r : σ → σ → Prop)

/-- Every outcome of `x`, success or failure, leaves a store `r`-related to the one it started
from. -/
def Respects (x : EStateM ε σ α) : Prop :=
  ∀ s, r s (x.run s).store

variable {r}

/-- A frame for a relation is a frame for every weaker one. -/
theorem Respects.mono {r' : σ → σ → Prop} {x : EStateM ε σ α} (frame : Respects r x)
    (weaker : ∀ s s', r s s' → r' s s') : Respects r' x :=
  fun s => weaker s _ (frame s)

variable [Std.Refl r] [IsTrans σ r]

theorem Respects.pure (a : α) : Respects r (Pure.pure a : EStateM ε σ α) :=
  fun s => Std.Refl.refl s

theorem Respects.get : Respects r (MonadStateOf.get : EStateM ε σ σ) :=
  fun s => Std.Refl.refl s

theorem Respects.throw (e : ε) : Respects r (MonadExceptOf.throw e : EStateM ε σ α) :=
  fun s => Std.Refl.refl s

theorem Respects.bind {x : EStateM ε σ α} {f : α → EStateM ε σ β} (first : Respects r x)
    (second : ∀ a, Respects r (f a)) : Respects r (x >>= f) := by
  intro s
  rw [run_bind]
  have step := first s
  cases outcome : x.run s with
  | ok a s₁ =>
    rw [outcome, Result.store_ok] at step
    exact IsTrans.trans _ _ _ step (second a s₁)
  | error e s₁ =>
    rw [outcome, Result.store_error] at step
    exact step

theorem Respects.ite {c : Prop} [Decidable c] {x y : EStateM ε σ α} (left : Respects r x)
    (right : Respects r y) : Respects r (if c then x else y) := by
  split
  · exact left
  · exact right

theorem Respects.forM {γ : Type} {g : γ → EStateM ε σ PUnit} (step : ∀ c, Respects r (g c)) :
    ∀ cs : List γ, Respects r (List.forM cs g)
  | [] => Respects.pure _
  | c :: cs => Respects.bind (step c) fun _ => Respects.forM step cs

theorem Respects.foldlM {γ : Type} {f : β → γ → EStateM ε σ β} (step : ∀ acc c, Respects r (f acc c)) :
    ∀ (cs : List γ) (init : β), Respects r (cs.foldlM f init)
  | [], _ => Respects.pure _
  | c :: cs, init => Respects.bind (step init c) fun acc => Respects.foldlM step cs acc

/-- The relation "if `P` held before, it holds after". -/
def Keeps (P : σ → Prop) (s s' : σ) : Prop := P s → P s'

instance (P : σ → Prop) : Std.Refl (Keeps P) := ⟨fun _ holds => holds⟩

instance (P : σ → Prop) : IsTrans σ (Keeps P) :=
  ⟨fun _ _ _ first second holds => second (first holds)⟩

/-- The relation "the part `f` of the store is unchanged". -/
def Agree {τ : Type} (f : σ → τ) (s s' : σ) : Prop := f s' = f s

instance {τ : Type} (f : σ → τ) : Std.Refl (Agree f) := ⟨fun _ => rfl⟩

instance {τ : Type} (f : σ → τ) : IsTrans σ (Agree f) :=
  ⟨fun _ _ _ first second => second.trans first⟩

/-- A store that satisfied `P` still does, whatever `x` did. -/
theorem Respects.store_of {P : σ → Prop} {x : EStateM ε σ α} (keeps : Respects (Keeps P) x)
    {s : σ} (holds : P s) : P (x.run s).store :=
  keeps s holds

/-- The part `f` of the store is what it was, whatever `x` did. -/
theorem Respects.store_agree {τ : Type} {f : σ → τ} {x : EStateM ε σ α}
    (frame : Respects (Agree f) x) (s : σ) : f (x.run s).store = f s :=
  frame s

end Respects

/-! ### Properties closed under sequencing -/

section Closed

/-- A property of programs that every program leaving its store `neutral`-related to where it
started has, and that sequencing keeps. A proof by the structure of a program uses nothing else,
so one such proof serves every property of this kind: frames (`Respects.closed`) and invariants
kept up to fatal errors (`Guards.closed`) alike. -/
structure Closed (neutral : σ → σ → Prop) (Good : ∀ {α : Type}, EStateM ε σ α → Prop) : Prop where
  of_neutral : ∀ {α : Type} {x : EStateM ε σ α}, Respects neutral x → Good x
  bind : ∀ {α β : Type} {x : EStateM ε σ α} {f : α → EStateM ε σ β}, Good x → (∀ a, Good (f a)) →
    Good (x >>= f)

variable {neutral : σ → σ → Prop} {Good : ∀ {α : Type}, EStateM ε σ α → Prop}

/-- A `neutral` step followed by programs with the property has it: the shape of a read. -/
theorem Closed.bind_neutral (closed : Closed neutral Good) {x : EStateM ε σ α} {f : α → EStateM ε σ β}
    (first : Respects neutral x) (second : ∀ a, Good (f a)) : Good (x >>= f) :=
  closed.bind (closed.of_neutral first) second

theorem Closed.ite (_closed : Closed neutral Good) {c : Prop} [Decidable c] {x y : EStateM ε σ α}
    (left : Good x) (right : Good y) : Good (if c then x else y) := by
  split
  · exact left
  · exact right

theorem Closed.forM [Std.Refl neutral] [IsTrans σ neutral] (closed : Closed neutral Good) {γ : Type}
    {g : γ → EStateM ε σ PUnit} (step : ∀ c, Good (g c)) : ∀ cs : List γ, Good (List.forM cs g)
  | [] => closed.of_neutral (Respects.pure _)
  | c :: cs => closed.bind (step c) fun _ => Closed.forM closed step cs

/-- A frame is closed for every `neutral` relation it contains. -/
theorem Respects.closed {r : σ → σ → Prop} [Std.Refl r] [IsTrans σ r]
    (sub : ∀ s s', neutral s s' → r s s') : Closed (ε := ε) neutral (Respects r) where
  of_neutral frame := frame.mono sub
  bind first second := first.bind second

end Closed

/-! ### Invariants up to fatal errors -/

section Guards

variable (P : σ → Prop) (fatal : ε → Prop)

/-- The outcome leaves a store with `P`, or is a fatal error. -/
def Result.Guarded (r : Result ε σ α) : Prop :=
  P r.store ∨ ∃ e, r.error? = some e ∧ fatal e

/-- **`x` guards `P` up to fatal errors**: from a store with `P` it leaves a store with `P`, or
stops at a fatal error. -/
def Guards (x : EStateM ε σ α) : Prop :=
  ∀ s, P s → (x.run s).Guarded P fatal

/-- **`x` restores `P` up to fatal errors**: from any store it leaves a store with `P`, or stops at
a fatal error. A check that fails where `P` fails restores `P`. -/
def Restores (x : EStateM ε σ α) : Prop :=
  ∀ s, (x.run s).Guarded P fatal

/-- A failure of `x` leaves the store it started from: a statement that is refused changes
nothing. -/
def FailsInPlace (x : EStateM ε σ α) : Prop :=
  ∀ s e s', x.run s = .error e s' → s' = s

variable {P fatal}

/-- The outcome of a sequence is guarded when its first step's is, and the second step's from
every store with `P` the first one succeeds in. -/
theorem Result.guarded_bind {x : EStateM ε σ α} {f : α → EStateM ε σ β} {s : σ}
    (first : (x.run s).Guarded P fatal)
    (second : ∀ a s₁, x.run s = .ok a s₁ → P s₁ → ((f a).run s₁).Guarded P fatal) :
    ((x >>= f).run s).Guarded P fatal := by
  rw [run_bind]
  cases outcome : x.run s with
  | ok a s₁ =>
    rw [outcome] at first
    rcases first with kept | ⟨e, failed, -⟩
    · exact second a s₁ outcome kept
    · cases failed
  | error e s₁ =>
    rw [outcome] at first
    exact first

/-- A program that keeps `P` whatever its outcome guards it. -/
theorem Guards.of_respects {x : EStateM ε σ α} (keeps : Respects (Keeps P) x) : Guards P fatal x :=
  fun s holds => .inl (keeps s holds)

theorem Restores.guards {x : EStateM ε σ α} (restores : Restores P fatal x) : Guards P fatal x :=
  fun s _ => restores s

/-- A guarded property gives every weaker one of the outcome. -/
theorem Guards.run_mono {Q : σ → Prop} {x : EStateM ε σ α} (guards : Guards P fatal x) {s : σ}
    (start : P s) (weaker : ∀ s, P s → Q s) : (x.run s).Guarded Q fatal := by
  rcases guards s start with held | failed
  · exact .inl (weaker _ held)
  · exact .inr failed

/-- A run that succeeds from a store with `P` leaves one with `P`. -/
theorem Guards.of_run_ok {x : EStateM ε σ α} (guards : Guards P fatal x) {s s' : σ} {a : α}
    (start : P s) (ok : x.run s = .ok a s') : P s' := by
  rcases guards s start with held | ⟨e, failed, -⟩
  · rw [ok] at held
    exact held
  · rw [ok] at failed
    cases failed

/-- Without fatal errors, every outcome from a store with `P` leaves one with `P`. -/
theorem Guards.run_store {x : EStateM ε σ α} (guards : Guards P (fun _ => False) x) {s : σ} (start : P s) :
    P (x.run s).store :=
  (guards s start).resolve_right fun ⟨_, _, impossible⟩ => impossible

theorem Guards.bind {x : EStateM ε σ α} {f : α → EStateM ε σ β} (first : Guards P fatal x)
    (second : ∀ a, Guards P fatal (f a)) : Guards P fatal (x >>= f) :=
  fun s holds => Result.guarded_bind (first s holds) fun a s₁ _ kept => second a s₁ kept

theorem Restores.bind {x : EStateM ε σ α} {f : α → EStateM ε σ β} (first : Restores P fatal x)
    (second : ∀ a, Guards P fatal (f a)) : Restores P fatal (x >>= f) :=
  fun s => Result.guarded_bind (first s) fun a s₁ _ kept => second a s₁ kept

/-- **What comes last decides.** With every error allowed, a sequence restores `P` when its last
part does, whatever comes before it. -/
theorem Restores.after {x : EStateM ε σ α} {f : α → EStateM ε σ β}
    (second : ∀ a, Restores P (fun _ => True) (f a)) : Restores P (fun _ => True) (x >>= f) := by
  intro s
  rw [run_bind]
  cases x.run s with
  | ok a s₁ => exact second a s₁
  | error e s₁ => exact .inr ⟨e, rfl, trivial⟩

/-- **A write, then a check.** A step that changes nothing when it fails, followed by steps that
restore `P` from any store, guards `P`. -/
theorem Guards.bind_restores {x : EStateM ε σ α} {f : α → EStateM ε σ β} (inPlace : FailsInPlace x)
    (second : ∀ a, Restores P fatal (f a)) : Guards P fatal (x >>= f) := by
  intro s holds
  rw [run_bind]
  cases outcome : x.run s with
  | ok a s₁ => exact second a s₁
  | error e s₁ =>
    obtain rfl := inPlace s e s₁ outcome
    exact .inl holds

/-- Guarding `P` is closed for every `neutral` relation whose steps keep `P`. -/
theorem Guards.closed {neutral : σ → σ → Prop} (keeps : ∀ s s', neutral s s' → P s → P s') :
    Closed neutral (Guards P fatal) where
  of_neutral frame := .of_respects (frame.mono keeps)
  bind first second := first.bind second

end Guards

/-! ### Invariants without fatal errors -/

section Safe

variable (P : σ → Prop) (fatal : ε → Prop)

/-- The outcome leaves a store with `P`, and it is not a fatal error. -/
def Result.Sound (r : Result ε σ α) : Prop :=
  P r.store ∧ ∀ e ∈ r.error?, ¬fatal e

/-- **`x` is safe for `P`**: from a store with `P` it leaves a store with `P`, and it never stops at
a fatal error. With every error fatal, it always succeeds (`Safe.run_ok`). -/
def Safe (x : EStateM ε σ α) : Prop :=
  ∀ s, P s → (x.run s).Sound P fatal

variable {P fatal}

theorem Result.sound_ok {a : α} {s : σ} (holds : P s) : (Result.ok a s : Result ε σ α).Sound P fatal :=
  ⟨holds, fun _ none_found => by cases none_found⟩

theorem Result.sound_error {e : ε} {s : σ} (holds : P s) (harmless : ¬fatal e) :
    (Result.error e s : Result ε σ α).Sound P fatal :=
  ⟨holds, fun _ thrown => by
    cases thrown
    exact harmless⟩

/-- A program that succeeds from every store with `P` and keeps `P` is safe. -/
theorem Safe.of_run {x : EStateM ε σ α} (runs : ∀ s, P s → ∃ a s', x.run s = .ok a s' ∧ P s') :
    Safe P fatal x := by
  intro s holds
  obtain ⟨a, s', ran, holds'⟩ := runs s holds
  rw [ran]
  exact Result.sound_ok holds'

theorem Safe.pure (a : α) : Safe P fatal (Pure.pure a : EStateM ε σ α) :=
  .of_run fun s holds => ⟨a, s, rfl, holds⟩

theorem Safe.get : Safe P fatal (MonadStateOf.get : EStateM ε σ σ) :=
  .of_run fun s holds => ⟨s, s, rfl, holds⟩

theorem Safe.throw {e : ε} (harmless : ¬fatal e) : Safe P fatal (MonadExceptOf.throw e : EStateM ε σ α) :=
  fun _ holds => Result.sound_error holds harmless

theorem Safe.bind {x : EStateM ε σ α} {f : α → EStateM ε σ β} (first : Safe P fatal x)
    (second : ∀ a, Safe P fatal (f a)) : Safe P fatal (x >>= f) := by
  intro s holds
  rw [run_bind]
  have step := first s holds
  cases outcome : x.run s with
  | ok a s₁ =>
    rw [outcome] at step
    exact second a s₁ step.1
  | error e s₁ =>
    rw [outcome] at step
    exact step

theorem Safe.ite {c : Prop} [Decidable c] {x y : EStateM ε σ α} (left : Safe P fatal x)
    (right : Safe P fatal y) : Safe P fatal (if c then x else y) := by
  split
  · exact left
  · exact right

theorem Safe.forM {γ : Type} {g : γ → EStateM ε σ PUnit} (step : ∀ c, Safe P fatal (g c)) :
    ∀ cs : List γ, Safe P fatal (List.forM cs g)
  | [] => Safe.pure _
  | c :: cs => Safe.bind (step c) fun _ => Safe.forM step cs

/-- **A program that never fails**: safe with every error fatal, it succeeds from every store with
`P` and keeps `P`. -/
theorem Safe.run_ok {x : EStateM ε σ α} (safe : Safe P (fun _ => True) x) {s : σ} (holds : P s) :
    ∃ a s', x.run s = .ok a s' ∧ P s' := by
  have sound := safe s holds
  cases outcome : x.run s with
  | ok a s' =>
    rw [outcome] at sound
    exact ⟨a, s', rfl, sound.1⟩
  | error e s' =>
    rw [outcome] at sound
    exact absurd trivial (sound.2 e rfl)

end Safe

end EStateM
