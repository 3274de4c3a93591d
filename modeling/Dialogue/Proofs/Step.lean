import Dialogue.Fault

/-!
# Steps that may fail

How a step is taken apart: what its parts answer, and what they make of the state.

## Results

* `bind_eq_ok_iff`, `bind_eq_error_iff` — two steps one after the other succeed when both do, and
  fail with the first that fails, in the state that it leaves.
* `tryCatch_apply` — to try a step is to go on as it does, or from the state in which it fails.
* `Sure.bind` — two steps that cannot fail cannot fail one after the other.
* `answers_bind` — what two steps answer one after the other is what the second one answers.
* `FaultsIn.bind`, `Fails.bind` — what goes wrong in two steps goes wrong in one of them.
* `Keeps.bind` — what two steps keep of a state, they keep one after the other.
-/

set_option autoImplicit false

namespace Dialogue.Step

variable {σ α β : Type}

/-! ## Steps without failure -/

theorem state_bind (x : StateM σ α) (f : α → StateM σ β) (s : σ) :
    (x >>= f) s = f (x s).1 (x s).2 :=
  rfl

theorem state_get (s : σ) : (get : StateM σ σ) s = (s, s) :=
  rfl

theorem state_modify (f : σ → σ) (s : σ) : (modify f : StateM σ Unit) s = ((), f s) :=
  rfl

theorem state_modifyGet (f : σ → α × σ) (s : σ) : (modifyGet f : StateM σ α) s = f s :=
  rfl

/-! ## One step after the other -/

theorem ok_of_toOption {result : Except Fault α} {a : α} (h : result.toOption = some a) :
    result = .ok a := by
  cases result with
  | ok b => exact congrArg Except.ok (Option.some.inj h)
  | error f => cases h

theorem get_apply (s : σ) : (get : Step σ σ) s = (.ok s, s) :=
  rfl

theorem bind_apply (x : Step σ α) (f : α → Step σ β) (s : σ) :
    (x >>= f) s =
      match x s with
      | (.ok a, t) => f a t
      | (.error e, t) => (.error e, t) := by
  show ExceptT.bindCont f (x s).1 (x s).2 = _
  rcases x s with ⟨result, t⟩
  cases result <;> rfl

theorem bind_eq_of_ok {x : Step σ α} {f : α → Step σ β} {s t : σ} {a : α} (h : x s = (.ok a, t)) :
    (x >>= f) s = f a t := by
  rw [bind_apply, h]

theorem bind_eq_of_error {x : Step σ α} {f : α → Step σ β} {s t : σ} {e : Fault}
    (h : x s = (.error e, t)) : (x >>= f) s = (.error e, t) := by
  rw [bind_apply, h]

theorem bind_eq_ok_iff {x : Step σ α} {f : α → Step σ β} {s u : σ} {b : β} :
    (x >>= f) s = (.ok b, u) ↔ ∃ a t, x s = (.ok a, t) ∧ f a t = (.ok b, u) := by
  rw [bind_apply]
  rcases x s with ⟨result, t⟩
  cases result with
  | ok a =>
    constructor
    · intro h
      exact ⟨a, t, rfl, h⟩
    · rintro ⟨a, t, h, hf⟩
      cases h
      exact hf
  | error e =>
    constructor
    · intro h
      cases h
    · rintro ⟨a, t, h, -⟩
      cases h

theorem bind_eq_error_iff {x : Step σ α} {f : α → Step σ β} {s u : σ} {e : Fault} :
    (x >>= f) s = (.error e, u) ↔
      x s = (.error e, u) ∨ ∃ a t, x s = (.ok a, t) ∧ f a t = (.error e, u) := by
  rw [bind_apply]
  rcases x s with ⟨result, t⟩
  cases result with
  | ok a =>
    constructor
    · intro h
      exact .inr ⟨a, t, rfl, h⟩
    · rintro (h | ⟨a, t, h, hf⟩)
      · cases h
      · cases h
        exact hf
  | error g =>
    constructor
    · intro h
      cases h
      exact .inl rfl
    · rintro (h | ⟨a, t, h, -⟩)
      · cases h
        rfl
      · cases h

theorem tryCatch_apply (x : Step σ α) (handle : Fault → Step σ α) (s : σ) :
    (tryCatch x handle : Step σ α) s =
      match x s with
      | (.ok a, t) => (.ok a, t)
      | (.error e, t) => handle e t := by
  show (ExceptT.tryCatch x handle) s = _
  unfold ExceptT.tryCatch
  rw [ExceptT.mk, state_bind]
  rcases x s with ⟨result, t⟩
  cases result <;> rfl

/-- To answer a failure leaves the state as it is. -/
theorem tryCatch_pure_snd (x : Step σ α) (answer : Fault → α) (s : σ) :
    ((tryCatch x fun f => pure (answer f) : Step σ α) s).2 = (x s).2 := by
  rw [tryCatch_apply]
  rcases x s with ⟨result, t⟩
  cases result <;> rfl

/-- To answer something else leaves the state as it is. -/
theorem bind_pure_snd (x : Step σ α) (f : α → β) (s : σ) :
    ((x >>= fun a => pure (f a) : Step σ β) s).2 = (x s).2 := by
  rw [bind_apply]
  rcases x s with ⟨result, t⟩
  cases result <;> rfl

/-! ## Steps that cannot fail -/

/-- A step that succeeds in every state. -/
def Sure (x : Step σ α) : Prop :=
  ∀ s t f, x s ≠ (.error f, t)

theorem Sure.bind {x : Step σ α} {f : α → Step σ β} (hx : Sure x) (hf : ∀ a, Sure (f a)) :
    Sure (x >>= f) := by
  intro s u e h
  rcases bind_eq_error_iff.mp h with h | ⟨a, t, -, h⟩
  · exact hx s u e h
  · exact hf a t u e h

theorem sure_pure (a : α) : Sure (pure a : Step σ α) := by
  intro s t f h
  cases h

theorem sure_get : Sure (get : Step σ σ) := by
  intro s t f h
  cases h

theorem sure_modify (g : σ → σ) : Sure (modify g : Step σ Unit) := by
  intro s t f h
  cases h

theorem sure_lift (x : StateM σ α) : Sure (ExceptT.lift x : Step σ α) := by
  intro s t f h
  cases h

/-! ## What goes wrong -/

/-- Whatever goes wrong here is of this sort. -/
def FaultsIn (P : Fault → Prop) (result : Except Fault α) : Prop :=
  ∀ f, result = .error f → P f

section

variable {P : Fault → Prop}

theorem faultsIn_ok (a : α) : FaultsIn P (.ok a : Except Fault α) :=
  nofun

theorem faultsIn_error {f : Fault} (h : P f) : FaultsIn P (.error f : Except Fault α) := by
  intro g hg
  cases hg
  exact h

theorem FaultsIn.bind {x : Except Fault α} {f : α → Except Fault β} (hx : FaultsIn P x)
    (hf : ∀ a, FaultsIn P (f a)) : FaultsIn P (x >>= f) := by
  cases x with
  | ok a => exact hf a
  | error e => exact faultsIn_error (hx e rfl)

theorem FaultsIn.map {x : Except Fault α} (hx : FaultsIn P x) (f : α → β) : FaultsIn P (x.map f) := by
  cases x with
  | ok a => exact faultsIn_ok _
  | error e => exact faultsIn_error (hx e rfl)

/-- Whatever goes wrong in a step is of this sort. -/
def Fails (P : Fault → Prop) (x : Step σ α) : Prop :=
  ∀ s, FaultsIn P (x s).1

theorem Fails.bind {x : Step σ α} {f : α → Step σ β} (hx : Fails P x) (hf : ∀ a, Fails P (f a)) :
    Fails P (x >>= f) := by
  intro s
  rw [bind_apply]
  cases h : x s with
  | mk result t =>
    cases result with
    | ok a => exact hf a t
    | error e => exact faultsIn_error (hx s e (congrArg Prod.fst h))

theorem fails_pure (a : α) : Fails P (pure a : Step σ α) :=
  fun _ => faultsIn_ok a

theorem fails_modify (g : σ → σ) : Fails P (modify g : Step σ Unit) :=
  fun _ => faultsIn_ok ()

theorem fails_of {result : Except Fault α} (h : FaultsIn P result) :
    Fails P (Step.of result : Step σ α) :=
  fun _ => h

end

theorem ok_bind (a : α) (f : α → Except Fault β) : (Except.ok a >>= f) = f a :=
  rfl

/-- A result that is there is handed on. -/
theorem of_ok_bind (a : α) (f : α → Step σ β) : (Step.of (.ok a) >>= f) = f a :=
  funext fun s => bind_apply (Step.of (.ok a)) f s

/-! ## What steps answer -/

/-- This is so of whatever a step answers when it succeeds. -/
def Answers (Q : α → Prop) (x : Step σ α) : Prop :=
  ∀ s a t, x s = (.ok a, t) → Q a

theorem answers_pure {Q : α → Prop} {a : α} (h : Q a) : Answers Q (pure a : Step σ α) := by
  intro s b t heq
  cases heq
  exact h

theorem answers_throw (Q : α → Prop) (f : Fault) : Answers Q (throw f : Step σ α) := by
  intro s a t heq
  cases heq

theorem answers_bind {Q : β → Prop} {x : Step σ α} {f : α → Step σ β}
    (hf : ∀ a, Answers Q (f a)) : Answers Q (x >>= f) := by
  intro s b u h
  obtain ⟨a, t, -, h⟩ := bind_eq_ok_iff.mp h
  exact hf a t b u h

theorem answers_tryCatch {Q : α → Prop} {x : Step σ α} {handle : Fault → Step σ α}
    (hx : Answers Q x) (hhandle : ∀ f, Answers Q (handle f)) :
    Answers Q (tryCatch x handle : Step σ α) := by
  intro s a t h
  rw [tryCatch_apply] at h
  split at h <;> rename_i hs
  · cases h
    exact hx s a t hs
  · exact hhandle _ _ a t h

/-- What is done after a step that always answers the same may as well not look at the answer. -/
theorem bind_of_answers {x : Step σ α} {a : α} (h : Answers (· = a) x) (f : α → Step σ β) :
    (x >>= f) = (x >>= fun _ => f a) := by
  funext s
  rw [bind_apply, bind_apply]
  cases hx : x s with
  | mk result t =>
    cases result with
    | ok b => exact congrArg (fun b => f b t) (h s b t hx)
    | error e => rfl

/-! ## What steps keep -/

/-- Whatever a step answers, the state before it and the state after it are related. -/
def Keeps (R : σ → σ → Prop) (x : Step σ α) : Prop :=
  ∀ s, R s (x s).2

theorem Keeps.apply {R : σ → σ → Prop} {x : Step σ α} {s t : σ} {result : Except Fault α}
    (keeps : Keeps R x) (h : x s = (result, t)) : R s t := by
  have hkept := keeps s
  rw [h] at hkept
  exact hkept

/-- A relation that holds when nothing happens, and across two steps when it holds across each. -/
structure Frame (R : σ → σ → Prop) : Prop where
  refl : ∀ s, R s s
  trans : ∀ {s t u}, R s t → R t u → R s u

variable {R : σ → σ → Prop}

theorem Frame.bind_apply (frame : Frame R) {x : Step σ α} {f : α → Step σ β} {s : σ}
    (hx : R s (x s).2) (hf : ∀ a t, x s = (.ok a, t) → R t (f a t).2) : R s ((x >>= f) s).2 := by
  rw [Step.bind_apply]
  cases h : x s with
  | mk result t =>
    rw [h] at hx
    cases result with
    | ok a => exact frame.trans hx (hf a t h)
    | error e => exact hx

theorem Keeps.bind {x : Step σ α} {f : α → Step σ β} (frame : Frame R) (hx : Keeps R x)
    (hf : ∀ a, Keeps R (f a)) : Keeps R (x >>= f) :=
  fun s => frame.bind_apply (hx s) fun a t _ => hf a t

/-- To try a step comes to the state that it comes to. -/
theorem Keeps.attempt {x : Step σ α} (keeps : Keeps R x) (answer : Fault → α) :
    Keeps R (tryCatch x fun f => pure (answer f) : Step σ α) :=
  fun s => tryCatch_pure_snd x answer s ▸ keeps s

theorem keeps_pure (frame : Frame R) (a : α) : Keeps R (pure a : Step σ α) :=
  fun s => frame.refl s

theorem keeps_throw (frame : Frame R) (f : Fault) : Keeps R (throw f : Step σ α) :=
  fun s => frame.refl s

theorem keeps_of (frame : Frame R) (result : Except Fault α) :
    Keeps R (Step.of result : Step σ α) :=
  fun s => frame.refl s

theorem keeps_get (frame : Frame R) : Keeps R (get : Step σ σ) :=
  fun s => frame.refl s

theorem keeps_modify {f : σ → σ} (h : ∀ s, R s (f s)) : Keeps R (modify f : Step σ Unit) :=
  h

end Dialogue.Step
