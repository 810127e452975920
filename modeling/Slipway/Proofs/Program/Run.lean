import Slipway.Platform

/-
  How programs and actions run. A sequence of results is good if both parts are
  (`Result.bind_eq_ok`). A sequence of actions runs its first part and then, unless that failed, its
  second (`Action.run_bind`). `Action.Only p a` says that `a` makes no calls but those with `p`,
  whatever it is answered; what these calls keep, a run keeps (`Action.Only.keeps`).
-/

namespace Slipway

variable {α β σ : Type}

theorem Result.bind_eq_ok {r : Result α} {f : α → Result β} {y : β} :
    r >>= f = .ok y ↔ ∃ x, r = .ok x ∧ f x = .ok y := by
  cases r with
  | error e =>
    constructor
    · intro h
      cases h
    · rintro ⟨x, h, -⟩
      cases h
  | ok x =>
    constructor
    · intro h
      exact ⟨x, rfl, h⟩
    · rintro ⟨x', h, hf⟩
      cases h
      exact hf

/-! ## Runs of programs -/

namespace Program

theorem run_bind [Platform σ] (p : Program α) (f : α → Program β) (s : σ) :
    (p.bind f).run s = match p.run s with
      | (some a, s) => (f a).run s
      | (none, s) => (none, s) := by
  induction p generalizing s with
  | done a => rfl
  | call c next ih =>
    simp only [bind, run]
    rcases Platform.answer c s with ⟨_ | r, s₁⟩
    · rfl
    · exact ih r s₁

/-- Every call that a program can make satisfies `p`, whatever it is answered. -/
def Only (p : Call → Prop) : Program α → Prop
  | done _ => True
  | call c next => p c ∧ ∀ r, (next r).Only p

theorem Only.bind {p : Call → Prop} {a : Program α} {f : α → Program β} (ha : a.Only p)
    (hf : ∀ x, (f x).Only p) : (a.bind f).Only p := by
  induction a with
  | done x => exact hf x
  | call c next ih => exact ⟨ha.1, fun r => ih r (ha.2 r)⟩

theorem Only.mono {p q : Call → Prop} (hpq : ∀ c, p c → q c) {a : Program α} (ha : a.Only p) :
    a.Only q := by
  induction a with
  | done x => trivial
  | call c next ih => exact ⟨hpq c ha.1, fun r => ih r (ha.2 r)⟩

theorem only_true (a : Program α) : a.Only fun _ => True := by
  induction a with
  | done x => trivial
  | call c next ih => exact ⟨trivial, ih⟩

/-- What every call of a program keeps, its run keeps. -/
theorem Only.keeps [Platform σ] {p : Call → Prop} {I : σ → Prop}
    (step : ∀ c s, p c → I s → I (Platform.answer c s).2) {a : Program α} (ha : a.Only p) {s : σ}
    (hs : I s) : I (a.run s).2 := by
  induction a generalizing s with
  | done x => exact hs
  | call c next ih =>
    have h := step c s ha.1 hs
    simp only [run]
    rcases hr : Platform.answer c s with ⟨_ | r, s₁⟩
    · rw [hr] at h
      exact h
    · rw [hr] at h
      exact ih r (ha.2 r) h

end Program

/-! ## Runs of actions -/

namespace Action

section Run

variable [Platform σ]

@[simp] theorem run_pure (x : α) (s : σ) : (pure x : Action α).run s = (some (.ok x), s) := rfl

@[simp] theorem run_throw (e : Failure) (s : σ) :
    (throw e : Action α).run s = (some (.error e), s) := rfl

@[simp] theorem run_ofResult (r : Result α) (s : σ) : (ofResult r).run s = (some r, s) := rfl

@[simp] theorem run_ask (c : Call) (s : σ) : (ask c).run s = Platform.answer c s := by
  show (Program.call c .done).run s = _
  simp only [Program.run]
  rcases Platform.answer c s with ⟨_ | r, s₁⟩ <;> rfl

theorem run_bind (a : Action α) (f : α → Action β) (s : σ) :
    (a >>= f).run s = match a.run s with
      | (some (.ok x), s) => (f x).run s
      | (some (.error e), s) => (some (.error e), s)
      | (none, s) => (none, s) := by
  show (Program.bind (ExceptT.run a) _).run s = _
  rw [Program.run_bind]
  simp only [run]
  rcases (ExceptT.run a).run s with ⟨_ | _ | x, s₁⟩ <;> rfl

/-- A sequence succeeds if both of its parts do. -/
theorem run_bind_eq_ok {a : Action α} {f : α → Action β} {s s' : σ} {y : β} :
    (a >>= f).run s = (some (.ok y), s') ↔
      ∃ x s₁, a.run s = (some (.ok x), s₁) ∧ (f x).run s₁ = (some (.ok y), s') := by
  rw [run_bind]
  rcases a.run s with ⟨_ | e | x, s₁⟩
  · simp
  · simp
  · constructor
    · intro h
      exact ⟨x, s₁, rfl, h⟩
    · rintro ⟨x', s₂, h, hf⟩
      cases h
      exact hf

theorem run_ofResult_eq_ok {r : Result α} {s s' : σ} {x : α} :
    (ofResult r).run s = (some (.ok x), s') ↔ r = .ok x ∧ s' = s := by
  rw [run_ofResult, Prod.mk.injEq, Option.some_inj, eq_comm (a := s)]

theorem run_pure_eq_ok {s s' : σ} {x y : α} :
    (pure x : Action α).run s = (some (.ok y), s') ↔ x = y ∧ s' = s := by
  rw [run_pure, Prod.mk.injEq, Option.some_inj, Except.ok.injEq, eq_comm (a := s)]

end Run

/-- Every call that an action can make satisfies `p`, whatever it is answered. -/
def Only (p : Call → Prop) (a : Action α) : Prop := Program.Only p (ExceptT.run a)

section Only

variable {p q : Call → Prop}

theorem only_pure (x : α) : (pure x : Action α).Only p := trivial

theorem only_throw (e : Failure) : (throw e : Action α).Only p := trivial

theorem only_ofResult (r : Result α) : (ofResult r).Only p := trivial

theorem only_ask {c : Call} (h : p c) : (ask c).Only p := ⟨h, fun _ => trivial⟩

theorem only_attempt {c : Call} (h : p c) : (attempt c).Only p := ⟨h, fun _ => trivial⟩

theorem only_bind {a : Action α} {f : α → Action β} (ha : a.Only p) (hf : ∀ x, (f x).Only p) :
    (a >>= f).Only p := by
  refine Program.Only.bind ha fun r => ?_
  cases r with
  | ok x => exact hf x
  | error e => trivial

theorem only_ofResult_bind {r : Result α} {f : α → Action β} (hf : ∀ x, r = .ok x → (f x).Only p) :
    (ofResult r >>= f).Only p := by
  cases r with
  | ok x => exact hf x rfl
  | error e => trivial

theorem only_forM {f : α → Action PUnit} {xs : List α} (h : ∀ x ∈ xs, (f x).Only p) :
    (xs.forM f).Only p := by
  induction xs with
  | nil => exact only_pure _
  | cons x xs ih =>
    exact only_bind (h x (.head _)) fun _ => ih fun y hy => h y (.tail _ hy)

theorem Only.mono (hpq : ∀ c, p c → q c) {a : Action α} (ha : a.Only p) : a.Only q :=
  Program.Only.mono hpq ha

theorem only_true (a : Action α) : a.Only fun _ => True := Program.only_true _

/-- What every call of an action keeps, its run keeps. -/
theorem Only.keeps [Platform σ] {I : σ → Prop}
    (step : ∀ c s, p c → I s → I (Platform.answer c s).2) {a : Action α} (ha : a.Only p) {s : σ}
    (hs : I s) : I (a.run s).2 :=
  Program.Only.keeps step ha hs

end Only

end Action

end Slipway
