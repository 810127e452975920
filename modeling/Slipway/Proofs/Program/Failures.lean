import Slipway.Proofs.Program.Run

/-
  How actions fail. `FailsBy Q quiet last a` says of each failure that `a` can end with, whatever it
  is answered: the last call was answered with it, or no call has changed the platform and the
  failure has `Q`. Such statements are put together along the sequence of an action
  (`failsBy_bind`, `failsBy_bind_of_quiet`) and read off its run (`failure_of_failsBy`). A result
  fails with `P` if all of its parts do (`Result.failsWith_bind`).
-/

namespace Slipway

variable {α β σ : Type} {Q : Failure → Prop}

/-! ## Results -/

namespace Result

/-- Every failure of a result has a property. -/
def FailsWith (P : Failure → Prop) (r : Result α) : Prop := ∀ e, r = .error e → P e

section FailsWith

variable {P : Failure → Prop}

theorem failsWith_ok (x : α) : FailsWith P (.ok x : Result α) := fun _ h => nomatch h

theorem failsWith_error {e : Failure} (h : P e) : FailsWith P (.error e : Result α) := by
  intro e' he
  cases he
  exact h

theorem failsWith_bind {r : Result α} {f : α → Result β} (hr : FailsWith P r)
    (hf : ∀ x, FailsWith P (f x)) : FailsWith P (r >>= f) := by
  cases r with
  | error e => exact failsWith_error (hr e rfl)
  | ok x => exact hf x

theorem failsWith_map {r : Result α} {f : α → β} (hr : FailsWith P r) : FailsWith P (r.map f) := by
  cases r with
  | error e => exact failsWith_error (hr e rfl)
  | ok x => exact failsWith_ok _

theorem failsWith_mapM {f : α → Result β} (hf : ∀ x, FailsWith P (f x)) (xs : List α) :
    FailsWith P (xs.mapM f) := by
  induction xs with
  | nil => exact failsWith_ok _
  | cons x xs ih =>
    rw [List.mapM_cons]
    exact failsWith_bind (hf x) fun _ => failsWith_bind ih fun _ => failsWith_ok _

end FailsWith

/-- The failure that a result is. -/
def failure? : Result α → Option Failure
  | .error e => some e
  | .ok _ => none

theorem failure?_eq_some {r : Result α} {e : Failure} : r.failure? = some e ↔ r = .error e := by
  cases r with
  | error e' => exact ⟨fun h => congrArg _ (Option.some.inj h), fun h => congrArg failure? h⟩
  | ok x => exact ⟨nofun, nofun⟩

end Result

/-! ## Calls and their answers -/

/-- A call that was made, and its answer. -/
structure Exchange where
  call : Call
  answer : Result call.Answer

namespace Program

/-- The calls that a run makes on a platform, as far as they are answered. -/
def exchanges [Platform σ] : Program α → σ → List Exchange
  | done _, _ => []
  | call c next, s =>
    match Platform.answer c s with
    | (some r, s) => ⟨c, r⟩ :: (next r).exchanges s
    | (none, _) => []

/-- How a program may fail. So far no call has changed the platform if `quiet`, and `last` is the
    failure that the call before was answered with. -/
def FailsBy (Q : Failure → Prop) : Bool → Option Failure → Program (Result α) → Prop
  | quiet, last, done (.error e) => last = some e ∨ quiet = true ∧ Q e
  | _, _, done (.ok _) => True
  | quiet, _, call c next => ∀ r : Result c.Answer,
    (next r).FailsBy Q (quiet && !c.mutates) (Result.failure? r)

/-- A program that fails by its own last call does so wherever it stands. -/
theorem FailsBy.anywhere {p : Program (Result α)} {last : Option Failure}
    (h : p.FailsBy (fun _ => False) false last) (hl : last = none ∨ last = last')
    (quiet : Bool) : p.FailsBy Q quiet last' := by
  induction p generalizing quiet last last' with
  | done r =>
    cases r with
    | ok x => trivial
    | error e =>
      rcases h with h | ⟨-, h⟩
      · rcases hl with rfl | rfl
        · cases h
        · exact .inl h
      · exact h.elim
  | call c next ih => exact fun r => ih r (h r) (.inr rfl) _

section Bind

variable {p : Program (Result α)} {f : Result α → Program (Result β)} {quiet : Bool}
  {last : Option Failure} (herror : ∀ e, f (.error e) = done (.error e))

include herror

theorem FailsBy.bind (hp : p.FailsBy Q quiet last)
    (hf : ∀ x, (f (.ok x)).FailsBy (fun _ => False) false none) :
    (p.bind f).FailsBy Q quiet last := by
  induction p generalizing quiet last with
  | done r =>
    cases r with
    | ok x => exact (hf x).anywhere (.inl rfl) quiet
    | error e =>
      rw [Program.bind, herror]
      exact hp
  | call c next ih => exact fun r => ih r (hp r)

/-- Until a call changes the platform, there may be other reasons to fail than the last call. -/
theorem FailsBy.bind_of_quiet (hp : p.FailsBy Q true last)
    (hc : p.Only fun c => c.mutates = false) (hf : ∀ x last, (f (.ok x)).FailsBy Q true last) :
    (p.bind f).FailsBy Q true last := by
  induction p generalizing last with
  | done r =>
    cases r with
    | ok x => exact hf x last
    | error e =>
      rw [Program.bind, herror]
      exact hp
  | call c next ih =>
    intro r
    have hp := hp r
    rw [hc.1] at hp ⊢
    exact ih r hp (hc.2 r)

end Bind

/-- What is known of a failure is true of a run that ends with it. -/
theorem FailsBy.run [Platform σ] {p : Program (Result α)} {quiet : Bool} {last : Option Failure}
    (hp : p.FailsBy Q quiet last) {s s' : σ} {e : Failure}
    (h : p.run s = (some (.error e), s')) :
    (p.exchanges s = [] ∧ last = some e) ∨
    (∃ c, (p.exchanges s).getLast? = some ⟨c, .error e⟩) ∨
    (quiet = true ∧ Q e ∧ ∀ x ∈ p.exchanges s, x.call.mutates = false) := by
  induction p generalizing quiet last s with
  | done r =>
    cases h
    rcases hp with hl | ⟨hq, he⟩
    · exact .inl ⟨rfl, hl⟩
    · exact .inr (.inr ⟨hq, he, fun x hx => nomatch hx⟩)
  | call c next ih =>
    simp only [Program.run] at h
    unfold exchanges
    rcases hr : Platform.answer c s with ⟨_ | r, s₁⟩
    · rw [hr] at h
      cases h
    rw [hr] at h
    dsimp only at h ⊢
    rcases ih r (hp r) h with ⟨hx, hl⟩ | ⟨c', hc'⟩ | ⟨hq, he, hx⟩
    · cases r with
      | ok x => cases hl
      | error e' =>
        cases hl
        exact .inr (.inl ⟨c, by rw [hx]; rfl⟩)
    · exact .inr (.inl ⟨c', by rw [List.getLast?_cons, hc']; rfl⟩)
    · rw [Bool.and_eq_true, Bool.not_eq_true'] at hq
      refine .inr (.inr ⟨hq.1, he, fun x hx' => ?_⟩)
      rcases List.mem_cons.1 hx' with rfl | hx'
      · exact hq.2
      · exact hx x hx'

end Program

/-! ## Failures of actions -/

namespace Action

/-- The calls that a run makes on a platform, as far as they are answered. -/
def exchanges [Platform σ] (a : Action α) (s : σ) : List Exchange :=
  Program.exchanges (ExceptT.run a) s

/-- How an action may fail: `Program.FailsBy`. -/
def FailsBy (Q : Failure → Prop) (quiet : Bool) (last : Option Failure) (a : Action α) : Prop :=
  Program.FailsBy Q quiet last (ExceptT.run a)

/-- An action that fails by its last call only. -/
def PassesOn (a : Action α) : Prop := a.FailsBy (fun _ => False) false none

section FailsBy

variable {quiet : Bool} {last : Option Failure}

theorem PassesOn.failsBy {a : Action α} (h : a.PassesOn) (quiet : Bool) (last : Option Failure) :
    a.FailsBy Q quiet last :=
  Program.FailsBy.anywhere h (.inl rfl) quiet

theorem failsBy_pure (x : α) : (pure x : Action α).FailsBy Q quiet last := trivial

theorem failsBy_throw_last (e : Failure) : (throw e : Action α).FailsBy Q quiet (some e) :=
  .inl rfl

theorem passesOn_ask (c : Call) : (ask c).PassesOn := by
  intro r
  cases r with
  | ok x => trivial
  | error e => exact .inl rfl

/-- What is done with an answer may fail with the answer itself. -/
theorem passesOn_attempt {c : Call} {f : Result c.Answer → Action α}
    (h : ∀ r, (f r).FailsBy (fun _ => False) false (Result.failure? r)) :
    (attempt c >>= f).PassesOn := h

theorem failsBy_bind {a : Action α} {f : α → Action β} (ha : a.FailsBy Q quiet last)
    (hf : ∀ x, (f x).PassesOn) : (a >>= f).FailsBy Q quiet last :=
  Program.FailsBy.bind (fun _ => rfl) ha hf

theorem passesOn_bind {a : Action α} {f : α → Action β} (ha : a.PassesOn)
    (hf : ∀ x, (f x).PassesOn) : (a >>= f).PassesOn :=
  failsBy_bind ha hf

theorem failsBy_bind_of_quiet {a : Action α} {f : α → Action β} (ha : a.FailsBy Q true last)
    (hc : a.Only fun c => c.mutates = false) (hf : ∀ x last, (f x).FailsBy Q true last) :
    (a >>= f).FailsBy Q true last :=
  Program.FailsBy.bind_of_quiet (fun _ => rfl) ha hc hf

/-- A result that is good adds nothing to how a sequence fails. -/
theorem failsBy_ofResult_bind {r : Result α} {f : α → Action β} (hr : r.FailsWith Q)
    (hf : ∀ x, r = .ok x → (f x).FailsBy Q true last) :
    (ofResult r >>= f).FailsBy Q true last := by
  cases r with
  | error e => exact .inr ⟨rfl, hr e rfl⟩
  | ok x => exact hf x rfl

theorem passesOn_ofResult_bind {r : Result α} {f : α → Action β} {x : α} (hr : r = .ok x)
    (hf : (f x).PassesOn) : (ofResult r >>= f).PassesOn := by
  subst hr
  exact hf

theorem passesOn_forM {f : α → Action PUnit} {xs : List α} (h : ∀ x ∈ xs, (f x).PassesOn) :
    (xs.forM f).PassesOn := by
  induction xs with
  | nil => exact failsBy_pure _
  | cons x xs ih =>
    exact passesOn_bind (h x (.head _)) fun _ => ih fun y hy => h y (.tail _ hy)

/-- The last call was answered with the failure that a run ended with, or no call has changed the
    platform and the failure has another reason. -/
theorem failure_of_failsBy [Platform σ] {a : Action α} (ha : a.FailsBy Q true none) {s s' : σ}
    {e : Failure} (h : a.run s = (some (.error e), s')) :
    (∃ c, (a.exchanges s).getLast? = some ⟨c, .error e⟩) ∨
    (Q e ∧ ∀ x ∈ a.exchanges s, x.call.mutates = false) := by
  rcases Program.FailsBy.run ha h with ⟨-, hl⟩ | hc | ⟨-, he, hx⟩
  · cases hl
  · exact .inl hc
  · exact .inr ⟨he, hx⟩

end FailsBy

end Action

end Slipway
