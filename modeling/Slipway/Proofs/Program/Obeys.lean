import Slipway.Proofs.Program.Failures

/-
  Rules for what a program may do next, given all that it was answered before. `Obeys P Q past a`
  says that after the exchanges `past` the calls of `a` are those that `P` allows and its results
  those that `Q` allows, whatever it is answered. It is put together along the sequence of an action
  (`obeys_bind`) and read off its runs: for each call that is made (`Obeys.allowed`), for the number
  of calls of a sort (`Obeys.countP_calls_le`) and for the result (`Obeys.result`).
-/

namespace Slipway

variable {α β σ : Type}

namespace Exchange

/-- The failure that a call was answered with. -/
def failure? (x : Exchange) : Option Failure := Result.failure? x.answer

/-- The number of calls of a sort that were answered. -/
def count (t : Call → Bool) (xs : List Exchange) : Nat := xs.countP fun x => t x.call

variable {t : Call → Bool}

@[simp] theorem count_nil : count t [] = 0 := rfl

@[simp] theorem count_cons (x : Exchange) (xs : List Exchange) :
    count t (x :: xs) = count t xs + if t x.call then 1 else 0 :=
  List.countP_cons

@[simp] theorem count_append (xs ys : List Exchange) :
    count t (xs ++ ys) = count t xs + count t ys :=
  List.countP_append

end Exchange

namespace Program

/-- The calls that a run makes on a platform, the one that is never answered included. -/
def calls [Platform σ] : Program α → σ → List Call
  | done _, _ => []
  | call c next, s =>
    c :: match Platform.answer c s with
      | (some r, s) => (next r).calls s
      | (none, _) => []

/-- After `past`, each call is one that `P` allows after all that was said before it, and a result
    is one that `Q` allows. -/
def Obeys (P : List Exchange → Call → Prop) (Q : List Exchange → α → Prop) :
    List Exchange → Program α → Prop
  | past, done a => Q past a
  | past, call c next => P past c ∧ ∀ r, (next r).Obeys P Q (past ++ [⟨c, r⟩])

variable {P : List Exchange → Call → Prop} {Q : List Exchange → α → Prop} {past : List Exchange}

theorem Obeys.bind {Q' : List Exchange → β → Prop} {p : Program α} {f : α → Program β}
    (hp : p.Obeys P Q past) (hf : ∀ past a, Q past a → (f a).Obeys P Q' past) :
    (p.bind f).Obeys P Q' past := by
  induction p generalizing past with
  | done a => exact hf past a hp
  | call c next ih => exact ⟨hp.1, fun r => ih r (hp.2 r)⟩

/-! ## Runs -/

section Run

variable [Platform σ] {p : Program α}

/-- The call that is made after some of the exchanges of a run is one that the rule allows then. -/
theorem Obeys.allowed (hp : p.Obeys P Q past) {s : σ} {pre : List Exchange} {c : Call}
    (hpre : pre <+: p.exchanges s) (hc : (p.calls s)[pre.length]? = some c) :
    P (past ++ pre) c := by
  induction p generalizing past s pre with
  | done a => exact absurd hc (by simp [calls])
  | call c' next ih =>
    unfold calls at hc
    cases pre with
    | nil =>
      rw [List.length_nil, List.getElem?_cons_zero] at hc
      obtain rfl := Option.some.inj hc
      rw [List.append_nil]
      exact hp.1
    | cons x pre =>
      unfold exchanges at hpre
      rcases hr : Platform.answer c' s with ⟨_ | r, s₁⟩
      · rw [hr] at hpre
        exact absurd hpre (by simp)
      · rw [hr] at hpre hc
        obtain ⟨rfl, hrest⟩ := List.cons_prefix_cons.1 hpre
        rw [List.append_cons]
        exact ih r (hp.2 r) (s := s₁) hrest hc

theorem Obeys.result (hp : p.Obeys P Q past) {s : σ} {a : α} (h : (p.run s).1 = some a) :
    Q (past ++ p.exchanges s) a := by
  induction p generalizing past s with
  | done b =>
    cases h
    rw [Program.exchanges, List.append_nil]
    exact hp
  | call c next ih =>
    unfold Program.exchanges
    simp only [Program.run] at h
    rcases hr : Platform.answer c s with ⟨_ | r, s₁⟩
    · rw [hr] at h
      cases h
    · rw [hr] at h
      dsimp only
      rw [List.append_cons]
      exact ih r (hp.2 r) h

/-- A run with a result has made no call but those that were answered; one without, one more. -/
theorem calls_cases (p : Program α) (s : σ) :
    ((∃ a, (p.run s).1 = some a) ∧ p.calls s = (p.exchanges s).map (·.call)) ∨
      ∃ c, p.calls s = (p.exchanges s).map (·.call) ++ [c] := by
  induction p generalizing s with
  | done a => exact .inl ⟨⟨a, rfl⟩, rfl⟩
  | call c next ih =>
    simp only [run]
    unfold exchanges calls
    rcases Platform.answer c s with ⟨_ | r, s₁⟩
    · exact .inr ⟨c, rfl⟩
    · rcases ih r s₁ with ⟨ha, hcalls⟩ | ⟨c', hcalls⟩
      · exact .inl ⟨ha, congrArg (c :: ·) hcalls⟩
      · exact .inr ⟨c', congrArg (c :: ·) hcalls⟩

/-- After an exchange a program makes a call that the rule allows, or ends with a result that it
    allows. -/
theorem Obeys.next_or_ends (hp : p.Obeys P Q past) {s : σ} {pre post : List Exchange}
    {x : Exchange} (h : p.exchanges s = pre ++ x :: post) :
    (∃ c, (p.calls s)[pre.length + 1]? = some c ∧ P (past ++ (pre ++ [x])) c) ∨
      ((p.calls s).length = pre.length + 1 ∧
        ∃ a, (p.run s).1 = some a ∧ Q (past ++ (pre ++ [x])) a) := by
  have hlength : (pre ++ [x]).length = pre.length + 1 := List.length_append
  have hprefix : pre ++ [x] <+: p.exchanges s := ⟨post, by rw [h, ← List.append_cons]⟩
  rcases hc : (p.calls s)[pre.length + 1]? with _ | c
  · right
    rw [List.getElem?_eq_none_iff] at hc
    rcases calls_cases p s with ⟨⟨a, ha⟩, hcalls⟩ | ⟨c, hcalls⟩
    · have hpost : post = [] := by
        rw [hcalls, h, List.length_map, List.length_append, List.length_cons] at hc
        exact List.length_eq_zero_iff.1 (by omega)
      subst hpost
      refine ⟨?_, a, ha, h ▸ hp.result ha⟩
      rw [hcalls, h, List.length_map, hlength]
    · rw [hcalls, h] at hc
      simp only [List.length_append, List.length_map, List.length_cons, List.length_nil] at hc
      omega
  · exact .inl ⟨c, rfl, hp.allowed hprefix (hlength ▸ hc)⟩

/-- A rule that allows a sort of calls only while fewer than `n` of them were answered bounds the
    number of those that are made. -/
theorem Obeys.countP_calls_le {t : Call → Bool} {n : Nat} (hp : p.Obeys P Q past)
    (hP : ∀ past c, P past c → t c = true → Exchange.count t past < n)
    (hpast : Exchange.count t past ≤ n) (s : σ) :
    Exchange.count t past + (p.calls s).countP t ≤ n := by
  induction p generalizing past s with
  | done a => exact hpast
  | call c next ih =>
    have hle : Exchange.count t past + [c].countP t ≤ n := by
      rw [List.countP_singleton]
      split
      next ht => exact hP past c hp.1 ht
      next => exact hpast
    unfold calls
    rcases Platform.answer c s with ⟨_ | r, s₁⟩
    · exact hle
    · have hcount : Exchange.count t (past ++ [⟨c, r⟩]) =
          Exchange.count t past + [c].countP t := by
        rw [Exchange.count_append, List.countP_singleton]
        simp only [Exchange.count_cons, Exchange.count_nil, Nat.zero_add]
      have h := ih r (hp.2 r) (hcount ▸ hle) s₁
      rw [hcount, Nat.add_assoc] at h
      rwa [List.countP_cons, Nat.add_comm (List.countP t _), ← List.countP_singleton]

theorem Obeys.countP_calls_le_of_nil {t : Call → Bool} {n : Nat} (hp : p.Obeys P Q [])
    (hP : ∀ past c, P past c → t c = true → Exchange.count t past < n) (s : σ) :
    (p.calls s).countP t ≤ n := by
  have h := hp.countP_calls_le hP (Nat.zero_le n) s
  rwa [Exchange.count_nil, Nat.zero_add] at h

/-- Where every call is answered every program comes to an end. -/
theorem isSome_run (h : ∀ c (s : σ), (Platform.answer c s).1.isSome) (p : Program α) (s : σ) :
    (p.run s).1.isSome := by
  induction p generalizing s with
  | done a => rfl
  | call c next ih =>
    simp only [Program.run]
    rcases hr : Platform.answer c s with ⟨_ | r, s₁⟩
    · have hsome := h c s
      rw [hr] at hsome
      cases hsome
    · exact ih r s₁

end Run

end Program

/-! ## Actions -/

namespace Action

/-- The calls that a run makes on a platform, the one that is never answered included. -/
def calls [Platform σ] (a : Action α) (s : σ) : List Call := Program.calls (ExceptT.run a) s

/-- What an action may do next: `Program.Obeys`. -/
def Obeys (P : List Exchange → Call → Prop) (Q : List Exchange → Result α → Prop)
    (past : List Exchange) (a : Action α) : Prop :=
  Program.Obeys P Q past (ExceptT.run a)

variable {P : List Exchange → Call → Prop} {Q : List Exchange → Result α → Prop}
  {past : List Exchange}

theorem obeys_pure {x : α} (h : Q past (.ok x)) : (pure x : Action α).Obeys P Q past := h

theorem obeys_throw {e : Failure} (h : Q past (.error e)) : (throw e : Action α).Obeys P Q past :=
  h

theorem obeys_ask {c : Call} {Q : List Exchange → Result c.Answer → Prop} (hc : P past c)
    (hQ : ∀ r, Q (past ++ [⟨c, r⟩]) r) : (ask c).Obeys P Q past :=
  ⟨hc, hQ⟩

theorem obeys_attempt_bind {c : Call} {f : Result c.Answer → Action α} (hc : P past c)
    (hf : ∀ r, (f r).Obeys P Q (past ++ [⟨c, r⟩])) : (attempt c >>= f).Obeys P Q past :=
  ⟨hc, hf⟩

theorem obeys_ask_bind {c : Call} {f : c.Answer → Action α} (hc : P past c)
    (herror : ∀ e, Q (past ++ [⟨c, .error e⟩]) (.error e))
    (hf : ∀ x, (f x).Obeys P Q (past ++ [⟨c, .ok x⟩])) : (ask c >>= f).Obeys P Q past := by
  refine ⟨hc, fun r => ?_⟩
  cases r with
  | error e => exact herror e
  | ok x => exact hf x

theorem obeys_bind {Q' : List Exchange → Result β → Prop} {a : Action α} {f : α → Action β}
    (ha : a.Obeys P Q past) (herror : ∀ past e, Q past (.error e) → Q' past (.error e))
    (hf : ∀ past x, Q past (.ok x) → (f x).Obeys P Q' past) : (a >>= f).Obeys P Q' past := by
  refine Program.Obeys.bind ha fun past r hr => ?_
  cases r with
  | error e => exact herror past e hr
  | ok x => exact hf past x hr

end Action

end Slipway
