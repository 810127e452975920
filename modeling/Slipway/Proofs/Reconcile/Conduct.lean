import Slipway.Proofs.Program.Obeys
import Slipway.Reconcile

/-
  What a reconciliation asks of a platform, whatever the platform answers. The calls that it can
  make after what was said so far are given by `Allows`, and it makes no others (`obeys_reconcile`).
  From that follows how often it calls, what it waits for, and which failures it gets over
  (`reconcile_conducts`).
-/

namespace Slipway

namespace Call

def isCreate : Call → Bool
  | create _ _ => true
  | _ => false

def isReplace : Call → Bool
  | replace _ _ _ => true
  | _ => false

def isDelete : Call → Bool
  | delete _ _ => true
  | _ => false

def isWait : Call → Bool
  | awaitDeleted _ _ _ => true
  | _ => false

theorem isCreate_of_isDelete {c : Call} (h : c.isDelete = true) : c.isCreate = false := by
  cases c with
  | delete => rfl
  | _ => nomatch h

end Call

namespace Reconcile

open Exchange

variable {α : Type} {k : Kind} {name : String} {desired : Resource k} {past pre : List Exchange}
  {x : Exchange} {c : Call}

/-! ## What is allowed -/

/-- The failures that a reconciliation gets over: that what it deletes is gone already, and, where
    objects are recreated, that the name is taken when it creates for the first time. -/
inductive IsOvercome (k : Kind) (past : List Exchange) (x : Exchange) : Prop where
  | gone (kind : Kind) (name : String) : x.call.isDelete = true →
      x.failure? = some (.notFound kind name) → IsOvercome k past x
  | taken (kind : Kind) (name : String) : k.replaceStrategy = .recreate →
      x.call.isCreate = true → x.failure? = some (.alreadyExists kind name) →
      count Call.isCreate past = 0 → IsOvercome k past x

/-- What the name of an object that was deleted is free after. -/
inductive Freed (y : Resource k) : List Exchange → Prop where
  | gone (kind : Kind) (name : String) :
      Freed y [⟨.delete k y.name, .error (.notFound kind name)⟩]
  | unidentified : y.metadata.uid = none → Freed y [⟨.delete k y.name, .ok ()⟩]
  | waited (uid : String) : y.metadata.uid = some uid →
      Freed y [⟨.delete k y.name, .ok ()⟩, ⟨.awaitDeleted k y.name uid, .ok ()⟩]

/-- A name is found free, or made so. -/
inductive Cleared (k : Kind) (name : String) : List Exchange → Prop where
  | absent : Cleared k name [⟨.get k name, .ok none⟩]
  | freed (y : Resource k) (tail : List Exchange) : k.replaceStrategy = .recreate → Freed y tail →
      Cleared k name (⟨.get k name, .ok (some y)⟩ :: tail)

/-- The next call on the way there. -/
inductive Clearing (k : Kind) (name : String) : List Exchange → Call → Prop where
  | look : Clearing k name [] (.get k name)
  | delete (y : Resource k) : k.replaceStrategy = .recreate →
      Clearing k name [⟨.get k name, .ok (some y)⟩] (.delete k y.name)
  | wait (y : Resource k) (uid : String) : k.replaceStrategy = .recreate →
      y.metadata.uid = some uid →
      Clearing k name [⟨.get k name, .ok (some y)⟩, ⟨.delete k y.name, .ok ()⟩]
        (.awaitDeleted k y.name uid)

/-- The next call of a reconciliation. -/
inductive Allows (desired : Resource k) : List Exchange → Call → Prop where
  | clear (past : List Exchange) (c : Call) : Clearing k desired.name past c →
      Allows desired past c
  | replace (y object : Resource k) : k.replaceStrategy = .update →
      Allows desired [⟨.get k desired.name, .ok (some y)⟩] (.replace k desired.name object)
  | create (past : List Exchange) : Cleared k desired.name past →
      Allows desired past (.create k desired)
  | clearAgain (before past : List Exchange) (kind : Kind) (name : String) (c : Call) :
      k.replaceStrategy = .recreate → Cleared k desired.name before →
      Clearing k desired.name past c →
      Allows desired
        (before ++ ⟨.create k desired, .error (.alreadyExists kind name)⟩ :: past) c
  | createAgain (before past : List Exchange) (kind : Kind) (name : String) :
      k.replaceStrategy = .recreate → Cleared k desired.name before →
      Cleared k desired.name past →
      Allows desired
        (before ++ ⟨.create k desired, .error (.alreadyExists kind name)⟩ :: past)
        (.create k desired)

/-- The result of a reconciliation is the answer to its last call. -/
inductive Gives : Exchange → Result (Resource k) → Prop where
  | created (object : Resource k) (r : Result (Resource k)) : Gives ⟨.create k object, r⟩ r
  | replaced (name : String) (object : Resource k) (r : Result (Resource k)) :
      Gives ⟨.replace k name object, r⟩ r
  | failed (x : Exchange) (e : Failure) : x.failure? = some e → Gives x (.error e)

/-- An answer that is neither a failure nor the object. -/
def IsPassing (x : Exchange) : Prop :=
  x.failure? = none ∧ x.call.isCreate = false ∧ x.call.isReplace = false

/-- After an exchange a reconciliation goes on if it has not the object yet, and no failure that it
    does not get over. -/
def GoesOn (k : Kind) (past : List Exchange) (x : Exchange) : Prop :=
  IsOvercome k past x ∨ IsPassing x

def Ends (past : List Exchange) (r : Result (Resource k)) : Prop :=
  ∃ pre x, past = pre ++ [x] ∧ ¬ GoesOn k pre x ∧ Gives x r

/-- A part fails by its last call. -/
def Fails (k : Kind) (past : List Exchange) (e : Failure) : Prop :=
  ∃ pre x, past = pre ++ [x] ∧ ¬ GoesOn k pre x ∧ x.failure? = some e

theorem Fails.ends {e : Failure} (h : Fails k past e) :
    Ends past (.error e : Result (Resource k)) := by
  obtain ⟨pre, x, hpast, hx, he⟩ := h
  exact ⟨pre, x, hpast, hx, .failed x e he⟩

/-! ## A reconciliation does what is allowed -/

open Slipway.Action

theorem not_isOvercome_of_ok {a : c.Answer} : ¬ IsOvercome k past ⟨c, .ok a⟩ := by
  rintro (⟨kind, name, -, he⟩ | ⟨kind, name, -, -, he, -⟩)
  · nomatch he
  · nomatch he

theorem not_isOvercome {r : Result c.Answer} (hd : c.isDelete = false) (hc : c.isCreate = false) :
    ¬ IsOvercome k past ⟨c, r⟩ := by
  rintro (⟨kind, name, h, -⟩ | ⟨kind, name, -, h, -⟩)
  · exact absurd h (Bool.eq_false_iff.1 hd)
  · exact absurd h (Bool.eq_false_iff.1 hc)

theorem fails_of_error {e : Failure} (h : ¬ IsOvercome k past ⟨c, .error e⟩) :
    Fails k (past ++ [⟨c, .error e⟩]) e :=
  ⟨past, _, rfl, fun hg => hg.elim h fun hn => (nomatch hn.1), rfl⟩

/-- The answer to a creation is the result, unless the name was taken for the first time. -/
theorem ends_of_create {object : Resource k} {r : Result (Resource k)}
    (h : ¬ IsOvercome k past ⟨.create k object, r⟩) :
    Ends (past ++ [⟨.create k object, r⟩]) r :=
  ⟨past, _, rfl, fun hg => hg.elim h fun hn => (nomatch hn.2.1), .created object r⟩

theorem ends_of_replace {object : Resource k} {r : Result (Resource k)} :
    Ends (past ++ [⟨.replace k name object, r⟩]) r :=
  ⟨past, _, rfl, fun hg => hg.elim (not_isOvercome rfl rfl) fun hn => (nomatch hn.2.2),
    .replaced name object r⟩

theorem obeys_deleteAndWait {P : List Exchange → Call → Prop} (y : Resource k)
    (hdelete : P past (.delete k y.name))
    (hwait : ∀ uid, y.metadata.uid = some uid →
      P (past ++ [⟨.delete k y.name, .ok ()⟩]) (.awaitDeleted k y.name uid)) :
    (deleteAndWait y).Obeys P (fun xs r => match r with
      | .ok () => ∃ tail, xs = past ++ tail ∧ Freed y tail
      | .error e => Fails k xs e) past := by
  refine obeys_attempt_bind hdelete fun r => ?_
  split
  next kind name => exact obeys_pure ⟨_, rfl, .gone kind name⟩
  next e hne =>
    refine obeys_throw (fails_of_error ?_)
    rintro (⟨kind, name, -, he⟩ | ⟨kind, name, -, hc, -⟩)
    · exact hne kind name (Option.some.inj he)
    · nomatch hc
  next =>
    split
    next uid huid =>
      refine obeys_ask (hwait uid huid) fun r => ?_
      rcases r with e | ⟨⟩
      · exact fails_of_error (not_isOvercome rfl rfl)
      · exact ⟨_, (List.append_assoc _ _ _), .waited uid huid⟩
    next huid => exact obeys_pure ⟨_, rfl, .unidentified huid⟩

theorem obeys_createAgain {before : List Exchange} {kind : Kind}
    (hk : k.replaceStrategy = .recreate) (hbefore : Cleared k desired.name before)
    (hpast : Cleared k desired.name past) :
    (ask (.create k desired)).Obeys (Allows desired) Ends
      (before ++ ⟨.create k desired, .error (.alreadyExists kind name)⟩ :: past) := by
  refine obeys_ask (.createAgain before past kind name hk hbefore hpast) fun r => ?_
  refine ends_of_create ?_
  rintro (⟨-, -, hd, -⟩ | ⟨-, -, -, -, -, hcount⟩)
  · nomatch hd
  · simp [Call.isCreate] at hcount

theorem obeys_create (h : Cleared k desired.name past) :
    (create desired.name desired).Obeys (Allows desired) Ends past := by
  refine obeys_attempt_bind (.create past h) fun r => ?_
  split
  next created => exact ends_of_create not_isOvercome_of_ok
  next e =>
    split
    next hc =>
      obtain ⟨hconflict, hk⟩ := hc
      cases e with
      | alreadyExists kind name =>
        refine obeys_ask_bind (.clearAgain past [] kind name _ hk h .look)
          (fun e => (fails_of_error (not_isOvercome rfl rfl)).ends) fun existing => ?_
        simp only [List.append_assoc, List.cons_append, List.nil_append]
        cases existing with
        | none => exact obeys_createAgain hk h .absent
        | some y =>
          refine obeys_bind (obeys_deleteAndWait y
            (.clearAgain past _ kind name _ hk h (.delete y hk)) fun uid huid => ?_)
            (fun xs e hfails => hfails.ends) fun xs _ hfreed => ?_
          · simp only [List.append_assoc, List.cons_append, List.nil_append]
            exact .clearAgain past _ kind name _ hk h (.wait y uid hk huid)
          · obtain ⟨tail, rfl, hfreed⟩ := hfreed
            simp only [List.append_assoc, List.cons_append, List.nil_append]
            exact obeys_createAgain hk h (.freed y tail hk hfreed)
      | _ => cases hconflict
    next hc =>
      refine ends_of_create ?_
      rintro (⟨-, -, hd, -⟩ | ⟨kind, name, hk, -, he, -⟩)
      · nomatch hd
      · obtain rfl := Option.some.inj he
        exact hc ⟨rfl, hk⟩

/-- Whatever it is answered, a reconciliation makes the calls that are allowed, and it has the
    answer to the last of them. -/
theorem obeys_reconcile (desired : Resource k) :
    (reconcile desired).Obeys (Allows desired) Ends [] := by
  refine obeys_ask_bind (.clear [] _ .look)
    (fun e => (fails_of_error (not_isOvercome rfl rfl)).ends) fun existing => ?_
  split
  next => exact obeys_create .absent
  next y =>
    split
    next hk => exact obeys_ask (.replace y _ hk) fun r => ends_of_replace
    next hk =>
      refine obeys_bind (obeys_deleteAndWait y (.clear _ _ (.delete y hk)) fun uid huid =>
        .clear _ _ (.wait y uid hk huid)) (fun xs e hfails => hfails.ends) fun xs _ hfreed => ?_
      obtain ⟨tail, rfl, hfreed⟩ := hfreed
      exact obeys_create (.freed y tail hk hfreed)

/-! ## What follows from the rules -/

theorem Freed.counts {y : Resource k} (h : Freed y past) : count Call.isCreate past = 0 ∧
    count Call.isReplace past = 0 ∧ count Call.isDelete past ≤ 1 ∧ count Call.isWait past ≤ 1 := by
  cases h <;> simp [Call.isCreate, Call.isReplace, Call.isDelete, Call.isWait]

theorem Cleared.counts (h : Cleared k name past) : count Call.isCreate past = 0 ∧
    count Call.isReplace past = 0 ∧ count Call.isDelete past ≤ 1 ∧ count Call.isWait past ≤ 1 := by
  cases h with
  | absent => simp [Call.isCreate, Call.isReplace, Call.isDelete, Call.isWait]
  | freed y tail hk h =>
    simpa [Call.isCreate, Call.isReplace, Call.isDelete, Call.isWait] using h.counts

theorem Clearing.counts (h : Clearing k name past c) : count Call.isCreate past = 0 ∧
    (c.isDelete = true → count Call.isDelete past = 0) ∧ count Call.isWait past = 0 ∧
    c.isCreate = false ∧ c.isReplace = false := by
  cases h <;> simp [Call.isCreate, Call.isReplace, Call.isDelete, Call.isWait]

/-- How often a call of a sort can have been made before. -/
theorem Allows.counts (h : Allows desired past c) :
    (c.isCreate = true → count Call.isCreate past < 2) ∧
    (c.isDelete = true → count Call.isDelete past < 2) ∧
    (c.isWait = true → count Call.isWait past < 2) ∧
    (c.isReplace = true → count Call.isReplace past < 1) := by
  cases h with
  | clear _ _ h =>
    obtain ⟨hcreate, hdelete, hwait, -, hr⟩ := h.counts
    refine ⟨fun _ => ?_, fun hd => ?_, fun _ => ?_, fun h => ?_⟩
    · omega
    · have := hdelete hd
      omega
    · omega
    · exact absurd h (Bool.eq_false_iff.1 hr)
  | replace y object _ => simp [Call.isCreate, Call.isReplace, Call.isDelete, Call.isWait]
  | create _ h =>
    obtain ⟨hcreate, -⟩ := h.counts
    simp [Call.isReplace, Call.isDelete, Call.isWait, hcreate]
  | clearAgain before past kind name _ _ hbefore h =>
    obtain ⟨-, -, hdelete, hwait⟩ := hbefore.counts
    obtain ⟨-, hdelete', hwait', hc, hr⟩ := h.counts
    refine ⟨fun h => ?_, fun hd => ?_, fun _ => ?_, fun h => ?_⟩
    · exact absurd h (Bool.eq_false_iff.1 hc)
    · have := hdelete' hd
      simp only [count_append, count_cons, Call.isDelete, Bool.false_eq_true, if_false]
      omega
    · simp only [count_append, count_cons, Call.isWait, Bool.false_eq_true, if_false]
      omega
    · exact absurd h (Bool.eq_false_iff.1 hr)
  | createAgain before past kind name _ hbefore h =>
    obtain ⟨hcreate, -⟩ := hbefore.counts
    obtain ⟨hcreate', -⟩ := h.counts
    simp [Call.isCreate, Call.isReplace, Call.isDelete, Call.isWait, hcreate, hcreate']

/-- Objects that are updated are not deleted, and created at most once. -/
theorem Allows.counts_of_update (hk : k.replaceStrategy = .update) (h : Allows desired past c) :
    c.isDelete = false ∧ (c.isCreate = true → count Call.isCreate past < 1) := by
  have hne : k.replaceStrategy ≠ .recreate := by
    rw [hk]
    decide
  cases h with
  | clear _ _ h =>
    cases h with
    | look => exact ⟨rfl, fun h => nomatch h⟩
    | delete _ hr => exact absurd hr hne
    | wait _ _ hr => exact absurd hr hne
  | replace => exact ⟨rfl, fun h => nomatch h⟩
  | create _ h => exact ⟨rfl, fun _ => Nat.lt_one_iff.2 h.counts.1⟩
  | clearAgain _ _ _ _ _ hr => exact absurd hr hne
  | createAgain _ _ _ _ hr => exact absurd hr hne

/-- A second creation follows a first that found the name taken. -/
theorem Allows.exists_taken (h : Allows desired past c) (hc : c.isCreate = true)
    (hcount : count Call.isCreate past ≠ 0) :
    c = .create k desired ∧ k.replaceStrategy = .recreate ∧ ∃ before after kind name,
      past = before ++ ⟨.create k desired, .error (.alreadyExists kind name)⟩ :: after ∧
      count Call.isCreate before = 0 ∧ count Call.isCreate after = 0 := by
  cases h with
  | clear _ _ h => exact absurd h.counts.1 hcount
  | replace => nomatch hc
  | create _ h => exact absurd h.counts.1 hcount
  | clearAgain _ _ _ _ _ _ _ h => exact absurd hc (Bool.eq_false_iff.1 h.counts.2.2.2.1)
  | createAgain before after kind name hk hbefore hafter =>
    exact ⟨rfl, hk, before, after, kind, name, rfl, hbefore.counts.1, hafter.counts.1⟩

/-- A wait is for the object that was read and then deleted. -/
theorem Allows.exists_read {kind : Kind} {name uid : String}
    (h : Allows desired past (.awaitDeleted kind name uid)) :
    ∃ before y, past = before ++ [⟨.get k desired.name, .ok (some y)⟩, ⟨.delete k y.name, .ok ()⟩] ∧
      kind = k ∧ name = y.name ∧ y.metadata.uid = some uid := by
  cases h with
  | clear _ _ h =>
    cases h with
    | wait y _ _ huid => exact ⟨[], y, rfl, rfl, rfl, huid⟩
  | clearAgain before _ kind name _ _ _ h =>
    cases h with
    | wait y _ _ huid =>
      exact ⟨before ++ [⟨.create k desired, .error (.alreadyExists kind name)⟩], y,
        List.append_cons _ _ _, rfl, rfl, huid⟩

theorem isPassing_ok {a : c.Answer} (hc : c.isCreate = false) (hr : c.isReplace = false) :
    IsPassing ⟨c, .ok a⟩ :=
  ⟨rfl, hc, hr⟩

/-- The last exchange by which a name came to be free. -/
theorem Cleared.exists_last (h : Cleared k name past) :
    ∃ pre x, past = pre ++ [x] ∧ ∀ before, GoesOn k before x := by
  cases h with
  | absent => exact ⟨[], _, rfl, fun _ => .inr (isPassing_ok rfl rfl)⟩
  | freed y tail hk h =>
    cases h with
    | gone kind name => exact ⟨[_], _, rfl, fun _ => .inl (.gone kind name rfl rfl)⟩
    | unidentified => exact ⟨[_], _, rfl, fun _ => .inr (isPassing_ok rfl rfl)⟩
    | waited uid => exact ⟨[_, _], _, rfl, fun _ => .inr (isPassing_ok rfl rfl)⟩

theorem Clearing.exists_last (h : Clearing k name past c) :
    past = [] ∨ ∃ pre x, past = pre ++ [x] ∧ IsPassing x := by
  cases h with
  | look => exact .inl rfl
  | delete y hk => exact .inr ⟨[], _, rfl, isPassing_ok rfl rfl⟩
  | wait y uid hk huid => exact .inr ⟨[_], _, rfl, isPassing_ok rfl rfl⟩

theorem eq_of_append_singleton {as bs : List α} {a b : α} (h : as ++ [a] = bs ++ [b]) :
    as = bs ∧ a = b :=
  (List.append_inj' h rfl).imp_right List.singleton_inj.1

/-- A call is made only after an exchange after which the reconciliation goes on; after the deletion
    of what was gone already, there is nothing to do but to create. -/
theorem Allows.goesOn (h : Allows desired (pre ++ [x]) c) :
    GoesOn k pre x ∧ (IsPassing x ∨ x.call.isCreate = true ∨ c = .create k desired) := by
  generalize hpast : pre ++ [x] = past at h
  cases h with
  | clear _ _ h =>
    rcases h.exists_last with rfl | ⟨pre', x', rfl, hx⟩
    · simp at hpast
    · obtain ⟨rfl, rfl⟩ := eq_of_append_singleton hpast
      exact ⟨.inr hx, .inl hx⟩
  | replace y object hk =>
    obtain ⟨rfl, rfl⟩ := eq_of_append_singleton (hpast.trans (List.nil_append _).symm)
    have hx := isPassing_ok (a := some y) (c := .get k desired.name) rfl rfl
    exact ⟨.inr hx, .inl hx⟩
  | create _ h =>
    obtain ⟨pre', x', rfl, hx⟩ := h.exists_last
    obtain ⟨rfl, rfl⟩ := eq_of_append_singleton hpast
    exact ⟨hx pre, .inr (.inr rfl)⟩
  | clearAgain before past kind name c hk hbefore h =>
    rcases h.exists_last with rfl | ⟨pre', x', rfl, hx⟩
    · obtain ⟨rfl, rfl⟩ := eq_of_append_singleton hpast
      exact ⟨.inl (.taken kind name hk rfl rfl hbefore.counts.1), .inr (.inl rfl)⟩
    · rw [← List.cons_append, ← List.append_assoc] at hpast
      obtain ⟨rfl, rfl⟩ := eq_of_append_singleton hpast
      exact ⟨.inr hx, .inl hx⟩
  | createAgain before past kind name hk hbefore h =>
    obtain ⟨pre', x', rfl, hx⟩ := h.exists_last
    rw [← List.cons_append, ← List.append_assoc] at hpast
    obtain ⟨rfl, rfl⟩ := eq_of_append_singleton hpast
    exact ⟨hx _, .inr (.inr rfl)⟩

theorem Gives.eq_of_failure {r : Result (Resource k)} {e : Failure} (h : Gives x r)
    (he : x.failure? = some e) : r = .error e := by
  cases h with
  | created object r => exact Result.failure?_eq_some.1 he
  | replaced name object r => exact Result.failure?_eq_some.1 he
  | failed x e' he' =>
    rw [he'] at he
    exact congrArg _ (Option.some.inj he)

theorem Gives.eq_of_create {object : Resource k} {r r' : Result (Resource k)}
    (h : Gives ⟨.create k object, r⟩ r') : r' = r := by
  cases h with
  | created => rfl
  | failed x e he => exact (Result.failure?_eq_some.1 he).symm

/-! ## Runs -/

/-- What a reconciliation asks of a platform and what comes of it: the `calls` that it makes, the
    exchanges `xs` of those that are answered, and its result. -/
structure Conduct (desired : Resource k) (calls : List Call) (xs : List Exchange)
    (result : Option (Result (Resource k))) : Prop where
  creates : calls.countP Call.isCreate ≤ 2
  deletes : calls.countP Call.isDelete ≤ 2
  waits : calls.countP Call.isWait ≤ 2
  replaces : calls.countP Call.isReplace ≤ 1
  /-- Objects that are updated are not deleted, and created at most once. -/
  update : k.replaceStrategy = .update →
    calls.countP Call.isDelete = 0 ∧ calls.countP Call.isCreate ≤ 1
  /-- A second creation follows a first that found the name taken, where objects are recreated. -/
  again : ∀ pre c, pre <+: xs → calls[pre.length]? = some c → c.isCreate = true →
    count Call.isCreate pre ≠ 0 → c = .create k desired ∧ k.replaceStrategy = .recreate ∧
      ∃ before after kind name,
        pre = before ++ ⟨.create k desired, .error (.alreadyExists kind name)⟩ :: after ∧
        count Call.isCreate before = 0 ∧ count Call.isCreate after = 0
  /-- Its answer is the result, whatever it is. -/
  final : ∀ pre r post, xs = pre ++ ⟨.create k desired, r⟩ :: post →
    count Call.isCreate pre ≠ 0 → calls.length = pre.length + 1 ∧ result = some r
  /-- What was gone already when it was to be deleted is not waited for: its name is taken next. -/
  gone : ∀ pre x post kind name, xs = pre ++ x :: post → x.call.isDelete = true →
    x.failure? = some (.notFound kind name) → calls[pre.length + 1]? = some (.create k desired)
  /-- A wait is for the object that was read and then deleted. -/
  wait : ∀ pre kind name uid, pre <+: xs →
    calls[pre.length]? = some (.awaitDeleted kind name uid) → ∃ before y,
      pre = before ++ [⟨.get k desired.name, .ok (some y)⟩, ⟨.delete k y.name, .ok ()⟩] ∧
      kind = k ∧ name = y.name ∧ y.metadata.uid = some uid
  /-- Every failure that it does not get over is the result, and no call follows it. -/
  failed : ∀ pre x post e, xs = pre ++ x :: post → x.failure? = some e → ¬ IsOvercome k pre x →
    calls.length = pre.length + 1 ∧ result = some (.error e)

section Run

variable {σ : Type} [Platform σ] {s : σ} {post : List Exchange}

/-- After an exchange a reconciliation makes a call that is allowed, or it ends. -/
theorem next_or_ends (h : (reconcile desired).exchanges s = pre ++ x :: post) :
    (∃ c, ((reconcile desired).calls s)[pre.length + 1]? = some c ∧
      Allows desired (pre ++ [x]) c) ∨
    (((reconcile desired).calls s).length = pre.length + 1 ∧ ¬ GoesOn k pre x ∧
      ∃ r, ((reconcile desired).run s).1 = some r ∧ Gives x r) := by
  refine ((obeys_reconcile desired).next_or_ends h).imp id fun ⟨hlength, r, hr, hends⟩ => ?_
  obtain ⟨pre', x', hx, hn, hgives⟩ := hends
  rw [List.nil_append] at hx
  obtain ⟨rfl, rfl⟩ := eq_of_append_singleton hx
  exact ⟨hlength, hn, r, hr, hgives⟩

theorem ends_of_not_goesOn (h : (reconcile desired).exchanges s = pre ++ x :: post)
    (hx : ¬ GoesOn k pre x) : ((reconcile desired).calls s).length = pre.length + 1 ∧
      ∃ r, ((reconcile desired).run s).1 = some r ∧ Gives x r := by
  rcases next_or_ends h with ⟨c, -, hc⟩ | ⟨hlength, -, hr⟩
  · exact absurd hc.goesOn.1 hx
  · exact ⟨hlength, hr⟩

theorem conduct_reconcile (desired : Resource k) (s : σ) :
    Conduct desired ((reconcile desired).calls s) ((reconcile desired).exchanges s)
      ((reconcile desired).run s).1 where
  creates := (obeys_reconcile desired).countP_calls_le_of_nil (fun _ _ h => h.counts.1) s
  deletes := (obeys_reconcile desired).countP_calls_le_of_nil (fun _ _ h => h.counts.2.1) s
  waits := (obeys_reconcile desired).countP_calls_le_of_nil (fun _ _ h => h.counts.2.2.1) s
  replaces := (obeys_reconcile desired).countP_calls_le_of_nil (fun _ _ h => h.counts.2.2.2) s
  update hk := by
    have hobeys := obeys_reconcile desired
    refine ⟨Nat.le_zero.1 (hobeys.countP_calls_le_of_nil (fun past c h hd => ?_) s),
      hobeys.countP_calls_le_of_nil (fun past c h => (h.counts_of_update hk).2) s⟩
    exact absurd hd (Bool.eq_false_iff.1 (h.counts_of_update hk).1)
  again pre c hpre hc hcreate hcount :=
    ((obeys_reconcile desired).allowed hpre hc).exists_taken hcreate hcount
  final pre r post hxs hcount := by
    have hn : ¬ GoesOn k pre ⟨.create k desired, r⟩ := by
      rintro ((⟨-, -, hd, -⟩ | ⟨-, -, -, -, -, h⟩) | h)
      · nomatch hd
      · exact hcount h
      · nomatch h.2.1
    obtain ⟨hlength, r', hr', hgives⟩ := ends_of_not_goesOn hxs hn
    exact ⟨hlength, hgives.eq_of_create ▸ hr'⟩
  gone pre x post kind name hxs hd he := by
    rcases next_or_ends hxs with ⟨c, hc, hallows⟩ | ⟨-, hn, -⟩
    · rcases hallows.goesOn.2 with hp | hcreate | rfl
      · rw [hp.1] at he
        nomatch he
      · exact absurd hcreate (Bool.eq_false_iff.1 (Call.isCreate_of_isDelete hd))
      · exact hc
    · exact absurd (.inl (.gone kind name hd he)) hn
  wait pre kind name uid hpre hc := ((obeys_reconcile desired).allowed hpre hc).exists_read
  failed pre x post e hxs he hn := by
    obtain ⟨hlength, r, hr, hgives⟩ := ends_of_not_goesOn hxs fun hg => hg.elim hn fun hp => by
      rw [hp.1] at he
      nomatch he
    exact ⟨hlength, hgives.eq_of_failure he ▸ hr⟩

/-- However a platform behaves, a reconciliation makes no more than two creations, two deletions,
    two waits and one replacement, and conducts itself as `Conduct` says; and it comes to an end
    where all of its calls are answered. -/
theorem reconcile_conducts (desired : Resource k) (s : σ) :
    Conduct desired ((reconcile desired).calls s) ((reconcile desired).exchanges s)
        ((reconcile desired).run s).1 ∧
      ((∀ c (s : σ), (Platform.answer c s).1.isSome) → ((reconcile desired).run s).1.isSome) :=
  ⟨conduct_reconcile desired s, fun h => Program.isSome_run h _ s⟩

end Run

/-- A platform on which a service is there whenever it is read, and when it is created. -/
structure Contrary where
  service : Service

instance : Platform Contrary where
  answer c s := match c with
    | .get .service _ => (some (.ok (some s.service)), s)
    | .get _ _ => (some (.ok none), s)
    | .create k object => (some (.error (.alreadyExists k object.name)), s)
    | .replace _ _ object => (some (.ok object), s)
    | .delete _ _ => (some (.ok ()), s)
    | .awaitDeleted _ _ _ => (some (.ok ()), s)
    | .list _ _ => (some (.ok []), s)
    | .watch _ _ => (some (.ok ⟨0⟩), s)
    | .instantiateBuild name => (some (.error (.notFound .buildConfig name)), s)
    | .submitBinaryBuild name _ _ => (some (.error (.notFound .buildConfig name)), s)
    | .rollout name => (some (.error (.notFound .deploymentConfig name)), s)
  poll _ s := (.ended, s)
  close _ s := s
  backlog _ := 0

/-- A service with an identity. -/
def contraryService : Service := ⟨{ name := some "ticker", uid := some "uid-1" }, none, ()⟩

/-- Even there a reconciliation ends, with the answer to its second creation. -/
theorem reconcile_conducts_contrary :
    let calls := (reconcile contraryService).calls (Contrary.mk contraryService)
    calls.countP Call.isCreate = 2 ∧ calls.countP Call.isDelete = 2 ∧
      calls.countP Call.isWait = 2 ∧
      ((reconcile contraryService).run (Contrary.mk contraryService)).1.isSome ∧
      ((reconcile contraryService).run (Contrary.mk contraryService)).1 =
        some (.error (.alreadyExists .service "ticker")) := by
  obtain ⟨hconduct, hends⟩ := reconcile_conducts contraryService (Contrary.mk contraryService)
  have hanswered : ∀ c (s : Contrary), (Platform.answer c s).1.isSome := by
    intro c s
    cases c with
    | get k name => cases k <;> rfl
    | _ => rfl
  refine ⟨rfl, rfl, rfl, hends hanswered, ?_⟩
  have hlast : (reconcile contraryService).exchanges (Contrary.mk contraryService) =
      ((reconcile contraryService).exchanges (Contrary.mk contraryService)).take 7 ++
        [⟨.create .service contraryService, .error (.alreadyExists .service "ticker")⟩] := rfl
  exact (hconduct.final _ _ _ hlast (by decide)).2

end Reconcile

end Slipway
