import Slipway.Proofs.Cluster.Watches

/-
  What a platform in memory records. A call is recorded as one operation, or not at all
  (`log_answer`), and what is recorded stays (`kept_log`). `Records` counts how often an operation
  was recorded between two states.
-/

namespace Slipway

/-- The operation as which a call is recorded that changes something. -/
def Call.operation? : Call → Option Operation
  | create k r => some (.create k r.name)
  | replace k name _ => some (.replace k name)
  | delete k name => some (.delete k name)
  | awaitDeleted k name _ => some (.awaitDeleted k name)
  | instantiateBuild name => some (.instantiate name)
  | submitBinaryBuild name _ _ => some (.binary name)
  | rollout name => some (.rollout name)
  | get _ _ | list _ _ | watch _ _ => none

namespace Cluster

variable {s s' s'' : Cluster} {op : Operation} {m n : Nat}

/-- What is recorded from one state to another is one operation or nothing. -/
def LogsAtMost (op : Operation) (s s' : Cluster) : Prop :=
  s'.log = s.log ∨ s'.log = s.log ++ [op]

theorem log_create {k : Kind} (s : Cluster) (r : Resource k) :
    LogsAtMost (.create k r.name) s (s.create r).2 := by
  unfold create
  dsimp only
  split
  · exact .inl rfl
  · exact .inr rfl

theorem log_replace {k : Kind} (s : Cluster) (name : String) (r : Resource k) :
    LogsAtMost (.replace k name) s (s.replace name r).2 := by
  unfold replace
  split
  · exact .inl rfl
  · split
    · exact .inl rfl
    · exact .inr rfl

theorem log_delete (s : Cluster) (k : Kind) (name : String) :
    LogsAtMost (.delete k name) s (s.delete k name).2 := by
  unfold delete
  split
  · exact .inl rfl
  · dsimp only
    split
    · exact .inr rfl
    · exact .inr rfl

theorem log_awaitDeleted (s : Cluster) (k : Kind) (name uid : String) :
    LogsAtMost (.awaitDeleted k name) s (s.awaitDeleted k name uid) := by
  unfold awaitDeleted
  dsimp only
  split
  · split
    · exact .inr rfl
    · exact .inl rfl
  · exact .inl rfl

theorem log_startBuild (s : Cluster) (base : String) (op : Operation) :
    LogsAtMost op s (s.startBuild base op).2 := by
  unfold startBuild
  split
  · exact .inl rfl
  · exact .inr rfl

theorem log_rollout (s : Cluster) (name : String) :
    LogsAtMost (.rollout name) s (s.rollout name).2 := by
  unfold rollout
  split
  · exact .inl rfl
  · exact .inr rfl

/-- A call is recorded once or not at all. -/
theorem log_answer (c : Call) (s : Cluster) :
    (answer c s).2.log = s.log ∨ ∃ op, c.operation? = some op ∧ LogsAtMost op s (answer c s).2 := by
  cases c with
  | get | list | watch => exact .inl rfl
  | create k r => exact .inr ⟨_, rfl, log_create s r⟩
  | replace k name r => exact .inr ⟨_, rfl, log_replace s name r⟩
  | delete k name => exact .inr ⟨_, rfl, log_delete s k name⟩
  | awaitDeleted k name uid => exact .inr ⟨_, rfl, log_awaitDeleted s k name uid⟩
  | instantiateBuild name => exact .inr ⟨_, rfl, log_startBuild s name _⟩
  | submitBinaryBuild name fileName content => exact .inr ⟨_, rfl, log_startBuild s name _⟩
  | rollout name => exact .inr ⟨_, rfl, log_rollout s name⟩

/-- What is recorded stays recorded, whatever is called. -/
theorem kept_log (ops : List Operation) :
    Kept (σ := Cluster) (fun _ => True) (fun _ => True) fun s => ops <+: s.log where
  answer c s _ h := by
    show ops <+: (answer c s).2.log
    rcases log_answer c s with hlog | ⟨op, -, hlog | hlog⟩
    · rwa [hlog]
    · rwa [hlog]
    · rw [hlog]
      exact h.trans (List.prefix_append _ _)
  opened _ _ _ _ _ _ := trivial
  poll id s _ h := by
    show ops <+: (poll id s).2.log
    rwa [(untouched_poll s id).log_eq]
  close _ _ _ h := h

/-! ## Counting -/

/-- So many times an operation was recorded since. -/
def Records (op : Operation) (n : Nat) (s s' : Cluster) : Prop :=
  ∃ ops, s'.log = s.log ++ ops ∧ ops.count op = n

theorem Records.trans (h : Records op m s s') (h' : Records op n s' s'') :
    Records op (m + n) s s'' := by
  obtain ⟨ops, hlog, hops⟩ := h
  obtain ⟨ops', hlog', hops'⟩ := h'
  exact ⟨ops ++ ops', by rw [hlog', hlog, List.append_assoc],
    by rw [List.count_append, hops, hops']⟩

theorem Records.count_drop (h : Records op n s s') :
    (s'.log.drop s.log.length).count op = n := by
  obtain ⟨ops, hlog, hops⟩ := h
  rwa [hlog, List.drop_left]

theorem records_of_log_eq (h : s'.log = s.log) : Records op 0 s s' :=
  ⟨[], by rw [h, List.append_nil], rfl⟩

/-- A call records no operation but its own. -/
theorem records_answer {c : Call} (hc : c.operation? ≠ some op) (s : Cluster) :
    Records op 0 s (answer c s).2 := by
  rcases log_answer c s with hlog | ⟨op', hop, hlog | hlog⟩
  · exact records_of_log_eq hlog
  · exact records_of_log_eq hlog
  · refine ⟨[op'], hlog, List.count_eq_zero.2 fun hmem => hc ?_⟩
    rw [hop, List.mem_singleton.1 hmem]

theorem records_perform {α : Type} {a : Action α} (ha : a.Only fun c => c.operation? ≠ some op)
    (s : Cluster) : Records op 0 s (s.perform a).2 :=
  perform_keeps (I := Records op 0 s) (fun _ s' hc hs => hs.trans (records_answer hc s')) ha
    (records_of_log_eq rfl)

end Cluster

end Slipway
