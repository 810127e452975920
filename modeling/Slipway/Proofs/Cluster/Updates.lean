import Slipway.Proofs.Cluster.Versions

/-
  No update of an object on a platform in memory is lost. A move, be it a call of a client or an act
  of the world outside, gives at most one object a new version, and nothing but a deletion that
  takes its time changes an object and leaves it its version (`outcome_move`). So no two objects
  ever have one version (`soundVersions_ofMoves`), and what was read of an object that is written
  afterwards is stale for good (`Stale.move`): what carries the version of such a reading replaces
  nothing (`no_update_lost`).
-/

namespace Slipway

variable {j k : Kind} {other name : String} {x r : Resource k} {y : Resource j} {v w : Nat}

theorem Resource.HasVersion.eq_of_resourceVersion_eq (hx : x.HasVersion v) (hy : y.HasVersion w)
    (h : x.metadata.resourceVersion = y.metadata.resourceVersion) : v = w := by
  rw [hx, hy, Option.some.injEq, Text.decimal, Text.decimal, String.ofList_inj] at h
  exact Text.digits_inj h

/-- Something that happens to a platform: a call of a client, or an act of the world outside. -/
inductive Move where
  | call (c : Call)
  | act (a : Act)

namespace Cluster

variable {s s' : Cluster} {place : Option (Kind × String)} {m : Move} {ms : List Move}

/-- Carries out a move. An act on a build that is not there changes nothing. -/
def move (s : Cluster) : Move → Cluster
  | .call c => (answer c s).2
  | .act a => (s.act a).getD s

/-- An empty platform after a sequence of moves. -/
def ofMoves (ms : List Move) : Cluster := ms.foldl move {}

/-! ## Moves -/

/-- The object that a move writes or removes. A deletion that takes its time does neither. -/
def written? (s : Cluster) : Move → Option (Kind × String)
  | .call (.create k r) => (s.create r).1.toOption.map fun _ => (k, r.name)
  | .call (.replace k name r) => (s.replace name r).1.toOption.map fun _ => (k, name)
  | .call (.delete k name) =>
    if (s.find? k name).isSome && !s.terminating.contains (k, name) then some (k, name) else none
  | .call (.awaitDeleted k name uid) =>
    (s.find? k name).bind fun x => if x.metadata.uid = some uid then some (k, name) else none
  | .call (.instantiateBuild name) =>
    (s.startBuild name (.instantiate name)).1.toOption.map fun b => (.build, b.name)
  | .call (.submitBinaryBuild name _ _) =>
    (s.startBuild name (.binary name)).1.toOption.map fun b => (.build, b.name)
  | .call (.rollout name) => (s.rollout name).1.toOption.map fun _ => (.deploymentConfig, name)
  | .act (.insert k r) => some (k, r.name)
  | .act (.setBuildPhase name _ _) => (s.find? .build name).map fun _ => (.build, name)
  | _ => none

/-- What comes of a move that writes or removes the object at a place, or none. -/
inductive Outcome (s s' : Cluster) : Option (Kind × String) → Prop
  | stamped {k : Kind} {name : String} (x : Resource k) (hx : x.HasVersion (s.version + 1))
    (hversion : s'.version = s.version + 1) (ho : s'.objects = (s.store name x).objects) :
    Outcome s s' (some (k, name))
  | removed {k : Kind} {name : String} (hversion : s'.version = s.version)
    (ho : s'.objects = (s.discard k name).objects) : Outcome s s' (some (k, name))
  | marked {k : Kind} {name : String} {x : Resource k} (hx : s.find? k name = some x)
    (hversion : s'.version = s.version)
    (ho : s'.objects = (s.store name (markedDeleted x)).objects) : Outcome s s' none
  | untouched (hversion : s'.version = s.version) (ho : s'.objects = s.objects) :
    Outcome s s' none

theorem outcome_startBuild (s : Cluster) (base : String) (op : Operation) :
    Outcome s (s.startBuild base op).2
      ((s.startBuild base op).1.toOption.map fun b => (.build, b.name)) := by
  unfold startBuild
  split
  · exact .untouched rfl rfl
  next bc hbc => exact .stamped _ (hasVersion_stamp s (newBuild bc base _)) rfl rfl

theorem outcome_delete (s : Cluster) (k : Kind) (name : String) :
    Outcome s (s.delete k name).2 (s.written? (.call (.delete k name))) := by
  unfold delete written?
  dsimp only
  cases hx : s.find? k name with
  | none => exact .untouched rfl rfl
  | some x =>
    cases hterminating : s.terminating.contains (k, name) with
    | true =>
      dsimp only [record]
      rw [if_pos rfl]
      exact .marked hx rfl rfl
    | false =>
      dsimp only [record]
      rw [if_neg Bool.false_ne_true]
      exact .removed rfl rfl

theorem outcome_awaitDeleted (s : Cluster) (k : Kind) (name uid : String) :
    Outcome s (s.awaitDeleted k name uid) (s.written? (.call (.awaitDeleted k name uid))) := by
  -- that the deletion is over is noted before the object is looked up
  have hfind : Cluster.find? { s with terminating := s.terminating.filter (· ≠ (k, name)) } k name =
      s.find? k name := rfl
  unfold awaitDeleted written?
  dsimp only
  rw [hfind]
  cases s.find? k name with
  | none => exact .untouched rfl rfl
  | some x =>
    dsimp only [Option.bind_some]
    split
    · exact .removed rfl rfl
    · exact .untouched rfl rfl

/-- A move stamps an object, or it removes one, or it marks one as deleted, or it leaves all as they
    are. -/
theorem outcome_move (s : Cluster) (m : Move) : Outcome s (s.move m) (s.written? m) := by
  cases m with
  | call c =>
    cases c with
    | get | list | watch => exact .untouched rfl rfl
    | create k r =>
      unfold move answer written? create
      dsimp only
      split
      · exact .untouched rfl rfl
      · exact .stamped _ (hasVersion_stamp s r) rfl rfl
    | replace k name r =>
      unfold move answer written? replace
      dsimp only
      cases s.find? k name with
      | none => exact .untouched rfl rfl
      | some x =>
        dsimp only
        split
        · exact .untouched rfl rfl
        · exact .stamped _ (hasVersion_stamp s (inPlaceOf x r)) rfl rfl
    | delete k name => exact outcome_delete s k name
    | awaitDeleted k name uid => exact outcome_awaitDeleted s k name uid
    | instantiateBuild name => exact outcome_startBuild s name _
    | submitBinaryBuild name file content => exact outcome_startBuild s name _
    | rollout name =>
      unfold move answer written? rollout
      dsimp only
      cases s.find? .deploymentConfig name with
      | none => exact .untouched rfl rfl
      | some dc => exact .stamped _ (hasVersion_stamp s (countedUp dc)) rfl rfl
  | act a =>
    cases a with
    | injectConflict | terminateGracefully | dropWatches => exact .untouched rfl rfl
    | insert k r => exact .stamped _ (hasVersion_stamp s r) rfl rfl
    | setBuildPhase name phase image =>
      unfold move act written? setBuildPhase
      dsimp only
      cases s.find? .build name with
      | none => exact .untouched rfl rfl
      | some b => exact .stamped _ (hasVersion_stamp s (movedTo phase image b)) rfl rfl

theorem ofMoves_append (ms ms' : List Move) : ofMoves (ms ++ ms') = ms'.foldl move (ofMoves ms) :=
  List.foldl_append

theorem ofMoves_concat (ms : List Move) (m : Move) : ofMoves (ms ++ [m]) = (ofMoves ms).move m :=
  ofMoves_append ms [m]

/-! ## What a move leaves -/

theorem find?_of_objects_eq {s₁ : Cluster} (h : s'.objects = s₁.objects) (k : Kind)
    (name : String) : s'.find? k name = s₁.find? k name :=
  find?_congr (by rw [h]) name

theorem find?_of_objects_store (ho : s'.objects = (s.store name x).objects)
    (h : s'.find? j other = some y) :
    (j, other) = (k, name) ∧ y.metadata.resourceVersion = x.metadata.resourceVersion ∨
      s.find? j other = some y := by
  rw [find?_of_objects_eq ho] at h
  by_cases hplace : (j, other) = (k, name)
  · cases hplace
    rw [find?_store_self] at h
    cases h
    exact .inl ⟨rfl, rfl⟩
  · rw [find?_store_of_ne s x hplace] at h
    exact .inr h

/-- A move stamps one object with a new version, or every object there is afterwards has its version
    from before. -/
theorem Outcome.versions (h : Outcome s s' place) :
    (∃ k name, s'.version = s.version + 1 ∧ ∀ {j other} {y : Resource j},
      s'.find? j other = some y →
        (j, other) = (k, name) ∧ y.HasVersion (s.version + 1) ∨ s.find? j other = some y) ∨
    s'.version = s.version ∧ KeepsVersions s s' := by
  cases h with
  | @stamped k name x hx hversion ho =>
    refine .inl ⟨k, name, hversion, fun hy => ?_⟩
    exact (find?_of_objects_store ho hy).imp_left fun ⟨hplace, heq⟩ => ⟨hplace, heq.trans hx⟩
  | @removed k name hversion ho =>
    refine .inr ⟨hversion, fun j other y hy => ⟨y, ?_, rfl⟩⟩
    rw [find?_of_objects_eq ho] at hy
    by_cases hplace : (j, other) = (k, name)
    · cases hplace
      rw [find?_discard_self] at hy
      cases hy
    · rwa [find?_discard_of_ne s hplace] at hy
  | @marked k name x hx hversion ho =>
    refine .inr ⟨hversion, fun j other y hy => ?_⟩
    rcases find?_of_objects_store ho hy with ⟨hplace, heq⟩ | hy
    · cases hplace
      exact ⟨x, hx, heq⟩
    · exact ⟨y, hy, rfl⟩
  | untouched hversion ho =>
    exact .inr ⟨hversion, fun j other y hy => ⟨y, find?_of_objects_eq ho j other ▸ hy, rfl⟩⟩

/-- What is neither written nor removed stays as it is, or is merely marked as deleted. -/
theorem Outcome.find?_of_ne (h : Outcome s s' place) (hne : place ≠ some (k, name)) :
    s'.find? k name = s.find? k name ∨
      ∃ x, s.find? k name = some x ∧ s'.find? k name = some (markedDeleted x) := by
  cases h with
  | stamped x hx hversion ho =>
    refine .inl ?_
    rw [find?_of_objects_eq ho, find?_store_of_ne s x fun he => hne (congrArg some he.symm)]
  | removed hversion ho =>
    refine .inl ?_
    rw [find?_of_objects_eq ho, find?_discard_of_ne s fun he => hne (congrArg some he.symm)]
  | @marked j other x hx hversion ho =>
    rw [find?_of_objects_eq ho]
    by_cases hplace : (k, name) = (j, other)
    · cases hplace
      exact .inr ⟨x, hx, find?_store_self s name _⟩
    · exact .inl (find?_store_of_ne s _ hplace)
  | untouched hversion ho => exact .inl (find?_of_objects_eq ho k name)

/-! ## Versions -/

theorem AllVersioned.move (h : s.AllVersioned) (m : Move) : (s.move m).AllVersioned := by
  cases m with
  | call c => exact h.answer c
  | act a =>
    unfold Cluster.move
    dsimp only
    cases ha : s.act a with
    | none => exact h
    | some s' => exact h.act ha

theorem version_le_move (s : Cluster) (m : Move) : s.version ≤ (s.move m).version := by
  cases m with
  | call c => exact version_le_answer c s
  | act a =>
    unfold move
    dsimp only
    cases ha : s.act a with
    | none => exact Nat.le_refl _
    | some s' => exact version_le_act ha

theorem version_le_moves (s : Cluster) (ms : List Move) :
    s.version ≤ (ms.foldl move s).version := by
  induction ms generalizing s with
  | nil => exact Nat.le_refl _
  | cons m ms ih => exact Nat.le_trans (version_le_move s m) (ih (s.move m))

/-- Every object has a version that was counted, and no two have the same. -/
structure SoundVersions (s : Cluster) : Prop where
  counted : s.AllVersioned
  distinct : ∀ k name x j other y, s.find? k name = some x → s.find? j other = some y →
    x.metadata.resourceVersion = y.metadata.resourceVersion → (k, name) = (j, other)

/-- No object has the version that is given next. -/
theorem AllVersioned.ne_next (h : s.AllVersioned) (hx : s.find? k name = some x)
    (hy : y.HasVersion (s.version + 1)) :
    x.metadata.resourceVersion ≠ y.metadata.resourceVersion := by
  intro heq
  obtain ⟨v, hv, hle⟩ := h k name x hx
  have hnext := hv.eq_of_resourceVersion_eq hy heq
  omega

theorem SoundVersions.move (h : SoundVersions s) (m : Move) : SoundVersions (s.move m) := by
  refine ⟨h.counted.move m, fun k name x j other y hx hy heq => ?_⟩
  rcases (outcome_move s m).versions with ⟨k₀, name₀, hversion, hfound⟩ | ⟨hversion, hkeeps⟩
  · -- only the stamped object can have the next version
    rcases hfound hx with ⟨hplace, hvx⟩ | hx
    · rcases hfound hy with ⟨hplace', -⟩ | hy
      · exact hplace.trans hplace'.symm
      · exact absurd heq.symm (h.counted.ne_next hy hvx)
    · rcases hfound hy with ⟨-, hvy⟩ | hy
      · exact absurd heq (h.counted.ne_next hx hvy)
      · exact h.distinct k name x j other y hx hy heq
  · obtain ⟨x₀, hx₀, hxeq⟩ := hkeeps k name x hx
    obtain ⟨y₀, hy₀, hyeq⟩ := hkeeps j other y hy
    exact h.distinct k name x₀ j other y₀ hx₀ hy₀ (hxeq.symm.trans (heq.trans hyeq))

theorem soundVersions_ofMoves (ms : List Move) : SoundVersions (ofMoves ms) := by
  induction ms using List.reverseRecOn with
  | nil =>
    have hnone : ∀ k name (x : Resource k), Cluster.find? {} k name ≠ some x :=
      fun k name x hx => (allObjects_empty (P := fun _ _ _ => False)) k name x hx
    exact ⟨allObjects_empty, fun k name x _ _ _ hx => absurd hx (hnone k name x)⟩
  | append_singleton ms m ih =>
    rw [ofMoves_concat]
    exact ih.move m

/-! ## Stale readings -/

/-- A version that was counted and that the object of a name does not have. -/
structure Stale (v : Nat) (k : Kind) (name : String) (s : Cluster) : Prop where
  counted : v ≤ s.version
  find?_ne : ∀ x, s.find? k name = some x → ¬ x.HasVersion v

/-- What is written or removed has none of the versions that were counted before. -/
theorem Outcome.stale (h : Outcome s s' (some (k, name))) (hv : v ≤ s.version) :
    Stale v k name s' := by
  cases h with
  | stamped x hx hversion ho =>
    refine ⟨by omega, fun y hy hyv => ?_⟩
    rw [find?_of_objects_eq ho, find?_store_self] at hy
    cases hy
    have heq := hx.eq_of_resourceVersion_eq hyv rfl
    omega
  | removed hversion ho =>
    refine ⟨by omega, fun y hy => ?_⟩
    rw [find?_of_objects_eq ho, find?_discard_self] at hy
    cases hy

/-- No version is given a second time. -/
theorem Stale.move (h : Stale v k name s) (m : Move) : Stale v k name (s.move m) := by
  have hcounted := h.counted
  refine ⟨Nat.le_trans hcounted (version_le_move s m), fun x hx hv => ?_⟩
  rcases (outcome_move s m).versions with ⟨k₀, name₀, hversion, hfound⟩ | ⟨hversion, hkeeps⟩
  · rcases hfound hx with ⟨-, hnext⟩ | hx
    · have heq := hnext.eq_of_resourceVersion_eq hv rfl
      omega
    · exact h.find?_ne x hx hv
  · obtain ⟨x₀, hx₀, heq⟩ := hkeeps k name x hx
    exact h.find?_ne x₀ hx₀ (heq.symm.trans hv)

theorem Stale.moves (h : Stale v k name s) (ms : List Move) :
    Stale v k name (ms.foldl Cluster.move s) := by
  induction ms generalizing s with
  | nil => exact h
  | cons m ms ih => exact ih (h.move m)

/-! ## Replacements -/

/-- An object does not replace the one of a name, which is another by now or gone, and nothing is
    changed. -/
def Refused (s : Cluster) (name : String) (r : Resource k) : Prop :=
  s.replace name r = (.error (if (s.find? k name).isSome then .alreadyExists k name
    else .notFound k name), s)

theorem Stale.refused (h : Stale v k name s) (hr : r.HasVersion v) : Refused s name r := by
  unfold Refused replace
  cases hx : s.find? k name with
  | none => rfl
  | some x =>
    have hne : x.metadata.resourceVersion ≠ r.metadata.resourceVersion :=
      fun heq => h.find?_ne x hx (heq.trans hr)
    dsimp only
    rw [if_pos hne]
    rfl

/-- Where an object was written or removed after it was read, what carries the version of that
    reading is refused. -/
theorem refused_of_written {before during after : List Move}
    (hx : (ofMoves before).find? k name = some x)
    (hr : r.metadata.resourceVersion = x.metadata.resourceVersion)
    (hm : (ofMoves (before ++ during)).written? m = some (k, name)) :
    Refused (ofMoves (before ++ during ++ m :: after)) name r := by
  obtain ⟨v, hv, hle⟩ := (soundVersions_ofMoves before).counted k name x hx
  have hcounted : v ≤ (ofMoves (before ++ during)).version := by
    rw [ofMoves_append]
    exact Nat.le_trans hle (version_le_moves _ during)
  have hwritten : Stale v k name ((ofMoves (before ++ during)).move m) :=
    (hm ▸ outcome_move _ m).stale hcounted
  rw [ofMoves_append]
  exact (hwritten.moves after).refused (hr.trans hv)

theorem written?_of_replace (h : (s.replace name r).1 = .ok x) :
    s.written? (.call (.replace k name r)) = some (k, name) := by
  unfold written?
  dsimp only
  rw [h]
  rfl

/-- The versions of all objects are different, and none is still to come. Once an object that was
    read is written or removed, be it by whatever move but a deletion that merely marks it, what
    carries the version of that reading is refused for good. So of two clients that have both read
    an object, and replace it in either order, the second is refused if the first was not. -/
theorem no_update_lost :
    (∀ ms, SoundVersions (ofMoves ms)) ∧
    (∀ s m k name, written? s m ≠ some (k, name) → (s.move m).find? k name = s.find? k name ∨
      ∃ x, s.find? k name = some x ∧ (s.move m).find? k name = some (markedDeleted x)) ∧
    (∀ k name (x r : Resource k) before during m after,
      (ofMoves before).find? k name = some x →
      r.metadata.resourceVersion = x.metadata.resourceVersion →
      (ofMoves (before ++ during)).written? m = some (k, name) →
      Refused (ofMoves (before ++ during ++ m :: after)) name r) ∧
    ∀ k name (x₁ x₂ r₁ r₂ y : Resource k) before between during after,
      (ofMoves before).find? k name = some x₁ →
      (ofMoves (before ++ between)).find? k name = some x₂ →
      r₁.metadata.resourceVersion = x₁.metadata.resourceVersion →
      r₂.metadata.resourceVersion = x₂.metadata.resourceVersion →
      (((ofMoves (before ++ between ++ during)).replace name r₁).1 = .ok y →
        Refused (ofMoves (before ++ between ++ during ++ .call (.replace k name r₁) :: after))
          name r₂) ∧
      (((ofMoves (before ++ between ++ during)).replace name r₂).1 = .ok y →
        Refused (ofMoves (before ++ between ++ during ++ .call (.replace k name r₂) :: after))
          name r₁) := by
  refine ⟨soundVersions_ofMoves, fun s m k name hne => (outcome_move s m).find?_of_ne hne,
    fun k name x r before during m after hx hr hm => refused_of_written hx hr hm, ?_⟩
  intro k name x₁ x₂ r₁ r₂ y before between during after hx₁ hx₂ hr₁ hr₂
  refine ⟨fun hok => refused_of_written hx₂ hr₂ (written?_of_replace hok), fun hok => ?_⟩
  rw [List.append_assoc before between during] at hok ⊢
  exact refused_of_written hx₁ hr₁ (written?_of_replace hok)

/-- An image stream that two clients read, and that one of them replaces, or a third one deletes and
    creates again. -/
def sharedStream : ImageStream := ⟨.ofLabels "ticker" ∅, { }, none⟩

theorem no_update_lost_sharedStream :
    ∃ x, (ofMoves [.call (.create .imageStream sharedStream)]).find? .imageStream "ticker" =
        some x ∧
      Refused (ofMoves [.call (.create .imageStream sharedStream),
        .call (.replace .imageStream "ticker" x)]) "ticker" x ∧
      Refused (ofMoves [.call (.create .imageStream sharedStream),
        .call (.delete .imageStream "ticker"),
        .call (.create .imageStream sharedStream)]) "ticker" x := by
  have hx : (ofMoves [.call (.create .imageStream sharedStream)]).find? .imageStream "ticker" =
      some (stamp {} sharedStream).1 := rfl
  obtain ⟨y, s', hy⟩ := replace_of_find? hx rfl
  have hclients := no_update_lost.2.2.2 _ _ _ _ _ _ y _ [] [] [] hx hx rfl rfl
  have hwritten := no_update_lost.2.2.1 _ _ _ _ _ [] (.call (.delete .imageStream "ticker"))
    [.call (.create .imageStream sharedStream)] hx rfl rfl
  exact ⟨_, hx, hclients.1 (congrArg Prod.fst hy), hwritten⟩

end Cluster

end Slipway
