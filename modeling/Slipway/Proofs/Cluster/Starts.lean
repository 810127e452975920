import Mathlib.Data.List.Forall2
import Slipway.Proofs.Cluster.Builds
import Slipway.Proofs.Cluster.Updates

/-
  The builds that are started on a platform in memory in the course of moves. As long as builds are
  stored by being started only, and none is removed, every name that is taken was given with a
  number before (`issued_ofMoves`). So each build that is started gets a name of its own, and what
  is stored under it stays this build (`exists_find?_ofMoves`); and the numbers that a configuration
  gives increase from one build to the next (`numbers_ofMoves`), whatever the names of other
  configurations are (`starts_numbered`).
-/

namespace Slipway

variable {s s' : Cluster} {m : Move} {ms : List Move} {base name : String} {b : Build} {n : Nat}

/-- A build has a number of a build configuration, in its name and in its annotation. -/
structure Resource.HasNumber (base : String) (b : Build) (n : Nat) : Prop where
  name_eq : b.name = Text.numbered base n
  annotation_eq : b.metadata.annotationSet.get? BuildHistory.numberAnnotation =
    some (Text.decimal n)

/-- The number of a build is read as it was given, as long as it fits in a machine word. -/
theorem Resource.HasNumber.number_eq (h : b.HasNumber base n) (hn : n < UInt64.size) :
    BuildHistory.number b = n := by
  rw [BuildHistory.number, h.annotation_eq, Option.bind_some,
    Text.unsigned?_decimal (Nat.le_sub_one_of_lt hn), Option.getD_some]

theorem map_number_eq {bs : List Build} {ns : List Nat}
    (h : List.Forall₂ (Resource.HasNumber base) bs ns) (hns : ∀ n ∈ ns, n < UInt64.size) :
    bs.map BuildHistory.number = ns := by
  induction h with
  | nil => rfl
  | cons hb _ ih =>
    obtain ⟨hn, hns⟩ := List.forall_mem_cons.1 hns
    rw [List.map_cons, hb.number_eq hn, ih hns]

namespace Cluster

/-! ## Moves -/

/-- The build that a move starts, with the name of the configuration that it is started by. -/
def started? (s : Cluster) : Move → Option (String × Build)
  | .call (.instantiateBuild base) =>
    (s.startBuild base (.instantiate base)).1.toOption.map fun b => (base, b)
  | .call (.submitBinaryBuild base _ _) =>
    (s.startBuild base (.binary base)).1.toOption.map fun b => (base, b)
  | _ => none

/-- A move stores a build that it does not start. -/
def Brings (s : Cluster) : Move → Prop
  | .call (.create k r) => k = .build ∧ (s.create r).1.toOption.isSome
  | .act (.insert k _) => k = .build
  | _ => False

/-- A move removes a build. -/
def Removes (s : Cluster) (m : Move) : Prop :=
  ∃ name, (s.find? .build name).isSome ∧ (s.move m).find? .build name = none

/-- The builds that are stored, and which they are, do not change. -/
structure KeepsBuilds (s s' : Cluster) : Prop where
  sameNames : SameNames s s'
  uid_eq : ∀ name b b', s.find? .build name = some b → s'.find? .build name = some b' →
    b.metadata.uid.isSome → b'.metadata.uid = b.metadata.uid

theorem uid_stamp_of_isSome {k : Kind} {r : Resource k} (s : Cluster) (h : r.metadata.uid.isSome) :
    (s.stamp r).1.metadata.uid = r.metadata.uid :=
  Option.or_of_isSome h

theorem KeepsBuilds.of_forall (hkept : ∀ name, (s.find? .build name).isSome →
      s'.find? .build name ≠ none)
    (h : ∀ name b', s'.find? .build name = some b' → ∃ b, s.find? .build name = some b ∧
      (b.metadata.uid.isSome → b'.metadata.uid = b.metadata.uid)) : KeepsBuilds s s' := by
  refine ⟨fun name => ?_, fun name b b' hb hb' huid => ?_⟩
  · rw [Bool.eq_iff_iff]
    refine ⟨fun hsome => ?_, fun hsome => Option.isSome_iff_ne_none.2 (hkept name hsome)⟩
    obtain ⟨b', hb'⟩ := Option.isSome_iff_exists.1 hsome
    obtain ⟨b, hb, -⟩ := h name b' hb'
    exact Option.isSome_of_eq_some hb
  · obtain ⟨c, hc, huidc⟩ := h name b' hb'
    rw [hb] at hc
    cases hc
    exact huidc huid

/-- A creation that fails leaves every object what it was. -/
theorem exists_find?_of_create_fails {r x : Resource .build}
    (hfails : (s.create r).1.toOption = none)
    (hx : (s.move (.call (.create .build r))).find? .build name = some x) :
    ∃ y, s.find? .build name = some y ∧ x.metadata.uid = y.metadata.uid := by
  have hwritten : s.written? (.call (.create .build r)) ≠ some (.build, name) := by
    unfold written?
    dsimp only
    rw [hfails]
    exact nofun
  rcases (outcome_move s _).find?_of_ne hwritten with hsame | ⟨y, hy, hmarked⟩
  · exact ⟨x, hsame.symm.trans hx, rfl⟩
  · rw [hmarked] at hx
    cases hx
    exact ⟨y, hy, rfl⟩

/-- What neither starts nor brings nor removes a build leaves the builds what they are. -/
theorem keepsBuilds_move (hm : s.started? m = none) (hb : ¬ s.Brings m) (hr : ¬ s.Removes m) :
    KeepsBuilds s (s.move m) := by
  refine .of_forall (fun name hsome hnone => hr ⟨name, hsome, hnone⟩) fun name b' hb' => ?_
  cases m with
  | call c =>
    cases source_of_find? (c := c) hb' with
    | before h => exact ⟨b', h, fun _ => rfl⟩
    | created r hc =>
      subst hc
      have hfails : (s.create r).1.toOption = none :=
        Option.not_isSome_iff_eq_none.1 fun hsome => hb ⟨rfl, hsome⟩
      obtain ⟨y, hy, huid⟩ := exists_find?_of_create_fails hfails hb'
      exact ⟨y, hy, fun _ => huid⟩
    | @replaced _ _ y r hc hy => exact ⟨y, hy, fun huid => uid_stamp_of_isSome s huid⟩
    | @marked _ _ y hc hy => exact ⟨y, hy, fun _ => rfl⟩
    | started hc hbc =>
      rcases hc with rfl | ⟨file, content, rfl⟩
      all_goals
        unfold started? startBuild at hm
        dsimp only at hm
        rw [hbc] at hm
        cases hm
  | act a =>
    unfold move at hb'
    dsimp only at hb'
    cases ha : s.act a with
    | none =>
      rw [ha] at hb'
      exact ⟨b', hb', fun _ => rfl⟩
    | some s' =>
      rw [ha] at hb'
      cases source_of_act ha hb' with
      | before h => exact ⟨b', h, fun _ => rfl⟩
      | inserted r hact =>
        subst hact
        exact absurd rfl hb
      | @moved _ _ _ y hact hy => exact ⟨y, hy, fun huid => uid_stamp_of_isSome s huid⟩

/-! ## Starting a build -/

theorem isSome_uid_of_startBuild {op : Operation} (h : s.startBuild base op = (.ok b, s')) :
    b.metadata.uid.isSome := by
  unfold startBuild at h
  split at h
  · cases h
  · cases h
    exact isSome_uid_stamp s _

theorem started_of_startBuild {op : Operation}
    (h : (s.startBuild base op).1.toOption = some b) :
    (∃ bc, Started s (s.startBuild base op).2 bc base b) ∧ b.metadata.uid.isSome := by
  rcases hrun : s.startBuild base op with ⟨e | x, s₁⟩
  · rw [hrun] at h
    cases h
  · rw [hrun] at h
    cases h
    obtain ⟨bc, -, hstarted⟩ := startBuild_eq_ok hrun
    exact ⟨⟨bc, hstarted⟩, isSome_uid_of_startBuild hrun⟩

theorem started_of_started? (h : s.started? m = some (base, b)) :
    (∃ bc, Started s (s.move m) bc base b) ∧ b.metadata.uid.isSome := by
  cases m with
  | act a => cases h
  | call c =>
    cases c with
    | get | create | replace | delete | awaitDeleted | list | watch | rollout => cases h
    | instantiateBuild | submitBinaryBuild =>
      obtain ⟨x, hx, heq⟩ := Option.map_eq_some_iff.1 h
      cases heq
      exact started_of_startBuild hx

theorem Started.hasNumber {bc : BuildConfig} (h : Started s s' bc base b) :
    b.HasNumber base (s.nextBuildNumber base) := by
  refine ⟨h.name_eq, ?_⟩
  have hannotations : b.metadata.annotationSet = b.unstamped.metadata.annotationSet := rfl
  rw [hannotations, h.build_eq]
  exact Dict.get?_insert_self _ _ _

/-- A move that starts a build changes no build that is there. -/
theorem Started.find?_kept {bc : BuildConfig} {c : Build} (h : Started s s' bc base b)
    (hs : s.Issued) (hc : s.find? .build name = some c) : s'.find? .build name = some c := by
  have hne : name ≠ b.name := by
    rintro rfl
    rw [h.find?_of_issued hs] at hc
    cases hc
  rw [h.find?_of_ne hne, hc]

/-! ## Runs -/

/-- Builds are stored by being started only, and none is removed. -/
def OnlyStarts (ms : List Move) : Prop :=
  ∀ ⦃before m after⦄, ms = before ++ m :: after →
    ¬ (ofMoves before).Brings m ∧ ¬ (ofMoves before).Removes m

theorem OnlyStarts.of_append {ms' : List Move} (h : OnlyStarts (ms ++ ms')) : OnlyStarts ms := by
  rintro before m after rfl
  exact h (List.append_assoc before (m :: after) ms')

/-- A move that does not even try to store a build, but by starting it, or to delete one. -/
def SparesBuilds : Move → Prop
  | .call (.create k _) | .call (.delete k _) | .call (.awaitDeleted k _ _) | .act (.insert k _) =>
    k ≠ .build
  | _ => True

theorem isSome_find?_of_insert {other : String}
    (ho : s'.objects.of .build = (s.objects.of .build).insert other b)
    (h : (s.find? .build name).isSome) : (s'.find? .build name).isSome := by
  rw [find?_of_insert ho]
  split
  · rfl
  · exact h

theorem isSome_find?_startBuild (base : String) (op : Operation)
    (h : (s.find? .build name).isSome) :
    ((s.startBuild base op).2.find? .build name).isSome := by
  unfold startBuild
  split
  · exact h
  · exact isSome_find?_of_insert (s := s) rfl h

theorem isSome_find?_move (hm : SparesBuilds m) (h : (s.find? .build name).isSome) :
    ((s.move m).find? .build name).isSome := by
  have hkept : ∀ {s' : Cluster}, s'.objects.of .build = s.objects.of .build →
      (s'.find? .build name).isSome := fun ho => (find?_congr ho name).symm ▸ h
  cases m with
  | call c =>
    cases c with
    | get | list | watch => exact h
    | create k r => exact hkept (objects_of_create_of_ne s r (Ne.symm hm))
    | delete k n => exact hkept (objects_of_delete_of_ne s n (Ne.symm hm))
    | awaitDeleted k n uid => exact hkept (objects_of_awaitDeleted_of_ne s n uid (Ne.symm hm))
    | rollout n => exact hkept (objects_of_rollout_of_ne s n (by decide))
    | instantiateBuild base => exact isSome_find?_startBuild base _ h
    | submitBinaryBuild base file content => exact isSome_find?_startBuild base _ h
    | replace k n r =>
      by_cases hk : Kind.build = k
      · subst hk
        show ((s.replace n r).2.find? .build name).isSome
        unfold replace
        split
        · exact h
        · split
          · exact h
          · exact isSome_find?_of_insert (s := s) rfl h
      · exact hkept (objects_of_replace_of_ne s n r hk)
  | act a =>
    cases a with
    | injectConflict | terminateGracefully | dropWatches => exact h
    | insert k r => exact hkept (objects_of_store_of_ne _ _ _ (Ne.symm hm))
    | setBuildPhase n phase image =>
      unfold move act setBuildPhase
      dsimp only
      cases s.find? .build n with
      | none => exact h
      | some c => exact isSome_find?_of_insert (s := s) rfl h

theorem onlyStarts_of_forall (h : ∀ m ∈ ms, SparesBuilds m) : OnlyStarts ms := by
  rintro before m after rfl
  have hm : SparesBuilds m := h m (List.mem_append_right before List.mem_cons_self)
  refine ⟨fun hbrings => ?_, fun ⟨name, hsome, hnone⟩ => ?_⟩
  · cases m with
    | call c =>
      cases c with
      | create => exact hm hbrings.1
      | _ => exact hbrings
    | act a =>
      cases a with
      | insert => exact hm hbrings
      | _ => exact hbrings
  · have hkept := isSome_find?_move hm hsome
    rw [hnone] at hkept
    cases hkept

/-- What a move does to the builds, of which it neither brings nor removes any. -/
theorem cases_move (hb : ¬ s.Brings m) (hr : ¬ s.Removes m) :
    (s.started? m = none ∧ KeepsBuilds s (s.move m)) ∨
      ∃ base b bc, s.started? m = some (base, b) ∧ Started s (s.move m) bc base b ∧
        b.metadata.uid.isSome := by
  cases hm : s.started? m with
  | none => exact .inl ⟨rfl, keepsBuilds_move hm hb hr⟩
  | some x =>
    obtain ⟨⟨bc, hstarted⟩, huid⟩ := started_of_started? hm
    exact .inr ⟨x.1, x.2, bc, rfl, hstarted, huid⟩

theorem issued_ofMoves (h : OnlyStarts ms) : (ofMoves ms).Issued := by
  induction ms using List.reverseRecOn with
  | nil => exact issued_empty
  | append_singleton ms m ih =>
    obtain ⟨hb, hr⟩ := h rfl
    have hs := ih h.of_append
    rw [ofMoves_concat]
    rcases cases_move hb hr with ⟨-, hkeeps⟩ | ⟨base, b, bc, -, hstarted, -⟩
    · exact hkeeps.sameNames.issued hs
    · exact hstarted.issued hs

/-- A build that is there stays there and stays this build. -/
theorem exists_find?_ofMoves {before after : List Move} (h : OnlyStarts (before ++ after))
    (hb : (ofMoves before).find? .build name = some b) (huid : b.metadata.uid.isSome) :
    ∃ b', (ofMoves (before ++ after)).find? .build name = some b' ∧
      b'.metadata.uid = b.metadata.uid := by
  induction after using List.reverseRecOn with
  | nil =>
    rw [List.append_nil]
    exact ⟨b, hb, rfl⟩
  | append_singleton after m ih =>
    rw [← List.append_assoc] at h ⊢
    obtain ⟨c, hc, hcuid⟩ := ih h.of_append
    obtain ⟨hbrings, hremoves⟩ := h rfl
    rw [ofMoves_concat]
    rcases cases_move hbrings hremoves with ⟨-, hkeeps⟩ | ⟨base, x, bc, -, hstarted, -⟩
    · have hsome := hkeeps.sameNames name
      rw [hc] at hsome
      obtain ⟨c', hc'⟩ := Option.isSome_iff_exists.1 hsome
      exact ⟨c', hc', (hkeeps.uid_eq name c c' hc hc' (hcuid ▸ huid)).trans hcuid⟩
    · exact ⟨c, hstarted.find?_kept (issued_ofMoves h.of_append) hc, hcuid⟩

/-- The builds that are started in the course of moves, with the names of their configurations. -/
def starts : Cluster → List Move → List (String × Build)
  | _, [] => []
  | s, m :: ms => (s.started? m).toList ++ starts (s.move m) ms

theorem starts_append (s : Cluster) (ms ms' : List Move) :
    starts s (ms ++ ms') = starts s ms ++ starts (ms.foldl move s) ms' := by
  induction ms generalizing s with
  | nil => rfl
  | cons m ms ih => rw [List.cons_append, starts, starts, ih, List.append_assoc, List.foldl_cons]

/-- The builds that a configuration starts on a platform that is empty at first, in their order. -/
def startsOf (base : String) (ms : List Move) : List Build :=
  ((starts {} ms).filter fun x => x.1 = base).map Prod.snd

theorem startsOf_concat (base : String) (ms : List Move) (m : Move) :
    startsOf base (ms ++ [m]) = startsOf base ms ++
      ((((ofMoves ms).started? m).toList.filter fun x => x.1 = base).map Prod.snd) := by
  rw [startsOf, starts_append, starts, starts, List.append_nil, List.filter_append,
    List.map_append, startsOf, ofMoves]

/-- No more builds are stored than moves were made. -/
theorem length_keys_le (h : OnlyStarts ms) :
    ((ofMoves ms).objects.of .build).keys.length ≤ ms.length := by
  induction ms using List.reverseRecOn with
  | nil => exact Nat.le_refl 0
  | append_singleton ms m ih =>
    obtain ⟨hb, hr⟩ := h rfl
    have hle := ih h.of_append
    rw [ofMoves_concat, List.length_append, List.length_singleton]
    rcases cases_move hb hr with ⟨-, hkeeps⟩ | ⟨base, b, bc, -, hstarted, -⟩
    · rw [hkeeps.sameNames.keys_perm.length_eq]
      exact Nat.le_succ_of_le hle
    · rw [(hstarted.keys_perm (issued_ofMoves h.of_append)).length_eq]
      exact Nat.succ_le_succ hle

/-- The numbers that a configuration gave increase from one build to the next, and they are smaller
    than the next one. -/
theorem numbers_ofMoves (h : OnlyStarts ms) (base : String) :
    ∃ ns : List Nat, ns.Pairwise (· < ·) ∧ (∀ n ∈ ns, n < (ofMoves ms).nextBuildNumber base) ∧
      List.Forall₂ (Resource.HasNumber base) (startsOf base ms) ns := by
  induction ms using List.reverseRecOn with
  | nil => exact ⟨[], .nil, nofun, .nil⟩
  | append_singleton ms m ih =>
    obtain ⟨ns, hincreasing, hlt, hnumbers⟩ := ih h.of_append
    obtain ⟨hb, hr⟩ := h rfl
    have hs := issued_ofMoves h.of_append
    rw [startsOf_concat, ofMoves_concat]
    rcases cases_move hb hr with ⟨hnone, hkeeps⟩ | ⟨base', b, bc, hsome, hstarted, -⟩
    · refine ⟨ns, hincreasing, ?_, ?_⟩
      · rw [hkeeps.sameNames.nextBuildNumber_eq]
        exact hlt
      · rw [hnone]
        simpa using hnumbers
    · by_cases hbase : base' = base
      · subst hbase
        have hnext := hstarted.nextBuildNumber_lt hs
        refine ⟨ns ++ [(ofMoves ms).nextBuildNumber base'], ?_, ?_, ?_⟩
        · refine List.pairwise_append.2 ⟨hincreasing, List.pairwise_singleton _ _, ?_⟩
          intro n hn n' hn'
          rw [List.mem_singleton.1 hn']
          exact hlt n hn
        · intro n hn
          rcases List.mem_append.1 hn with hn | hn
          · exact Nat.lt_trans (hlt n hn) hnext
          · exact List.mem_singleton.1 hn ▸ hnext
        · rw [hsome]
          simpa using List.rel_append hnumbers (.cons hstarted.hasNumber .nil)
      · refine ⟨ns, hincreasing, fun n hn => ?_, ?_⟩
        · exact Nat.lt_of_lt_of_le (hlt n hn) (hstarted.nextBuildNumber_le hs base)
        · rw [hsome]
          simpa [hbase] using hnumbers

/-- A build that is started gets a name that is free, changes no build that is there, and stays what
    is stored under its name. The builds that a configuration starts have numbers that increase, and
    these are read from them unless there are too many for a machine word. All this holds whatever
    the names of the configurations are, as long as builds are stored by being started only and none
    is removed. -/
theorem starts_numbered (h : OnlyStarts ms) :
    (∀ before m during after base b, ms = before ++ m :: (during ++ after) →
      (ofMoves before).started? m = some (base, b) →
      (ofMoves before).find? .build b.name = none ∧
      (∀ name c, (ofMoves before).find? .build name = some c →
        (ofMoves (before ++ [m])).find? .build name = some c) ∧
      ∃ b', (ofMoves (before ++ m :: during)).find? .build b.name = some b' ∧
        b'.metadata.uid = b.metadata.uid) ∧
    ∀ base, ∃ ns : List Nat, ns.Pairwise (· < ·) ∧
      List.Forall₂ (Resource.HasNumber base) (startsOf base ms) ns ∧
      (ms.length < UInt64.size → (startsOf base ms).map BuildHistory.number = ns) := by
  refine ⟨?_, fun base => ?_⟩
  · rintro before m during after base b rfl hstarted
    have hs := issued_ofMoves h.of_append
    obtain ⟨⟨bc, hstart⟩, huid⟩ := started_of_started? hstarted
    rw [← ofMoves_concat] at hstart
    rw [List.append_cons, ← List.append_assoc] at h
    obtain ⟨b', hb', huid'⟩ := exists_find?_ofMoves h.of_append hstart.find?_self huid
    refine ⟨hstart.find?_of_issued hs, fun name c => hstart.find?_kept hs, b', ?_, huid'⟩
    rwa [List.append_cons]
  · obtain ⟨ns, hincreasing, hlt, hnumbers⟩ := numbers_ofMoves h base
    have hnext : (ofMoves ms).nextBuildNumber base ≤ ms.length + 1 :=
      Nat.succ_le_succ ((List.length_filter_le _ _).trans (length_keys_le h))
    refine ⟨ns, hincreasing, hnumbers, fun hlength => map_number_eq hnumbers fun n hn => ?_⟩
    have hn := hlt n hn
    omega

/-- Builds of `ticker` before and after one of `ticker-1`, whose name begins like theirs. -/
def nestedNames : List Move :=
  let bc (name : String) : BuildConfig :=
    Resource.new (.ofLabels name ∅) ({} : BuildConfigSpec)
  [.act (.insert .buildConfig (bc "ticker")), .act (.insert .buildConfig (bc "ticker-1")),
    .call (.instantiateBuild "ticker"), .call (.submitBinaryBuild "ticker-1" "ticker.jar" []),
    .act (.setBuildPhase "ticker-1" .complete none), .call (.instantiateBuild "ticker")]

/-- The third build that is stored is the second one of `ticker`, and it has the number 3. -/
theorem starts_numbered_nestedNames :
    OnlyStarts nestedNames ∧
    ((ofMoves nestedNames).objects.of .build).keys = ["ticker-1", "ticker-1-1", "ticker-3"] ∧
    (startsOf "ticker" nestedNames).map BuildHistory.number = [1, 3] ∧
    ((startsOf "ticker" nestedNames).map BuildHistory.number).Pairwise (· < ·) ∧
    ∃ b', (ofMoves nestedNames).find? .build "ticker-1" = some b' ∧
      b'.metadata.uid = some "uid-3" ∧ b'.phase = .complete := by
  have honly : OnlyStarts nestedNames := by
    refine onlyStarts_of_forall fun m hm => ?_
    simp only [nestedNames, List.mem_cons, List.not_mem_nil, or_false] at hm
    rcases hm with rfl | rfl | rfl | rfl | rfl | rfl <;> simp [SparesBuilds]
  have hfirst : ((ofMoves (nestedNames.take 2)).started? (.call (.instantiateBuild "ticker"))).map
      (fun x => (x.1, x.2.name, x.2.metadata.uid)) =
        some ("ticker", "ticker-1", some "uid-3") := by
    decide +kernel
  obtain ⟨⟨base, b⟩, hb, heq⟩ := Option.map_eq_some_iff.1 hfirst
  obtain ⟨rfl, hname, huid⟩ : base = "ticker" ∧ b.name = "ticker-1" ∧
      b.metadata.uid = some "uid-3" := by simpa using heq
  have hphase : ((ofMoves nestedNames).find? .build "ticker-1").map Resource.phase =
      some .complete := by
    decide +kernel
  obtain ⟨hstarts, hnumbers⟩ := starts_numbered honly
  obtain ⟨ns, hincreasing, -, hread⟩ := hnumbers "ticker"
  obtain ⟨-, -, b', hb', huid'⟩ :=
    hstarts (nestedNames.take 2) _ (nestedNames.drop 3) [] "ticker" b rfl hb
  have hb' : (ofMoves nestedNames).find? .build "ticker-1" = some b' := hname ▸ hb'
  rw [hb', Option.map_some, Option.some.injEq] at hphase
  refine ⟨honly, by decide +kernel, by decide +kernel, ?_, b', hb', huid'.trans huid, hphase⟩
  rw [hread (by decide)]
  exact hincreasing

end Cluster

end Slipway
