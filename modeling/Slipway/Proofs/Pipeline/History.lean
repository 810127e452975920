import Slipway.BuildHistory
import Slipway.Proofs.Program.Run

/-
  The choice of an earlier build. Age is a total preorder on builds (`notYounger_trans`,
  `notYounger_total`), so the last one of a sorted history is a youngest one (`notYounger_last`).
  Unless a request forces a build (`toReuse?_eq_ok`), it uses a youngest build of those that did not
  fail and that carry its fingerprint (`reusable?_eq_some`).
-/

namespace Slipway

/-! ## Age -/

instance : Std.TransCmp Timestamp.compare :=
  inferInstanceAs (Std.TransCmp
    (compareLex (compareOn Timestamp.seconds) (compareOn Timestamp.nanos)))

namespace BuildHistory

variable {builds : List Build} {fp : Fingerprint} {r : Request} {c : Config} {b : Build}

instance : Std.TransCmp compareTimes where
  eq_swap {a b} := by
    cases a with
    | none => cases b <;> rfl
    | some a =>
      cases b with
      | none => rfl
      | some b =>
        show a.compare b = (b.compare a).swap
        exact Std.OrientedCmp.eq_swap
  isLE_trans {a b c} hab hbc := by
    cases a with
    | none => cases c <;> rfl
    | some a =>
      cases b with
      | none => cases hab
      | some b =>
        cases c with
        | none => cases hbc
        | some c =>
          show (a.compare c).isLE = true
          have hab : (a.compare b).isLE = true := hab
          exact Std.TransCmp.isLE_trans hab hbc

instance : Std.TransCmp fun a b : Build =>
    compareTimes a.metadata.creationTimestamp b.metadata.creationTimestamp where
  eq_swap {_ _} := @Std.OrientedCmp.eq_swap _ compareTimes _ _ _
  isLE_trans {_ _ _} := @Std.TransCmp.isLE_trans _ compareTimes _ _ _ _

instance : Std.TransCmp compareAge :=
  inferInstanceAs (Std.TransCmp (compareLex
    (fun a b : Build => compareTimes a.metadata.creationTimestamp b.metadata.creationTimestamp)
    (compareOn number)))

theorem notYounger_iff {a b : Build} : notYounger a b = true ↔ (compareAge a b).isLE := by
  unfold notYounger
  cases compareAge a b <;> decide

theorem notYounger_trans (a b c : Build) (hab : notYounger a b = true)
    (hbc : notYounger b c = true) : notYounger a c = true :=
  notYounger_iff.2 (Std.TransCmp.isLE_trans (notYounger_iff.1 hab) (notYounger_iff.1 hbc))

theorem notYounger_total (a b : Build) : notYounger a b = true ∨ notYounger b a = true := by
  have hswap : compareAge b a = (compareAge a b).swap := Std.OrientedCmp.eq_swap
  rw [notYounger_iff, notYounger_iff, hswap]
  cases compareAge a b <;> decide

theorem notYounger_refl (a : Build) : notYounger a a = true := (notYounger_total a a).elim id id

/-- No build is younger than the last one of a sorted history. -/
theorem notYounger_last (h : (sort builds).getLast? = some b) {b' : Build} (hb' : b' ∈ builds) :
    notYounger b' b = true := by
  obtain ⟨older, hs⟩ := List.getLast?_eq_some_iff.1 h
  have hsorted := pairwise_sortBy notYounger_trans notYounger_total builds
  have hmem : b' ∈ sort builds := (sortBy_perm notYounger builds).mem_iff.2 hb'
  change (sort builds).Pairwise _ at hsorted
  rw [hs] at hsorted hmem
  rcases List.mem_append.1 hmem with hold | hlast
  · exact (List.pairwise_append.1 hsorted).2.2 b' hold b (List.mem_singleton.2 rfl)
  · rw [List.mem_singleton.1 hlast]
    exact notYounger_refl b

/-! ## The choice -/

theorem toReuse?_eq_ok {earlier : Option Build} :
    toReuse? r c builds fp = .ok earlier ↔ ∃ forced, forcesBuild r c = .ok forced ∧
      earlier = if forced then none else reusable? builds fp := by
  refine Result.bind_eq_ok.trans (exists_congr fun forced => and_congr_right fun _ => ?_)
  have hok : ∀ x, (Except.ok x : Result (Option Build)) = .ok earlier ↔ earlier = x := fun x => by
    rw [Except.ok.injEq, eq_comm]
  cases forced with
  | true => exact hok none
  | false => exact hok (reusable? builds fp)

theorem carries_iff : carries fp b = true ↔
    b.phase ≠ .failed ∧ b.strategy.envValue Labels.fingerprintVariable = some fp.text := by
  simp [carries]

/-- The build that can be used again is one that carries the fingerprint, and none of those that
    carry it is younger. -/
theorem reusable?_eq_some (h : reusable? builds fp = some b) :
    b ∈ builds ∧ carries fp b = true ∧
      ∀ b' ∈ builds, carries fp b' = true → notYounger b' b = true := by
  have hm := (sortBy_perm notYounger _).mem_iff.1 (List.mem_of_getLast? h)
  obtain ⟨hb, hc⟩ := List.mem_filter.1 hm
  exact ⟨hb, hc, fun b' hb' hc' => notYounger_last h (List.mem_filter.2 ⟨hb', hc'⟩)⟩

theorem not_carries_of_reusable? (h : reusable? builds fp = none) (hb : b ∈ builds) :
    carries fp b = false := by
  have hnil : sort (builds.filter (carries fp)) = [] := List.getLast?_eq_none_iff.1 h
  have hfilter : builds.filter (carries fp) = [] := by
    have hp : (sort (builds.filter (carries fp))).Perm (builds.filter (carries fp)) :=
      sortBy_perm notYounger _
    rw [hnil] at hp
    exact hp.nil_eq.symm
  exact Bool.eq_false_iff.2 (List.filter_eq_nil_iff.1 hfilter b hb)

/-- The only build that carries a fingerprint is the one to be used again. -/
theorem reusable?_of_unique (hb : b ∈ builds) (hc : carries fp b = true)
    (h : ∀ b' ∈ builds, carries fp b' = true → b' = b) : reusable? builds fp = some b := by
  rcases hr : reusable? builds fp with _ | b'
  · rw [not_carries_of_reusable? hr hb] at hc
    cases hc
  · obtain ⟨hb', hc', -⟩ := reusable?_eq_some hr
    rw [h b' hb' hc']

theorem toReuse?_eq_some (h : toReuse? r c builds fp = .ok (some b)) :
    forcesBuild r c = .ok false ∧ reusable? builds fp = some b := by
  obtain ⟨forced, hf, hb⟩ := toReuse?_eq_ok.1 h
  cases forced with
  | true => cases hb
  | false => exact ⟨hf, hb.symm⟩

/-- A build is missed only where none that could be used is listed, or one is forced. -/
theorem not_carries_of_toReuse? (h : toReuse? r c builds fp = .ok none)
    (hf : forcesBuild r c ≠ .ok true) (hb : b ∈ builds) : carries fp b = false := by
  obtain ⟨forced, hforced, hnone⟩ := toReuse?_eq_ok.1 h
  cases forced with
  | true => exact absurd hforced hf
  | false => exact not_carries_of_reusable? hnone.symm hb

/-- A map that keeps the age of builds and whether they can be used maps the choice. -/
theorem reusable?_map {f : Build → Build}
    (hcarries : ∀ b ∈ builds, carries fp (f b) = carries fp b)
    (hage : ∀ a ∈ builds, ∀ b ∈ builds, compareAge (f a) (f b) = compareAge a b) :
    reusable? (builds.map f) fp = (reusable? builds fp).map f := by
  have hfilter : (builds.map f).filter (carries fp) = (builds.filter (carries fp)).map f := by
    rw [List.filter_map]
    exact congrArg _ (List.filter_congr hcarries)
  have horder : ∀ a ∈ builds.filter (carries fp), ∀ b ∈ builds.filter (carries fp),
      notYounger (f a) (f b) = notYounger a b := fun a ha b hb => by
    unfold notYounger
    rw [hage a (List.mem_filter.1 ha).1 b (List.mem_filter.1 hb).1]
  unfold reusable? sort
  rw [hfilter, sortBy_map horder, List.getLast?_map]

theorem mem_of_toReuse? (h : toReuse? r c builds fp = .ok (some b)) : b ∈ builds :=
  (reusable?_eq_some (toReuse?_eq_some h).2).1

end BuildHistory

end Slipway
