import Mathlib.Data.Int.ConditionallyCompleteOrder
import Mathlib.Data.List.Nodup
import Mathlib.Data.Prod.Lex
import Mathlib.Order.ConditionallyCompleteLattice.Basic
import Mathlib.Order.WithBot
import Slipway.Proofs.Pipeline.History

/-
  The age of builds as a key: the time of creation, none before all others, and then the number. A
  history is sorted by this key (`pairwise_sort`). Builds of different ages are sorted in the same
  way in whatever order they are given (`sort_eq_of_perm`), so the same one of them is used again
  (`toReuse?_eq_of_perm`).
-/

namespace Slipway.BuildHistory

variable {builds builds' : List Build} {fp : Fingerprint} {a b : Build}

/-! ## The key -/

/-- A time as seconds and nanoseconds; none comes before all others. -/
def timeKey : Option Timestamp → WithBot (ℤ ×ₗ ℕ)
  | none => ⊥
  | some t => (toLex (t.seconds, t.nanos) : ℤ ×ₗ ℕ)

/-- The greater the younger. -/
def age (b : Build) : WithBot (ℤ ×ₗ ℕ) ×ₗ ℕ :=
  toLex (timeKey b.metadata.creationTimestamp, number b)

theorem compare_eq_lt_iff {s t : Timestamp} : s.compare t = .lt ↔
    (toLex (s.seconds, s.nanos) : ℤ ×ₗ ℕ) < toLex (t.seconds, t.nanos) := by
  rw [Timestamp.compare, Ordering.then_eq_lt, compare_lt_iff_lt, compare_eq_iff_eq,
    compare_lt_iff_lt, Prod.Lex.toLex_lt_toLex]

theorem compare_eq_eq_iff {s t : Timestamp} : s.compare t = .eq ↔
    (toLex (s.seconds, s.nanos) : ℤ ×ₗ ℕ) = toLex (t.seconds, t.nanos) := by
  rw [Timestamp.compare, Ordering.then_eq_eq, compare_eq_iff_eq, compare_eq_iff_eq, toLex_inj,
    Prod.mk.injEq]

theorem compareTimes_eq_lt_iff {s t : Option Timestamp} :
    compareTimes s t = .lt ↔ timeKey s < timeKey t := by
  rcases s with _ | s
  · rcases t with _ | t
    · exact iff_of_false (by decide) (lt_irrefl _)
    · exact iff_of_true rfl (WithBot.bot_lt_coe _)
  · rcases t with _ | t
    · exact iff_of_false (fun h => nomatch h) not_lt_bot
    · exact compare_eq_lt_iff.trans WithBot.coe_lt_coe.symm

theorem compareTimes_eq_eq_iff {s t : Option Timestamp} :
    compareTimes s t = .eq ↔ timeKey s = timeKey t := by
  rcases s with _ | s
  · rcases t with _ | t
    · exact iff_of_true rfl rfl
    · exact iff_of_false (fun h => nomatch h) WithBot.bot_ne_coe
  · rcases t with _ | t
    · exact iff_of_false (fun h => nomatch h) WithBot.coe_ne_bot
    · exact compare_eq_eq_iff.trans WithBot.coe_inj.symm

theorem notYounger_iff_age : notYounger a b = true ↔ age a ≤ age b := by
  rw [notYounger_iff, compareAge, Ordering.isLE_then_iff_or, compareTimes_eq_lt_iff,
    compareTimes_eq_eq_iff, Nat.isLE_compare, age, age, Prod.Lex.toLex_le_toLex]

/-! ## Sorted histories -/

theorem pairwise_sort (builds : List Build) : (sort builds).Pairwise fun a b => age a ≤ age b :=
  (pairwise_sortBy notYounger_trans notYounger_total builds).imp notYounger_iff_age.1

theorem sort_eq_of_perm (h : builds.Perm builds') (hages : (builds.map age).Nodup) :
    sort builds = sort builds' := by
  have hperm : (sort builds).Perm builds := sortBy_perm notYounger builds
  have hperm' : (sort builds').Perm builds' := sortBy_perm notYounger builds'
  refine List.Perm.eq_of_pairwise (fun a b ha hb hab hba => ?_) (pairwise_sort builds)
    (pairwise_sort builds') (hperm.trans (h.trans hperm'.symm))
  -- two builds of one age are one build
  have hb' : b ∈ builds := h.mem_iff.2 (hperm'.mem_iff.1 hb)
  exact List.inj_on_of_nodup_map hages (hperm.mem_iff.1 ha) hb' (le_antisymm hab hba)

/-! ## The choice -/

theorem isSome_reusable? (builds : List Build) (fp : Fingerprint) :
    (reusable? builds fp).isSome = isReusable builds fp := by
  rcases h : reusable? builds fp with _ | b
  · refine (List.any_eq_false.2 fun b hb => ?_).symm
    exact Bool.eq_false_iff.1 (not_carries_of_reusable? h hb)
  · obtain ⟨hb, hcarries, -⟩ := reusable?_eq_some h
    exact (List.any_eq_true.2 ⟨b, hb, hcarries⟩).symm

theorem reusable?_eq_of_perm (h : builds.Perm builds') (hages : (builds.map age).Nodup) :
    reusable? builds fp = reusable? builds' fp := by
  have hcarrying : ((builds.filter (carries fp)).map age).Nodup :=
    hages.sublist (List.filter_sublist.map age)
  rw [reusable?, reusable?, sort_eq_of_perm (h.filter _) hcarrying]

theorem toReuse?_eq_of_perm (h : builds.Perm builds') (hages : (builds.map age).Nodup)
    (r : Request) (c : Config) (fp : Fingerprint) :
    toReuse? r c builds fp = toReuse? r c builds' fp := by
  rw [toReuse?, toReuse?, reusable?_eq_of_perm h hages]

end Slipway.BuildHistory
