import Mathlib.Data.List.Induction
import Slipway.Proofs.Cluster.Sources

/-
  Runs of a session on a platform in memory: steps of deployers and acts of the world outside, in
  any order, each with all that it causes. What every event of a run keeps, the run keeps
  (`ofRun_keeps`). In a managed run objects are written by deployers alone; the world outside moves
  builds on, ends watches, and arranges conflicts and slow deletions.
-/

namespace Slipway

/-- What happens to a session. -/
inductive Event where
  | step (d : Deployer) (st : Step)
  | act (a : Act)

namespace Event

/-- The session after an event. An act on a build that is not there does nothing. -/
def apply (e : Event) (s : Session Cluster) : Session Cluster :=
  match e with
  | step d st => (s.step d st).2
  | act a => (s.act a).getD s

/-- Whether objects are written by the deployer alone, from requests. -/
def IsManaged : Event → Prop
  | step _ (.reconcile _ _) | step _ (.call _) | act (.insert _ _) => False
  | _ => True

end Event

namespace Session

/-- The session that a run leads to from an empty platform. -/
def ofRun (run : List Event) : Session Cluster :=
  run.foldl (fun s e => e.apply s) { platform := {} }

theorem ofRun_concat (run : List Event) (e : Event) :
    ofRun (run ++ [e]) = e.apply (ofRun run) := by
  unfold ofRun
  rw [List.foldl_append]
  rfl

/-- What holds of an empty platform and is kept by every event of a run holds after the run. -/
theorem ofRun_keeps {I : Cluster → Prop} (init : I {}) {run : List Event}
    (keeps : ∀ e ∈ run, ∀ s : Session Cluster, I s.platform → I (e.apply s).platform) :
    I (ofRun run).platform := by
  induction run using List.reverseRecOn with
  | nil => exact init
  | append_singleton run e ih =>
    rw [ofRun_concat]
    refine keeps e (by simp) _ (ih fun e' he' => keeps e' ?_)
    exact List.mem_append_left _ he'

end Session

/-! ## Small runs -/

/-- A deployer with the default configuration, for which every artifact has the same content and
    there are no files. -/
def Deployer.ofContent (content : Bytes) : Deployer where
  config := {}
  resolver := Resolver.constant content none ∅
  files := { read := fun _ => .error .missing, isFile := fun _ => false }
  targetNamespace := "apps"

/-- A request for the application `ticker`, which is packed in a file. -/
def Request.ticker (properties : List (String × String)) : Request where
  name := "ticker"
  artifact := .file "ticker.jar"
  properties := Dict.ofList properties

/-- The run in which `ticker` is deployed once, and its build goes on. -/
def deployedOnce : List Event := [.step (Deployer.ofContent []) (.deploy (.ticker []))]

/-- What a run gives if it succeeds, as far as a view shows it. A view can be evaluated where what
    a run gives can not be compared. -/
def view? {α β σ : Type} (view : α → Option β) (out : Option (Result α) × σ) : Option β :=
  match out.1 with
  | some (.ok x) => view x
  | _ => none

theorem exists_of_view? {α β σ : Type} {view : α → Option β} {out : Option (Result α) × σ} {y : β}
    (h : view? view out = some y) : ∃ x s', out = (some (.ok x), s') ∧ view x = some y := by
  obtain ⟨r, s'⟩ := out
  unfold view? at h
  split at h
  next x hr => exact ⟨x, s', Prod.ext hr rfl, h⟩
  · cases h

/-! ## Watches and objects -/

namespace Cluster

/-- Objects of a kind outlast the calls that do not change them. -/
theorem kept_objects (k : Kind) (o : Dict (Resource k)) :
    Kept (σ := Cluster) (fun c => ¬ c.Changes k) (fun _ => True) fun s => s.objects.of k = o where
  answer _ s hc hs := (objects_of_answer hc s).trans hs
  opened _ _ _ _ _ _ := trivial
  poll id s _ hs := by
    show (poll id s).2.objects.of k = o
    rw [objects_poll, hs]
  close _ _ _ hs := hs

theorem objects_of_settle (k : Kind) (h : k ≠ .pod) (s : Session Cluster) :
    s.settle.platform.objects.of k = s.platform.objects.of k :=
  Session.settle_keeps (kept_objects k _) (fun pod => (Reconcile.only_reconcile pod).mono
    fun _ hc => hc.not_changes h) (fun _ _ => trivial) rfl

end Cluster

namespace Event

open Cluster

theorem apply_act (a : Act) (s : Session Cluster) :
    (act a).apply s = match s.platform.act a with
      | some q => Session.settle { s with platform := q }
      | none => s := by
  rcases h : s.platform.act a with _ | q
  · simp only [apply, Session.act, h, Option.map_none, Option.getD_none]
  · simp only [apply, Session.act, h, Option.map_some, Option.getD_some]

/-- The world outside changes builds at most, and through them pods. -/
theorem objects_of_act {k : Kind} (hb : k ≠ .build) (hp : k ≠ .pod) (a : Act)
    (hm : (act a).IsManaged) (s : Session Cluster) :
    ((act a).apply s).platform.objects.of k = s.platform.objects.of k := by
  rw [apply_act]
  rcases ha : s.platform.act a with _ | q
  · rfl
  refine (objects_of_settle k hp _).trans ?_
  cases a with
  | insert j object => exact hm.elim
  | injectConflict j name =>
    cases ha
    rfl
  | terminateGracefully j name =>
    cases ha
    rfl
  | dropWatches =>
    cases ha
    rfl
  | setBuildPhase name phase image =>
    obtain ⟨b, -, rfl⟩ := Option.map_eq_some_iff.1 ha
    exact objects_of_store_of_ne _ _ _ hb

end Event

/-- What the objects have that the calls of a run and the acts in it make of such as have it, all
    objects have after the run. -/
theorem Session.allObjects_ofRun {P : (k : Kind) → String → Resource k → Prop} {p : Call → Prop}
    {run : List Event}
    (hcall : ∀ c s k name x, p c → Cluster.AllObjects P s → Cluster.Source c s k name x →
      P k name x)
    (hpod : ∀ pod : Pod, (Reconcile.reconcile pod).Only p)
    (hstep : ∀ d st, Event.step d st ∈ run → st.Only d p)
    (hact : ∀ a s k name x, Event.act a ∈ run → Cluster.AllObjects P s →
      Cluster.ActSource a s k name x → P k name x) :
    Cluster.AllObjects P (ofRun run).platform := by
  refine ofRun_keeps Cluster.allObjects_empty fun e he s hs => ?_
  have hkept := Cluster.kept_allObjects hcall
  cases e with
  | step d st => exact step_keeps hkept hpod (hstep d st he) hs
  | act a =>
    rw [Event.apply_act]
    rcases ha : s.platform.act a with _ | q
    · exact hs
    · exact settle_keeps hkept hpod (fun _ _ => trivial) fun k name x hx =>
        hact a s.platform k name x he hs (Cluster.source_of_act ha hx)

end Slipway
