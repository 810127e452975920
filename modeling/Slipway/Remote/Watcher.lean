import Slipway.Remote.Connection

/-
  Watching objects through the cluster API. The objects there are come first, page by page; then
  changes from the version of that list on. When the API ends a watch it is taken up again from
  the last version seen; when it no longer knows that version, all begins anew.
-/

namespace Slipway

/-- How far a watch has come. -/
inductive Watcher (k : Kind) where
  | fresh
  /-- The rest of a page, the version of the list, and where its next page begins. -/
  | paging (items : List (Resource k)) (version token : Option String)
  | listed (version : String)
  | streaming (version : String) (lines : List (WatchLine k))
  /-- A request is not answered. -/
  | stuck

/-- What a watch tells. -/
inductive Signal (k : Kind) where
  /-- An object that was there when the list was made. -/
  | found (r : Resource k)
  /-- The list has ended. -/
  | complete
  | changed (r : Resource k)
  | gone (r : Resource k)
  | failed

namespace Watcher

variable {k : Kind}

/-- The size of what a watch holds. -/
def backlog : Watcher k → Nat
  | fresh => 0
  | paging items _ _ => items.length
  | listed _ => 0
  | streaming _ lines => lines.length
  | stuck => 0

/-- The version that an object carries; an empty one counts as none. -/
def version? (r : Resource k) : Option String := r.metadata.resourceVersion.filter (· ≠ "")

/-- Asks for a page of the list. -/
def askPage (s : Selection) (token : Option String) (c : Connection) :
    Option (Signal k) × Watcher k × Connection :=
  match c.perform (Query.list c.targetNamespace k (s.page token)) with
  | (some (.ok l), c) =>
    if l.version.isNone && l.token.isNone then (some .failed, fresh, c)
    else (none, paging l.items l.version l.token, c)
  | (some (.error _), c) => (some .failed, fresh, c)
  | (none, c) => (none, stuck, c)

/-- Asks for the changes since a version. -/
def askChanges (s : Selection) (version : String) (c : Connection) :
    Option (Signal k) × Watcher k × Connection :=
  match (Query.list c.targetNamespace k (s.watch version)).request with
  | .error _ => (some .failed, listed version, c)
  | .ok request =>
    match c.send request with
    | (some (.ok response), c) => (none, streaming version (WatchLine.ofText k response.text), c)
    | (some (.error _), c) => (some .failed, listed version, c)
    | (none, c) => (none, stuck, c)

/-- Takes in one line. -/
def readLine (version : String) (lines : List (WatchLine k)) :
    WatchLine k → Option (Signal k) × Watcher k
  | .changed r =>
    match version? r with
    | some v => (some (.changed r), streaming v lines)
    | none => (some .failed, fresh)
  | .deleted r =>
    match version? r with
    | some v => (some (.gone r), streaming v lines)
    | none => (some .failed, fresh)
  | .bookmark v => (none, streaming v lines)
  | .error s => (some .failed, if s.code = 410 then fresh else streaming version lines)
  | .unreadable => (some .failed, streaming version lines)

/-- One step on. It may tell something, or only come further. -/
def step (s : Selection) (w : Watcher k) (c : Connection) :
    Option (Signal k) × Watcher k × Connection :=
  match w with
  | fresh => askPage s none c
  | paging (r :: items) version token => (some (.found r), paging items version token, c)
  | paging [] (some version) none => (some .complete, listed version, c)
  | paging [] _ token => askPage s token c
  | listed version => askChanges s version c
  | streaming version [] => (none, listed version, c)
  | streaming version (line :: lines) =>
    let (signal, w) := readLine version lines line
    (signal, w, c)
  | stuck => (none, stuck, c)

/-- Steps on until something is told; none if nothing can be told for now. -/
def next (s : Selection) : Nat → Watcher k → Connection →
    Option (Signal k) × Watcher k × Connection
  | 0, w, c => (none, w, c)
  | fuel + 1, w, c =>
    match step s w c with
    | (some signal, w, c) => (some signal, w, c)
    | (none, w, c) => next s fuel w c

/-- Enough steps for a watch to tell something, if it can: each either takes up something that is
    there or is followed by one that does. -/
def patience (w : Watcher k) (c : Connection) : Nat := 3 * (w.backlog + c.backlog + 2)

end Watcher

end Slipway
