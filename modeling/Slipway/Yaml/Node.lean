import Slipway.Yaml.Scanner

/-
  From tokens to the nodes of a document. An alias names its node by number, because a later
  anchor may take over the number of an earlier one of the same name.
-/

namespace Slipway.Yaml

structure Scalar where
  text : String
  style : ScalarStyle
  tag : Option String
  deriving DecidableEq, Repr

inductive Node where
  | scalar (s : Scalar)
  | sequence (items : List Node)
  | mapping (entries : List (Node × Node))
  | alias (number : Nat)

/-- The node that stands where nothing is written. -/
def Node.nothing (tag : Option String) : Node := .scalar ⟨"", .plain, tag⟩

/-- The state of reading: the tokens ahead, the meaning of tag handles, the number of each anchor
    name, the place of each number and the node at each place. -/
structure Composer where
  tokens : List Token
  handles : List (String × String)
  numbers : List (String × Nat) := []
  places : List (Nat × Nat) := []
  nodes : List (Nat × Node) := []

namespace Composer

def skip (c : Composer) : Composer := { c with tokens := c.tokens.tail }

/-- An anchor has the number of different names before it. -/
def register (c : Composer) (name : String) : Composer :=
  let number := c.numbers.length
  { c with
    numbers := (name, number) :: c.numbers.filter (·.1 ≠ name)
    places := (number, c.places.length) :: c.places }

/-- What stands before the content of a node. -/
structure Properties where
  anchor : Option String := none
  tag : Option (String × String) := none

def readProperties (c : Composer) : Properties × Composer :=
  match c.tokens with
  | .anchor a :: .tag h s :: ts => (⟨some a, some (h, s)⟩, { c with tokens := ts })
  | .tag h s :: .anchor a :: ts => (⟨some a, some (h, s)⟩, { c with tokens := ts })
  | .anchor a :: ts => (⟨some a, none⟩, { c with tokens := ts })
  | .tag h s :: ts => (⟨none, some (h, s)⟩, { c with tokens := ts })
  | _ => ({}, c)

/-- The full form of a tag. A handle has to be known. -/
def resolveTag (c : Composer) : Option (String × String) → Option (Option String)
  | none => some none
  | some (handle, suffix) =>
    if handle = "" then some (some suffix)
    else (c.handles.lookup handle).map fun start => some (start ++ suffix)

/-- A tag that is only an exclamation mark says nothing. -/
def scalarTag (tag : Option String) : Option String := tag.filter (· ≠ "!")

/-- Tokens before which a node inside a flow collection may be left out. -/
def endsFlowPart : List Token → Bool
  | .value :: _ => true
  | .flowEntry :: _ => true
  | .flowSequenceEnd :: _ => true
  | .flowMappingEnd :: _ => true
  | _ => false

/-- Tokens before which a node of a block collection may be left out. -/
def endsBlockPart (sequence : Bool) : List Token → Bool
  | .blockEnd :: _ => true
  | .blockEntry :: _ => sequence
  | .key :: _ => !sequence
  | .value :: _ => !sequence
  | _ => false

mutual

/-- A node. `block` admits block collections, and `indentless` a sequence of entries at the
    column of the mapping around it. -/
def readNode : Nat → Bool → Bool → Composer → Option (Node × Composer)
  | 0, _, _, _ => none
  | fuel + 1, block, indentless, c =>
    match c.tokens with
    | .alias name :: _ => (c.numbers.lookup name).map fun n => (.alias n, c.skip)
    | _ => do
      let (p, c) := c.readProperties
      let tag ← c.resolveTag p.tag
      let place := c.places.length
      let c := match p.anchor with
        | some name => c.register name
        | none => c
      let (node, c) ← readContent fuel block indentless
        (p.anchor.isSome || p.tag.isSome) (scalarTag tag) c
      pure (node, if p.anchor.isSome then { c with nodes := (place, node) :: c.nodes } else c)

def readContent : Nat → Bool → Bool → Bool → Option String → Composer → Option (Node × Composer)
  | 0, _, _, _, _, _ => none
  | fuel + 1, block, indentless, marked, tag, c =>
    match c.tokens with
    | .scalar text style :: _ => some (.scalar ⟨text, style, tag⟩, c.skip)
    | .flowSequenceStart :: _ => do
      let (items, c) ← readFlowItems fuel true [] c.skip
      pure (.sequence items, c)
    | .flowMappingStart :: _ => do
      let (entries, c) ← readFlowEntries fuel true [] c.skip
      pure (.mapping entries, c)
    | .blockEntry :: _ =>
      if indentless then do
        let (items, c) ← readBlockItems fuel true [] c
        pure (.sequence items, c)
      else if marked then some (Node.nothing tag, c)
      else none
    | .blockSequenceStart :: _ =>
      if block then do
        let (items, c) ← readBlockItems fuel false [] c.skip
        pure (.sequence items, c)
      else if marked then some (Node.nothing tag, c)
      else none
    | .blockMappingStart :: _ =>
      if block then do
        let (entries, c) ← readBlockEntries fuel [] c.skip
        pure (.mapping entries, c)
      else if marked then some (Node.nothing tag, c)
      else none
    | _ => if marked then some (Node.nothing tag, c) else none

/-- The entries of a block sequence. One without indentation of its own ends where no further
    entry begins. -/
def readBlockItems : Nat → Bool → List Node → Composer → Option (List Node × Composer)
  | 0, _, _, _ => none
  | fuel + 1, indentless, acc, c =>
    match c.tokens with
    | .blockEntry :: ts =>
      let c := c.skip
      if endsBlockPart true ts || (indentless && endsBlockPart false ts) then
        readBlockItems fuel indentless (Node.nothing none :: acc) c
      else do
        let (node, c) ← readNode fuel true false c
        readBlockItems fuel indentless (node :: acc) c
    | ts =>
      if indentless then some (acc.reverse, c)
      else if ts.head? = some .blockEnd then some (acc.reverse, c.skip)
      else none

def readBlockEntries : Nat → List (Node × Node) → Composer →
    Option (List (Node × Node) × Composer)
  | 0, _, _ => none
  | fuel + 1, acc, c =>
    match c.tokens with
    | .key :: ts => do
      let c := c.skip
      let (key, c) ←
        if endsBlockPart false ts then pure (Node.nothing none, c) else readNode fuel true true c
      let (value, c) ← match c.tokens with
        | .value :: ts =>
          let c := c.skip
          if endsBlockPart false ts then pure (Node.nothing none, c) else readNode fuel true true c
        | _ => pure (Node.nothing none, c)
      readBlockEntries fuel ((key, value) :: acc) c
    | .blockEnd :: _ => some (acc.reverse, c.skip)
    | _ => none

/-- The items of a flow sequence. A key among them makes a mapping of one entry. -/
def readFlowItems : Nat → Bool → List Node → Composer → Option (List Node × Composer)
  | 0, _, _, _ => none
  | fuel + 1, first, acc, c =>
    if c.tokens.head? = some .flowSequenceEnd then some (acc.reverse, c.skip)
    else do
      let c ← if first then some c
        else if c.tokens.head? = some .flowEntry then some c.skip
        else none
      match c.tokens with
      | .flowSequenceEnd :: _ => some (acc.reverse, c.skip)
      | .key :: ts => do
        let c := c.skip
        let (key, c) ←
          if endsFlowPart ts && ts.head? != some .flowMappingEnd then pure (Node.nothing none, c.skip)
          else readNode fuel false false c
        let (value, c) ← readFlowValue fuel c
        readFlowItems fuel false (.mapping [(key, value)] :: acc) c
      | _ => do
        let (node, c) ← readNode fuel false false c
        readFlowItems fuel false (node :: acc) c

/-- The value of an entry in a flow collection, if one is written. -/
def readFlowValue : Nat → Composer → Option (Node × Composer)
  | 0, _ => none
  | fuel + 1, c =>
    match c.tokens with
    | .value :: ts =>
      if endsFlowPart ts && ts.head? != some .value then some (Node.nothing none, c.skip)
      else readNode fuel false false c.skip
    | _ => some (Node.nothing none, c)

def readFlowEntries : Nat → Bool → List (Node × Node) → Composer →
    Option (List (Node × Node) × Composer)
  | 0, _, _, _ => none
  | fuel + 1, first, acc, c =>
    if c.tokens.head? = some .flowMappingEnd then some (acc.reverse, c.skip)
    else do
      let c ← if first then some c
        else if c.tokens.head? = some .flowEntry then some c.skip
        else none
      match c.tokens with
      | .flowMappingEnd :: _ => some (acc.reverse, c.skip)
      | .key :: ts => do
        let c := c.skip
        let (key, c) ←
          if endsFlowPart ts && ts.head? != some .flowSequenceEnd then pure (Node.nothing none, c)
          else readNode fuel false false c
        let (value, c) ← readFlowValue fuel c
        readFlowEntries fuel false ((key, value) :: acc) c
      | _ => do
        let (key, c) ← readNode fuel false false c
        readFlowEntries fuel false ((key, Node.nothing none) :: acc) c

end

/-! ## Documents -/

def defaultHandles : List (String × String) := [("!", "!"), ("!!", "tag:yaml.org,2002:")]

/-- The directives before a document: at most one version, which has to be 1.1 or 1.2, and one
    meaning for each handle. The bool says that a version was given. -/
def readDirectives (versioned : Bool) (handles : List (String × String)) :
    List Token → Option (Bool × List (String × String) × List Token)
  | .version major minor :: ts =>
    if versioned ∨ major ≠ 1 ∨ (minor ≠ 1 ∧ minor ≠ 2) then none
    else readDirectives true handles ts
  | .tagDirective handle start :: ts =>
    if (handles.lookup handle).isSome then none
    else readDirectives versioned ((handle, start) :: handles) ts
  | ts => some (versioned, handles, ts)

/-- True where a document has no content. -/
def endsDocument : List Token → Bool
  | [] => true
  | .documentStart :: _ => true
  | .documentEnd :: _ => true
  | .version _ _ :: _ => true
  | .tagDirective _ _ :: _ => true
  | _ => false

def readRoot (c : Composer) : Option (Node × Composer) :=
  c.readNode (4 * c.tokens.length + 8) true false

end Composer

/-- A document: its node, if the text holds any, and the nodes that aliases name. -/
structure Document where
  root : Option Node
  places : List (Nat × Nat)
  nodes : List (Nat × Node)

namespace Document

/-- The node for which an alias stands; any other node stands for itself. -/
def resolve (d : Document) : Node → Option Node
  | .alias number => do d.nodes.lookup (← d.places.lookup number)
  | node => some node

/-- True before directives and the marker that starts a document. -/
def startsDocument : List Token → Bool
  | .documentStart :: _ => true
  | .version _ _ :: _ => true
  | .tagDirective _ _ :: _ => true
  | _ => false

/-- The one document of a text. More than one is an error. -/
def ofTokens? (ts : List Token) : Option Document := do
  if ts.isEmpty then pure ⟨none, [], []⟩
  else
    let (root, c) ←
      if startsDocument ts then do
        let (_, given, rest) ← Composer.readDirectives false [] ts
        if rest.head? ≠ some .documentStart then none
        else
          let c : Composer := { tokens := rest.tail, handles := given ++ Composer.defaultHandles }
          if Composer.endsDocument c.tokens then some (Node.nothing none, c) else c.readRoot
      else Composer.readRoot { tokens := ts, handles := Composer.defaultHandles }
    if (c.tokens.dropWhile (· == .documentEnd)).isEmpty then some ⟨some root, c.places, c.nodes⟩
    else none

def ofText? (s : String) : Option Document := do ofTokens? (← Token.ofText? s)

end Document

end Slipway.Yaml
