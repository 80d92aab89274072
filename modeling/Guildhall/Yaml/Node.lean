import Guildhall.Yaml.Token

/-!
The tree of a YAML document. Nodes that anchors name are numbered; an alias stands for the whole
node of a number, even within that node.
-/

set_option autoImplicit false

namespace Guildhall.Yaml

/-- A scalar as it is written. -/
structure Scalar where
  tag : Option String := none
  style : Style
  text : String
  deriving Repr, DecidableEq

/-- The scalar that is read where a node is left out. -/
def Scalar.missing (tag : Option String := none) : Scalar := { tag, style := .plain, text := "" }

inductive Node where
  | scalar (s : Scalar)
  | sequence (tag : Option String) (items : List Node)
  | mapping (tag : Option String) (pairs : List (Node × Node))
  | alias (number : Nat)

instance : Inhabited Node := ⟨.scalar .missing⟩

mutual

/-- How many marks it takes to write a node down: one for a scalar or an alias, two for the ends
of a collection. -/
def Node.size : Node → Nat
  | .scalar _ | .alias _ => 1
  | .sequence _ items => 2 + sizeOfItems items
  | .mapping _ pairs => 2 + sizeOfPairs pairs

def sizeOfItems : List Node → Nat
  | [] => 0
  | n :: rest => n.size + sizeOfItems rest

def sizeOfPairs : List (Node × Node) → Nat
  | [] => 0
  | (k, v) :: rest => k.size + v.size + sizeOfPairs rest

end

/-- The root of a document, unless it is empty, and its numbered nodes. -/
structure Document where
  root : Option Node := none
  named : List (Nat × Node) := []

/-- What is left of the tokens of a document, the handles of tags, the numbers of the nodes that
anchors name, and the nodes of those that were read to their end. -/
structure Reading where
  tokens : List Token
  handles : List (String × String)
  anchors : List (String × Nat) := []
  named : List (Nat × Node) := []

namespace Reading

def next? (r : Reading) : Option Token := r.tokens.head?

def skip (r : Reading) : Reading := { r with tokens := r.tokens.tail }

def nextIs (r : Reading) (t : Token) : Bool := r.next? == some t

/-- Whether the next token is one of `ts`. -/
def stopsAt (r : Reading) (ts : List Token) : Bool := r.next?.any (ts.contains ·)

/-- Numbers the node that an anchor names. An anchor may name several nodes in turn. -/
def openAnchor (r : Reading) (anchor : Option String) : Reading :=
  match anchor with
  | some a => { r with anchors := (a, r.anchors.length) :: r.anchors }
  | none => r

/-- The number that the next anchor gets, if there is an anchor. -/
def number? (r : Reading) (anchor : Option String) : Option Nat :=
  anchor.map fun _ ↦ r.anchors.length

/-- Keeps a node under its number. -/
def close (r : Reading) (number : Option Nat) (n : Node) : Reading :=
  match number with
  | some i => { r with named := (i, n) :: r.named }
  | none => r

/-- The whole tag that a handle and a suffix stand for. -/
def resolveTag? (r : Reading) (handle suffix : String) : Option String :=
  if handle.isEmpty then some suffix else (r.handles.lookup handle).map (· ++ suffix)

/-- An anchor and a tag, in either order. -/
structure Properties where
  anchor : Option String := none
  tag : Option String := none

def tag? (r : Reading) : Option (Option String × Reading) :=
  match r.next? with
  | some (.tag handle suffix) => (r.resolveTag? handle suffix).map (some ·, r.skip)
  | _ => some (none, r)

def anchor (r : Reading) : Option String × Reading :=
  match r.next? with
  | some (.anchor a) => (some a, r.skip)
  | _ => (none, r)

def properties? (r : Reading) : Option (Properties × Reading) := do
  match r.anchor with
  | (some a, r) =>
    let (tag, r) ← r.tag?
    some ({ anchor := some a, tag }, r)
  | (none, r) =>
    let (tag, r) ← r.tag?
    if tag.isSome then
      let (anchor, r) := r.anchor
      some ({ anchor, tag }, r)
    else some ({}, r)

mutual

/-- Reads a node. In a flow collection no block collection may follow; after a key or a value of a
block mapping a sequence may stand in the column of its mapping. -/
def node? (block bare : Bool) : Nat → Reading → Option (Node × Reading)
  | 0, _ => none
  | fuel + 1, r => do
    match r.next? with
    | some (.alias a) =>
      some (.alias (← r.anchors.lookup a), r.skip)
    | _ =>
      let (p, r) ← r.properties?
      let number := r.number? p.anchor
      let r := r.openAnchor p.anchor
      let finish (x : Node × Reading) : Node × Reading := (x.1, x.2.close number x.1)
      match r.next? with
      | some (.scalar style text) =>
        some (finish (.scalar { tag := p.tag, style, text }, r.skip))
      | some .entry =>
        if bare then
          let (items, r) ← bareEntries? fuel r
          some (finish (.sequence p.tag items, r))
        else if p.anchor.isSome || p.tag.isSome then some (finish (.scalar (.missing p.tag), r))
        else none
      | some .flowSequence =>
        let (items, r) ← flowItems? true fuel r.skip
        some (finish (.sequence p.tag items, r))
      | some .flowMapping =>
        let (pairs, r) ← flowPairs? true fuel r.skip
        some (finish (.mapping p.tag pairs, r))
      | t =>
        if block && t == some .blockSequence then
          let (items, r) ← entries? fuel r.skip
          some (finish (.sequence p.tag items, r))
        else if block && t == some .blockMapping then
          let (pairs, r) ← pairs? fuel r.skip
          some (finish (.mapping p.tag pairs, r))
        else if p.anchor.isSome || p.tag.isSome then some (finish (.scalar (.missing p.tag), r))
        else none

/-- Reads a node, or nothing where one of `ts` follows. -/
def nodeUnless? (block bare : Bool) (ts : List Token) :
    Nat → Reading → Option (Node × Reading)
  | 0, _ => none
  | fuel + 1, r =>
    if r.stopsAt ts then some (.scalar .missing, r) else node? block bare fuel r

/-- Reads the entries of a block sequence up to its end. -/
def entries? : Nat → Reading → Option (List Node × Reading)
  | 0, _ => none
  | fuel + 1, r => do
    match r.next? with
    | some .entry =>
      let (n, r) ← nodeUnless? true false [.entry, .blockEnd] fuel r.skip
      let (rest, r) ← entries? fuel r
      some (n :: rest, r)
    | some .blockEnd => some ([], r.skip)
    | _ => none

/-- Reads the entries of a sequence that stands in the column of its mapping. -/
def bareEntries? : Nat → Reading → Option (List Node × Reading)
  | 0, _ => none
  | fuel + 1, r => do
    match r.next? with
    | some .entry =>
      let (n, r) ← nodeUnless? true false [.entry, .key, .value, .blockEnd] fuel r.skip
      let (rest, r) ← bareEntries? fuel r
      some (n :: rest, r)
    | _ => some ([], r)

/-- Reads the pairs of a block mapping up to its end. -/
def pairs? : Nat → Reading → Option (List (Node × Node) × Reading)
  | 0, _ => none
  | fuel + 1, r => do
    match r.next? with
    | some .blockEnd => some ([], r.skip)
    | some .key =>
      let (k, r) ← nodeUnless? true true [.key, .value, .blockEnd] fuel r.skip
      let (v, r) ← if r.nextIs .value then
          nodeUnless? true true [.key, .value, .blockEnd] fuel r.skip
        else some (.scalar .missing, r)
      let (rest, r) ← pairs? fuel r
      some ((k, v) :: rest, r)
    | _ => none

/-- Reads the value of a pair in a flow collection, if there is one. -/
def flowValue? (ts : List Token) : Nat → Reading → Option (Node × Reading)
  | 0, _ => none
  | fuel + 1, r =>
    if r.nextIs .value then nodeUnless? false false ts fuel r.skip
    else some (.scalar .missing, r)

/-- Reads the items of a flow sequence up to its end. A pair among them is a mapping of its
own. -/
def flowItems? (first : Bool) : Nat → Reading → Option (List Node × Reading)
  | 0, _ => none
  | fuel + 1, r => do
    if r.nextIs .flowSequenceEnd then return ([], r.skip)
    let r ← if first then some r else if r.nextIs .comma then some r.skip else none
    if r.nextIs .flowSequenceEnd then return ([], r.skip)
    let (n, r) ← if r.nextIs .key then do
        let r := r.skip
        let (k, r) ← if r.stopsAt [.value, .comma, .flowSequenceEnd] then
            some (.scalar .missing, r.skip)
          else node? false false fuel r
        let (v, r) ← flowValue? [.comma, .flowSequenceEnd] fuel r
        some (.mapping none [(k, v)], r)
      else node? false false fuel r
    let (rest, r) ← flowItems? false fuel r
    some (n :: rest, r)

/-- Reads the pairs of a flow mapping up to its end. -/
def flowPairs? (first : Bool) : Nat → Reading → Option (List (Node × Node) × Reading)
  | 0, _ => none
  | fuel + 1, r => do
    if r.nextIs .flowMappingEnd then return ([], r.skip)
    let r ← if first then some r else if r.nextIs .comma then some r.skip else none
    if r.nextIs .flowMappingEnd then return ([], r.skip)
    let (pair, r) ← if r.nextIs .key then do
        let (k, r) ← nodeUnless? false false [.value, .comma, .flowMappingEnd] fuel r.skip
        let (v, r) ← flowValue? [.comma, .flowMappingEnd] fuel r
        some ((k, v), r)
      else do
        let (k, r) ← node? false false fuel r
        some ((k, .scalar .missing), r)
    let (rest, r) ← flowPairs? false fuel r
    some (pair :: rest, r)

end

end Reading

/-- The handles of tags that need not be declared. -/
def defaultHandles : List (String × String) := [("!", "!"), ("!!", "tag:yaml.org,2002:")]

/-- Reads the directives of a document: one version at most, of YAML 1.1 or 1.2, and handles of
tags, each once. -/
def directives? (version : Bool) (handles : List (String × String)) :
    List Token → Option (List (String × String) × List Token)
  | .version major minor :: ts =>
    if !version && major == 1 && (minor == 1 || minor == 2) then directives? true handles ts
    else none
  | .tagHandle handle start :: ts =>
    if (handles.lookup handle).isSome then none
    else directives? version ((handle, start) :: handles) ts
  | ts => some (handles ++ defaultHandles, ts)

/-- Whether the tokens hold nothing more than ends of the document. -/
def isFinished (ts : List Token) : Bool := ts.all (· == .documentEnd)

/-- The one document that tokens make. -/
def Document.ofTokens? (ts : List Token) : Option Document := do
  if ts.isEmpty then return {}
  let (handles, rest) ← directives? false [] ts
  let declared := rest.length < ts.length
  let (marked, rest) ← match rest with
    | .documentStart :: rest => some (true, rest)
    | rest => if declared then none else some (false, rest)
  let r : Reading := { tokens := rest, handles }
  if marked && (rest.isEmpty || r.nextIs .documentEnd) then
    return ← if isFinished rest then some { root := some (.scalar .missing) } else none
  let (root, r) ← r.node? true false (4 * rest.length + 4)
  if isFinished r.tokens then some { root, named := r.named } else none

/-- The one document of a text, if the text is YAML. -/
def Document.ofText? (text : List Char) : Option Document := (Token.ofText? text).bind ofTokens?

end Guildhall.Yaml
