import PowerDiscovery.Document.Node

/-! # Reading settings documents

A document is nothing, a phrase or a mapping.  An entry of a mapping is a key, a colon and a value: a
phrase, or a mapping whose entries are indented more.  The entries of a mapping are indented alike. -/

namespace PowerDiscovery.Document

def maxKey : Nat := 1024

inductive Item where
  | phrase (found : Phrase) (after : Place)
  | key (found : Phrase) (after : Place)

/-- Reads what stands at a place.  A key stands on one line with its colon, and begins its line. -/
def Item.read (indent : Nat) (p : Place) : Except Error Item := do
  let (found, after) ← Phrase.read indent p
  let q := after.skipped
  match q.rest with
  | ':' :: cs =>
    if !endsWord cs then return .phrase found q
    else if p.mayBeginKey && p.line = q.line && q.column ≤ p.column + maxKey then
      return .key found (q.advance 1)
    else throw .nestedEntry
  | _ => return .phrase found q

/-- Reads the entries of a mapping from the value of a key on; `column` is where its keys begin.  The
first argument bounds the number of keys. -/
def mappingFrom : Nat → (column : Nat) → (sofar : List (Phrase × Node)) → (key : Phrase) → Place →
    Except Error (Node × Place)
  | 0, _, _, _, _ => .error .badIndent
  | bound + 1, column, sofar, key, p => do
    let p := p.skipped
    let (node, p) ←
      if p.isEnd || p.column ≤ column then pure (Node.empty, p)
      else match ← Item.read (column + 1) p with
        | .phrase found after => pure (.phrase found, after)
        | .key found after => mappingFrom bound p.column [] found after
    let entries := sofar ++ [(key, node)]
    if p.isEnd || p.column < column then return (.mapping entries, p)
    else if p.column > column then throw .badIndent
    else match ← Item.read (column + 1) p with
      | .phrase .. => throw .notEntry
      | .key found after => mappingFrom bound column entries found after

def Node.read (p : Place) : Except Error (Node × Place) := do
  if p.isEnd then return (.empty, p)
  match ← Item.read 0 p with
  | .phrase found after => return (.phrase found, after)
  | .key found after => mappingFrom p.rest.length p.column [] found after

/-- Whether a document is followed by nothing but marks of its end.  The first argument bounds their
number. -/
def isLast : Nat → Place → Bool
  | 0, _ => false
  | bound + 1, p => p.rest.isEmpty || (p.isMark '.' && isLast bound (p.advance 3).skipped)

def nodeOf (text : String) : Except Error Node := do
  let cs := unifyBreaks text.toList
  if !cs.all isAllowed then throw .badCharacter
  let p := (Place.ofText cs).skipped
  if p.isMark '.' then throw .badBeginning
  let (node, p) ← Node.read (if p.isMark '-' then (p.advance 3).skipped else p)
  if isLast (p.rest.length + 1) p then return node else throw .secondDocument

def read (text : String) : Except Error Value := do
  (← nodeOf text).value

end PowerDiscovery.Document
