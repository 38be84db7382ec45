import PowerDiscovery.Document.Phrase

/-! # Nodes of a document

A node is what a document holds in one place, as it is written: nothing, a phrase, or a mapping of phrases
to nodes.  Phrases take their values only when the whole document has been read. -/

namespace PowerDiscovery.Document

inductive Node where
  | empty
  | phrase (p : Phrase)
  | mapping (entries : List (Phrase × Node))

namespace Node

mutual

def value : Node → Except Error Value
  | .empty => .ok .null
  | .phrase p => p.value
  | .mapping entries => .mapping <$> valuesFrom [] entries

/-- The values of entries after those that are known.  Of several entries with one key the last one
counts, in the place of the first one. -/
def valuesFrom (known : List (String × Value)) :
    List (Phrase × Node) → Except Error (List (String × Value))
  | [] => .ok known
  | (key, node) :: entries => do
    let name ← key.key
    let v ← node.value
    valuesFrom (Value.setEntry known name v) entries

end

end Node

end PowerDiscovery.Document
