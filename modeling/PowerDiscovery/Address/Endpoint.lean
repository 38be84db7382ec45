import PowerDiscovery.Address.Span

/-! # Ends of ranges

A range is named by the texts of its two ends.  An argument that holds only the mark `--` gives an end
that has no text; it is an end all the same, and it names no address. -/

namespace PowerDiscovery

inductive Endpoint where
  | text (s : String)
  | wordless
deriving DecidableEq, Repr

namespace Endpoint

def display : Endpoint → String
  | text s => s
  | wordless => "[]"

instance : ToString Endpoint := ⟨display⟩

end Endpoint

def Span.ofEndpoints : Endpoint → Endpoint → Except Address.Error Span
  | .text start, .text stop => Span.read start stop
  | .text start, .wordless => do
    let _ ← Address.read start
    throw .wordless
  | .wordless, _ => .error .wordless

end PowerDiscovery
