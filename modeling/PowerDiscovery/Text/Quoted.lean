/-! # Quoted values of a report

A value stands between double quotes; a backslash and a double quote inside it are preceded by a
backslash, and every other character stands for itself.  The closing quote is the first one that no
backslash precedes, so `unquote` finds the value and what follows it. -/

namespace PowerDiscovery.Text

def escape : List Char → List Char
  | [] => []
  | c :: cs => if c = '\\' || c = '"' then '\\' :: c :: escape cs else c :: escape cs

def quote (cs : List Char) : List Char :=
  '"' :: (escape cs ++ ['"'])

/-- Reads an escaped text up to its closing quote; gives the value and what follows the quote. -/
def unescape : List Char → Option (List Char × List Char)
  | [] => none
  | '"' :: rest => some ([], rest)
  | '\\' :: c :: rest => (unescape rest).map fun (cs, tail) => (c :: cs, tail)
  | c :: rest => if c = '\\' then none else (unescape rest).map fun (cs, tail) => (c :: cs, tail)

def unquote : List Char → Option (List Char × List Char)
  | '"' :: rest => unescape rest
  | _ => none

theorem count_escape {c : Char} (h : c ≠ '\\') (cs : List Char) : (escape cs).count c = cs.count c := by
  induction cs with
  | nil => rfl
  | cons first cs ih =>
    by_cases hfirst : first = '\\' ∨ first = '"'
    · simp [escape, hfirst, ih, List.count_cons, Ne.symm h]
    · simp [escape, hfirst, ih, List.count_cons]

theorem unescape_escape (cs rest : List Char) :
    unescape (escape cs ++ '"' :: rest) = some (cs, rest) := by
  induction cs with
  | nil => simp [escape, unescape]
  | cons c cs ih =>
    by_cases hb : c = '\\'
    · subst hb; simp [escape, unescape, ih]
    · by_cases hq : c = '"'
      · subst hq; simp [escape, unescape, ih]
      · simp [escape, unescape, ih, hb, hq]

theorem unquote_quote (cs rest : List Char) : unquote (quote cs ++ rest) = some (cs, rest) := by
  simp [quote, unquote, unescape_escape]

def quoted (s : String) : String :=
  String.ofList (quote s.toList)

end PowerDiscovery.Text
