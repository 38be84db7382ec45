import PowerDiscovery.Document.Place

/-! # Phrases of a document

A phrase is a scalar as a document writes it: words, or text in quotes.  Either may go on over several
lines, whose breaks are folded. -/

namespace PowerDiscovery.Document

open Text

inductive Phrase where
  | plain (cs : List Char)
  | quoted (cs : List Char)

namespace Phrase

def value : Phrase → Except Error Value
  | .plain cs => resolve cs
  | .quoted cs => .ok (.text (String.ofList cs))

def key (phrase : Phrase) : Except Error String := do
  match ← phrase.value with
  | .null => return "null"
  | .truth b => return toString b
  | v => return v.display

/-- The word at the beginning of a text: up to a gap, or to a colon before a gap. -/
def wordOf : List Char → List Char
  | [] => []
  | c :: cs => if isGap c || (c = ':' && endsWord cs) then [] else c :: wordOf cs

def indicators : List Char :=
  ['-', '?', ':', ',', '[', ']', '\x7b', '\x7d', '#', '&', '*', '!', '|', '>', '\'', '"', '%', '@',
    '\x60']

/-- Whether words may begin where a text begins.  Three of the indicators may begin a longer word. -/
def beginsWord : List Char → Bool
  | [] => false
  | c :: cs =>
    if indicators.contains c then ['-', '?', ':'].contains c && !endsWord cs else !isGap c

/-- Reads words as far as they go; lines have to be indented by a number of blanks at least.  The first
argument bounds the number of words. -/
def wordsFrom (indent : Nat) : Nat → Place → List Char × Place
  | 0, p => ([], p)
  | bound + 1, p =>
    let word := wordOf p.rest
    let (between, q) := (p.advance word.length).gap isSpace
    let isOver := between.isEmpty || q.isBorder || q.column < indent || (wordOf q.rest).isEmpty
      || q.rest.head? == some '#'
    if isOver then (word, q)
    else
      let (more, after) := wordsFrom indent bound q
      (word ++ between ++ more, after)

def escapes : List (Char × Char) := [('0', '\x00'), ('a', '\x07'), ('b', '\x08'), ('t', '\t'),
  ('\t', '\t'), ('n', '\n'), ('v', '\x0b'), ('f', '\x0c'), ('r', '\r'), ('e', '\x1b'), (' ', ' '),
  ('"', '"'), ('/', '/'), ('\\', '\\'), ('N', '\x85'), ('_', '\xa0'), ('L', '\u2028'),
  ('P', '\u2029')]

/-- The letters of escapes by number, and how many hexadecimal digits follow them. -/
def numbered : List (Char × Nat) := [('x', 2), ('u', 4), ('U', 8)]

def numberedChar? (width : Nat) (cs : List Char) : Option Char := do
  let digits ← cs.mapM (digitIn? 16)
  let n := ofDigits 16 digits
  if digits.length = width && n.isValidChar then some (Char.ofNat n) else none

def isQuotedSpace (c : Char) : Bool := c == ' ' || c == '\t'

def quotedGap (taken : List Char × Place) : Except Error (List Char × Place) :=
  if taken.2.isBorder then .error .secondDocument else .ok taken

def escape (p : Place) : Except Error (List Char × Place) :=
  match p.rest with
  | [] => .error .openQuote
  | c :: cs =>
    if isBreak c then quotedGap (p.nextLine.breaks isQuotedSpace)
    else match escapes.lookup c, numbered.lookup c with
      | some stood, _ => .ok ([stood], p.advance 1)
      | none, some width => match numberedChar? width (cs.take width) with
        | some stood => .ok ([stood], p.advance (width + 1))
        | none => .error .badEscape
      | none, none => .error .badEscape

/-- Reads text up to its closing quote.  Between single quotes, two of them stand for one; between double
quotes there are escapes.  The second argument bounds the number of parts. -/
def quotedFrom (quote : Char) : Nat → Place → Except Error (List Char × Place)
  | 0, _ => .error .openQuote
  | bound + 1, p => match p.rest with
    | [] => .error .openQuote
    | c :: cs =>
      if c = quote && !(quote = '\'' && cs.head? = some quote) then .ok ([], p.advance 1)
      else do
        let (part, q) ←
          if c = quote then pure ([quote], p.advance 2)
          else if isGap c then quotedGap (p.gap isQuotedSpace)
          else if quote = '"' && c = '\\' then escape (p.advance 1)
          else pure ([c], p.advance 1)
        let (more, after) ← quotedFrom quote bound q
        return (part ++ more, after)

/-- Reads the phrase at a place, and gives the place after it.  The lines of a phrase without quotes have
to be indented by a number of blanks at least. -/
def read (indent : Nat) (p : Place) : Except Error (Phrase × Place) :=
  match p.rest with
  | [] => .error .badBeginning
  | c :: cs =>
    if c = '"' || c = '\'' then do
      let (text, after) ← quotedFrom c (cs.length + 1) (p.advance 1)
      return (.quoted text, { after with mayBeginKey := false })
    else if beginsWord (c :: cs) then
      let (text, after) := wordsFrom indent (cs.length + 1) p
      .ok (.plain text, after)
    else .error .badBeginning

end Phrase

end PowerDiscovery.Document
