import PowerDiscovery.Document.Scalar

/-! # Places in a document

A place is the text that follows it, with its line and its column.  Blanks and comments may stand between
the parts of a document; a tab may stand in quotes and comments only.  Three dashes or three dots at the
beginning of a line are the border of a document. -/

namespace PowerDiscovery.Document

def isAllowed (c : Char) : Bool :=
  let n := c.toNat
  n == 0x09 || n == 0x0A || n == 0x0D || (0x20 ≤ n && n ≤ 0x7E) || n == 0x85
    || (0xA0 ≤ n && n ≤ 0xFFFD) || 0x10000 ≤ n

def unifyBreaks : List Char → List Char
  | [] => []
  | '\r' :: '\n' :: cs => '\n' :: unifyBreaks cs
  | c :: cs => (if c = '\r' || c.toNat = 0x85 then '\n' else c) :: unifyBreaks cs

def isBreak (c : Char) : Bool :=
  c == '\n' || c.toNat == 0x2028 || c.toNat == 0x2029

def isSpace (c : Char) : Bool := c == ' '

def isGap (c : Char) : Bool := c == ' ' || c == '\t' || isBreak c

def endsWord (cs : List Char) : Bool := cs.head?.all isGap

/-- A place in a document.  A key may begin only where its line begins. -/
structure Place where
  rest : List Char
  line : Nat := 0
  column : Nat := 0
  mayBeginKey : Bool := true

namespace Place

def ofText (cs : List Char) : Place :=
  { rest := match cs with
      | c :: rest => if c.toNat = 0xFEFF then rest else cs
      | [] => [] }

def advance (p : Place) (n : Nat) : Place :=
  { p with rest := p.rest.drop n, column := p.column + n, mayBeginKey := false }

def nextLine (p : Place) : Place :=
  { rest := p.rest.drop 1, line := p.line + 1 }

def isMark (mark : Char) (p : Place) : Bool :=
  p.column == 0 && p.rest.take 3 == [mark, mark, mark] && endsWord (p.rest.drop 3)

def isBorder (p : Place) : Bool := p.isMark '-' || p.isMark '.'

def isEnd (p : Place) : Bool := p.rest.isEmpty || p.isBorder

def skipped (p : Place) : Place := go false p.line p.column p.mayBeginKey p.rest
where
  /-- Goes on inside or outside of a comment. -/
  go (inComment : Bool) (line column : Nat) (mayBeginKey : Bool) : List Char → Place
    | [] => ⟨[], line, column, mayBeginKey⟩
    | c :: cs =>
      if isBreak c then go false (line + 1) 0 true cs
      else if inComment || c = ' ' then go inComment line (column + 1) mayBeginKey cs
      else if c = '#' then go true line (column + 1) mayBeginKey cs
      else ⟨c :: cs, line, column, mayBeginKey⟩

/-- The line breaks at the beginning of a line, with space between them, and the place after them.  The
last argument tells what counts as space.  A border ends them. -/
def breaks (p : Place) (space : Char → Bool) : List Char × Place := go p.line p.column p.rest
where
  /-- Goes on from a line and a column. -/
  go (line column : Nat) : List Char → List Char × Place
    | [] => ([], { rest := [], line := line, column := column })
    | c :: cs =>
      let here : Place := { rest := c :: cs, line := line, column := column }
      if here.isBorder then ([], here)
      else if isBreak c then
        let (others, after) := go (line + 1) 0 cs
        (c :: others, after)
      else if space c then go line (column + 1) cs
      else ([], here)

/-- What a line break and those that follow it stand for inside a text: a single line feed is a blank, and
of several line breaks the first is dropped if it is a line feed. -/
def folded (first : Char) (others : List Char) : List Char :=
  if first ≠ '\n' then first :: others
  else if others.isEmpty then [' ']
  else others

/-- What the space at a place stands for inside a text, and the place after it.  Space before or after a
line break is dropped. -/
def gap (p : Place) (space : Char → Bool) : List Char × Place :=
  let blanks := p.rest.takeWhile space
  let q := p.advance blanks.length
  match q.rest with
  | [] => (blanks, q)
  | c :: _ =>
    if isBreak c then
      let (others, after) := q.nextLine.breaks space
      (folded c others, after)
    else (blanks, q)

end Place

end PowerDiscovery.Document
