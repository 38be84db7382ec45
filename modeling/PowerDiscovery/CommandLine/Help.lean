import PowerDiscovery.Backend
import PowerDiscovery.CommandLine.Flag

/-! # The help text

The help text is laid out for a terminal of a certain width: first every option in brackets, then the
options in their groups with a text for each.  Texts are broken at spaces, and after a hyphen between two
letters and two letters more. -/

namespace PowerDiscovery.CommandLine

/-- The measures of the help text: its width, the indentation of options, and the column of their texts. -/
structure Measures where
  width : Nat := 78
  indent : Nat := 2
  column : Nat := 24

def spaces (n : Nat) : String := String.ofList (List.replicate n ' ')

/-- The pieces of a text between which a line may be broken: words, with their hyphenated parts apart,
and single spaces. -/
def breakPieces (before : List Char) : List Char → List String
  | [] => if before.isEmpty then [] else [String.ofList before.reverse]
  | c :: cs =>
    if c = ' ' then
      (if before.isEmpty then [] else [String.ofList before.reverse]) ++ " " :: breakPieces [] cs
    else
      let endsPart := c == '-' && (before.take 2).length == 2 && (before.take 2).all Char.isAlphanum
        && (cs.take 2).length == 2 && (cs.take 2).all Char.isAlphanum
      if endsPart then String.ofList (c :: before).reverse :: breakPieces [] cs
      else breakPieces (c :: before) cs

def closeLine (line : List String) : String :=
  String.join (if line.getLast? == some " " then line.dropLast else line)

def fill (width : Nat) (line : List String) : List String → List String
  | [] => if line.isEmpty then [] else [closeLine line]
  | piece :: pieces =>
    if (String.join line).length + piece.length ≤ width then
      fill width (if line.isEmpty && piece == " " then [] else line ++ [piece]) pieces
    else closeLine line :: fill width (if piece == " " then [] else [piece]) pieces

def wrap (width : Nat) (text : String) : List String :=
  fill width [] (breakPieces [] text.toList)

/-- Fills lines up to a width with parts that are not broken; the first line begins with a head, and the
others are indented by its length. -/
def fillParts (width : Nat) (head : String) : List String → List String
  | [] => []
  | part :: parts => go (head ++ part) parts
where
  /-- Goes on with a line that holds at least one part. -/
  go (line : String) : List String → List String
    | [] => [line]
    | part :: parts =>
      if line.length + 1 + part.length ≤ width then go (line ++ " " ++ part) parts
      else line :: go (spaces head.length ++ part) parts

def Flag.usage (f : Flag) : String :=
  f.shortName?.getD f.long ++ (f.operand.metavar?.map (" " ++ ·)).getD ""

def usageParts : List Flag → List String
  | [] => []
  | .showChecked :: rest =>
    let modes := String.intercalate " | " (Flag.modes.map Flag.usage)
    s!"[{modes}]" :: usageParts rest
  | f :: rest =>
    if Flag.modes.contains f then usageParts rest else s!"[{f.usage}]" :: usageParts rest

def Flag.invocation (f : Flag) : String :=
  String.intercalate ", " (f.names.map fun name => name ++ (f.operand.metavar?.map (" " ++ ·)).getD "")

/-- The lines of an option in the list of options: its text begins in the first of them if there is
room. -/
def Flag.helpLines (m : Measures) (f : Flag) : List String :=
  let text := wrap (m.width - m.column) f.spec.help
  let invocation := f.invocation
  let room := m.column - m.indent - 2
  let later (lines : List String) := lines.map (spaces m.column ++ ·)
  match text with
  | first :: others =>
    if invocation.length ≤ room then
      (spaces m.indent ++ invocation ++ spaces (room + 2 - invocation.length) ++ first) :: later others
    else (spaces m.indent ++ invocation) :: later text
  | [] => [spaces m.indent ++ invocation]

def groupLines (m : Measures) (title : String) (flags : List Flag) : List String :=
  (title ++ ":") :: flags.flatMap (Flag.helpLines m)

def missingNote (b : Backend) : String :=
  s!"* Options for {b.description} scan not enabled: library not detected."

def helpText (available : Backend → Bool) : String :=
  let m : Measures := {}
  let usage := fillParts m.width "usage: powerscan " (usageParts Flag.all)
  let purpose := ["powerscan: utility for detection of available power devices."]
  let groups := Flag.groups.map fun (title, flags) => groupLines m title flags
  let notes := (Backend.all.filter fun b => !available b).map missingNote
  let blocks := usage :: purpose :: groups ++ (if notes.isEmpty then [] else [notes])
  String.intercalate "\n\n" (blocks.map (String.intercalate "\n")) ++ "\n"

end PowerDiscovery.CommandLine
