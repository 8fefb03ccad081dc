import PileCheck.Text.Search
import PileCheck.Toml.Quoted
import PileCheck.Toml.Scalar
import PileCheck.Toml.Tree

/-!
Reading a settings file.

A file is a sequence of lines, each of which names a table, adds one to a list of tables or gives a
value to a key of the table named last. Only a list and a long text go over several lines. The
readers return what they read and what follows; those that call each other are given two steps for
each character, and need no more.
-/
namespace PileCheck.Toml

open Settings (Source)

def skipBlanks (cs : List Char) : List Char := cs.dropWhile isBlank

/-- What follows a comment, if there is one. -/
def skipComment : List Char → List Char
  | '#' :: cs => cs.dropWhile isPlain
  | cs => cs

/-- What follows the end of the line, where only blanks and a comment may stand before it. -/
def endLine? (cs : List Char) : Option (List Char) :=
  match skipComment (skipBlanks cs) with
  | [] => some []
  | cs => afterLineBreak? cs

/-- Blanks, comments and line breaks. -/
def skipLines : Nat → List Char → List Char
  | 0, cs => cs
  | n + 1, cs =>
    match afterLineBreak? (skipComment (skipBlanks cs)) with
    | some rest => skipLines n rest
    | none => skipBlanks cs

/-! ## Keys -/

def isBare (c : Char) : Bool := c.isAlphanum || c == '_' || c == '-'

def name? (cs : List Char) : Reading :=
  match short? cs with
  | some r => some r
  | none =>
    let name := cs.takeWhile isBare
    if name.isEmpty then none else some (name, cs.dropWhile isBare)

/-- The names of a dotted key; blanks may stand around the dots. -/
def path? : Nat → List Char → Option (List String × List Char)
  | 0, _ => none
  | n + 1, cs =>
    (name? cs).bind fun (name, rest) =>
      match skipBlanks rest with
      | '.' :: rest =>
        (path? n (skipBlanks rest)).map fun (path, rest) => (String.ofList name :: path, rest)
      | rest => some ([String.ofList name], rest)

/-- A key up to its equals sign and the blanks after it. -/
def key? (cs : List Char) : Option (List String × String × List Char) :=
  (path? (cs.length + 1) cs).bind fun (path, rest) =>
    match path.getLast?, rest with
    | some name, '=' :: rest => some (path.dropLast, name, skipBlanks rest)
    | _, _ => none

/-! ## Values -/

mutual

def value? : Nat → List Char → Option (Source × List Char)
  | 0, _ => none
  | n + 1, cs =>
    match cs with
    | '[' :: rest => (items? n (skipLines n rest)).map fun (l, rest) => (.list true l, rest)
    | '\x7b' :: rest => table? n rest
    | '\"' :: _ => (text? cs).map fun (s, rest) => (.text (String.ofList s), rest)
    | '\'' :: _ => (text? cs).map fun (s, rest) => (.text (String.ofList s), rest)
    | cs =>
      let (word, rest) := takeWord cs
      (word? word).map (·, rest)

/-- The items of a list up to its bracket; a comma may follow the last one. -/
def items? : Nat → List Char → Option (List Source × List Char)
  | 0, _ => none
  | n + 1, cs =>
    match cs with
    | ']' :: rest => some ([], rest)
    | cs =>
      (value? n cs).bind fun (v, rest) =>
        match skipLines n rest with
        | ']' :: rest => some ([v], rest)
        | ',' :: rest => (items? n (skipLines n rest)).map fun (l, rest) => (v :: l, rest)
        | _ => none

/-- A table in one line. -/
def table? : Nat → List Char → Option (Source × List Char)
  | 0, _ => none
  | n + 1, cs =>
    match skipBlanks cs with
    | '\x7d' :: rest => some (.table true [], rest)
    | cs => (entries? n [] cs).map fun (es, rest) => (.table true (entriesSource es), rest)

/-- The entries of such a table up to its brace; no comma follows the last one. -/
def entries? : Nat → Entries → List Char → Option (Entries × List Char)
  | 0, _, _ => none
  | n + 1, es, cs =>
    (key? cs).bind fun (path, name, rest) =>
      (value? n rest).bind fun (v, rest) =>
        (es.assign? path name v .named).bind fun es =>
          match skipBlanks rest with
          | '\x7d' :: rest => some (es, rest)
          | ',' :: rest => entries? n es (skipBlanks rest)
          | _ => none

end

/-! ## Lines -/

inductive Line where
  | table (path : List String)
  /-- One more table of a list. -/
  | another (path : List String)
  | assign (path : List String) (name : String) (v : Source)

/-- The path of a header up to its closing brackets. -/
def header? (closing : List Char) (cs : List Char) : Option (List String × List Char) :=
  (path? (cs.length + 1) (skipBlanks cs)).bind fun (path, rest) =>
    (Text.dropWord? closing rest).map (path, ·)

/-- What a line that is not empty says. -/
def line? (cs : List Char) : Option (Line × List Char) :=
  match cs with
  | '[' :: '[' :: rest =>
    (header? [']', ']'] rest).map fun (path, rest) => (.another path, rest)
  | '[' :: rest => (header? [']'] rest).map fun (path, rest) => (.table path, rest)
  | cs =>
    (key? cs).bind fun (path, name, rest) =>
      (value? (2 * rest.length + 2) rest).map fun (v, rest) => (.assign path name v, rest)

/-- The file so far, and the path of the table named last. -/
structure Draft where
  entries : Entries := []
  place : List String := []

namespace Draft

/-- Makes a table at the end of a path the place to be. -/
def move? (d : Draft) (path : List String) (make : String → Entries → Option Entries) :
    Option Draft :=
  match path.getLast? with
  | none => none
  | some name =>
    (Entries.reach? false (fun _ es => make name es) path.dropLast .named d.entries).map
      fun entries => { entries, place := path }

def add? (d : Draft) : Line → Option Draft
  | .table path => d.move? path Entries.name?
  | .another path => d.move? path Entries.append?
  | .assign path name v =>
    (Entries.reach? false (Entries.assign? path name v) d.place .named d.entries).map fun entries =>
      { d with entries }

/-- Reads line after line. -/
def read? : Nat → Draft → List Char → Option Draft
  | 0, _, _ => none
  | n + 1, d, cs =>
    match skipBlanks cs with
    | [] => some d
    | cs =>
      match endLine? cs with
      | some rest => read? n d rest
      | none =>
        (line? cs).bind fun (l, rest) =>
          (d.add? l).bind fun d => (endLine? rest).bind (read? n d)

end Draft

/-- A mark of byte order, which may stand at the start of a file. -/
def byteOrderMark : Char := Char.ofNat 0xFEFF

/-- Reads a file. -/
def read? (s : String) : Option Source :=
  let cs := match s.toList with
    | c :: cs => if c = byteOrderMark then cs else c :: cs
    | [] => []
  (Draft.read? (cs.length + 2) {} cs).map fun d => .table true (entriesSource d.entries)

end PileCheck.Toml
