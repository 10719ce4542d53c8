import Tabletop.Expr.Grammar
import Tabletop.Expr.Parser

/-!
What is wrong with a text that is no dice notation. The complaint is about the furthest place that a
rule looked at, and lists what could have stood there, in the order in which it was looked for.
Reading a number that has no leading zero forgets all earlier findings. A number out of range is a
complaint of its own, which gives the name of the number, unless something else is looked for in its
place.
-/
namespace Tabletop

inductive Expected where
  | char (c : Char)
  | finish
  deriving DecidableEq

/-- What was found so far. Places are given by the text that follows them. -/
inductive Finding where
  | missing (rest : Text) (expected : List Expected)
  | outOfRange (name : Option Text) (start rest : Text)
  | several (start rest : Text)

namespace Finding

def place : Finding → Text
  | missing rest _ => rest
  | outOfRange _ start _ | several start _ => start

def note (item : Expected) (text : Text) (finding : Finding) : Finding :=
  if text.length < finding.place.length then missing text [item]
  else if finding.place.length < text.length then finding
  else match finding with
    | missing rest expected =>
        missing rest (if item ∈ expected then expected else expected ++ [item])
    | outOfRange _ start rest | several start rest => several start rest

end Finding

/-- What follows the part of a text that a rule applies to, if it does, and what was found. -/
abbrev Walk := Text → Finding → Option Text × Finding

namespace Walk

def char (expected : Char) : Walk := fun text finding =>
  match text with
  | c :: rest =>
    if c = expected then (some rest, finding) else (none, finding.note (.char expected) text)
  | [] => (none, finding.note (.char expected) text)

def number (name : Option Text) (limit : Nat) : Walk := fun text finding =>
  match Reader.digits text with
  | none => (none, finding.note (.char '0') text)
  | some (digits, rest) =>
    if digits.head? = some '0' then (some rest, finding)
    -- What was found in front of the number is forgotten, even if something is missing behind it.
    else if Text.digitsValue digits ≤ limit then (some rest, .missing rest [])
    else (none, .outOfRange name text rest)

def repeated (walk : Walk) : Nat → Walk
  | 0 => fun text finding => (some text, finding)
  | bound + 1 => fun text finding =>
    match walk text finding with
    | (some rest, finding) => repeated walk bound rest finding
    | (none, finding) => (some text, finding)

def ofRule (inner : Walk) : Rule → Walk
  | .char c => char c
  | .number name limit => number name limit
  | .blanks => fun text finding => (some text.trimStart, finding)
  | .finish => fun text finding =>
    if text.isEmpty then (some [], finding) else (none, finding.note .finish text)
  | .seq first second => fun text finding =>
    match ofRule inner first text finding with
    | (some rest, finding) => ofRule inner second rest finding
    | (none, finding) => (none, finding)
  | .choice first second => fun text finding =>
    match ofRule inner first text finding with
    | (some rest, finding) => (some rest, finding)
    | (none, finding) => ofRule inner second text finding
  | .optional rule => fun text finding =>
    match ofRule inner rule text finding with
    | (some rest, finding) => (some rest, finding)
    | (none, finding) => (some text, finding)
  -- Every reading shortens the text, so the bound is never met.
  | .many rule => fun text finding => repeated (ofRule inner rule) (text.length + 1) text finding
  | .inner => inner

def expression : Nat → Walk
  | 0 => fun _ finding => (none, finding)
  | depth + 1 => ofRule (expression depth) .expression

end Walk

structure SyntaxError where
  start : Nat
  stop : Nat
  message : Text
  deriving DecidableEq

namespace Expected

def text : Expected → Text
  | char c => ['\'', c, '\'']
  | finish => "end of input"

def listText : List Expected → Text
  | [] => "something else"
  | [item] => item.text
  | items => Text.joined [',', ' '] (items.dropLast.map text) ++ ", or " ++
      (items.getLast?.map text).getD []

end Expected

def Finding.complaint (text : Text) (finding : Finding) : SyntaxError :=
  let offset (rest : Text) : Nat := text.byteLength - rest.byteLength
  match finding with
  | outOfRange name start rest =>
    let label : Text := name.elim [] fun name => name ++ ": "
    ⟨offset start, offset rest, label ++ "number too large to fit in target type"⟩
  | several start rest => ⟨offset start, offset rest, "multiple errors"⟩
  | missing rest expected =>
    let found : Text := match rest with
      | [] => "end of input".toList
      | c :: _ => [c]
    ⟨offset rest, offset rest.tail, "found " ++ found ++ " expected " ++ Expected.listText expected⟩

def Rule.complaint (rule : Rule) (text : Text) : SyntaxError :=
  let walk := Walk.ofRule (Walk.expression text.length) (seq rule finish)
  (walk text (.missing text [])).2.complaint text

def Dice.parse (text : Text) : Except SyntaxError Dice :=
  match Dice.parse? text with
  | some dice => .ok dice
  | none => .error ((Rule.padded .dice).complaint text.lowercase)

def DiceExpr.parse (text : Text) : Except SyntaxError DiceExpr :=
  match DiceExpr.parse? text with
  | some expr => .ok expr
  | none => .error (Rule.expression.complaint text.lowercase)

end Tabletop
