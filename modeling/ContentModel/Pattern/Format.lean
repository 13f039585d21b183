import ContentModel.Pattern.Matcher
import ContentModel.Pattern.Parser

/-!
# Field formats

The patterns that content types give as the format of a text field. Named groups are written
there as `(?<name>…)` and `\k<name>`, and are respelled as `Pattern.parse` reads them.

* `Format.namedGroups` and `Format.namedReferences` respell groups and references,
  `Format.respell` both;
* `Format.compile` reads a respelled format, and `Format.accepts` looks for it in a text.
-/

namespace ContentModel

/-- A format that was read. -/
structure Format where
  /-- The format as it was read. -/
  source : String
  pattern : Pattern
  flags : Flags

namespace Format

/-- Whether a character may begin the name of a group. -/
def isNameLetter (c : Char) : Bool :=
  ('a' ≤ c && c ≤ 'z') || ('A' ≤ c && c ≤ 'Z') || c = '_'

/-- A pattern with every `(?<` before a letter or underscore written as `(?P<`. -/
def namedGroups : List Char → List Char
  | [] => []
  | '(' :: '?' :: '<' :: c :: rest =>
    if isNameLetter c then '(' :: '?' :: 'P' :: '<' :: namedGroups (c :: rest)
    else '(' :: namedGroups ('?' :: '<' :: c :: rest)
  | c :: rest => c :: namedGroups rest

/-- The name of a reference and what follows it, after the opening angle bracket. -/
def referenceName? (text : List Char) : Option (List Char × List Char) :=
  let name := text.takeWhile Text.isWord
  match text.dropWhile Text.isWord with
  | '>' :: rest => if name.isEmpty then none else some (name, rest)
  | _ => none

/-- A pattern with every `\k<name>` written as `(?P=name)`, `skip` characters from its front
left out. -/
def namedReferencesFrom : (skip : Nat) → List Char → List Char
  | _, [] => []
  | skip + 1, _ :: rest => namedReferencesFrom skip rest
  | 0, '\\' :: rest =>
    match rest with
    | 'k' :: '<' :: text =>
      match referenceName? text with
      | some (name, after) =>
        "(?P=".toList ++ name
          ++ ')' :: namedReferencesFrom (rest.length - after.length) rest
      | none => '\\' :: namedReferencesFrom 0 rest
    | _ => '\\' :: namedReferencesFrom 0 rest
  | 0, c :: rest => c :: namedReferencesFrom 0 rest

/-- A pattern with every `\k<name>` written as `(?P=name)`. -/
def namedReferences (text : List Char) : List Char := namedReferencesFrom 0 text

/-- A format as `Pattern.parse` reads it. -/
def respell (format : String) : String :=
  String.ofList (namedReferences (namedGroups format.toList))

/-- Reads a format. -/
def compile (format : String) : Except PatternError Format :=
  let source := respell format
  match Pattern.parse source.toList with
  | .ok (pattern, flags) => .ok ⟨source, pattern, flags⟩
  | .error e => .error e

/-- Whether a text has a part that matches. -/
def accepts (format : Format) (text : String) : Bool := format.pattern.found format.flags text

end Format

end ContentModel
