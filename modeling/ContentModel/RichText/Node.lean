import ContentModel.Json.Basic

/-!
# Rich text

Documents of the rich text editor as trees of text runs and containers.

* `RichText.Node` is the tree, `RichText.Mark` an inline mark of a text run;
* `RichText.Node.ofJson?` reads a value; what does not look like a node is dropped;
* `RichText.attr` is the first of several attributes that is a nonempty string.
-/

namespace ContentModel.RichText

/-- An inline mark of a text run. -/
inductive Mark
  | bold
  | italic
  | underline
  | strikethrough
  | code
  | superscript
  | subscript
  deriving DecidableEq, Repr

namespace Mark

/-- All marks, in the order in which they wrap a text, innermost first. -/
def all : List Mark :=
  [bold, italic, underline, strikethrough, code, superscript, subscript]

/-- The key of a mark in a text run. -/
def name : Mark → String
  | .bold => "bold"
  | .italic => "italic"
  | .underline => "underline"
  | .strikethrough => "strikethrough"
  | .code => "code"
  | .superscript => "superscript"
  | .subscript => "subscript"

theorem mem_all (mark : Mark) : mark ∈ all := by cases mark <;> decide

end Mark

/-- A node of a rich text. -/
inductive Node
  /-- A run of text with marks. -/
  | leaf (text : String) (marks : List Mark)
  /-- A node of a type with children and attributes. -/
  | container (type : Option String) (children : List Node) (attrs : Members)
      (uid : Option String)

/-- A value as a string, if it is one. -/
def string? : Option Json → Option String
  | some (.str s) => some s
  | _ => none

/-- The marks whose keys have truthy values. -/
def marksOf (members : Members) : List Mark :=
  Mark.all.filter fun mark => ((members.get? mark.name).map Json.isTruthy).getD false

namespace Node

mutual

/-- The node that a value describes, if it is an object: a text run when it has a string as its
text, else a container. -/
def ofJson? : Json → Option Node
  | .obj members =>
    match string? (Members.get? members "text") with
    | some text => some (.leaf text (marksOf members))
    | none =>
      some (.container (string? (Members.get? members "type")) (childrenIn members)
        (((Members.get? members "attrs").map Json.members).getD [])
        (string? (Members.get? members "uid")))
  | _ => none

/-- The nodes that the children among the members of an object describe. -/
def childrenIn : List (String × Json) → List Node
  | [] => []
  | (key, value) :: rest => if key = "children" then listed value else childrenIn rest

/-- The nodes that the items of a list describe. -/
def listed : Json → List Node
  | .arr items => ofItems items
  | _ => []

/-- The nodes among the items of a list. -/
def ofItems : List Json → List Node
  | [] => []
  | item :: rest =>
    match ofJson? item with
    | some node => node :: ofItems rest
    | none => ofItems rest

end

end Node

/-- The first of several attributes that is a nonempty string, else the empty text. -/
def attr (attrs : Members) : List String → String
  | [] => ""
  | name :: rest =>
    match string? (attrs.get? name) with
    | some value => if value.isEmpty then attr attrs rest else value
    | none => attr attrs rest

end ContentModel.RichText
