import ContentModel.Markdown.Basic
import ContentModel.RichText.Node

/-!
# Rich text as Markdown

The Markdown form of rich text. Nothing is known here of content types; only the shapes of the
nodes count.

* `RichText.Kind` sorts the types of containers by how they are written;
* `RichText.Node.markdown` is the form of a node, `RichText.markdown` that of a value;
* `RichText.Node.tableRows` collects the rows of a table, those of its sections included.
-/

namespace ContentModel.RichText

/-- How containers are written. -/
inductive Kind
  | document
  | paragraph
  | heading (level : Nat)
  | quotation
  | bulletList
  | numberedList
  | listItem
  | codeBlock
  | rule
  | link
  | image
  | table
  | row
  /-- A head, body or foot of a table. -/
  | rowSection
  /-- A container that adds nothing to its children. -/
  | other
  deriving DecidableEq

/-- The kind of containers of a type. -/
def Kind.ofType : Option String → Kind
  | some "doc" => .document
  | some "p" => .paragraph
  | some "h1" => .heading 1
  | some "h2" => .heading 2
  | some "h3" => .heading 3
  | some "h4" => .heading 4
  | some "h5" => .heading 5
  | some "h6" => .heading 6
  | some "blockquote" => .quotation
  | some "ul" => .bulletList
  | some "ol" => .numberedList
  | some "li" => .listItem
  | some "code_block" => .codeBlock
  | some "code" => .codeBlock
  | some "hr" => .rule
  | some "a" => .link
  | some "link" => .link
  | some "img" => .image
  | some "image" => .image
  | some "table" => .table
  | some "tr" => .row
  | some "row" => .row
  | some "thead" => .rowSection
  | some "tbody" => .rowSection
  | some "tfoot" => .rowSection
  | _ => .other

/-- What a mark puts before and after a text. -/
def Mark.wrappers : Mark → String × String
  | .bold => ("**", "**")
  | .italic => ("*", "*")
  | .underline => ("<u>", "</u>")
  | .strikethrough => ("~~", "~~")
  | .code => ("\x60", "\x60")
  | .superscript => ("<sup>", "</sup>")
  | .subscript => ("<sub>", "</sub>")

/-- A text wrapped in marks, the first one innermost. The empty text is wrapped too. -/
def wrapMarks (text : String) (marks : List Mark) : String :=
  marks.foldl (fun text mark => mark.wrappers.1 ++ (text ++ mark.wrappers.2)) text

/-- Texts as the lines of a bullet list. -/
def bulletLines (items : List String) : List String :=
  items.map fun item => "- " ++ Text.strip item

/-- Texts as the lines of a numbered list, counting from a number. -/
def numberedLines : Nat → List String → List String
  | _, [] => []
  | n, item :: rest =>
    (Digits.intText n ++ (". " ++ Text.strip item)) :: numberedLines (n + 1) rest

/-- A row of a table from the forms of its cells. -/
def cellRow (cells : List String) : String :=
  Markdown.tableRow (cells.map fun cell => Markdown.escapeCell (Text.strip cell))

/-- A table from the forms of the cells of its rows, the first row being its head. -/
def tableText : List (List String) → String
  | [] => ""
  | head :: rows =>
    Text.joinWith "\n"
        (cellRow head :: Markdown.separatorRow head.length :: rows.map cellRow)
      ++ "\n\n"

/-- A container other than a table, from its attributes and the forms of its children. -/
def containerText (kind : Kind) (attrs : Members) (children : List String) : String :=
  let content := Text.concat children
  match kind with
  | .document => Text.strip content
  | .paragraph => content ++ "\n\n"
  | .heading level => Text.repeated level '#' ++ (" " ++ (content ++ "\n\n"))
  | .quotation => Markdown.blockquote content ++ "\n\n"
  | .bulletList => Text.joinWith "\n" (bulletLines children) ++ "\n\n"
  | .numberedList => Text.joinWith "\n" (numberedLines 1 children) ++ "\n\n"
  | .listItem => Text.strip content
  | .codeBlock =>
    "\x60\x60\x60" ++ (attr attrs ["language"]
      ++ ("\n" ++ (Text.strip content ++ "\n\x60\x60\x60\n\n")))
  | .rule => "---\n\n"
  | .link => "[" ++ (content ++ ("](" ++ (attr attrs ["url", "href"] ++ ")")))
  | .image =>
    let alt := attr attrs ["alt"]
    "![" ++ ((if alt.isEmpty then "Image" else alt)
      ++ ("](" ++ (attr attrs ["src", "url"] ++ ")\n\n")))
  | .table => content
  | .row => content
  | .rowSection => content
  | .other => content

namespace Node

mutual

/-- The Markdown form of a node. -/
def markdown : Node → String
  | .leaf text marks => wrapMarks text marks
  | .container type children attrs _ =>
    if Kind.ofType type = .table then tableText (tableRows children)
    else containerText (Kind.ofType type) attrs (markdownAll children)

/-- The Markdown forms of nodes. -/
def markdownAll : List Node → List String
  | [] => []
  | node :: rest => markdown node :: markdownAll rest

/-- The forms of the cells of the rows among nodes, and in the sections among them. -/
def tableRows : List Node → List (List String)
  | [] => []
  | node :: rest => rowsOf node ++ tableRows rest

/-- The forms of the cells of a row, or of the rows of a section. -/
def rowsOf : Node → List (List String)
  | .leaf _ _ => []
  | .container type children _ _ =>
    match Kind.ofType type with
    | .row => [markdownAll children]
    | .rowSection => tableRows children
    | _ => []

end

end Node

/-- The Markdown form of the rich text that a value describes; nothing for other values. -/
def markdown (value : Json) : String := ((Node.ofJson? value).map Node.markdown).getD ""

end ContentModel.RichText
