import ContentModel.Text.HexDigit

/-!
# Tables of names

How the names of characters are written down, and the search for a name.

A name is cut into words (`CharName.words`), each with the blank or hyphen before it. A table lists
names in order, each as a small letter that tells how many words it shares with the one before it
(`a` for none) and its other words. Of these the first may lack its blank, and frequent words are
written as one sign (`CharName.frequentWords`). The names belong to successive code points, except
that `@` with hexadecimal digits says where the next one belongs.

* `CharName.entries` cuts a line of a table into its entries;
* `CharName.find?` searches a table for the words of a name.
-/

namespace ContentModel.Text.CharName

/-- The signs that stand for whole words in a table. -/
def frequentWords : List (Char × String) := [
  ('m', " LETTER"), ('n', " WITH"), ('o', " CAPITAL"), ('p', " SMALL"), ('q', " FORM"),
  ('r', " ARROW"), ('s', " SIGN"), ('t', " RIGHT"), ('u', " ABOVE"), ('v', " DOUBLE"),
  ('w', " ISOLATED"), ('x', " LEFT"), ('y', " RIGHTWARDS"), ('z', " AND"), ('!', " BELOW"),
  ('$', " FINAL"), ('%', " TRIANGLE"), ('&', " THREE"), ('*', " VERTICAL"), ('+', " LEFTWARDS"),
  (',', " INITIAL"), ('.', " STROKE"), (';', " SYMBOL"), ('<', " BLACK"), ('>', " MARK"),
  ('?', " WHITE"), ('[', " HORIZONTAL"), (']', " MIDDLE"), ('^', " TWO"), ('_', " HUNDRED"),
  ('|', " ONE"), ('~', " BRACKET")]

/-- Whether a word begins with a character. -/
def isJoint (c : Char) : Bool := c = ' ' || c = '-'

/-- A text cut before each blank and hyphen: what stands before the first of them, and the words. -/
def cut : List Char → List Char × List (List Char)
  | [] => ([], [])
  | c :: rest =>
    let (first, others) := cut rest
    if isJoint c then ([], (c :: first) :: others) else (c :: first, others)

theorem flatten_cut (text : List Char) : (cut text).1 ++ (cut text).2.flatten = text := by
  induction text with
  | nil => rfl
  | cons c rest ih => by_cases h : isJoint c <;> simpa [cut, h] using ih

/-- The words of a text that begins with a blank or hyphen. -/
def words (text : List Char) : List (List Char) := (cut text).2

/-- The words of a name; the first one has a blank before it, too. -/
def ofName (name : List Char) : List (List Char) := words (' ' :: name)

theorem flatten_ofName (name : List Char) : (ofName name).flatten = ' ' :: name := by
  simpa [ofName, words, cut, isJoint] using flatten_cut name

/-- Names are told apart by their words. -/
theorem ofName_inj {a b : List Char} : ofName a = ofName b ↔ a = b := by
  constructor
  · intro h
    have := congrArg List.flatten h
    simpa [flatten_ofName] using this
  · rintro rfl
    rfl

/-- What a character of an entry stands for. -/
def spelled (c : Char) : List Char :=
  match frequentWords.find? fun entry => entry.1 == c with
  | some (_, word) => word.toList
  | none => [c]

/-- Whether a character is a capital letter or a digit. -/
def isNameChar (c : Char) : Bool := ('A' ≤ c && c ≤ 'Z') || ('0' ≤ c && c ≤ '9')

/-- The words that an entry adds. -/
def added (body : List Char) : List (List Char) :=
  let text := body.flatMap spelled
  words (if (body.head?.map isNameChar).getD false then ' ' :: text else text)

/-- Whether an entry of a table begins with a character. -/
def isHead (c : Char) : Bool := c = '@' || ('a' ≤ c && c ≤ 'l')

/-- The entries of a line of a table, each as its first character and the others. -/
def entries : List Char → List (Char × List Char)
  | [] => []
  | c :: rest =>
    if isHead c then (c, rest.takeWhile fun d => !isHead d) :: entries rest else entries rest

/-- The code point of the name with the given words, among the entries of a table that follow a
name and begin with the name of a code point. -/
def findFrom (name : List (List Char)) :
    (code : Nat) → (previous : List (List Char)) → List (Char × List Char) → Option Nat
  | _, _, [] => none
  | code, previous, (head, body) :: rest =>
    if head = '@' then findFrom name (hexNumber body) previous rest
    else
      let next := previous.take (head.toNat - 'a'.toNat) ++ added body
      if next = name then some code else findFrom name (code + 1) next rest

/-- The code point that a name has in a table. -/
def find? (table : List String) (name : List Char) : Option Nat :=
  findFrom (ofName name) 0 [] (table.flatMap fun line => entries line.toList)

end ContentModel.Text.CharName
