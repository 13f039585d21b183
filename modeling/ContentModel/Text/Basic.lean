/-!
# Text

Joining, splitting and replacing, on `List Char` where the work is done and on `String` where
the library is used.

* `joinWith` puts a separator between texts, `concat` nothing;
* `splitChars` cuts a text at every occurrence of a character, `joinChars` is its inverse
  (`joinChars_splitChars`);
* `replaceChar` puts a text in the place of every occurrence of a character;
* `dropPrefix?` takes a text off the front of another.
-/

namespace ContentModel.Text

/-- The texts in order with the separator between each two. -/
def joinWith (separator : String) : List String → String
  | [] => ""
  | [text] => text
  | text :: next :: rest => text ++ (separator ++ joinWith separator (next :: rest))

@[simp] theorem joinWith_nil (separator : String) : joinWith separator [] = "" := rfl

@[simp] theorem joinWith_singleton (separator text : String) :
    joinWith separator [text] = text := rfl

theorem joinWith_cons_cons (separator text next : String) (rest : List String) :
    joinWith separator (text :: next :: rest)
      = text ++ (separator ++ joinWith separator (next :: rest)) := rfl

/-- The texts in order, nothing between them. -/
def concat : List String → String
  | [] => ""
  | text :: rest => text ++ concat rest

@[simp] theorem concat_nil : concat [] = "" := rfl

@[simp] theorem concat_cons (text : String) (rest : List String) :
    concat (text :: rest) = text ++ concat rest := rfl

theorem concat_append (a b : List String) : concat (a ++ b) = concat a ++ concat b := by
  induction a with
  | nil => simp
  | cons text rest ih => simp [ih, String.append_assoc]

/-- The pieces of a text between the occurrences of a character; there is always one. -/
def splitChars (separator : Char) : List Char → List (List Char)
  | [] => [[]]
  | c :: rest =>
    if c = separator then [] :: splitChars separator rest
    else
      match splitChars separator rest with
      | [] => [[c]]
      | piece :: pieces => (c :: piece) :: pieces

/-- The pieces with the character between each two. -/
def joinChars (separator : Char) : List (List Char) → List Char
  | [] => []
  | [piece] => piece
  | piece :: next :: rest => piece ++ separator :: joinChars separator (next :: rest)

theorem splitChars_ne_nil (separator : Char) (text : List Char) :
    splitChars separator text ≠ [] := by
  cases text with
  | nil => simp [splitChars]
  | cons c rest =>
    simp only [splitChars]
    split
    · simp
    · split <;> simp

theorem joinChars_splitChars (separator : Char) (text : List Char) :
    joinChars separator (splitChars separator text) = text := by
  induction text with
  | nil => rfl
  | cons c rest ih =>
    simp only [splitChars]
    split
    · next h =>
      cases hs : splitChars separator rest with
      | nil => exact absurd hs (splitChars_ne_nil _ _)
      | cons piece pieces => rw [hs] at ih; simp [joinChars, ih, h]
    · cases hs : splitChars separator rest with
      | nil => exact absurd hs (splitChars_ne_nil _ _)
      | cons piece pieces =>
        rw [hs] at ih
        cases pieces with
        | nil => simpa [joinChars] using ih
        | cons next more => simpa [joinChars] using ih

/-- The lines of a text, cut at every line feed. -/
def lines (text : String) : List String :=
  (splitChars '\n' text.toList).map String.ofList

/-- Every occurrence of a character replaced. -/
def replaceChar (c : Char) (substitute : List Char) (text : List Char) : List Char :=
  text.flatMap fun d => if d = c then substitute else [d]

@[simp] theorem replaceChar_nil (c : Char) (substitute : List Char) :
    replaceChar c substitute [] = [] := rfl

theorem replaceChar_cons (c d : Char) (substitute text : List Char) :
    replaceChar c substitute (d :: text)
      = (if d = c then substitute else [d]) ++ replaceChar c substitute text := rfl

/-- What is left of a text after the given beginning, if it begins so. -/
def dropPrefix? : (beginning text : List Char) → Option (List Char)
  | [], text => some text
  | _ :: _, [] => none
  | b :: beginning, c :: text => if b = c then dropPrefix? beginning text else none

theorem dropPrefix?_append (beginning rest : List Char) :
    dropPrefix? beginning (beginning ++ rest) = some rest := by
  induction beginning with
  | nil => rfl
  | cons b beginning ih => simp [dropPrefix?, ih]

/-- A character repeated. -/
def repeated (n : Nat) (c : Char) : String := String.ofList (List.replicate n c)

end ContentModel.Text
