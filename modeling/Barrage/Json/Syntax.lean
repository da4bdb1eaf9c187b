/-!
# JSON texts

The syntax trees of JSON.  Numbers and texts are kept as they are written, so
that a tree has one written form without spaces, `compact`.  `pretty` spreads
the same tree over lines, two spaces for every level.
-/

namespace Barrage

/-- A JSON value, as it is written. -/
inductive Json
  | null
  | boolean (value : Bool)
  /-- A number, by the characters it is written with. -/
  | number (token : List Char)
  /-- A text, by the characters between its quotes. -/
  | text (body : List Char)
  | array (items : List Json)
  /-- An object, by its members in order.  A key is given like a text. -/
  | object (members : List (List Char × Json))

namespace Json

/-- A text between quotes. -/
def inQuotes (body : List Char) : List Char :=
  '"' :: (body ++ ['"'])

mutual

/-- The written form without spaces. -/
def compact : Json → List Char
  | null => ['n', 'u', 'l', 'l']
  | boolean true => ['t', 'r', 'u', 'e']
  | boolean false => ['f', 'a', 'l', 's', 'e']
  | number token => token
  | text body => inQuotes body
  | array items => '[' :: (compactItems items ++ [']'])
  | object members => '{' :: (compactMembers members ++ ['}'])

/-- Items with commas between them. -/
def compactItems : List Json → List Char
  | [] => []
  | [item] => item.compact
  | item :: next :: rest => item.compact ++ ',' :: compactItems (next :: rest)

/-- Members with commas between them. -/
def compactMembers : List (List Char × Json) → List Char
  | [] => []
  | [(key, value)] => inQuotes key ++ ':' :: value.compact
  | (key, value) :: next :: rest =>
      inQuotes key ++ ':' :: (value.compact ++ ',' :: compactMembers (next :: rest))

end

/-- The start of a line at some level. -/
def newLine (level : Nat) : List Char :=
  '\n' :: List.replicate (2 * level) ' '

mutual

/-- The written form over several lines, inside `level` other values. -/
def prettyAt (level : Nat) : Json → List Char
  | array (item :: rest) =>
      '[' :: (prettyItems (level + 1) (item :: rest) ++ newLine level ++ [']'])
  | object (member :: rest) =>
      '{' :: (prettyMembers (level + 1) (member :: rest) ++ newLine level ++ ['}'])
  | array [] => ['[', ']']
  | object [] => ['{', '}']
  | null => ['n', 'u', 'l', 'l']
  | boolean true => ['t', 'r', 'u', 'e']
  | boolean false => ['f', 'a', 'l', 's', 'e']
  | number token => token
  | text body => inQuotes body

/-- Items with commas between them, each on a line of its own. -/
def prettyItems (level : Nat) : List Json → List Char
  | [] => []
  | [item] => newLine level ++ item.prettyAt level
  | item :: next :: rest =>
      newLine level ++ item.prettyAt level ++ ',' :: prettyItems level (next :: rest)

/-- Members with commas between them, each on a line of its own. -/
def prettyMembers (level : Nat) : List (List Char × Json) → List Char
  | [] => []
  | [(key, value)] => newLine level ++ inQuotes key ++ ':' :: ' ' :: value.prettyAt level
  | (key, value) :: next :: rest =>
      newLine level ++ inQuotes key ++ ':' :: ' ' :: value.prettyAt level ++
        ',' :: prettyMembers level (next :: rest)

end

/-- The written form over several lines. -/
def pretty (json : Json) : List Char :=
  json.prettyAt 0

end Json

end Barrage
