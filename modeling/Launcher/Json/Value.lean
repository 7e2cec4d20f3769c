import Launcher.Text.Decimal

/-! JSON values with whole numbers, and their compact printed form. -/

namespace Launcher

/-- A JSON value; an object lists its members in the order in which they are printed. -/
inductive Json where
  /-- The absent value. -/
  | null
  /-- A truth value. -/
  | bool (value : Bool)
  /-- A whole number of any size. -/
  | int (value : Int)
  /-- A text. -/
  | str (text : String)
  /-- A list of values. -/
  | arr (items : List Json)
  /-- Named values. -/
  | obj (members : List (String × Json))
  deriving Repr, Inhabited

namespace Json

/-- A list of texts as a value. -/
def texts (items : List String) : Json := .arr (items.map .str)

/-- The spelling of one character inside a JSON string. -/
def escape (char : Char) : List Char :=
  match char with
  | '"' => ['\\', '"']
  | '\\' => ['\\', '\\']
  | '\x08' => ['\\', 'b']
  | '\t' => ['\\', 't']
  | '\n' => ['\\', 'n']
  | '\x0c' => ['\\', 'f']
  | '\r' => ['\\', 'r']
  | _ =>
    -- Of the codes below the space, only the last two hexadecimal digits vary.
    if char.toNat < 0x20 then
      ['\\', 'u', '0', '0', Nat.digitChar (char.toNat / 16), Nat.digitChar (char.toNat % 16)]
    else [char]

/-- A text as a JSON string. -/
def quoteChars (text : String) : List Char := '"' :: (text.toList.flatMap escape ++ ['"'])

mutual

/-- The characters of a value's compact form. -/
def renderChars : Json → List Char
  | .null => ['n', 'u', 'l', 'l']
  | .bool true => ['t', 'r', 'u', 'e']
  | .bool false => ['f', 'a', 'l', 's', 'e']
  | .int value => (Decimal.ofInt value).toList
  | .str text => quoteChars text
  | .arr [] => ['[', ']']
  | .arr (item :: items) => '[' :: (renderChars item ++ renderItems items)
  | .obj [] => ['{', '}']
  | .obj ((name, value) :: members) =>
    '{' :: (quoteChars name ++ ':' :: (renderChars value ++ renderMembers members))

/-- The further items of a list, up to its closing bracket. -/
def renderItems : List Json → List Char
  | [] => [']']
  | item :: items => ',' :: (renderChars item ++ renderItems items)

/-- The further members of an object, up to its closing brace. -/
def renderMembers : List (String × Json) → List Char
  | [] => ['}']
  | (name, value) :: members =>
    ',' :: (quoteChars name ++ ':' :: (renderChars value ++ renderMembers members))

end

/-- A value's compact form, without blanks between its parts. -/
def render (value : Json) : String := String.ofList value.renderChars

end Json

end Launcher
