import Strom.Go.Strings

/-!
# JSON texts (`encoding/json`)

The text that `json.Marshal` writes for a value.  The fields of an object are in the order
in which they are written: that of a struct's fields, or that of a map's sorted keys.
-/

namespace Strom.Go

inductive Json where
  | string (s : String)
  | bool (b : Bool)
  /-- A number by its text. -/
  | number (text : String)
  | array (items : List Json)
  | object (fields : List (String × Json))

/-- A code unit as `\u` writes it. -/
def unicodeEscape (n : Nat) : List Char :=
  ['\\', 'u', hexDigit (n / 4096 % 16), hexDigit (n / 256 % 16), hexDigit (n / 16 % 16), hexDigit (n % 16)]

/-- One character of a JSON string, with the escapes that HTML needs. -/
def jsonRune (c : Char) : List Char :=
  if c = '"' ∨ c = '\\' then ['\\', c]
  else if c = '\n' then ['\\', 'n']
  else if c = '\r' then ['\\', 'r']
  else if c = '\t' then ['\\', 't']
  else if c.toNat = 8 then ['\\', 'b']
  else if c.toNat = 12 then ['\\', 'f']
  else if c.toNat < 0x20 ∨ c = '<' ∨ c = '>' ∨ c = '&' ∨ c.toNat = 0x2028 ∨ c.toNat = 0x2029 then
    unicodeEscape c.toNat
  else [c]

def jsonString (s : String) : List Char := '"' :: s.toList.flatMap jsonRune ++ ['"']

namespace Json

mutual

def chars : Json → List Char
  | .string s => jsonString s
  | .bool true => "true".toList
  | .bool false => "false".toList
  | .number text => text.toList
  | .array items => '[' :: itemsChars items ++ [']']
  | .object fields => '\x7b' :: fieldsChars fields ++ ['\x7d']

def itemsChars : List Json → List Char
  | [] => []
  | [item] => item.chars
  | item :: rest => item.chars ++ ',' :: itemsChars rest

def fieldsChars : List (String × Json) → List Char
  | [] => []
  | [(key, value)] => jsonString key ++ ':' :: value.chars
  | (key, value) :: rest => jsonString key ++ ':' :: value.chars ++ ',' :: fieldsChars rest

end

/-- `json.Marshal`. -/
def marshal (value : Json) : String := String.ofList value.chars

end Json

example : (Json.object [("on", .bool true), ("at", .array [.number "1.5", .string "<\n"])]).marshal =
    "\x7b\"on\":true,\"at\":[1.5,\"\\u003c\\n\"]\x7d" := by decide

end Strom.Go
