set_option autoImplicit false

namespace ExScript

inductive Json where
  | null
  | bool (value : Bool)
  | int (value : Int)
  -- A number that is written with a fraction or an exponent, or as minus zero.
  | real (text : String)
  | str (value : String)
  | arr (items : List Json)
  | obj (members : List (String × Json))
  /-- Well formed, and yet no value: text with half a surrogate pair, or an object that has such a key. -/
  | unpaired
deriving Repr

namespace Json

def ofOption {α : Type} (f : α → Json) : Option α → Json
  | none => null
  | some a => f a

def ofNat (n : Nat) : Json := int n

def escapeChar (c : Char) : List Char :=
  match c with
  | '"' => ['\\', '"']
  | '\\' => ['\\', '\\']
  | '\n' => ['\\', 'n']
  | '\r' => ['\\', 'r']
  | '\t' => ['\\', 't']
  | c =>
      if c.toNat < 0x20 then
        let digits := Nat.toDigits 16 c.toNat
        ['\\', 'u'] ++ List.replicate (4 - digits.length) '0' ++ digits
      else [c]

def renderString (s : String) : String :=
  String.ofList ('"' :: s.toList.flatMap escapeChar ++ ['"'])

mutual

def renderTo (out : String) : Json → String
  | null => out ++ "null"
  | bool value => out ++ toString value
  | int value => out ++ toString value
  | real text => out ++ text
  | str value => out ++ renderString value
  | arr items => renderItems (out ++ "[") items ++ "]"
  | obj members => renderMembers (out ++ "\x7b") members ++ "\x7d"
  | unpaired => out ++ "null"

def renderItems (out : String) : List Json → String
  | [] => out
  | [item] => renderTo out item
  | item :: next :: items => renderItems (renderTo out item ++ ",") (next :: items)

def renderMembers (out : String) : List (String × Json) → String
  | [] => out
  | [(key, value)] => renderTo (out ++ renderString key ++ ":") value
  | (key, value) :: next :: members =>
      renderMembers (renderTo (out ++ renderString key ++ ":") value ++ ",") (next :: members)

end

def render (value : Json) : String := renderTo "" value

end Json

end ExScript
