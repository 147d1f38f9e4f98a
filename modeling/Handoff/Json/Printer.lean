import Handoff.Json.Basic

/-!
# Writing JSON

`render` writes a value on one line, `renderPretty` over several with two blanks per level.  A
double that is not finite is written as null.
-/

namespace Handoff.Json

def hexDigit (n : Nat) : Char := (Nat.toDigits 16 n).headD '0'

def escapeChar (c : Char) : List Char :=
  if c = '"' then ['\\', '"']
  else if c = '\\' then ['\\', '\\']
  else if c = '\n' then ['\\', 'n']
  else if c = '\r' then ['\\', 'r']
  else if c = '\t' then ['\\', 't']
  else if c = '\x08' then ['\\', 'b']
  else if c = '\x0c' then ['\\', 'f']
  else if c.toNat < 0x20 then
    ['\\', 'u', '0', '0', hexDigit (c.toNat / 16), hexDigit (c.toNat % 16)]
  else [c]

def quote (s : String) : String :=
  String.ofList ('"' :: s.toList.flatMap escapeChar ++ ['"'])

def renderNumber : JsonNumber → String
  | .int n => toString n
  | .real x => if x.isNaN || x.isInf then "null" else Decimal.scientific x

mutual
def render (v : Json) : String :=
  match v with
  | .null => "null"
  | .bool b => if b then "true" else "false"
  | .num n => renderNumber n
  | .str s => quote s
  | .arr items => "[" ++ String.intercalate "," (renderItems items) ++ "]"
  | .obj ms => "\x7b" ++ String.intercalate "," (renderMembers ms) ++ "\x7d"
termination_by structural v

def renderItems (vs : List Json) : List String :=
  match vs with
  | [] => []
  | v :: vs => render v :: renderItems vs
termination_by structural vs

def renderMembers (ms : List (String × Json)) : List String :=
  match ms with
  | [] => []
  | (k, v) :: ms => (quote k ++ ":" ++ render v) :: renderMembers ms
termination_by structural ms
end

def indentation (level : Nat) : String := String.ofList (List.replicate (2 * level) ' ')

/-- brackets around lines that are one level deeper -/
def block (opening closing : String) (level : Nat) (lines : List String) : String :=
  if lines.isEmpty then opening ++ closing
  else
    opening ++ "\n" ++
      String.intercalate ",\n" (lines.map fun l => indentation (level + 1) ++ l) ++
      "\n" ++ indentation level ++ closing

mutual
def renderAt (level : Nat) (v : Json) : String :=
  match v with
  | .null => "null"
  | .bool b => if b then "true" else "false"
  | .num n => renderNumber n
  | .str s => quote s
  | .arr items => block "[" "]" level (renderItemsAt (level + 1) items)
  | .obj ms => block "\x7b" "\x7d" level (renderMembersAt (level + 1) ms)
termination_by structural v

def renderItemsAt (level : Nat) (vs : List Json) : List String :=
  match vs with
  | [] => []
  | v :: vs => renderAt level v :: renderItemsAt level vs
termination_by structural vs

def renderMembersAt (level : Nat) (ms : List (String × Json)) : List String :=
  match ms with
  | [] => []
  | (k, v) :: ms => (quote k ++ ": " ++ renderAt level v) :: renderMembersAt level ms
termination_by structural ms
end

def renderPretty (v : Json) : String := renderAt 0 v

end Handoff.Json
