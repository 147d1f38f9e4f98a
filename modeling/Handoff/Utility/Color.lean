import Handoff.Utility.Scale

/-!
# Color classes

A color value becomes a named palette color, a hexadecimal bracket value, or, where it is
translucent or not understood, the value itself between brackets.
-/

namespace Handoff.Utility

def palette : List (String × String) := [
  ("#FFFFFF", "white"), ("#000000", "black"), ("#F9FAFB", "gray-50"), ("#F3F4F6", "gray-100"),
  ("#E5E7EB", "gray-200"), ("#D1D5DB", "gray-300"), ("#9CA3AF", "gray-400"),
  ("#6B7280", "gray-500"), ("#4B5563", "gray-600"), ("#374151", "gray-700"),
  ("#1F2937", "gray-800"), ("#111827", "gray-900"), ("#FEE2E2", "red-100"),
  ("#FECACA", "red-200"), ("#FCA5A5", "red-300"), ("#F87171", "red-400"),
  ("#EF4444", "red-500"), ("#DC2626", "red-600"), ("#B91C1C", "red-700"),
  ("#DBEAFE", "blue-100"), ("#BFDBFE", "blue-200"), ("#93C5FD", "blue-300"),
  ("#60A5FA", "blue-400"), ("#3B82F6", "blue-500"), ("#2563EB", "blue-600"),
  ("#1D4ED8", "blue-700")]

/-- two upper-case hexadecimal digits -/
def hexByte (n : Nat) : String :=
  let digits := (Nat.toDigits 16 n).map Char.toUpper
  String.ofList (if digits.length < 2 then '0' :: digits else digits)

/-- the nearest byte to a color channel, clamped; what is not a number counts as zero -/
def channelByte (x : Float) : Nat :=
  let r := x.round
  if r.isNaN || r <= 0.0 then 0 else if 255.0 <= r then 255 else r.toUInt8.toNat

def parseHex? (digits : List Char) : Option String :=
  if ¬ digits.all Chars.isHexDigit then none
  else if digits.length = 6 then some ("#" ++ String.ofList (digits.map Char.toUpper))
  else if digits.length = 3 then
    some ("#" ++ String.ofList (digits.flatMap fun c => [c.toUpper, c.toUpper]))
  else none

/-- the hexadecimal form and the opacity of a hexadecimal, rgb or rgba color -/
def parseColor? (value : String) : Option (String × Float) :=
  let value := Text.trim value
  match Text.dropPrefix? "#" value with
  | some hex => (parseHex? hex.toList).map fun h => (h, 1.0)
  | none => do
    let inner ← (Text.dropPrefix? "rgba(" value).orElse fun _ => Text.dropPrefix? "rgb(" value
    let inner ← Text.dropSuffix? ")" inner
    match (Text.splitOn ',' inner).map Text.trim with
    | r :: g :: b :: rest =>
      let r ← Decimal.parse? r
      let g ← Decimal.parse? g
      let b ← Decimal.parse? b
      let alpha ← match rest with
        | [] => some 1.0
        | a :: _ => Decimal.parse? a
      return ("#" ++ hexByte (channelByte r) ++ hexByte (channelByte g) ++ hexByte (channelByte b),
        alpha)
    | _ => none

def colorClass (utility value : String) : String :=
  if Text.startsWith "var(" value then
    if utility = "text" then "text-[color:" ++ escapeArbitrary value ++ "]"
    else arbitrary utility value
  else if ["transparent", "white", "black", "current"].contains value then utility ++ "-" ++ value
  else
    match parseColor? value with
    | none => arbitrary utility value
    | some (hex, alpha) =>
      if alpha < 1.0 then arbitrary utility value
      else match palette.lookup hex with
        | some name => utility ++ "-" ++ name
        | none => utility ++ "-[" ++ hex ++ "]"

end Handoff.Utility
