import Mathlib.Data.List.SplitOn
import Mathlib.Algebra.Group.Nat.Defs

/-!
# Internet addresses

`ipaddress.ip_address` and `ipaddress.ip_network` of texts: dotted quads, groups of hexadecimal
digits with one run of zeros left out, scopes, prefix lengths and masks.
-/

namespace SignPulse.Foundation

inductive IpAddress where
  | v4 (value : ℕ)
  | v6 (value : ℕ) (scope : Option (List Char))
  deriving DecidableEq

/-- A network, by its address and its mask. -/
inductive IpNetwork where
  | v4 (address mask : ℕ)
  | v6 (address mask : ℕ)
  deriving DecidableEq

namespace IpAddress

def decimalValue (digits : List Char) : ℕ :=
  digits.foldl (fun value digit => 10 * value + (digit.toNat - '0'.toNat)) 0

/-- One to three digits without a leading zero. -/
def parseOctet (text : List Char) : Option ℕ :=
  if text ≠ [] ∧ text.all Char.isDigit ∧ text.length ≤ 3 ∧ (text = ['0'] ∨ text.head? ≠ some '0') ∧
      decimalValue text ≤ 255 then some (decimalValue text)
  else none

/-- The value of a dotted quad. -/
def parseQuad (text : List Char) : Option ℕ :=
  match (text.splitOn '.').map parseOctet with
  | [some first, some second, some third, some fourth] =>
    some (((first * 256 + second) * 256 + third) * 256 + fourth)
  | _ => none

def hexDigit (char : Char) : Option ℕ :=
  if char.isDigit then some (char.toNat - '0'.toNat)
  else if 'a' ≤ char ∧ char ≤ 'f' then some (char.toNat - 'a'.toNat + 10)
  else if 'A' ≤ char ∧ char ≤ 'F' then some (char.toNat - 'A'.toNat + 10)
  else none

/-- One to four hexadecimal digits. -/
def parseHextet (text : List Char) : Option ℕ :=
  if text ≠ [] ∧ text.length ≤ 4 then
    text.foldlM (fun value char => (hexDigit char).map (16 * value + ·)) 0
  else none

/-- The value of consecutive groups. -/
def parseHextets (parts : List (List Char)) : Option ℕ :=
  parts.foldlM (fun value part => (parseHextet part).map (65536 * value + ·)) 0

/-- A dotted quad at the end stands for two groups. -/
def withoutQuad (parts : List (List Char)) : Option (List (List Char)) :=
  match parts.getLast? with
  | some last =>
    if '.' ∈ last then
      (parseQuad last).map fun value =>
        parts.dropLast ++ [Nat.toDigits 16 (value / 65536), Nat.toDigits 16 (value % 65536)]
    else some parts
  | none => none

/-- Where groups have been left out, apart from the ends. -/
def skipped (parts : List (List Char)) : List ℕ :=
  (List.range parts.length).filter fun index =>
    0 < index ∧ index + 1 < parts.length ∧ parts[index]? = some []

/-- The groups before and after those that have been left out, and how many these are. -/
def sides (parts : List (List Char)) : Option (List (List Char) × ℕ × List (List Char)) :=
  match skipped parts with
  | [] =>
    if parts.length = 8 ∧ parts.head? ≠ some [] ∧ parts.getLast? ≠ some [] then
      some (parts, 0, [])
    else none
  | [index] =>
    let high := parts.take index
    let low := parts.drop (index + 1)
    -- an empty group at an end belongs to the groups left out
    let high := if high.head? = some [] then high.tail else high
    let low := if low.getLast? = some [] then low.dropLast else low
    if (parts.head? = some [] → high = []) ∧ (parts.getLast? = some [] → low = []) ∧
        high.length + low.length < 8 then
      some (high, 8 - (high.length + low.length), low)
    else none
  | _ => none

/-- The value of an address of the sixth version, without a scope. -/
def parseGroups (text : List Char) : Option ℕ := do
  let parts := text.splitOn ':'
  if parts.length < 3 then none
  let parts ← withoutQuad parts
  if 9 < parts.length then none
  let (high, count, low) ← sides parts
  let highValue ← parseHextets high
  let lowValue ← parseHextets low
  return highValue * 65536 ^ (count + low.length) + lowValue

/-- What follows the percent sign. -/
def splitScope (text : List Char) : Option (List Char × Option (List Char)) :=
  match text.splitOn '%' with
  | [address] => some (address, none)
  | [address, scope] => if scope = [] then none else some (address, some scope)
  | _ => none

/-- `ip_address`. -/
def parse (text : List Char) : Option IpAddress :=
  match parseQuad text with
  | some value => some (.v4 value)
  | none =>
    if '/' ∈ text then none
    else do
      let (address, scope) ← splitScope text
      let value ← parseGroups address
      return .v6 value scope

/-- An address of the sixth version that stands for one of the fourth. -/
def unmapped : IpAddress → IpAddress
  | .v4 value => .v4 value
  | .v6 value scope => if value / 2 ^ 32 = 65535 then .v4 (value % 2 ^ 32) else .v6 value scope

end IpAddress

namespace IpNetwork

open IpAddress

/-- The mask of a prefix in an address of `width` bits. -/
def maskOf (width length : ℕ) : ℕ :=
  2 ^ width - 2 ^ (width - length)

def parsePrefix (width : ℕ) (text : List Char) : Option ℕ :=
  if text ≠ [] ∧ text.all Char.isDigit ∧ decimalValue text ≤ width then
    some (maskOf width (decimalValue text))
  else none

/-- A prefix length, a mask or an inverted mask. -/
def parseMask (text : List Char) : Option ℕ :=
  match parsePrefix 32 text with
  | some mask => some mask
  | none => do
    let value ← parseQuad text
    let masks := (List.range 33).map (maskOf 32)
    if value ∈ masks then some value
    else if 2 ^ 32 - 1 - value ∈ masks then some (2 ^ 32 - 1 - value)
    else none

/-- `ip_network(text, strict=False)`, for a text with one stroke. -/
def parse (text : List Char) : Option IpNetwork :=
  match text.splitOn '/' with
  | [address, mask] =>
    match parseQuad address, parseMask mask with
    | some value, some mask => some (.v4 (value &&& mask) mask)
    | _, _ => do
      let (address, _) ← splitScope address
      let value ← parseGroups address
      let mask ← parsePrefix 128 mask
      return .v6 (value &&& mask) mask
  | _ => none

/-- `address in network`. -/
def contains (network : IpNetwork) (address : IpAddress) : Bool :=
  match network, address with
  | .v4 base mask, .v4 value => value &&& mask = base
  | .v6 base mask, .v6 value _ => value &&& mask = base
  | _, _ => false

end IpNetwork

end SignPulse.Foundation
