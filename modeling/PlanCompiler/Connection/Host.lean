/-
# Connection.Host -- the names and numbers of hosts in addresses

A host in brackets is an IPv6 address: eight groups of up to four hexadecimal
digits between colons, the last two of which can be written as four decimal
numbers, and one run of groups can be left out where `::` stands.

An IPv4 address has one to four parts between dots, which are decimal, octal or
hexadecimal.  Schemes of the web take a name that ends in a number for one; other
schemes take any name without the characters that end or divide addresses.
-/
import PlanCompiler.Text.Split

namespace PlanCompiler.Host

set_option autoImplicit false

def hexDigit? (c : Char) : Option Nat :=
  if c.isDigit then some (c.toNat - '0'.toNat)
  else if 'a' ≤ c ∧ c ≤ 'f' then some (c.toNat - 'a'.toNat + 10)
  else if 'A' ≤ c ∧ c ≤ 'F' then some (c.toNat - 'A'.toNat + 10)
  else none

/-- The number that digits denote, of which none is a digit too large for the base. -/
def number? (base : Nat) (digits : List Char) : Option Nat :=
  digits.foldlM (fun value c =>
    (hexDigit? c).bind fun digit =>
      if digit < base then some (value * base + digit) else none) 0

/-! ## IPv6 -/

def isGroup (text : List Char) : Bool :=
  !text.isEmpty && text.length ≤ 4 && text.all fun c => (hexDigit? c).isSome

/-- A decimal number below 256 that does not begin with a needless zero. -/
def isOctet (text : List Char) : Bool :=
  text.all Char.isDigit && (text == ['0'] || (!text.isEmpty && text.head? != some '0'))
    && (number? 10 text).any (· < 256)

def isDottedQuad (text : List Char) : Bool :=
  let parts := Text.split '.' text
  parts.length == 4 && parts.all isOctet

/-- How many groups the pieces between colons stand for. -/
def countPieces (quadAllowed : Bool) : List (List Char) → Option Nat
  | [] => some 0
  | [last] =>
    if isGroup last then some 1
    else if quadAllowed && isDottedQuad last then some 2
    else none
  | piece :: rest => if isGroup piece then (countPieces quadAllowed rest).map (· + 1) else none

def countGroups (quadAllowed : Bool) (text : List Char) : Option Nat :=
  if text.isEmpty then some 0 else countPieces quadAllowed (Text.split ':' text)

/-- What stands before and after the first two colons in a row. -/
def cutGap? : List Char → Option (List Char × List Char)
  | ':' :: ':' :: rest => some ([], rest)
  | c :: rest => (cutGap? rest).map fun (before, after) => (c :: before, after)
  | [] => none

def isIpv6 (text : List Char) : Bool :=
  match cutGap? text with
  | none => countGroups true text == some 8
  | some (before, after) =>
    match countGroups false before, countGroups true after with
    | some left, some right => left + right ≤ 7
    | _, _ => false

/-- The address between brackets, where the host begins with one. -/
def bracketed? : List Char → Option Bool
  | '[' :: rest =>
    some (rest.getLast? == some ']' && isIpv6 rest.dropLast)
  | _ => none

/-! ## Hosts of any scheme -/

/-- The characters that no host has. -/
def divides (c : Char) : Bool :=
  ['\x00', '\t', '\n', '\r', ' ', '#', '/', ':', '<', '>', '?', '@', '[', '\\', ']', '^',
    '|'].contains c

def isOpaque (text : List Char) : Bool :=
  (bracketed? text).getD (!text.any divides)

/-! ## IPv4 -/

/-- The value of a part of an IPv4 address. -/
def ipv4Part? : List Char → Option Nat
  | [] => none
  | '0' :: 'x' :: digits => number? 16 digits
  | '0' :: 'X' :: digits => number? 16 digits
  | '0' :: digits => number? 8 digits
  | digits => number? 10 digits

/-- The parts of a host name, without the empty one after a dot at the end. -/
def dottedParts (text : List Char) : List (List Char) :=
  let parts := Text.split '.' text
  if 1 < parts.length && parts.getLast? == some [] then parts.dropLast else parts

def endsInNumber (text : List Char) : Bool :=
  match (dottedParts text).getLast? with
  | none => false
  | some last =>
    (!last.isEmpty && last.all Char.isDigit) ||
      match last with
      | '0' :: x :: digits => (x == 'x' || x == 'X') && (number? 16 digits).isSome
      | _ => false

def isIpv4 (text : List Char) : Bool :=
  let parts := dottedParts text
  parts.length ≤ 4 &&
    match (parts.mapM ipv4Part?).map List.reverse with
    | some (last :: others) => others.all (· < 256) && last < Nat.pow 256 (4 - others.length)
    | _ => false

/-- The characters that no host name of the web has. -/
def dividesName (c : Char) : Bool :=
  divides c || c.toNat < 0x20 || c == '%' || c.toNat == 0x7f

end PlanCompiler.Host
