import Mathlib.Algebra.GroupWithZero.Nat
import Mathlib.Data.List.Basic

/-!
# IP address literals

The address type of the Rust standard library with its two textual directions:
the recursive-descent reader behind `IpAddr::from_str` and the canonical printer
behind `IpAddr::to_string`.  The reader works on the characters of the literal
and returns the unread rest; a literal is accepted when nothing is left.
-/

namespace Relayd
namespace Foundation

structure Ipv4Addr where
  a : UInt8
  b : UInt8
  c : UInt8
  d : UInt8
deriving DecidableEq, Repr

structure Ipv6Addr where
  s0 : UInt16
  s1 : UInt16
  s2 : UInt16
  s3 : UInt16
  s4 : UInt16
  s5 : UInt16
  s6 : UInt16
  s7 : UInt16
deriving DecidableEq, Repr

inductive IpAddr where
  | v4 (addr : Ipv4Addr)
  | v6 (addr : Ipv6Addr)
deriving DecidableEq, Repr

def Ipv6Addr.segments (addr : Ipv6Addr) : List UInt16 :=
  [addr.s0, addr.s1, addr.s2, addr.s3, addr.s4, addr.s5, addr.s6, addr.s7]

def Ipv6Addr.ofSegments : List UInt16 -> Option Ipv6Addr
  | [s0, s1, s2, s3, s4, s5, s6, s7] => some ⟨s0, s1, s2, s3, s4, s5, s6, s7⟩
  | _ => none

/-!
# Reading

Numbers are read greedily: a run of digits longer than the limit is refused, not
split.  IPv4 octets refuse a leading zero, IPv6 groups allow it.
-/

def toDigit (radix : Nat) (c : Char) : Option Nat :=
  let value :=
    if '0' <= c ∧ c <= '9' then some (c.toNat - '0'.toNat)
    else if 'a' <= c ∧ c <= 'f' then some (c.toNat - 'a'.toNat + 10)
    else if 'A' <= c ∧ c <= 'F' then some (c.toNat - 'A'.toNat + 10)
    else none
  value.filter (fun digit => digit < radix)

def readDigits (radix : Nat) : List Char -> List Nat × List Char
  | [] => ([], [])
  | c :: rest =>
      match toDigit radix c with
      | none => ([], c :: rest)
      | some digit =>
          let (digits, unread) := readDigits radix rest
          (digit :: digits, unread)

def readNumber (radix maxDigits bound : Nat) (allowZeroPrefix : Bool)
    (input : List Char) : Option (Nat × List Char) :=
  let (digits, unread) := readDigits radix input
  let value := digits.foldl (fun acc digit => acc * radix + digit) 0
  if digits.length > maxDigits then none
  else if digits.length = 0 then none
  else if !allowZeroPrefix && digits.head? == some 0 && digits.length > 1 then none
  else if value < bound then some (value, unread)
  else none

def readGivenChar (target : Char) : List Char -> Option (List Char)
  | c :: rest => if c = target then some rest else none
  | [] => none

/-- Skip the separator unless this is the first group. -/
def readSeparator (sep : Char) (index : Nat) (input : List Char) :
    Option (List Char) :=
  if index > 0 then readGivenChar sep input else some input

def readIpv4Addr (input : List Char) : Option (Ipv4Addr × List Char) := do
  let (a, input) <- readNumber 10 3 256 false input
  let input <- readGivenChar '.' input
  let (b, input) <- readNumber 10 3 256 false input
  let input <- readGivenChar '.' input
  let (c, input) <- readNumber 10 3 256 false input
  let input <- readGivenChar '.' input
  let (d, input) <- readNumber 10 3 256 false input
  some (⟨UInt8.ofNat a, UInt8.ofNat b, UInt8.ofNat c, UInt8.ofNat d⟩, input)

def Ipv4Addr.groups (addr : Ipv4Addr) : List UInt16 :=
  [addr.a.toUInt16 * 256 + addr.b.toUInt16, addr.c.toUInt16 * 256 + addr.d.toUInt16]

/-- Read up to `limit` colon-separated groups starting at position `index`; a
dotted-quad tail takes the place of the last two groups and ends the run. -/
def readGroups (limit : Nat) (index : Nat) (input : List Char) :
    List UInt16 × Bool × List Char :=
  match limit with
  | 0 => ([], false, input)
  | remaining + 1 =>
      let embedded :=
        if remaining > 0 then (readSeparator ':' index input).bind readIpv4Addr
        else none
      match embedded with
      | some (addr, unread) => (addr.groups, true, unread)
      | none =>
          match (readSeparator ':' index input).bind
              (readNumber 16 4 65536 true) with
          | none => ([], false, input)
          | some (value, unread) =>
              let (groups, v4, unread) := readGroups remaining (index + 1) unread
              (UInt16.ofNat value :: groups, v4, unread)

def readIpv6Addr (input : List Char) : Option (Ipv6Addr × List Char) := do
  let (head, headIpv4, input) := readGroups 8 0 input
  if head.length = 8 then
    let addr <- Ipv6Addr.ofSegments head
    some (addr, input)
  else if headIpv4 then none
  else do
    let input <- readGivenChar ':' input
    let input <- readGivenChar ':' input
    let (tail, _, input) := readGroups (8 - (head.length + 1)) 0 input
    let zeroes := List.replicate (8 - head.length - tail.length) 0
    let addr <- Ipv6Addr.ofSegments (head ++ zeroes ++ tail)
    some (addr, input)

def readIpAddr (input : List Char) : Option (IpAddr × List Char) :=
  match readIpv4Addr input with
  | some (addr, unread) => some (.v4 addr, unread)
  | none => (readIpv6Addr input).map (fun (addr, unread) => (.v6 addr, unread))

/-- `IpAddr::from_str`: the literal has to be read to its end. -/
def IpAddr.fromStr (text : String) : Option IpAddr :=
  match readIpAddr text.toList with
  | some (addr, []) => some addr
  | _ => none

/-!
# Printing

IPv4 addresses print as dotted quads.  IPv6 addresses print in lower-case
hexadecimal with the leftmost longest run of at least two zero groups
compressed; IPv4-mapped addresses keep the dotted quad.
-/

def Ipv4Addr.toText (addr : Ipv4Addr) : List Char :=
  Nat.toDigits 10 addr.a.toNat ++ '.' :: Nat.toDigits 10 addr.b.toNat ++
    '.' :: Nat.toDigits 10 addr.c.toNat ++ '.' :: Nat.toDigits 10 addr.d.toNat

structure ZeroSpan where
  start : Nat
  len : Nat
deriving DecidableEq, Repr

def longestZeroSpan : Nat -> ZeroSpan -> ZeroSpan -> List UInt16 -> ZeroSpan
  | _, _, longest, [] => longest
  | index, current, longest, segment :: rest =>
      if segment = 0 then
        let start := if current.len = 0 then index else current.start
        let grown : ZeroSpan := ⟨start, current.len + 1⟩
        let longest := if grown.len > longest.len then grown else longest
        longestZeroSpan (index + 1) grown longest rest
      else longestZeroSpan (index + 1) ⟨0, 0⟩ longest rest

def groupsText : List UInt16 -> List Char
  | [] => []
  | [segment] => Nat.toDigits 16 segment.toNat
  | segment :: rest => Nat.toDigits 16 segment.toNat ++ ':' :: groupsText rest

def Ipv6Addr.toIpv4Mapped (addr : Ipv6Addr) : Option Ipv4Addr :=
  match addr.segments with
  | [0, 0, 0, 0, 0, 65535, high, low] =>
      some ⟨(high / 256).toUInt8, (high % 256).toUInt8,
        (low / 256).toUInt8, (low % 256).toUInt8⟩
  | _ => none

def Ipv6Addr.toText (addr : Ipv6Addr) : List Char :=
  match addr.toIpv4Mapped with
  | some mapped => "::ffff:".toList ++ mapped.toText
  | none =>
      let segments := addr.segments
      let zeroes := longestZeroSpan 0 ⟨0, 0⟩ ⟨0, 0⟩ segments
      if zeroes.len > 1 then
        groupsText (segments.take zeroes.start) ++ "::".toList ++
          groupsText (segments.drop (zeroes.start + zeroes.len))
      else groupsText segments

/-- `IpAddr::to_string`. -/
def IpAddr.toString : IpAddr -> String
  | .v4 addr => String.ofList addr.toText
  | .v6 addr => String.ofList addr.toText

example : (IpAddr.fromStr "2001:db8::1").map IpAddr.toString = some "2001:db8::1" := by
  decide

example : IpAddr.fromStr "127.0.0.01" = none := by
  decide

end Foundation
end Relayd
