import SharedMount.Text.Decimal

/-! # Socket addresses

Addresses to listen at: an IP address and a port. Host names are not looked up. An IPv4 address has
four decimal numbers without leading zeros. An IPv6 address stands in brackets; its groups are
hexadecimal, `::` stands for zero groups, the last two groups may be written as an IPv4 address, and
a zone may follow a percent sign. Addresses are shown in the canonical form of RFC 5952.
-/

namespace SharedMount.CommandLine

/-- An IP address. -/
inductive IpAddress where
  | v4 (a b c d : Nat)
  /-- Eight groups of 16 bits and a zone, which is 0 if there is none. -/
  | v6 (groups : List Nat) (zone : Nat)
deriving DecidableEq, Inhabited, Repr

/-- An IP address with a port. -/
structure SocketAddress where
  ip : IpAddress
  port : Nat
deriving DecidableEq, Inhabited, Repr

namespace SocketAddress

/-- The value of a digit in a base of up to 16. -/
def digit? (base : Nat) (c : Char) : Option Nat :=
  let value :=
    if '0' ≤ c ∧ c ≤ '9' then some (c.toNat - '0'.toNat)
    else if 'a' ≤ c ∧ c ≤ 'f' then some (c.toNat - 'a'.toNat + 10)
    else if 'A' ≤ c ∧ c ≤ 'F' then some (c.toNat - 'A'.toNat + 10)
    else none
  value.filter (· < base)

/-- The number up to a limit that a text starts with, and the rest. All digits belong to the number. -/
def number? (base limit : Nat) (text : List Char) : Option (Nat × List Char) :=
  let digits := text.takeWhile fun c => (digit? base c).isSome
  let value := digits.foldl (fun value c => value * base + (digit? base c).getD 0) 0
  if digits.isEmpty || limit < value then none else some (value, text.drop digits.length)

/-- A number of an IPv4 address, of at most three digits and without leading zeros. -/
def octet? (text : List Char) : Option (Nat × List Char) :=
  let digits := text.takeWhile fun c => (digit? 10 c).isSome
  if 3 < digits.length ∨ (1 < digits.length ∧ digits.head? = some '0') then none
  else number? 10 255 text

/-- A group of an IPv6 address, of at most four digits. -/
def group? (text : List Char) : Option (Nat × List Char) :=
  let digits := text.takeWhile fun c => (digit? 16 c).isSome
  if 4 < digits.length then none else number? 16 65535 text

/-- The rest after a character. -/
def expect? (c : Char) : List Char → Option (List Char)
  | d :: rest => if c = d then some rest else none
  | [] => none

/-- The IPv4 address that a text starts with, and the rest. -/
def v4? (text : List Char) : Option ((Nat × Nat × Nat × Nat) × List Char) := do
  let (a, rest) ← octet? text
  let (b, rest) ← octet? (← expect? '.' rest)
  let (c, rest) ← octet? (← expect? '.' rest)
  let (d, rest) ← octet? (← expect? '.' rest)
  return ((a, b, c, d), rest)

/-- Up to `limit` groups with colons between them, whether the last two of them were written as an
IPv4 address, and the rest. -/
def groups (limit : Nat) (isFirst : Bool) (text : List Char) : List Nat × Bool × List Char :=
  match limit with
  | 0 => ([], false, text)
  | limit + 1 =>
      let item := if isFirst then some text else expect? ':' text
      match if 1 ≤ limit then item.bind v4? else none with
      | some ((a, b, c, d), rest) => ([a * 256 + b, c * 256 + d], true, rest)
      | none =>
          match item.bind group? with
          | some (group, rest) =>
              let (more, isV4, rest) := groups limit false rest
              (group :: more, isV4, rest)
          | none => ([], false, text)

/-- The groups of the IPv6 address that a text starts with, and the rest. -/
def v6? (text : List Char) : Option (List Nat × List Char) := do
  let (head, isV4, rest) := groups 8 true text
  if head.length = 8 then return (head, rest)
  if isV4 then none
  let rest ← expect? ':' (← expect? ':' rest)
  let (tail, _, rest) := groups (7 - head.length) true rest
  return (head ++ List.replicate (8 - head.length - tail.length) 0 ++ tail, rest)

/-- The zone that a text starts with, 0 if there is none, and the rest. -/
def zone (text : List Char) : Nat × List Char :=
  ((expect? '%' text).bind (number? 10 4294967295)).getD (0, text)

/-- The IP address that a text starts with, and the rest. -/
def ip? (text : List Char) : Option (IpAddress × List Char) :=
  match v4? text with
  | some ((a, b, c, d), rest) => some (.v4 a b c d, rest)
  | none => do
      let (groups, rest) ← v6? (← expect? '[' text)
      let (zone, rest) := zone rest
      return (.v6 groups zone, ← expect? ']' rest)

/-- The socket address that a text gives. -/
def parse? (text : String) : Option SocketAddress := do
  let (ip, rest) ← ip? text.toList
  let (port, rest) ← number? 10 65535 (← expect? ':' rest)
  if rest = [] then some { ip, port } else none

/-- The first of the longest runs of zero groups, as its start and its length. -/
def zeroRun (groups : List Nat) : Nat × Nat :=
  let starts := List.range groups.length
  let run (start : Nat) : Nat := ((groups.drop start).takeWhile (· = 0)).length
  starts.foldl (fun best start => if best.2 < run start then (start, run start) else best) (0, 0)

/-- Groups in hexadecimal with colons between them. -/
def groupsText (groups : List Nat) : String :=
  ":".intercalate (groups.map fun group => String.ofList (Nat.toDigits 16 group))

/-- Four numbers of an IPv4 address with dots between them. -/
def octetsText (a b c d : Nat) : String :=
  ".".intercalate [toString a, toString b, toString c, toString d]

/-- The groups of an IPv6 address in canonical form: the longest run of two or more zero groups is
left out, and an IPv4 address in IPv6 form shows as one. -/
def v6Text (groups : List Nat) : String :=
  match groups with
  | [0, 0, 0, 0, 0, 0xffff, high, low] =>
      "::ffff:" ++ octetsText (high / 256) (high % 256) (low / 256) (low % 256)
  | groups =>
      let (start, length) := zeroRun groups
      if 1 < length then
        groupsText (groups.take start) ++ "::" ++ groupsText (groups.drop (start + length))
      else groupsText groups

/-- A socket address as text. -/
def text (address : SocketAddress) : String :=
  let ip :=
    match address.ip with
    | .v4 a b c d => octetsText a b c d
    | .v6 groups zone =>
        "[" ++ v6Text groups ++ (if zone = 0 then "" else "%" ++ toString zone) ++ "]"
  ip ++ ":" ++ toString address.port

end SocketAddress

end SharedMount.CommandLine
