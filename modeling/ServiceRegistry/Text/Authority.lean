import ServiceRegistry.Text.Hex
import ServiceRegistry.Text.Quoted
import ServiceRegistry.Text.Span
import ServiceRegistry.Text.Split

/-!
# Authorities of addresses

The authority of an address names its host. A host in brackets is an IPv6 address, or one of a later
version, and no character of an authority may stand for one that ends it.

Results:

* `isIpv4`, `isIpv6`: the texts of the two kinds of addresses of hosts.
* `authorityFault?`: why an authority cannot be read.
-/

namespace ServiceRegistry.Text

/-! ## Addresses of hosts -/

/-- A number up to 255 without zeros before it. -/
def isOctet (cs : List Char) : Bool :=
  !cs.isEmpty && cs.all Char.isDigit && cs.length ≤ 3 && (cs == ['0'] || cs.head? != some '0') &&
    cs.foldl (fun n c => n * 10 + (c.toNat - 48)) 0 ≤ 255

/-- Four numbers with dots between them. -/
def isIpv4 (cs : List Char) : Bool :=
  let parts := splitAt '.' cs
  parts.length == 4 && parts.all isOctet

/-- One to four hexadecimal digits. -/
def isHextet (cs : List Char) : Bool :=
  !cs.isEmpty && cs.length ≤ 4 && cs.all fun c => (hexValue? c).isSome

/-- The groups of an address with the last one as two if it is written as an IPv4 address, or
nothing if it is written so and is none. -/
def hextetGroups? (cs : List Char) : Option (List (List Char)) :=
  let groups := splitAt ':' cs
  let last := (groups.getLast?).getD []
  if !last.contains '.' then some groups
  else if isIpv4 last then some (groups.dropLast ++ [['0'], ['0']])
  else none

/-- Whether groups make an address: eight of them, or at most seven around one gap. A gap at one of
the two ends has an empty group beside it. -/
def areHextets (groups : List (List Char)) : Bool :=
  match (groups.tail.dropLast).findIdx? List.isEmpty with
  | none => groups.length == 8 && groups.all isHextet
  | some index =>
    let side (groups : List (List Char)) := if groups == [[]] then [] else groups
    let sides := side (groups.take (index + 1)) ++ side (groups.drop (index + 2))
    sides.length ≤ 7 && sides.all isHextet

/-- An IPv6 address, which may have a zone after a percent sign. -/
def isIpv6 (cs : List Char) : Bool :=
  let (address, zone) := (cs.takeWhile (· != '%'), cs.dropWhile (· != '%'))
  let zoned := match zone with
    | [] => true
    | _ :: zone => !zone.isEmpty && !zone.contains '%'
  zoned && (splitAt ':' address).length ≥ 3 && ((hextetGroups? address).map areHextets).getD false

/-! ## Authorities -/

/-- Why an authority cannot be read. -/
inductive AuthorityFault
  | brackets
  | laterVersion
  | ipv4InBrackets
  | noAddress (host : String)
  | ambiguous (authority : String)
  deriving Repr, DecidableEq

/-- The wording of a fault. -/
def AuthorityFault.message : AuthorityFault → String
  | .brackets => "Invalid IPv6 URL"
  | .laterVersion => "IPvFuture address is invalid"
  | .ipv4InBrackets => "An IPv4 address cannot be in brackets"
  | .noAddress host => quoted host ++ " does not appear to be an IPv4 or IPv6 address"
  | .ambiguous authority =>
    "netloc '" ++ authority ++ "' contains invalid characters under NFKC normalization"

/-- An address of a later version: the letter v, its version in hexadecimal digits, a dot, and at
least one character. -/
def isLaterAddress (host : List Char) : Bool :=
  let version := host.tail.takeWhile fun c => (hexValue? c).isSome
  match host.tail.dropWhile fun c => (hexValue? c).isSome with
  | '.' :: rest => !version.isEmpty && !rest.isEmpty
  | _ => false

/-- Why a host cannot stand in brackets. -/
def bracketedFault? (host : List Char) : Option AuthorityFault :=
  if host.head? == some 'v' then if isLaterAddress host then none else some .laterVersion
  else if isIpv4 host then some .ipv4InBrackets
  else if isIpv6 host then none
  else some (.noAddress (String.ofList host))

/-- The characters whose compatible form has a slash, a question mark, a number sign, an at sign or
a colon. -/
def delimiterForms : List Span :=
  [(0x2047, 0x2049), (0x2100, 0x2101), (0x2105, 0x2106), (0x2A74, 0x2A74), (0xFE13, 0xFE13),
   (0xFE16, 0xFE16), (0xFE55, 0xFE56), (0xFE5F, 0xFE5F), (0xFE6B, 0xFE6B), (0xFF03, 0xFF03),
   (0xFF0F, 0xFF0F), (0xFF1A, 0xFF1A), (0xFF1F, 0xFF20)]

/-- Why an authority cannot be read. -/
def authorityFault? (authority : List Char) : Option AuthorityFault :=
  if authority.contains '[' != authority.contains ']' then some .brackets
  else
    let afterBracket := (authority.dropWhile (· != '[')).tail
    let bracketed := if authority.contains '[' then
        bracketedFault? (afterBracket.takeWhile (· != ']'))
      else none
    match bracketed with
    | some fault => some fault
    | none =>
      if authority.any fun c => inSpans delimiterForms c.toNat then
        some (.ambiguous (String.ofList authority))
      else none

end ServiceRegistry.Text
