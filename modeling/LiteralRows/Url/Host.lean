import LiteralRows.Url.Domain
import LiteralRows.Url.Percent

/-!
# Hosts

The host of a URL is nothing, a name, or a numeric address.  A scheme that the standard calls
special has international domain names, some of which are IPv4 addresses; any other scheme has a
bare name.  An IPv6 address in brackets is read, and written in its shortest form,
for every scheme.
-/

namespace LiteralRows.Url

/-- Why a text is no URL. -/
inductive Fault where
  | emptyHost
  | invalidDomainName
  | invalidPort
  | invalidIpv4
  | invalidIpv6
  | invalidCharacter
  | noScheme
  deriving DecidableEq, Repr

/-- The sentence that reports it. -/
def Fault.message : Fault → String
  | emptyHost => "empty host"
  | invalidDomainName => "invalid international domain name"
  | invalidPort => "invalid port number"
  | invalidIpv4 => "invalid IPv4 address"
  | invalidIpv6 => "invalid IPv6 address"
  | invalidCharacter => "invalid domain character"
  | noScheme => "relative URL without a base"

/-- A host. -/
inductive Host where
  | empty
  | name (text : String)
  | ipv4 (address : Nat)
  /-- Eight pieces of sixteen bits. -/
  | ipv6 (pieces : List Nat)
  deriving DecidableEq, Repr, Inhabited

namespace Host

/-! ## IPv6 addresses -/

/-- One byte of an IPv4 address in decimal, without a leading zero. -/
def byte? (digits : List Char) : Option Nat :=
  match Text.number? 10 digits with
  | some n => if n < 256 ∧ (digits.length = 1 ∨ digits.head? ≠ some '0') then some n else none
  | none => none

/-- The two pieces that an IPv4 address stands for at the end of an IPv6 address. -/
def quad? (text : List Char) : Option (List Nat) :=
  match (Text.splitOn '.' text).mapM byte? with
  | some [a, b, c, d] => some [a * 256 + b, c * 256 + d]
  | _ => none

/-- One piece of an IPv6 address. -/
def piece? (text : List Char) : Option (List Nat) :=
  if text.length ≤ 4 then (Text.number? 16 text).map fun n => [n] else none

/-- The pieces between colons.  The last one may be an IPv4 address where that is allowed. -/
def piecesOf? (quadAllowed : Bool) (text : List Char) : Option (List Nat) :=
  if text.isEmpty then some []
  else
    let texts := Text.splitOn ':' text
    let last := texts.getLastD []
    let lastPieces := (piece? last).or (if quadAllowed then quad? last else none)
    match texts.dropLast.mapM piece?, lastPieces with
    | some before, some pieces => some (before.flatten ++ pieces)
    | _, _ => none

/-- The text before the first pair of colons, and the text after it. -/
def cutPair : List Char → Option (List Char × List Char)
  | ':' :: ':' :: rest => some ([], rest)
  | c :: rest => (cutPair rest).map fun (before, after) => (c :: before, after)
  | [] => none

/-- The eight pieces of an IPv6 address; a pair of colons stands for at least one zero. -/
def ipv6? (text : List Char) : Option (List Nat) :=
  match cutPair text with
  | none =>
    match piecesOf? true text with
    | some pieces => if pieces.length = 8 then some pieces else none
    | none => none
  | some (before, after) =>
    match piecesOf? false before, piecesOf? true after with
    | some front, some back =>
      let given := front.length + back.length
      if given ≤ 7 then some (front ++ List.replicate (8 - given) 0 ++ back) else none
    | _, _ => none

/-- The number of zeros at the front. -/
def leadingZeros (pieces : List Nat) : Nat :=
  (pieces.takeWhile (· == 0)).length

/-- The length of the longest run of zeros. -/
def longestRun : List Nat → Nat
  | [] => 0
  | n :: pieces => max (leadingZeros (n :: pieces)) (longestRun pieces)

/-- The pieces before the first run of that many zeros, and those after it. -/
def cutRun (length : Nat) : List Nat → List Nat × List Nat
  | [] => ([], [])
  | n :: pieces =>
    if leadingZeros (n :: pieces) = length then ([], (n :: pieces).drop length)
    else
      let (before, after) := cutRun length pieces
      (n :: before, after)

/-- Pieces in hexadecimal with colons between them. -/
def colonText (pieces : List Nat) : String :=
  Text.joined ":" (pieces.map fun n => String.ofList (Nat.toDigits 16 n))

/-- An IPv6 address in its shortest form: the first of the longest runs of at least two zeros
becomes a pair of colons. -/
def ipv6Text (pieces : List Nat) : String :=
  let run := longestRun pieces
  if run < 2 then colonText pieces
  else
    let (before, after) := cutRun run pieces
    colonText before ++ "::" ++ colonText after

/-! ## IPv4 addresses -/

/-- A number in an IPv4 address: hexadecimal after `0x`, octal after `0`, else decimal. -/
def ipv4Number? : List Char → Option Nat
  | [] => none
  | '0' :: 'x' :: digits | '0' :: 'X' :: digits =>
    if digits.isEmpty then some 0 else Text.number? 16 digits
  | '0' :: c :: digits => Text.number? 8 (c :: digits)
  | digits => Text.number? 10 digits

/-- The parts of a domain name; a point at its end separates nothing. -/
def partsOf (domain : List Char) : List (List Char) :=
  let parts := Text.splitOn '.' domain
  if 1 < parts.length ∧ parts.getLastD [] = [] then parts.dropLast else parts

/-- The name ends in a number, so it has to be an IPv4 address. -/
def endsInNumber (domain : List Char) : Bool :=
  let last := (partsOf domain).getLastD []
  (!last.isEmpty && last.all Char.isDigit) || (ipv4Number? last).isSome

/-- The address that at most four numbers stand for: the last fills all bytes that are left. -/
def ipv4? (domain : List Char) : Option Nat :=
  match (partsOf domain).mapM ipv4Number? with
  | none => none
  | some numbers =>
    let bytes := numbers.dropLast
    let last := numbers.getLastD 0
    if 4 < numbers.length ∨ bytes.any (255 < ·) ∨ Nat.pow 256 (4 - bytes.length) ≤ last then none
    else
      let leading := bytes ++ List.replicate (4 - bytes.length) 0
      some (leading.foldl (fun n b => n * 256 + b) 0 + last)

/-- An IPv4 address in decimal. -/
def ipv4Text (address : Nat) : String :=
  Text.joined "." ([16777216, 65536, 256, 1].map fun unit => toString (address / unit % 256))

/-! ## Reading and writing -/

/-- Reads what stands between brackets. -/
def ofBrackets (text : List Char) : Except Fault Host :=
  match (Text.before? [']'] text).bind ipv6? with
  | some pieces => .ok (.ipv6 pieces)
  | none => .error .invalidIpv6

/-- The ASCII character may not stand in the bare name of a host. -/
def forbiddenInName (c : Char) : Bool :=
  "\x00\t\n\r #/:<>?@[\\]^|".toList.contains c

/-- Reads the host of a URL whose scheme is not special. -/
def ofName (text : List Char) : Except Fault Host :=
  match text with
  | [] => .ok .empty
  | '[' :: address => ofBrackets address
  | _ =>
    if text.any forbiddenInName then .error .invalidCharacter
    else .ok (.name (String.ofList (Percent.encode Percent.bareInOpaque text)))

/-- Reads the host of a URL whose scheme is special. -/
def ofDomain (text : List Char) : Except Fault Host :=
  match text with
  | '[' :: address => ofBrackets address
  | _ =>
    match (Text.Utf8.decode? (Percent.bytesOf text)).bind Domain.ascii? with
    | none => .error .invalidDomainName
    | some [] => .error .emptyHost
    | some domain =>
      if endsInNumber domain then
        match ipv4? domain with
        | some address => .ok (.ipv4 address)
        | none => .error .invalidIpv4
      else .ok (.name (String.ofList domain))

/-- A host as it is written. -/
def text : Host → String
  | .empty => ""
  | .name text => text
  | .ipv4 address => ipv4Text address
  | .ipv6 pieces => "[" ++ ipv6Text pieces ++ "]"

end Host

end LiteralRows.Url
