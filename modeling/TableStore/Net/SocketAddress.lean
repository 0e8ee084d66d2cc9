/-!
# Socket addresses

An address and a port, as `a.b.c.d:port` or `[groups]:port`, with a scope after a percent sign if
need be. Host names are no addresses. An address is shown in one form: lower case, without leading
zeros, the first longest run of zero groups left out.
-/

namespace TableStore.Net

/-- An IP address with its port. -/
inductive SocketAddress where
  /-- Four octets. -/
  | v4 (octets : List Nat) (port : Nat)
  /-- Eight groups of 16 bits. -/
  | v6 (groups : List Nat) (scope : Nat) (port : Nat)
deriving DecidableEq, Repr

/-! ## Reading -/

/-- The value of a digit in a radix up to sixteen. -/
def digitValue? (radix : Nat) (c : Char) : Option Nat :=
  let value :=
    if '0' ≤ c ∧ c ≤ '9' then c.toNat - '0'.toNat
    else if 'a' ≤ c ∧ c ≤ 'f' then c.toNat - 'a'.toNat + 10
    else if 'A' ≤ c ∧ c ≤ 'F' then c.toNat - 'A'.toNat + 10
    else 16
  if value < radix then some value else none

/-- Which numbers are accepted. -/
structure NumberRule where
  radix : Nat
  maxValue : Nat
  maxDigits : Option Nat
  leadingZeros : Bool

def octetRule : NumberRule := ⟨10, 255, some 3, false⟩

def groupRule : NumberRule := ⟨16, 0xFFFF, some 4, true⟩

def portRule : NumberRule := ⟨10, 0xFFFF, none, true⟩

def scopeRule : NumberRule := ⟨10, 0xFFFFFFFF, none, true⟩

/-- A number and the characters after it. -/
def NumberRule.read (rule : NumberRule) (input : List Char) : Option (Nat × List Char) :=
  let isDigit (c : Char) := (digitValue? rule.radix c).isSome
  let digits := (input.takeWhile isDigit).filterMap (digitValue? rule.radix)
  let value := digits.foldl (fun n d => n * rule.radix + d) 0
  if digits.isEmpty || rule.maxDigits.any (· < digits.length) then none
  else if !rule.leadingZeros && digits.head? = some 0 && 1 < digits.length then none
  else if rule.maxValue < value then none
  else some (value, input.dropWhile isDigit)

def readChar (c : Char) : List Char → Option (List Char)
  | [] => none
  | d :: rest => if d = c then some rest else none

/-- The characters after a separator, which does not come before the first item. -/
def readSeparator (separator : Char) (first : Bool) (input : List Char) : Option (List Char) :=
  if first then some input else readChar separator input

/-- `n` octets separated by points. -/
def readOctets (first : Bool) : Nat → List Char → Option (List Nat × List Char)
  | 0, input => some ([], input)
  | n + 1, input => do
    let input ← readSeparator '.' first input
    let (octet, input) ← octetRule.read input
    let (octets, input) ← readOctets false n input
    return (octet :: octets, input)

/-- The two groups that four octets stand for. -/
def pairOctets : List Nat → List Nat
  | a :: b :: rest => (a * 256 + b) :: pairOctets rest
  | _ => []

/-- At most `n` groups separated by colons, as far as they go, and whether an IPv4 address ended
them. Such an address takes the place of two groups. -/
def readGroups (first : Bool) : Nat → List Char → List Nat × Bool × List Char
  | 0, input => ([], false, input)
  | n + 1, input =>
    let item := readSeparator ':' first input
    match if n = 0 then none else item.bind (readOctets true 4) with
    | some (octets, rest) => (pairOctets octets, true, rest)
    | none =>
      match item.bind groupRule.read with
      | none => ([], false, input)
      | some (group, rest) =>
        let (groups, v4, rest) := readGroups false n rest
        (group :: groups, v4, rest)

/-- The groups of an IPv6 address. Two colons stand for at least one zero group, and an IPv4 address
may only come last. -/
def readV6 (input : List Char) : Option (List Nat × List Char) := do
  let (head, v4, rest) := readGroups true 8 input
  if head.length = 8 then return (head, rest)
  if v4 then none
  let rest ← readChar ':' rest
  let rest ← readChar ':' rest
  let (tail, _, rest) := readGroups true (7 - head.length) rest
  return (head ++ List.replicate (8 - head.length - tail.length) 0 ++ tail, rest)

/-- The scope after an IPv6 address, zero if there is none. -/
def readScope (input : List Char) : Nat × List Char :=
  ((readChar '%' input).bind scopeRule.read).getD (0, input)

def readPort (input : List Char) : Option Nat := do
  let (port, rest) ← portRule.read (← readChar ':' input)
  if rest.isEmpty then some port else none

/-- The socket address that a text spells. -/
def SocketAddress.parse (text : String) : Option SocketAddress :=
  match readOctets true 4 text.toList with
  | some (octets, rest) => (readPort rest).map (.v4 octets)
  | none => do
    let (groups, rest) ← readV6 (← readChar '[' text.toList)
    let (scope, rest) := readScope rest
    let port ← readPort (← readChar ']' rest)
    return .v6 groups scope port

/-! ## Writing -/

def showOctets (octets : List Nat) : String :=
  ".".intercalate (octets.map toString)

def showGroups (groups : List Nat) : String :=
  ":".intercalate (groups.map fun group => String.ofList (Nat.toDigits 16 group))

/-- How many zero groups follow a position. -/
def zeroRun (groups : List Nat) (start : Nat) : Nat :=
  ((groups.drop start).takeWhile (· = 0)).length

/-- The start of the first longest run of zero groups. -/
def longestRun (groups : List Nat) : Nat :=
  (List.range groups.length).foldl
    (fun best start => if zeroRun groups best < zeroRun groups start then start else best) 0

/-- An IPv6 address; one that stands for an IPv4 address shows it. -/
def showV6 (groups : List Nat) : String :=
  if groups.take 6 = [0, 0, 0, 0, 0, 0xFFFF] then
    "::ffff:" ++ showOctets ((groups.drop 6).flatMap fun group => [group / 256, group % 256])
  else
    let start := longestRun groups
    let length := zeroRun groups start
    if length < 2 then showGroups groups
    else showGroups (groups.take start) ++ "::" ++ showGroups (groups.drop (start + length))

def SocketAddress.ip : SocketAddress → String
  | .v4 octets _ => showOctets octets
  | .v6 groups _ _ => showV6 groups

def SocketAddress.port : SocketAddress → Nat
  | .v4 _ port => port
  | .v6 _ _ port => port

def SocketAddress.isV6 : SocketAddress → Bool
  | .v4 .. => false
  | .v6 .. => true

/-- The scope of an address, zero for one without. -/
def SocketAddress.scope : SocketAddress → Nat
  | .v4 .. => 0
  | .v6 _ scope _ => scope

/-- The text of a socket address. A scope is shown unless it is zero. -/
def SocketAddress.text (address : SocketAddress) : String :=
  let host := if address.scope = 0 then address.ip else s!"{address.ip}%{address.scope}"
  if address.isV6 then s!"[{host}]:{address.port}" else s!"{host}:{address.port}"

/-! ## Listening -/

/-- Whether the address stands for all addresses of a machine. -/
def SocketAddress.isWildcard : SocketAddress → Bool
  | .v4 octets _ => octets.all (· = 0)
  | .v6 groups _ _ => groups.all (· = 0)

/-- Whether a machine reaches only itself by the address. -/
def SocketAddress.isLoopback : SocketAddress → Bool
  | .v4 octets _ => octets.head? = some 127
  | .v6 groups _ _ => groups = [0, 0, 0, 0, 0, 0, 0, 1]

/-- Whether two addresses differ at most in their ports. -/
def SocketAddress.sameHost : SocketAddress → SocketAddress → Bool
  | .v4 octets _, .v4 octets' _ => octets = octets'
  | .v6 groups scope _, .v6 groups' scope' _ => groups = groups' && scope = scope'
  | _, _ => false

/-- Whether at most one server can listen at two addresses. Port 0 asks for a port that is free. -/
def SocketAddress.clashes (a b : SocketAddress) : Bool :=
  a.port ≠ 0 && a.port = b.port && (a.sameHost b || a.isWildcard || b.isWildcard)

end TableStore.Net
