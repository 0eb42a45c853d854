import WebMount.Number.Decimal
import WebMount.Number.Radix
import WebMount.Text.Slice

/-!
# Socket addresses

An internet address and a port, such as `127.0.0.1:8080` or `[::1%2]:8080`. The short form of a
version 6 address leaves out one run of zero groups, at least one of them, and its last two
groups may be written as a version 4 address.
-/

namespace WebMount

open WebMount.Number WebMount.Text

/-- An internet address: four octets, or eight groups of sixteen bits. -/
inductive IpAddress where
  | version4 (octets : List Nat)
  | version6 (groups : List Nat)
  deriving DecidableEq, Repr

/-- An address with the scope it is valid in, zero for all, and a port. -/
structure SocketAddress where
  address : IpAddress
  scope : Nat := 0
  port : Nat
  deriving DecidableEq, Repr

namespace SocketAddress

/-- The greatest port. -/
def maxPort : Nat := 65535

/-- The greatest scope. -/
def maxScope : Nat := 4294967295

/-- The number of groups of a version 6 address. -/
def groupCount : Nat := 8

/-- A number that decimal digits denote, if it is at most `limit`. -/
def numberUpTo? (limit : Nat) (s : List Char) : Option Nat :=
  (parseNat? s).filter (· ≤ limit)

/-- One of the four numbers of a version 4 address, which has no needless zeros in front. -/
def octet? (s : List Char) : Option Nat :=
  if s.length ≤ 3 ∧ (s.length = 1 ∨ s.head? ≠ some '0') then numberUpTo? 255 s else none

/-- The octets of a version 4 address. -/
def octets? (s : List Char) : Option (List Nat) :=
  match splitAll '.' s with
  | [a, b, c, d] => [a, b, c, d].mapM octet?
  | _ => none

/-- A group of a version 6 address: one to four hexadecimal digits. -/
def group? (s : List Char) : Option Nat :=
  if s.length ≤ 4 then parseRadix? 16 s else none

/-- The two groups that a version 4 address stands for. -/
def groupsOfOctets : List Nat → List Nat
  | a :: b :: rest => (256 * a + b) :: groupsOfOctets rest
  | _ => []

/-- Groups of which the last two may be written as a version 4 address. -/
def groupsThenOctets? : List (List Char) → Option (List Nat)
  | [] => some []
  | [last] => (group? last).map ([·]) <|> (octets? last).map groupsOfOctets
  | s :: rest => do
    let group ← group? s
    return group :: (← groupsThenOctets? rest)

/-- The pieces between colons; none in an empty text. -/
def colonPieces (s : List Char) : List (List Char) :=
  if s = [] then [] else splitAll ':' s

/-- What stands before the first two colons in a row, and what stands after them. -/
def splitGap? : List Char → Option (List Char × List Char)
  | ':' :: ':' :: s => some ([], s)
  | c :: s => (splitGap? s).map fun (before, after) => (c :: before, after)
  | [] => none

/-- The groups of a version 6 address. -/
def groups? (s : List Char) : Option (List Nat) :=
  match splitGap? s with
  | some (before, after) => do
    let front ← (colonPieces before).mapM group?
    let back ← groupsThenOctets? (colonPieces after)
    if front.length + back.length < groupCount then
      return front ++ List.replicate (groupCount - front.length - back.length) 0 ++ back
    else none
  | none => (groupsThenOctets? (colonPieces s)).filter (·.length = groupCount)

/-- The address and scope between the brackets of a version 6 address. -/
def scoped? (s : List Char) : Option (List Nat × Nat) :=
  match splitFirst? '%' s with
  | some (address, scope) => do return (← groups? address, ← numberUpTo? maxScope scope)
  | none => (groups? s).map fun groups => (groups, 0)

/-- The socket address that a text denotes. -/
def parse? (text : String) : Option SocketAddress :=
  match text.toList with
  | '[' :: s => do
    let (inside, after) ← splitFirst? ']' s
    let (groups, scope) ← scoped? inside
    let port ← dropStart? [':'] after >>= numberUpTo? maxPort
    return ⟨.version6 groups, scope, port⟩
  | s => do
    let (address, port) ← splitFirst? ':' s
    return ⟨.version4 (← octets? address), 0, ← numberUpTo? maxPort port⟩

end SocketAddress

end WebMount
