import Metering.Url.Host

/-!
# Addresses of servers

The host on which a server is to listen: a name or the text of an address. A server can listen on
the addresses by which this machine calls itself, and on all addresses at once.
-/

namespace Metering.Exposition

open Metering.Text

/-- An address of a machine. -/
inductive Address where
  | short (value : Nat)
  /-- Eight numbers of 16 bits. -/
  | long (pieces : List Nat)
  deriving DecidableEq, Repr

namespace Address

/-- A number of a short address: decimal, octal behind a zero, or hexadecimal behind 0x. -/
def number? : List Char → Option Nat
  | [] => none
  | '0' :: mark :: digits =>
    if mark = 'x' ∨ mark = 'X' then
      if digits.isEmpty then none else Url.numberTo? 16 digits
    else Url.numberTo? 8 (mark :: digits)
  | digits => Url.numberTo? 10 digits

/-- The address of a host. The only name that leads to one is that of this machine. -/
def ofHost? (host : String) : Option Address :=
  let s := host.toList
  if s.map Char.toLower = "localhost".toList then some (short 0x7F000001)
  else
    match Url.address6? s with
    | some pieces => some (long pieces)
    | none => do return short (← Url.fill4? (← (splitOn (· == '.') s).mapM number?))

/-- Whether this machine calls itself by the address. -/
def isLoopback : Address → Bool
  | short value => value / 0x1000000 == 127
  | long pieces => pieces == [0, 0, 0, 0, 0, 0, 0, 1]

/-- Whether the address stands for all addresses. -/
def isAny : Address → Bool
  | short value => value == 0
  | long pieces => pieces.all (· == 0)

/-- Whether a server can listen on the address. -/
def isHere (a : Address) : Bool :=
  a.isLoopback || a.isAny

end Address

end Metering.Exposition
