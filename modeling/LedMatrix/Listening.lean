/-
# Listening

Which numbers a host has, and at which of them a program may listen, is up to the
machine that the program runs on (`Machine`). A host may have several numbers; the first
one that can be listened at is taken.

`Machine.isolated` is a machine that has no network but the one inside itself, and that
one is at rest. Nobody can be asked for the number of a host, so of the names only the
one of the machine itself has a number. A machine at rest does not know which numbers of
32 bits belong to others and lets every one of them pass. Of the numbers of 128 bits it
owns none; what remains are the number that stands for all of its own and the numbers
that stand for 32 bits.
-/

import LedMatrix.Address

namespace LedMatrix

/-- What listening depends on besides the address. -/
structure Machine where
  /-- The numbers of a host with their zones, in the order in which they are tried. -/
  resolve : Host → Except AddressError (List (IpAddress × Nat))
  /-- Listen at a number in a zone, on a port. -/
  listen : IpAddress → (zone port : Nat) → Except AddressError Unit

/-- Listen at the first number that lets one. If none does, the last failure is told. -/
def Machine.listenAtFirst (machine : Machine) (port : Nat) :
    List (IpAddress × Nat) → Except AddressError IpAddress
  | [] => .error .noNumber
  | [(ip, zone)] => (machine.listen ip zone port).map fun _ => ip
  | (ip, zone) :: rest =>
      match machine.listen ip zone port with
      | .ok () => .ok ip
      | .error _ => machine.listenAtFirst port rest

namespace Isolated

/-- The zones of the machine, with their numbers. -/
def zones : List (String × Nat) := [("lo", 1)]

/-- The number of a zone; zero stands for none. The name of a zone counts only
for numbers that are meant on one link. -/
def zoneNumber? (ip : IpAddress) : Option String → Option Nat
  | none => some 0
  | some zone =>
      let named :=
        if ip.isLinkLocal || ip.isLinkLocalMulticast then zones.lookup zone else none
      named.or (Address.zoneNumber? zone)

/-- The number of the machine itself. -/
def ownNumber : IpAddress := .v4 0x7F000001

/-- The characters that names are made of. A backslash says that the next one stands for
itself. -/
def isNameChar (c : Char) : Bool :=
  c.isAlphanum || c = '-' || c = '_' || c = '\\' || c = '.'

/-- Whether a text may be a part of a name between two points. -/
def isLabel (label : List Char) : Bool := !label.isEmpty && decide (label.length ≤ 63)

/-- A name without the point that may follow its last part. -/
def withoutLastPoint (name : List Char) : List Char :=
  if name.getLast? = some '.' then name.dropLast else name

/-- Whether somebody could be asked for a name. It consists of parts with points
between them and does not start with a hyphen; the name of everything is a
single point. -/
def isName (name : List Char) : Bool :=
  let parts := withoutLastPoint name
  name = ['.'] ||
    (parts.all isNameChar && parts.head? ≠ some '-' && decide (parts.length ≤ 253)
      && (Text.piecesAt '.' parts).all isLabel)

/-- The number of a host and its zone. -/
def resolve : Host → Except AddressError (List (IpAddress × Nat))
  | .number ip zone =>
      match zoneNumber? ip zone with
      | some zone => .ok [(ip, zone)]
      | none => .error .unknownName
  | .name written =>
      if written.toList.map Char.toLower = "localhost".toList then .ok [(ownNumber, 0)]
      else if isName written.toList then .error .noNameService
      else .error .unknownName

/-- Listen at a number in a zone. All ports are free. -/
def listen (ip : IpAddress) (zone _port : Nat) : Except AddressError Unit :=
  match ip with
  | .v4 _ => .ok ()
  | .v6 _ =>
      if ip.isMulticast then .error .unsuitable
      else if ip.isUnspecified || ip.mapped?.isSome then .ok ()
      else if !ip.isLinkLocal then .error .unavailable
      else if zone = 0 then .error .unsuitable
      else if zones.any fun known => known.2 = zone then .error .unavailable
      else .error .noSuchZone

end Isolated

/-- A machine without a network. -/
def Machine.isolated : Machine where
  resolve := Isolated.resolve
  listen := Isolated.listen

/-- Listen at an address: the number at which requests arrive, or the reason why
none can. -/
def Address.listen (address : Address) (machine : Machine) : Except AddressError IpAddress := do
  machine.listenAtFirst address.port (← machine.resolve address.host)

/-- Listen at an address that is given in its written form. -/
def Address.listenAt (text : String) (machine : Machine := .isolated) :
    Except AddressError IpAddress := do
  (← Address.ofText text).listen machine

end LedMatrix
