/-
# Addresses to listen on

An address is a host and a port with a colon between them. The host may contain
colons itself, so the last one counts. A port is a number of 16 bits, which may
be written with a plus sign.

A host is a number of its network or a name. A number of 128 bits may be
followed by the zone in which it is meant, and the two may stand in brackets;
then the zone is a number and the port has no sign. A host in brackets that does
not keep to this is taken for a name.
-/

import LedMatrix.IpAddress.Reader

namespace LedMatrix

/-- What an address says about the host. -/
inductive Host where
  /-- The number of the host, with its zone if there is one. -/
  | number (ip : IpAddress) (zone : Option String)
  /-- The name of the host. -/
  | name (written : String)
  deriving DecidableEq

/-- Where to listen. -/
structure Address where
  host : Host
  port : Nat
  deriving DecidableEq

/-- Why an address cannot be listened at. -/
inductive AddressError where
  /-- There is no colon. -/
  | invalidAddress
  /-- What follows the last colon is no port. -/
  | invalidPort
  /-- The host has a character that ends a text for the system. -/
  | nulInHost
  /-- No host can have the name. -/
  | unknownName
  /-- There is nobody to ask for the number of the host. -/
  | noNameService
  /-- The number belongs to another machine. -/
  | unavailable
  /-- Nobody can listen at a number of this kind. -/
  | unsuitable
  /-- The zone of the number does not exist. -/
  | noSuchZone
  /-- The host has no number at all. -/
  | noNumber
  /-- Anything else that the system has to say. -/
  | system (report : String)
  deriving DecidableEq

/-- The report of an address that cannot be used. -/
def AddressError.message : AddressError → String
  | .invalidAddress => "invalid socket address"
  | .invalidPort => "invalid port value"
  | .nulInHost => "file name contained an unexpected NUL byte"
  | .unknownName => "failed to lookup address information: Name or service not known"
  | .noNameService =>
      "failed to lookup address information: Temporary failure in name resolution"
  | .unavailable => "Cannot assign requested address (os error 99)"
  | .unsuitable => "Invalid argument (os error 22)"
  | .noSuchZone => "No such device (os error 19)"
  | .noNumber => "could not resolve to any addresses"
  | .system report => report

/-- A number of 128 bits with the zone behind it. -/
def Host.zoned? (text : List Char) : Option Host := do
  let (written, zone) := Text.cutAtFirst '%' text
  return .number (← IpAddress.grouped? written) (zone.map String.ofList)

/-- A host from its written form without brackets. -/
def Host.ofText (text : List Char) : Host :=
  match IpAddress.loose? text with
  | some ip => .number ip none
  | none => (zoned? text).getD (.name (String.ofList text))

namespace Address

/-- The greatest port. -/
def maxPort : Nat := 0xFFFF

/-- The greatest number of a zone. -/
def maxZone : Nat := 0xFFFFFFFF

/-- The number that a zone is written as. -/
def zoneNumber? (zone : String) : Option Nat := Text.number? 10 maxZone zone.toList

/-- Whether a host has no zone or one that is written as a number. -/
def hasPlainZone : Host → Bool
  | .number _ (some zone) => (zoneNumber? zone).isSome
  | _ => true

/-- An address whose host is a number in brackets. -/
def bracketed? : List Char → Option Address
  | '[' :: text =>
      match Text.cutAtFirst ']' text with
      | (inside, some (':' :: port)) => do
          let host ← (Host.zoned? inside).filter hasPlainZone
          return { host, port := ← Text.number? 10 maxPort port }
      | _ => none
  | _ => none

/-- An address without brackets. -/
def plain (text : List Char) : Except AddressError Address :=
  match Text.cutAtLast? ':' text with
  | none => .error .invalidAddress
  | some (host, port) =>
      match Text.plusNumber? 10 maxPort port with
      | none => .error .invalidPort
      | some port =>
          if host.contains '\x00' then .error .nulInHost
          else .ok { host := Host.ofText host, port }

/-- An address from its written form. -/
def ofText (text : String) : Except AddressError Address :=
  match bracketed? text.toList with
  | some address => .ok address
  | none => plain text.toList

end Address

end LedMatrix
