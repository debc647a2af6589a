/-
# Numbers of hosts

A host has a number of 32 bits in version 4 of the network and one of 128 bits
in version 6. Version 6 embeds version 4: a mapped number stands for a number of
32 bits. This module says which kinds of numbers there are and how a number is
written.
-/

import LedMatrix.Text.Quoted

namespace LedMatrix

/-- The number of a host. -/
inductive IpAddress where
  /-- A number of 32 bits. -/
  | v4 (number : UInt32)
  /-- A number of 128 bits in eight groups of sixteen, the first one on top. -/
  | v6 (groups : Vector UInt16 8)
  deriving DecidableEq

namespace IpAddress

/-- The number with the given groups, if there are eight. -/
def ofGroups? (groups : List UInt16) : Option IpAddress :=
  if complete : groups.length = 8 then some (.v6 ⟨groups.toArray, complete⟩) else none

/-- The number of 32 bits that a mapped number stands for. -/
def mapped? : IpAddress → Option UInt32
  | v4 _ => none
  | v6 groups =>
      match groups.toList with
      | [0, 0, 0, 0, 0, 0xFFFF, high, low] => some (high.toUInt32 <<< 16 ||| low.toUInt32)
      | _ => none

/-- Whether a number stands for every host of the machine itself. -/
def isUnspecified : IpAddress → Bool
  | v4 number => number = 0
  | v6 groups => groups.toList.all (· = 0)

/-- The first group of a number of 128 bits. -/
def firstGroup? : IpAddress → Option UInt16
  | v4 _ => none
  | v6 groups => groups.toList.head?

/-- Whether a number of 128 bits names a group of hosts. -/
def isMulticast (address : IpAddress) : Bool :=
  address.firstGroup?.any fun first => first &&& 0xFF00 = 0xFF00

/-- Whether a number of 128 bits names a group of hosts on one link. -/
def isLinkLocalMulticast (address : IpAddress) : Bool :=
  address.firstGroup?.any fun first => first &&& 0xFF0F = 0xFF02

/-- Whether a number of 128 bits names a host on one link only. -/
def isLinkLocal (address : IpAddress) : Bool :=
  address.firstGroup?.any fun first => first &&& 0xFFC0 = 0xFE80

/-! ## Writing -/

/-- A number of 32 bits, byte by byte. -/
def dotted (number : UInt32) : String :=
  ".".intercalate ([24, 16, 8, 0].map fun shift => toString (number.toNat >>> shift % 256))

/-- Groups with colons between them. -/
def written (groups : List UInt16) : String :=
  ":".intercalate (groups.map fun group => String.ofList (Text.lowerHex group.toNat))

/-- The number of zero groups at the start of a list. -/
def leadingZeros (groups : List UInt16) : Nat := (groups.takeWhile (· = 0)).length

/-- Where the first of the longest runs of zero groups starts, and its length. -/
def longestZeros : List UInt16 → Nat × Nat
  | [] => (0, 0)
  | group :: rest =>
      let here := leadingZeros (group :: rest)
      let (start, length) := longestZeros rest
      if length ≤ here then (0, here) else (start + 1, length)

/-- A number as it is written. Two colons stand for the longest run of zero
groups if it has two groups at least, and a mapped number ends as the number
that it stands for. -/
def display (address : IpAddress) : String :=
  match address with
  | v4 number => dotted number
  | v6 groups =>
      match address.mapped? with
      | some number => "::ffff:" ++ dotted number
      | none =>
          let groups := groups.toList
          let (start, length) := longestZeros groups
          if length < 2 then written groups
          else written (groups.take start) ++ "::" ++ written (groups.drop (start + length))

end IpAddress

end LedMatrix
