import Mathlib.Data.List.Basic

/-!
# Internet addresses

Ranges of numbers and lists of them: a range that lies in one of a list, or
apart from all of it.  Over them the addresses of both versions as the
interpreter's `ipaddress` module reads them from text and classifies them.
-/

namespace BlogOps.IpAddresses

/-- The numbers from `first` to `last`. -/
structure Range where
  first : Nat
  last : Nat
deriving DecidableEq, Repr

variable {n : Nat} {s : Range} {parts ranges : List Range}

namespace Range

def Contains (r : Range) (n : Nat) : Prop := r.first ≤ n ∧ n ≤ r.last

instance (r : Range) (n : Nat) : Decidable (r.Contains n) := inferInstanceAs (Decidable (_ ∧ _))

def Within (r s : Range) : Prop := s.first ≤ r.first ∧ r.last ≤ s.last

instance (r s : Range) : Decidable (r.Within s) := inferInstanceAs (Decidable (_ ∧ _))

def Apart (r s : Range) : Prop := r.last < s.first ∨ s.last < r.first

instance (r s : Range) : Decidable (r.Apart s) := inferInstanceAs (Decidable (_ ∨ _))

theorem Contains.mono {r : Range} (h : r.Contains n) (hrs : r.Within s) : s.Contains n :=
  ⟨Nat.le_trans hrs.1 h.1, Nat.le_trans h.2 hrs.2⟩

theorem Contains.not_of_apart {r : Range} (h : r.Contains n) (hrs : r.Apart s) : ¬s.Contains n := by
  rintro ⟨hfirst, hlast⟩
  obtain ⟨hr, hr'⟩ := h
  unfold Apart at hrs
  omega

end Range

/-- The number lies in one of the ranges. -/
def Listed (ranges : List Range) (n : Nat) : Prop := ∃ r ∈ ranges, r.Contains n

instance (ranges : List Range) (n : Nat) : Decidable (Listed ranges n) :=
  inferInstanceAs (Decidable (∃ r ∈ ranges, r.Contains n))

/-- The number lies in one of the ranges and in none of the exceptions. -/
def ListedBut (ranges exceptions : List Range) (n : Nat) : Prop :=
  Listed ranges n ∧ ¬Listed exceptions n

instance (ranges exceptions : List Range) (n : Nat) : Decidable (ListedBut ranges exceptions n) :=
  inferInstanceAs (Decidable (_ ∧ _))

/-- Each range of `parts` is inside one of `ranges` and apart from every exception. -/
def Covers (ranges exceptions parts : List Range) : Prop :=
  ∀ r ∈ parts, (∃ s ∈ ranges, r.Within s) ∧ ∀ s ∈ exceptions, r.Apart s

instance (ranges exceptions parts : List Range) : Decidable (Covers ranges exceptions parts) :=
  inferInstanceAs (Decidable (∀ r ∈ parts, _))

theorem Covers.listedBut {exceptions : List Range} (h : Covers ranges exceptions parts)
    (hn : Listed parts n) : ListedBut ranges exceptions n := by
  obtain ⟨r, hr, hrn⟩ := hn
  obtain ⟨⟨s, hs, hrs⟩, hapart⟩ := h r hr
  refine ⟨⟨s, hs, hrn.mono hrs⟩, ?_⟩
  rintro ⟨t, ht, htn⟩
  exact hrn.not_of_apart (hapart t ht) htn

theorem not_contains_of_listed (h : ∀ r ∈ ranges, r.Apart s) (hn : Listed ranges n) : ¬s.Contains n := by
  obtain ⟨r, hr, hrn⟩ := hn
  exact hrn.not_of_apart (h r hr)

theorem listed_append {more : List Range} : Listed (ranges ++ more) n ↔ Listed ranges n ∨ Listed more n := by
  simp only [Listed, List.mem_append, or_and_right, exists_or]

/-- The addresses that share their leading `length` bits with the network address, which is given
by its leading digits of `digitBits` bits each. -/
def network (digitBits digits : Nat) (leading : List Nat) (length : Nat) : Range :=
  let address := leading.foldl (fun n digit => n <<< digitBits + digit) 0 <<<
    (digitBits * (digits - leading.length))
  ⟨address, address + 1 <<< (digitBits * digits - length) - 1⟩

/-- A network written by octets. -/
def network4 (octets : List Nat) (length : Nat) : Range := network 8 4 octets length

/-- A network written by hextets. -/
def network6 (hextets : List Nat) (length : Nat) : Range := network 16 8 hextets length

inductive IpAddress where
  | v4 (number : BitVec 32)
  | v6 (number : BitVec 128)
deriving DecidableEq, Repr

namespace IPv4

def linklocalNetwork : List Range := [network4 [169, 254] 16]

def loopbackNetwork : List Range := [network4 [127] 8]

def multicastNetwork : List Range := [network4 [224] 4]

/-- The shared address space of carriers. -/
def publicNetwork : List Range := [network4 [100, 64] 10]

def privateNetworks : List Range :=
  [network4 [0] 8, network4 [10] 8, network4 [127] 8, network4 [169, 254] 16,
    network4 [172, 16] 12, network4 [192, 0, 0] 24, network4 [192, 0, 0, 170] 31,
    network4 [192, 0, 2] 24, network4 [192, 168] 16, network4 [198, 18] 15,
    network4 [198, 51, 100] 24, network4 [203, 0, 113] 24, network4 [240] 4,
    network4 [255, 255, 255, 255] 32]

def privateNetworksExceptions : List Range := [network4 [192, 0, 0, 9] 32, network4 [192, 0, 0, 10] 32]

def reservedNetwork : List Range := [network4 [240] 4]

def unspecifiedAddress : List Range := [network4 [0, 0, 0, 0] 32]

def isPrivate (n : Nat) : Bool := ListedBut privateNetworks privateNetworksExceptions n

def isGlobal (n : Nat) : Bool := !(Listed publicNetwork n : Bool) && !isPrivate n

end IPv4

namespace IPv6

def linklocalNetwork : List Range := [network6 [0xfe80] 10]

def loopbackAddress : List Range := [network6 [0, 0, 0, 0, 0, 0, 0, 1] 128]

def multicastNetwork : List Range := [network6 [0xff00] 8]

def privateNetworks : List Range :=
  [network6 [0, 0, 0, 0, 0, 0, 0, 1] 128, network6 [0] 128, network6 [0, 0, 0, 0, 0, 0xffff] 96,
    network6 [0x64, 0xff9b, 1] 48, network6 [0x100] 64, network6 [0x2001] 23,
    network6 [0x2001, 0xdb8] 32, network6 [0x2002] 16, network6 [0x3fff] 20,
    network6 [0xfc00] 7, network6 [0xfe80] 10]

def privateNetworksExceptions : List Range :=
  [network6 [0x2001, 1, 0, 0, 0, 0, 0, 1] 128, network6 [0x2001, 1, 0, 0, 0, 0, 0, 2] 128,
    network6 [0x2001, 3] 32, network6 [0x2001, 4, 0x112] 48, network6 [0x2001, 0x20] 28,
    network6 [0x2001, 0x30] 28]

def reservedNetworks : List Range :=
  [network6 [0] 8, network6 [0x100] 8, network6 [0x200] 7, network6 [0x400] 6,
    network6 [0x800] 5, network6 [0x1000] 4, network6 [0x4000] 3, network6 [0x6000] 3,
    network6 [0x8000] 3, network6 [0xa000] 3, network6 [0xc000] 3, network6 [0xe000] 4,
    network6 [0xf000] 5, network6 [0xf800] 6, network6 [0xfe00] 9]

def unspecifiedAddress : List Range := [network6 [0] 128]

def isPrivate (n : Nat) : Bool := ListedBut privateNetworks privateNetworksExceptions n

/-- The address of version 4 that one of `::ffff:0:0/96` embeds. -/
def ipv4Mapped (number : BitVec 128) : Option (BitVec 32) :=
  if number >>> 32 = 0xffff#128 then some (number.setWidth 32) else none

end IPv6

/-- Releases of the interpreter differ in which of these properties of a mapped address are those of
the address it embeds. -/
structure MappedProperties where
  loopback : Bool
  linkLocal : Bool
  multicast : Bool
  reserved : Bool
  unspecified : Bool
deriving DecidableEq, Repr

namespace IpAddress

/-- The embedded address of a mapped one, any other address itself. -/
def unmapped : IpAddress → IpAddress
  | .v4 number => .v4 number
  | .v6 number => (IPv6.ipv4Mapped number).elim (.v6 number) .v4

/-- A property by the tables of the two versions, of a mapped address by `embedded` that of the
address it embeds. -/
def property (embedded : Bool) (table4 table6 : Nat → Bool) (address : IpAddress) : Bool :=
  match if embedded then address.unmapped else address with
  | .v4 number => table4 number.toNat
  | .v6 number => table6 number.toNat

def isPrivate (address : IpAddress) : Bool := address.property true IPv4.isPrivate IPv6.isPrivate

def isGlobal (address : IpAddress) : Bool :=
  address.property true IPv4.isGlobal fun n => !IPv6.isPrivate n

variable (properties : MappedProperties) (address : IpAddress)

def isLoopback : Bool := address.property properties.loopback (Listed IPv4.loopbackNetwork ·)
    (Listed IPv6.loopbackAddress ·)

def isLinkLocal : Bool := address.property properties.linkLocal (Listed IPv4.linklocalNetwork ·)
    (Listed IPv6.linklocalNetwork ·)

def isMulticast : Bool := address.property properties.multicast (Listed IPv4.multicastNetwork ·)
    (Listed IPv6.multicastNetwork ·)

def isReserved : Bool := address.property properties.reserved (Listed IPv4.reservedNetwork ·)
    (Listed IPv6.reservedNetworks ·)

def isUnspecified : Bool := address.property properties.unspecified (Listed IPv4.unspecifiedAddress ·)
    (Listed IPv6.unspecifiedAddress ·)

/-- The address, or the one it embeds, is of the shared address space. -/
def IsShared : Prop := address.property true (Listed IPv4.publicNetwork ·) (fun _ => false) = true

/-- The ranges that a private, loopback, link-local, reserved or documentation address of version 4
lies in. -/
def internalRanges4 : List Range :=
  [network4 [10] 8, network4 [172, 16] 12, network4 [192, 168] 16, network4 [127] 8,
    network4 [169, 254] 16, network4 [240] 4, network4 [192, 0, 2] 24, network4 [198, 51, 100] 24,
    network4 [203, 0, 113] 24]

/-- The same of version 6, the reserved ones apart. -/
def internalRanges6 : List Range :=
  [network6 [0xfc00] 7, network6 [0, 0, 0, 0, 0, 0, 0, 1] 128, network6 [0xfe80] 10,
    network6 [0x2001, 0xdb8] 32, network6 [0x3fff] 20]

/-- The address, or the one it embeds, is private, loopback, link-local, reserved or set aside for
documentation. -/
def IsInternal : Prop := address.property true (Listed internalRanges4 ·)
    (Listed (internalRanges6 ++ IPv6.reservedNetworks) ·) = true

theorem covers_internal4 : Covers IPv4.privateNetworks IPv4.privateNetworksExceptions internalRanges4 := by
  decide +kernel

theorem covers_internal6 : Covers IPv6.privateNetworks IPv6.privateNetworksExceptions internalRanges6 := by
  decide +kernel

variable {address : IpAddress} {properties : MappedProperties}

theorem unmapped_eq_v6 {number : BitVec 128} (h : address.unmapped = .v6 number) : address = .v6 number := by
  cases address with
  | v4 low => cases h
  | v6 other =>
    cases hlow : IPv6.ipv4Mapped other with
    | none =>
      simp only [unmapped, hlow, Option.elim_none] at h
      exact h
    | some low =>
      simp only [unmapped, hlow, Option.elim_some] at h
      cases h

theorem isPrivate4_of_covered (h : Covers IPv4.privateNetworks IPv4.privateNetworksExceptions parts)
    (hn : Listed parts n) : IPv4.isPrivate n = true :=
  decide_eq_true (h.listedBut hn)

theorem isPrivate6_of_covered (h : Covers IPv6.privateNetworks IPv6.privateNetworksExceptions parts)
    (hn : Listed parts n) : IPv6.isPrivate n = true :=
  decide_eq_true (h.listedBut hn)

theorem mappedNetwork_contains {number : BitVec 128} {low : BitVec 32}
    (h : IPv6.ipv4Mapped number = some low) :
    (network6 [0, 0, 0, 0, 0, 0xffff] 96).Contains number.toNat := by
  unfold IPv6.ipv4Mapped at h
  split at h
  · next hhigh =>
    have hnumber := congrArg BitVec.toNat hhigh
    rw [BitVec.toNat_ushiftRight, Nat.shiftRight_eq_div_pow] at hnumber
    have hnetwork : network6 [0, 0, 0, 0, 0, 0xffff] 96 = ⟨0xffff00000000, 0xffffffffffff⟩ := by
      decide +kernel
    rw [hnetwork]
    constructor
    · simp at hnumber ⊢
      omega
    · simp at hnumber ⊢
      omega
  · cases h

/-- A property of private addresses only, which no mapped address has by the tables of version 6, is
one of private addresses in every release. -/
theorem isPrivate_of_property {embedded : Bool} {parts4 parts6 : List Range}
    (h4 : Covers IPv4.privateNetworks IPv4.privateNetworksExceptions parts4)
    (h6 : Covers IPv6.privateNetworks IPv6.privateNetworksExceptions parts6)
    (hmapped : ∀ r ∈ parts6, r.Apart (network6 [0, 0, 0, 0, 0, 0xffff] 96))
    (h : address.property embedded (Listed parts4 ·) (Listed parts6 ·) = true) :
    address.isPrivate = true := by
  cases address with
  | v4 number =>
    apply isPrivate4_of_covered h4
    apply of_decide_eq_true
    cases embedded <;> exact h
  | v6 number =>
    cases hlow : IPv6.ipv4Mapped number with
    | none =>
      have hself : (IpAddress.v6 number).unmapped = .v6 number := by
        simp only [unmapped, hlow, Option.elim_none]
      simp only [property, isPrivate, hself, ite_self] at h ⊢
      exact isPrivate6_of_covered h6 (of_decide_eq_true h)
    | some low =>
      have hlow' : (IpAddress.v6 number).unmapped = .v4 low := by
        simp only [unmapped, hlow, Option.elim_some]
      cases embedded with
      | true =>
        simp only [property, isPrivate, hlow', if_true] at h ⊢
        exact isPrivate4_of_covered h4 (of_decide_eq_true h)
      | false =>
        -- by the tables of version 6 the address lies apart from the mapped ones
        exact absurd (mappedNetwork_contains hlow) (not_contains_of_listed hmapped (of_decide_eq_true h))

theorem isPrivate_of_isLoopback (h : address.isLoopback properties = true) : address.isPrivate = true :=
  isPrivate_of_property (by decide +kernel) (by decide +kernel) (by decide +kernel) h

theorem isPrivate_of_isLinkLocal (h : address.isLinkLocal properties = true) : address.isPrivate = true :=
  isPrivate_of_property (by decide +kernel) (by decide +kernel) (by decide +kernel) h

theorem isPrivate_of_isUnspecified (h : address.isUnspecified properties = true) : address.isPrivate = true :=
  isPrivate_of_property (by decide +kernel) (by decide +kernel) (by decide +kernel) h

/-- Outside the shared address space an address is global unless it is private. -/
theorem isGlobal_eq_not_isPrivate (h : ¬address.IsShared) : address.isGlobal = !address.isPrivate := by
  unfold IsShared property at h
  unfold isGlobal isPrivate property
  rw [if_pos rfl] at h ⊢
  cases hunmapped : address.unmapped with
  | v4 number =>
    rw [hunmapped] at h
    have hpublic : (Listed IPv4.publicNetwork number.toNat : Bool) = false := Bool.eq_false_iff.2 h
    simp only [IPv4.isGlobal, hpublic, Bool.not_false, Bool.true_and]
  | v6 number => rfl

/-- An address of one of the ranges that outbound requests must not reach is private or reserved. -/
theorem isPrivate_or_isReserved_of_isInternal (h : address.IsInternal) (properties : MappedProperties) :
    address.isPrivate = true ∨ address.isReserved properties = true := by
  unfold IsInternal property at h
  rw [if_pos rfl] at h
  cases hunmapped : address.unmapped with
  | v4 number =>
    rw [hunmapped] at h
    left
    unfold isPrivate property
    rw [if_pos rfl, hunmapped]
    exact isPrivate4_of_covered covers_internal4 (of_decide_eq_true h)
  | v6 number =>
    have hself : address = .v6 number := unmapped_eq_v6 hunmapped
    rw [hunmapped] at h
    rcases listed_append.1 (of_decide_eq_true h) with hlisted | hlisted
    · left
      unfold isPrivate property
      rw [if_pos rfl, hunmapped]
      exact isPrivate6_of_covered covers_internal6 hlisted
    · right
      unfold isReserved property
      rw [hunmapped, hself, ite_self]
      exact decide_eq_true hlisted

end IpAddress

/-- `str.split(sep)`. -/
def split (separator : Char) (text : List Char) : List (List Char) := text.splitOn separator

/-- The value of a digit of a base up to sixteen. -/
def digitValue (c : Char) : Nat :=
  if c.isDigit then c.toNat - '0'.toNat
  else if c.isLower then c.toNat - 'a'.toNat + 10
  else c.toNat - 'A'.toNat + 10

def isHexDigit (c : Char) : Bool := c.isDigit || 'a' ≤ c && c ≤ 'f' || 'A' ≤ c && c ≤ 'F'

/-- `int(text, base)` of a text of digits. -/
def intOfDigits (base : Nat) (text : List Char) : Nat :=
  text.foldl (fun n c => n * base + digitValue c) 0

variable (text : List Char)

/-- `_parse_octet`, `none` for a `ValueError`. -/
def parseOctet : Option Nat :=
  if text = [] then none
  else if !text.all Char.isDigit then none
  else if 3 < text.length then none
  else if text ≠ ['0'] ∧ text.head? = some '0' then none
  else if 255 < intOfDigits 10 text then none
  else some (intOfDigits 10 text)

/-- `IPv4Address(text)`. -/
def ipv4Address : Option (BitVec 32) :=
  if '/' ∈ text then none
  else if text = [] then none
  else if (split '.' text).length ≠ 4 then none
  else ((split '.' text).mapM parseOctet).map fun octets =>
    BitVec.ofNat 32 (octets.foldl (fun n octet => n <<< 8 + octet) 0)

def parseHextet : Option Nat :=
  if !text.all isHexDigit then none
  else if 4 < text.length then none
  else if text = [] then none
  else some (intOfDigits 16 text)

/-- The parts of an address with an address of version 4 at its end in two hextets. -/
def dottedParts (parts : List (List Char)) : Option (List (List Char)) :=
  match parts.getLast? with
  | none => some parts
  | some last =>
    if '.' ∈ last then
      (ipv4Address last).map fun number =>
        parts.dropLast ++ [Nat.toDigits 16 (number.toNat >>> 16 &&& 0xffff),
          Nat.toDigits 16 (number.toNat &&& 0xffff)]
    else some parts

/-- The parts before `::`: nothing when the address begins with it. -/
def partsHigh (parts : List (List Char)) : Option (List (List Char)) :=
  if parts.head? = some [] then if parts.length ≠ 1 then none else some [] else some parts

/-- The parts after `::`: nothing when the address ends with it. -/
def partsLow (parts : List (List Char)) : Option (List (List Char)) :=
  if parts.getLast? = some [] then if parts.length ≠ 1 then none else some [] else some parts

/-- The hextets of the parts, with the zeroes that `::` stands for. -/
def hextets (parts : List (List Char)) : Option (List Nat) := let inner := parts.tail.dropLast
  if 1 < inner.count [] then none
  else match inner.idxOf? [] with
    | some index => do
      let high ← partsHigh (parts.take (index + 1))
      let low ← partsLow (parts.drop (index + 2))
      if 8 < high.length + low.length + 1 then none
      else return (← high.mapM parseHextet) ++
        List.replicate (8 - (high.length + low.length)) 0 ++ (← low.mapM parseHextet)
    | none => if parts.length ≠ 8 then none else parts.mapM parseHextet

/-- `_split_scope_id`: the address before the scope. -/
def splitScopeId : Option (List Char) :=
  match split '%' text with
  | [address] => some address
  | [address, scope] => if scope = [] then none else some address
  | _ => none

/-- `IPv6Address(text)`; the scope is read by none of its properties. -/
def ipv6Address : Option (BitVec 128) :=
  if '/' ∈ text then none
  else do
    let address ← splitScopeId text
    if address = [] ∨ (split ':' address).length < 3 then none
    else do
      let parts ← dottedParts (split ':' address)
      if 9 < parts.length then none
      else (hextets parts).map fun values =>
        BitVec.ofNat 128 (values.foldl (fun n value => n <<< 16 + value) 0)

/-- `ip_address(text)`, `none` for a `ValueError`. -/
def ipAddress (text : String) : Option IpAddress :=
  ((ipv4Address text.toList).map .v4).or ((ipv6Address text.toList).map .v6)

end BlogOps.IpAddresses
