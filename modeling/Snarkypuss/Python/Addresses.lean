import Snarkypuss.Python.Conversions

/-!
# Internet addresses

The part of the module `ipaddress` that the gateway scripts use: addresses of both families,
IPv4 interfaces and their networks, read from a text and written as one. The exceptions of the
IPv4 constructors are their texts. Those of `IPv6Address` are only ever caught.

## Main definitions

* `IPv4Address`, `IPv4Network`, `IPv4Interface`: with `IPv4Interface.network`
* `IPv6Address`: eight hextets and the scope
* `ipv4Address`, `ipv4Interface`, `ipAddress`: the constructors on a text

## Main results

* `IPv4Interface.ip_mem_network`: an interface lies in its own network
-/

namespace Snarkypuss.Python

/-! ## IPv4 -/

/-- An IPv4 address. -/
abbrev IPv4Address := BitVec 32

instance neZero_prefixes : NeZero 33 := ⟨by decide⟩

/-- The netmask of a prefix length. -/
def netmask (prefixlen : Fin 33) : BitVec 32 :=
  BitVec.allOnes 32 ^^^ (BitVec.allOnes 32 >>> prefixlen.val)

/-- An IPv4 network: no bit of its address is outside the netmask. -/
structure IPv4Network where
  networkAddress : IPv4Address
  prefixlen : Fin 33
  masked : networkAddress &&& netmask prefixlen = networkAddress
  deriving DecidableEq

/-- An address together with the prefix length of its network. -/
structure IPv4Interface where
  ip : IPv4Address
  prefixlen : Fin 33
  deriving DecidableEq

/-- The network of an interface. -/
def IPv4Interface.network (interface : IPv4Interface) : IPv4Network where
  networkAddress := interface.ip &&& netmask interface.prefixlen
  prefixlen := interface.prefixlen
  masked := by rw [BitVec.and_assoc, BitVec.and_self]

/-- `address in network`. -/
def IPv4Network.Contains (network : IPv4Network) (address : IPv4Address) : Prop :=
  address &&& netmask network.prefixlen = network.networkAddress

instance (network : IPv4Network) (address : IPv4Address) : Decidable (network.Contains address) :=
  inferInstanceAs (Decidable (_ = _))

/-- An interface lies in its own network. -/
theorem IPv4Interface.ip_mem_network (interface : IPv4Interface) :
    interface.network.Contains interface.ip := rfl

/-- The four octets of an address, the most significant first. -/
def octets (ip : IPv4Address) : List Nat :=
  [ip.toNat / 2 ^ 24, ip.toNat / 2 ^ 16 % 256, ip.toNat / 2 ^ 8 % 256, ip.toNat % 256]

/-- `str(n)`. -/
def str (n : Nat) : String := String.ofList (Nat.toDigits 10 n)

/-- `str(address)`. -/
def IPv4Address.str (ip : IPv4Address) : String := ".".intercalate ((octets ip).map Python.str)

/-- `str(network)`. -/
def IPv4Network.str (network : IPv4Network) : String :=
  IPv4Address.str network.networkAddress ++ "/" ++ Python.str network.prefixlen

/-- `str(interface)`. -/
def IPv4Interface.str (interface : IPv4Interface) : String :=
  IPv4Address.str interface.ip ++ "/" ++ Python.str interface.prefixlen

def isAsciiDecimal (c : Char) : Bool := decide (48 ≤ c.toNat ∧ c.toNat ≤ 57)

/-- `text.isascii() and text.isdigit()`. -/
def isAsciiDigits (cs : List Char) : Bool := !cs.isEmpty && cs.all isAsciiDecimal

/-- `IPv4Address._parse_octet`. -/
def parseOctet (data : TextData) (cs : List Char) : Except String Nat :=
  let text := data.repr (String.ofList cs)
  if cs = [] then .error "Empty octet not permitted"
  else if ¬ isAsciiDigits cs then .error s!"Only decimal digits permitted in {text}"
  else if cs.length > 3 then .error s!"At most 3 characters permitted in {text}"
  -- an octet with leading zeros is read as octal by some programs
  else if cs ≠ ['0'] ∧ cs.head? = some '0' then
    .error s!"Leading zeros are not permitted in {text}"
  else
    let octet := Nat.ofDigits 10 (cs.map fun c => c.toNat - 48).reverse
    if octet > 255 then .error s!"Octet {octet} (> 255) not permitted" else .ok octet

/-- `IPv4Address._ip_int_from_string`. -/
def ipv4FromString (data : TextData) (cs : List Char) : Except String IPv4Address :=
  let text := data.repr (String.ofList cs)
  if cs = [] then .error "Address cannot be empty"
  else
    match cs.splitOn '.' with
    | [a, b, c, d] =>
      match [a, b, c, d].mapM (parseOctet data) with
      | .ok octets => .ok (BitVec.ofNat 32 (octets.foldl (fun n octet => n * 256 + octet) 0))
      | .error exc => .error s!"{exc} in {text}"
    | _ => .error s!"Expected 4 octets in {text}"

/-- `IPv4Address(text)`. -/
def ipv4Address (data : TextData) (cs : List Char) : Except String IPv4Address :=
  if '/' ∈ cs then .error s!"Unexpected '/' in {data.repr (String.ofList cs)}"
  else ipv4FromString data cs

/-- `_count_righthand_zero_bits` of a number below `2 ^ bits`. -/
def countRighthandZeroBits : (bits : Nat) → Nat → Nat
  | 0, _ => 0
  | bits + 1, n => if n % 2 = 0 then countRighthandZeroBits bits (n / 2) + 1 else 0

/-- `_prefix_from_ip_int`: the length of a mask that is ones and then zeros. -/
def prefixFromIpInt (ip : IPv4Address) : Option (Fin 33) :=
  let zeros := countRighthandZeroBits 32 ip.toNat
  if ip.toNat >>> zeros = 2 ^ (32 - zeros) - 1 then some ⟨32 - zeros, by omega⟩ else none

/-- `_prefix_from_prefix_string`. -/
def prefixFromPrefixString (cs : List Char) : Option (Fin 33) :=
  if isAsciiDigits cs then
    (readDecimal cs).bind fun n => if h : n < 33 then some ⟨n, h⟩ else none
  else none

/-- `_prefix_from_ip_string`: a netmask, or else a hostmask. All zeros and all ones are netmasks. -/
def prefixFromIpString (data : TextData) (cs : List Char) : Option (Fin 33) :=
  match ipv4FromString data cs with
  | .ok ip => (prefixFromIpInt ip).or (prefixFromIpInt (~~~ip))
  | .error _ => none

/-- `IPv4Network._make_netmask` on a text: a prefix length, a netmask or a hostmask. -/
def makeNetmask (data : TextData) (cs : List Char) : Except String (Fin 33) :=
  match (prefixFromPrefixString cs).or (prefixFromIpString data cs) with
  | some prefixlen => .ok prefixlen
  | none => .error s!"{data.repr (String.ofList cs)} is not a valid netmask"

/-- `IPv4Interface(text)`. -/
def ipv4Interface (data : TextData) (s : String) : Except String IPv4Interface :=
  match s.toList.splitOn '/' with
  | [addr] => do
    let ip ← ipv4Address data addr
    return ⟨ip, 32⟩
  | [addr, mask] => do
    let ip ← ipv4Address data addr
    let prefixlen ← makeNetmask data mask
    return ⟨ip, prefixlen⟩
  | _ => .error s!"Only one '/' permitted in {data.repr s}"

/-! ## IPv6 -/

/-- An IPv6 address: eight hextets, the most significant first, and the scope. -/
structure IPv6Address where
  hextets : List (Fin 65536)
  length_hextets : hextets.length = 8
  scopeId : Option String
  deriving DecidableEq

def isHexDigit (c : Char) : Bool := (digitOf 16 c).isSome

/-- `f"{n:x}"`. -/
def hexDigits (n : Nat) : List Char := Nat.toDigits 16 n

/-- `IPv6Address._parse_hextet`. -/
def parseHextet (cs : List Char) : Option (Fin 65536) :=
  if cs.all isHexDigit ∧ cs.length ≤ 4 then
    (readDigits 16 cs).bind fun ds =>
      let n := Nat.ofDigits 16 ds.reverse
      if h : n < 65536 then some ⟨n, h⟩ else none
  else none

/-- The two hextets of an address in dotted form. -/
def dottedParts (data : TextData) (part : List Char) : Option (List (List Char)) :=
  match ipv4Address data part with
  | .ok ip => some [hexDigits (ip.toNat / 2 ^ 16), hexDigits (ip.toNat % 2 ^ 16)]
  | .error _ => none

/-- The parts between the colons, the dotted suffix as two parts. -/
def colonParts (data : TextData) (cs : List Char) : Option (List (List Char)) :=
  let parts := cs.splitOn ':'
  if parts.length < 3 then none
  else
    match parts.getLast? with
    | some last =>
      if '.' ∈ last then (dottedParts data last).map (parts.dropLast ++ ·) else some parts
    | none => some parts

/-- The empty parts that are neither first nor last. -/
def skipIndices (parts : List (List Char)) : List Nat :=
  (List.range parts.length).filter fun i =>
    decide (1 ≤ i ∧ i + 1 < parts.length) && parts[i]? == some []

/-- Eight hextets from the parts, zeros in the place of a skipped run. -/
def hextetsOfParts (parts : List (List Char)) : Option (List (Fin 65536)) :=
  if parts.length > 9 then none
  else
    match skipIndices parts with
    | [] =>
      if parts.length = 8 ∧ parts.head? ≠ some [] ∧ parts.getLast? ≠ some [] then
        parts.mapM parseHextet
      else none
    | [skip] =>
      -- an empty part at an end belongs to the skipped run, which then reaches that end
      let hi := if parts.head? = some [] then skip - 1 else skip
      let lo := if parts.getLast? = some [] then parts.length - skip - 2
        else parts.length - skip - 1
      if parts.head? = some [] ∧ hi ≠ 0 then none
      else if parts.getLast? = some [] ∧ lo ≠ 0 then none
      else if 8 ≤ hi + lo then none
      else do
        let high ← (parts.take hi).mapM parseHextet
        let low ← (parts.drop (parts.length - lo)).mapM parseHextet
        return high ++ List.replicate (8 - (hi + lo)) 0 ++ low
    | _ => none

/-- `IPv6Address._split_scope_id`. -/
def splitScopeId (s : String) : Option (List Char × Option String) :=
  match partition '%' s with
  | none => some (s.toList, none)
  | some (addr, scope) =>
    if scope = "" ∨ '%' ∈ scope.toList then none else some (addr.toList, some scope)

/-- `IPv6Address(text)`. -/
def ipv6Address (data : TextData) (s : String) : Option IPv6Address :=
  if '/' ∈ s.toList then none
  else
    (splitScopeId s).bind fun (addr, scope) =>
      (colonParts data addr).bind fun parts =>
        (hextetsOfParts parts).bind fun hextets =>
          if h : hextets.length = 8 then some ⟨hextets, h, scope⟩ else none

/-- The longest run of zeros so far and the run being read, each with its start. -/
structure ZeroRuns where
  bestStart : Nat
  bestLen : Nat
  start : Option Nat
  len : Nat

/-- One hextet in the search for the longest run of zeros. -/
def ZeroRuns.next (runs : ZeroRuns) (index : Nat) (hextet : Fin 65536) : ZeroRuns :=
  if hextet = 0 then
    let start := runs.start.getD index
    let len := runs.len + 1
    if runs.bestLen < len then ⟨start, len, some start, len⟩
    else { runs with start := some start, len := len }
  else { runs with start := none, len := 0 }

/-- The first longest run of zeros. -/
def zeroRuns (hextets : List (Fin 65536)) : ZeroRuns :=
  hextets.zipIdx.foldl (fun runs (hextet, index) => runs.next index hextet) ⟨0, 0, none, 0⟩

/-- `_compress_hextets`: the longest run of two zeros or more becomes one empty part. -/
def compressHextets (hextets : List (Fin 65536)) : List (List Char) :=
  let runs := zeroRuns hextets
  let texts := hextets.map fun h => hexDigits h.val
  if runs.bestLen > 1 then
    let stop := runs.bestStart + runs.bestLen
    (if runs.bestStart = 0 then [[]] else []) ++ texts.take runs.bestStart ++ [[]] ++
      texts.drop stop ++ (if stop = hextets.length then [[]] else [])
  else texts

/-- `str(address)`. -/
def IPv6Address.str (address : IPv6Address) : String :=
  let text := String.ofList (List.intercalate [':'] (compressHextets address.hextets))
  match address.scopeId with
  | some scope => text ++ "%" ++ scope
  | none => text

/-! ## Either family -/

/-- An address of either family. -/
inductive IPAddress
  | v4 (address : IPv4Address)
  | v6 (address : IPv6Address)
  deriving DecidableEq

def IPAddress.str : IPAddress → String
  | .v4 address => IPv4Address.str address
  | .v6 address => address.str

/-- `ipaddress.ip_address(text)`. -/
def ipAddress (data : TextData) (s : String) : Except String IPAddress :=
  match ipv4Address data s.toList with
  | .ok address => .ok (.v4 address)
  | .error _ =>
    match ipv6Address data s with
    | some address => .ok (.v6 address)
    | none => .error s!"{data.repr s} does not appear to be an IPv4 or IPv6 address"

end Snarkypuss.Python
