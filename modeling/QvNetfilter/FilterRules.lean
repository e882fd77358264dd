import Mathlib.Data.List.TakeWhile
import QvNetfilter.Socks

/-!
# The driver's rule list

`NetFilterCore::Start` adds one rule after another to the driver's list: the
private networks at its tail, every user rule at its head, and last the two
rules that catch the remaining TCP and UDP flows. The list is searched from its
head, and a zero field of a rule matches anything.
-/

namespace FilterRules

open Memory Socks

inductive NetworkType where
  | networkUnspecified
  | networkTcp
  | networkUdp
deriving DecidableEq

def NetworkType.value : NetworkType → Nat
  | .networkUnspecified => 0
  | .networkTcp => 6
  | .networkUdp => 17

/-- A rule of the user; the name is a `QString`, in UTF-16. -/
structure FilterRule where
  portFrom : Int
  portTo : Int
  networkType : NetworkType
  processName : List UInt16
deriving DecidableEq

def nfMaxIpAddressLength : Nat := 16

def maxPath : Nat := 260

def ipprotoTcp : Nat := 6

def ipprotoUdp : Nat := 17

def nfAllow : UInt32 := 0

def nfFilter : UInt32 := 2

def nfIndicateConnectRequests : UInt32 := 16

def nfDOut : UInt8 := 2

def noAddress : Bytes := List.replicate nfMaxIpAddressLength 0

def noName : List UInt16 := List.replicate maxPath 0

structure NfRule where
  protocol : Nat
  processId : UInt32
  direction : UInt8
  localPort : UInt16
  remotePort : UInt16
  ipFamily : Nat
  localIpAddress : Bytes
  localIpAddressMask : Bytes
  remoteIpAddress : Bytes
  remoteIpAddressMask : Bytes
  filteringFlag : UInt32
deriving DecidableEq

structure NfPortRange where
  valueLow : UInt16
  valueHigh : UInt16
deriving DecidableEq

structure NfRuleEx extends NfRule where
  processName : List UInt16
  localPortRange : NfPortRange
  remotePortRange : NfPortRange
deriving DecidableEq

/-- `memset(&rule, 0, sizeof(rule))` -/
def NfRule.zero : NfRule where
  protocol := 0
  processId := 0
  direction := 0
  localPort := 0
  remotePort := 0
  ipFamily := 0
  localIpAddress := noAddress
  localIpAddressMask := noAddress
  remoteIpAddress := noAddress
  remoteIpAddressMask := noAddress
  filteringFlag := 0

/-- An `NF_RULE` has none of the additional restrictions. -/
def NfRule.extended (rule : NfRule) : NfRuleEx where
  toNfRule := rule
  processName := noName
  localPortRange := ⟨0, 0⟩
  remotePortRange := ⟨0, 0⟩

def NfRuleEx.zero : NfRuleEx := NfRule.zero.extended

section Strings

/-- One decimal number of a dotted quad. -/
def octet (digits : List Char) : Option UInt8 :=
  if digits = [] ∨ 3 < digits.length ∨ ¬ digits.all Char.isDigit then none
  else
    let n := digits.foldl (fun n c => 10 * n + (c.toNat - '0'.toNat)) 0
    if n < 256 then some (UInt8.ofNat n) else none

/-- The four bytes that a dotted quad names. -/
def dottedQuad (addr : String) : Option Bytes :=
  match (addr.toList.splitOn '.').mapM octet with
  | some [a, b, c, d] => some [a, b, c, d]
  | _ => none

/-- `inet_pton(AF_INET, addr, dst)`: nothing is written when the string is not an
IPv4 address. -/
def inetPton (addr : String) (dst : Bytes) : Bytes :=
  match dottedQuad addr with
  | some b => overwrite dst b
  | none => dst

/-- A wide string up to its terminator. -/
def cString (s : List UInt16) : List UInt16 := s.takeWhile (fun c => c != 0)

/-- `wcsncpy(dst, src, n)`, the whole of `dst` after it. -/
def wcsncpy (src : List UInt16) (n : Nat) : List UInt16 :=
  (cString src).take n ++ List.replicate (n - (cString src).length) 0

/-- Assignment of an `int` to an `unsigned short`. -/
def toUShort (x : Int) : UInt16 := UInt16.ofNat (x % 65536).toNat

theorem toUShort_toNat {x : Int} (lo : 0 ≤ x) (hi : x ≤ 65535) :
    ((toUShort x).toNat : Int) = x := by
  rw [toUShort, UInt16.toNat_ofNat']
  omega

theorem toUShort_eq_zero_iff {x : Int} (lo : 0 ≤ x) (hi : x ≤ 65535) :
    toUShort x = 0 ↔ x = 0 := by
  have hx := toUShort_toNat lo hi
  constructor
  · intro h
    rw [h] at hx
    exact hx.symm
  · rintro rfl
    rfl

theorem cString_nonzero {s : List UInt16} {c : UInt16} (mem : c ∈ cString s) : c ≠ 0 := by
  simpa using List.mem_takeWhile_imp mem

/-- A name below the size of the field is read back as it was given. -/
theorem cString_wcsncpy {s : List UInt16} {n : Nat} (short : s.length < n) :
    cString (wcsncpy s n) = cString s := by
  have hle : (cString s).length ≤ s.length := (List.takeWhile_sublist _).length_le
  have htake : (cString s).take n = cString s := List.take_of_length_le (by omega)
  have hpos : n - (cString s).length = (n - (cString s).length - 1) + 1 := by omega
  have hkeep : (cString s).takeWhile (fun c => c != 0) = cString s :=
    List.takeWhile_eq_self_iff.mpr (fun c hc => by simpa using cString_nonzero hc)
  rw [wcsncpy, htake, hpos, List.replicate_succ, cString,
    List.takeWhile_append_of_pos (fun c hc => by simpa using cString_nonzero hc)]
  simp

end Strings

section Building

abbrev RuleList := List NfRuleEx

def nfAddRuleEx (rule : NfRuleEx) (toHead : Bool) (rules : RuleList) : RuleList :=
  if toHead then rule :: rules else rules ++ [rule]

def nfAddRule (rule : NfRule) (toHead : Bool) (rules : RuleList) : RuleList :=
  nfAddRuleEx rule.extended toHead rules

/-- `ADD_PRIVATE_IPV4_ADDRESS(addr, mask)` -/
def privateIpv4Address (addr mask : String) : NfRule :=
  { NfRule.zero with
    filteringFlag := nfAllow
    ipFamily := afInet
    remoteIpAddress := inetPton addr noAddress
    remoteIpAddressMask := inetPton mask noAddress }

def ipv6Loopback : NfRule :=
  { NfRule.zero with
    filteringFlag := nfAllow
    ipFamily := afInet6
    remoteIpAddress := noAddress.set 15 1 }

/-- The string is parsed as an IPv4 address. -/
def ipv6MappedLoopback : NfRule :=
  { NfRule.zero with
    filteringFlag := nfAllow
    ipFamily := afInet6
    remoteIpAddress := inetPton "::ffff:127.0.0.1" noAddress }

/-- The rule that the loop over the user's rules builds. -/
def userRule (rule : FilterRule) : NfRuleEx :=
  { NfRuleEx.zero with
    filteringFlag := nfAllow
    remotePortRange :=
      if rule.portTo ≠ 0 then ⟨toUShort rule.portFrom, toUShort rule.portTo⟩ else ⟨0, 0⟩
    remotePort :=
      if rule.portTo ≠ 0 then 0
      else if rule.portFrom ≠ 0 then toUShort rule.portFrom else 0
    protocol :=
      if rule.networkType ≠ .networkUnspecified then rule.networkType.value else 0
    processName :=
      if rule.processName ≠ [] then wcsncpy rule.processName maxPath else noName }

def proxyTcp : NfRuleEx :=
  { NfRuleEx.zero with protocol := ipprotoTcp, filteringFlag := nfIndicateConnectRequests }

def proxyUdp : NfRuleEx :=
  { NfRuleEx.zero with protocol := ipprotoUdp, filteringFlag := nfFilter }

/-- `NetFilterCore::Start` on the driver's list; `ehInit` and `nfInit` are the
results of the two initializations before it. -/
def start (ehInit nfInit : Bool) (rules : List FilterRule) (list : RuleList) :
    Bool × RuleList :=
  if !ehInit then (false, list)
  else if !nfInit then (false, list)
  else
    let list := nfAddRule (privateIpv4Address "10.0.0.1" "255.0.0.0") false list
    let list := nfAddRule (privateIpv4Address "127.0.0.1" "255.0.0.0") false list
    let list := nfAddRule (privateIpv4Address "172.16.0.1" "255.240.0.0") false list
    let list := nfAddRule (privateIpv4Address "192.168.0.1" "255.255.0.0") false list
    let list := nfAddRule (privateIpv4Address "224.0.0.1" "240.0.0.0") false list
    let list := nfAddRule ipv6Loopback false list
    let list := nfAddRule ipv6MappedLoopback false list
    let list := rules.foldl (fun list rule => nfAddRuleEx (userRule rule) true list) list
    let list := nfAddRuleEx proxyTcp false list
    let list := nfAddRuleEx proxyUdp false list
    (true, list)

theorem foldl_toHead (rules : List FilterRule) (list : RuleList) :
    rules.foldl (fun list rule => nfAddRuleEx (userRule rule) true list) list =
      (rules.map userRule).reverse ++ list := by
  induction rules generalizing list with
  | nil => rfl
  | cons rule rest ih =>
    rw [List.foldl_cons, ih, List.map_cons, List.reverse_cons, List.append_assoc]
    rfl

/-- The rules that do not depend on the user, in the order of the list. -/
def privateRules : RuleList :=
  [(privateIpv4Address "10.0.0.1" "255.0.0.0").extended,
    (privateIpv4Address "127.0.0.1" "255.0.0.0").extended,
    (privateIpv4Address "172.16.0.1" "255.240.0.0").extended,
    (privateIpv4Address "192.168.0.1" "255.255.0.0").extended,
    (privateIpv4Address "224.0.0.1" "240.0.0.0").extended,
    ipv6Loopback.extended, ipv6MappedLoopback.extended]

/-- On an empty list: the user's rules, last one first, then the private networks,
then the two rules for everything else. -/
theorem start_list (rules : List FilterRule) :
    start true true rules [] =
      (true, (rules.map userRule).reverse ++ (privateRules ++ [proxyTcp, proxyUdp])) := by
  simp only [start, foldl_toHead]
  simp [nfAddRuleEx, nfAddRule, privateRules]

end Building

section Matching

inductive Protocol where
  | tcp
  | udp
deriving DecidableEq

def Protocol.value : Protocol → Nat
  | .tcp => ipprotoTcp
  | .udp => ipprotoUdp

inductive IpAddress where
  | ipv4 (a b c d : UInt8)
  | ipv6 (bytes : Bytes) (size : bytes.length = nfMaxIpAddressLength)
deriving DecidableEq

namespace IpAddress

def family : IpAddress → Nat
  | ipv4 _ _ _ _ => afInet
  | ipv6 _ _ => afInet6

def bytes : IpAddress → Bytes
  | ipv4 a b c d => [a, b, c, d]
  | ipv6 bytes _ => bytes

end IpAddress

/-- An outgoing connection or datagram, as the driver sees it. -/
structure Flow where
  protocol : Protocol
  processId : UInt32
  localPort : UInt16
  remotePort : UInt16
  localAddress : IpAddress
  remoteAddress : IpAddress
  processName : List UInt16
deriving DecidableEq

/-- The address field of a rule against an address, compared under a nonzero mask. -/
def addressMatches (field mask : Bytes) (addr : IpAddress) : Bool :=
  if field.all (· == 0) then true
  else if mask.all (· == 0) then addr.bytes == field.take addr.bytes.length
  else List.zipWith (· &&& ·) addr.bytes mask ==
    List.zipWith (· &&& ·) (field.take addr.bytes.length) mask

def rangeMatches (range : NfPortRange) (port : UInt16) : Bool :=
  if range.valueLow = 0 ∧ range.valueHigh = 0 then true
  else range.valueLow ≤ port ∧ port ≤ range.valueHigh

-- the driver's match of a tail mask against a process name
variable (nameMatches : List UInt16 → List UInt16 → Bool)

/-- A rule matches a flow in every field; a zero field matches anything. -/
def ruleMatches (rule : NfRuleEx) (flow : Flow) : Bool :=
  (rule.protocol = 0 ∨ rule.protocol = flow.protocol.value) ∧
  (rule.processId = 0 ∨ rule.processId = flow.processId) ∧
  (rule.direction = 0 ∨ rule.direction &&& nfDOut ≠ 0) ∧
  (rule.localPort = 0 ∨ rule.localPort = flow.localPort) ∧
  (rule.remotePort = 0 ∨ rule.remotePort = flow.remotePort) ∧
  (rule.ipFamily = 0 ∨ rule.ipFamily = flow.remoteAddress.family) ∧
  addressMatches rule.localIpAddress rule.localIpAddressMask flow.localAddress ∧
  addressMatches rule.remoteIpAddress rule.remoteIpAddressMask flow.remoteAddress ∧
  (cString rule.processName = [] ∨ nameMatches (cString rule.processName) flow.processName) ∧
  rangeMatches rule.localPortRange flow.localPort ∧
  rangeMatches rule.remotePortRange flow.remotePort

/-- The rule that decides a flow: the first one that matches. -/
def decidingRule (list : RuleList) (flow : Flow) : Option NfRuleEx :=
  list.find? (fun rule => ruleMatches nameMatches rule flow)

end Matching

end FilterRules
