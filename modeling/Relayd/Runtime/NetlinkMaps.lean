import Relayd.Foundation.Bytes
import Relayd.Runtime.Netlink

/-!
# The ruleset in the kernel

`LibNftnlBackend` does not send one rule per allocation.  It groups the rules by the
family of the target and by protocol, puts each group into two maps that are keyed by
the listening port, and sends one rule per group that looks the port up in both.  The
kernel runs these rules over registers that keep their contents from rule to rule.
-/

namespace Relayd
namespace Runtime
namespace Nft

open Foundation

/-!
# Packets and addresses
-/

inductive ProtoFamily where
  | ipv4
  | ipv6
deriving DecidableEq, Repr

/-- `NFPROTO_IPV4` and `NFPROTO_IPV6`. -/
def ProtoFamily.nfproto : ProtoFamily -> UInt8
  | .ipv4 => 2
  | .ipv6 => 10

/-- The address types of the routing tables. -/
inductive RouteType where
  | unspec
  | unicast
  | localAddress
  | broadcast
  | anycast
  | multicast
  | blackhole
  | unreachable
  | prohibit
  | throw
  | nat
  | xresolve
deriving DecidableEq, Repr

def RouteType.raw : RouteType -> UInt32
  | .unspec => 0
  | .unicast => 1
  | .localAddress => 2
  | .broadcast => 3
  | .anycast => 4
  | .multicast => 5
  | .blackhole => 6
  | .unreachable => 7
  | .prohibit => 8
  | .throw => 9
  | .nat => 10
  | .xresolve => 11

structure Packet where
  family : ProtoFamily
  l4Proto : UInt8
  transportHeader : List UInt8
  daddrType : RouteType
deriving DecidableEq, Repr

/-- Both transport protocols have their destination port in bytes 2 and 3. -/
def Packet.destinationPort (packet : Packet) : Option UInt16 :=
  ofBeBytes ((packet.transportHeader.drop 2).take 2)

abbrev Target := IpAddr × UInt16

def isIpv6 : IpAddr -> Bool
  | .v4 _ => false
  | .v6 _ => true

def octets : IpAddr -> List UInt8
  | .v4 addr => [addr.a, addr.b, addr.c, addr.d]
  | .v6 addr => addr.segments.flatMap toBeBytes

/-- The address in the bytes of a register. -/
def ofOctets : ProtoFamily -> List UInt8 -> Option IpAddr
  | .ipv4, [a, b, c, d] => some (.v4 ⟨a, b, c, d⟩)
  | .ipv6, [b0, b1, b2, b3, b4, b5, b6, b7, b8, b9, b10, b11, b12, b13, b14, b15] => do
      let s0 <- ofBeBytes [b0, b1]
      let s1 <- ofBeBytes [b2, b3]
      let s2 <- ofBeBytes [b4, b5]
      let s3 <- ofBeBytes [b6, b7]
      let s4 <- ofBeBytes [b8, b9]
      let s5 <- ofBeBytes [b10, b11]
      let s6 <- ofBeBytes [b12, b13]
      let s7 <- ofBeBytes [b14, b15]
      some (.v6 ⟨s0, s1, s2, s3, s4, s5, s6, s7⟩)
  | _, _ => none

/-!
# Expressions of the kernel

Registers are runs of 16 bytes in one memory; a store fills up the last word of four
bytes with zeros.  A lookup reads two bytes, the length of a port key.
-/

inductive Register where
  | reg1
  | reg2
  | reg3
  | reg4
deriving DecidableEq, Repr

def Register.address : Register -> Nat
  | .reg1 => 16
  | .reg2 => 32
  | .reg3 => 48
  | .reg4 => 64

abbrev Registers := Memory UInt8

def padded (bytes : List UInt8) : List UInt8 :=
  bytes ++ List.replicate ((4 - bytes.length % 4) % 4) 0

def put (register : Register) (bytes : List UInt8) (registers : Registers) : Registers :=
  registers.store register.address (padded bytes)

def get (register : Register) (count : Nat) (registers : Registers) : List UInt8 :=
  registers.load register.address count

inductive MetaKey where
  | nfProto
  | l4Proto
deriving DecidableEq, Repr

def MetaKey.value (packet : Packet) : MetaKey -> UInt8
  | .nfProto => packet.family.nfproto
  | .l4Proto => packet.l4Proto

structure Element where
  key : List UInt8
  data : List UInt8
deriving DecidableEq, Repr

structure PortMap where
  id : Nat
  dataType : Nat
  dataLen : Nat
  elements : List Element
deriving DecidableEq, Repr

def PortMap.find (key : List UInt8) (set : PortMap) : Option (List UInt8) :=
  (set.elements.find? (fun element => element.key == key)).map Element.data

/-- Expressions over the name of a map: its id in a batch, the map itself in the
kernel. -/
inductive Expr (σ : Type) where
  | metaLoad (key : MetaKey) (destination : Register)
  | cmp (source : Register) (data : List UInt8)
  | payload (offset len : Nat) (destination : Register)
  | fib (result flags : Nat) (destination : Register)
  | lookup (source : Register) (set : σ) (destination : Register)
  | counter
  | nat (family : ProtoFamily) (ipRegister portRegister : Register)
deriving DecidableEq, Repr

inductive Progress where
  | next (registers : Registers)
  | broken
  | dnat (target : Target)

def exec (packet : Packet) (registers : Registers) : Expr PortMap -> Progress
  | .metaLoad key destination => .next (put destination [key.value packet] registers)
  | .cmp source data =>
      if get source data.length registers = data then .next registers else .broken
  | .payload offset len destination =>
      if offset + len ≤ packet.transportHeader.length then
        .next (put destination ((packet.transportHeader.drop offset).take len) registers)
      else .broken
  -- Of the selectors of `fib` only the type of the destination address is used.
  | .fib result flags destination =>
      if result = 3 ∧ flags = 2 then
        .next (put destination (toLeBytes packet.daddrType.raw) registers)
      else .broken
  | .lookup source set destination =>
      match set.find (get source 2 registers) with
      | some data => .next (put destination data registers)
      | none => .broken
  | .counter => .next registers
  | .nat family ipRegister portRegister =>
      if family = packet.family then
        let addressLen := match family with
          | .ipv4 => 4
          | .ipv6 => 16
        match ofOctets family (get ipRegister addressLen registers),
            ofBeBytes (get portRegister 2 registers) with
        | some addr, some port => .dnat (addr, port)
        | _, _ => .broken
      else .next registers

abbrev KernelRule := List (Expr PortMap)

/-- A rule that breaks off leaves its registers to the next one. -/
def runRule (packet : Packet) : KernelRule -> Registers -> Option Target × Registers
  | [], registers => (none, registers)
  | expr :: rest, registers =>
      match exec packet registers expr with
      | .next registers' => runRule packet rest registers'
      | .broken => (none, registers)
      | .dnat target => (some target, registers)

/-- The chain accepts what no rule translates. -/
def runChain (packet : Packet) : List KernelRule -> Registers -> Option Target
  | [], _ => none
  | rule :: rest, registers =>
      match runRule packet rule registers with
      | (some target, _) => some target
      | (none, registers') => runChain packet rest registers'

/-!
# Batches

A batch is applied as a whole or refused.  The elements of a map have the lengths of
its key and data, and one key cannot have two values.
-/

inductive Message where
  | ensureTable
  | addChain
  | flushChain
  | newSet (id dataType dataLen : Nat)
  | newElements (id : Nat) (elements : List Element)
  | newRule (exprs : List (Expr Nat))
deriving DecidableEq, Repr

/-- All messages of a batch are for this table and chain. -/
structure Batch where
  table : String
  chain : String
  messages : List Message
deriving DecidableEq, Repr

structure Transaction where
  sets : KeyMap Nat PortMap
  rules : List KernelRule

def PortMap.add (element : Element) (set : PortMap) : Option PortMap :=
  if element.key.length = 2 ∧ element.data.length = set.dataLen then
    match set.find element.key with
    | none => some { set with elements := set.elements ++ [element] }
    | some data => if data = element.data then some set else none
  else none

def PortMap.addAll : List Element -> PortMap -> Option PortMap
  | [], set => some set
  | element :: rest, set => (set.add element).bind (PortMap.addAll rest)

/-- A rule holds on to the maps that its ids name. -/
def Expr.link (sets : KeyMap Nat PortMap) : Expr Nat -> Option (Expr PortMap)
  | .metaLoad key destination => some (.metaLoad key destination)
  | .cmp source data => some (.cmp source data)
  | .payload offset len destination => some (.payload offset len destination)
  | .fib result flags destination => some (.fib result flags destination)
  | .lookup source id destination =>
      (sets.lookup id).map (fun set => .lookup source set destination)
  | .counter => some .counter
  | .nat family ipRegister portRegister => some (.nat family ipRegister portRegister)

def applyMessage (t : Transaction) : Message -> Option Transaction
  | .ensureTable => some t
  | .addChain => some t
  | .flushChain => some { t with rules := [] }
  | .newSet id dataType dataLen =>
      some { t with sets := t.sets.insert id ⟨id, dataType, dataLen, []⟩ }
  | .newElements id elements => do
      let set <- t.sets.lookup id
      let filled <- set.addAll elements
      some { t with sets := t.sets.insert id filled }
  | .newRule exprs => do
      let rule <- exprs.mapM (Expr.link t.sets)
      some { t with rules := t.rules ++ [rule] }

def applyMessages : List Message -> Transaction -> Option Transaction
  | [], t => some t
  | message :: rest, t => (applyMessage t message).bind (applyMessages rest)

/-- The rules of the chain after the batch; ids name only maps of the batch. -/
def commit (batch : Batch) (rules : List KernelRule) : Option (List KernelRule) :=
  (applyMessages batch.messages ⟨∅, rules⟩).map Transaction.rules

/-!
# Names

A name goes to the kernel as a C string.
-/

inductive BuildFailure where
  | error (error : NftBackendError)
  | panicked
deriving DecidableEq, Repr

def nul : Char := Char.ofNat 0

/-- The byte position of the first nul. -/
def nulPosition : List Char -> Nat -> Option Nat
  | [], _ => none
  | c :: rest, position =>
      if c = nul then some position else nulPosition rest (position + c.utf8Size)

def cstringError (kind : String) (position : Nat) : NftBackendError :=
  .apply s!"invalid nftables {kind} name: nul byte found in provided data at position: {position}"

def cstringName (kind value : String) : Except BuildFailure String :=
  match nulPosition value.toList 0 with
  | none => .ok value
  | some position => .error (.error (cstringError kind position))

/-!
# The backend
-/

namespace LibNftnlBackend

def nftFibResultAddrtype : Nat := 3

def nftFibFDaddr : Nat := 1 <<< 1

def rtnLocal : UInt8 := 2

def regProtocol : Register := .reg1

def regPort : Register := .reg2

def regFibType : Register := .reg3

def regDnatAddr : Register := .reg1

def regDnatPort : Register := .reg2

def loadMeta (key : MetaKey) (register : Register) : Expr Nat := .metaLoad key register

/-- The data is a byte in every comparison that is built. -/
def cmpRegister (register : Register) (data : UInt8) : Expr Nat := .cmp register [data]

def loadPayload (offset len : Nat) (register : Register) : Expr Nat :=
  .payload offset len register

def fibDaddrType (register : Register) : Expr Nat :=
  .fib nftFibResultAddrtype nftFibFDaddr register

def mapLookup (set : PortMap) (destination : Register) : Expr Nat :=
  .lookup regPort set.id destination

def nfprotoFamilyFor : IpAddr -> ProtoFamily
  | .v4 _ => .ipv4
  | .v6 _ => .ipv6

def nfprotoFor (addr : IpAddr) : UInt8 := (nfprotoFamilyFor addr).nfproto

/-- `IPPROTO_TCP` and `IPPROTO_UDP`; the source panics on the third case. -/
def l4protoFor : Protocol -> Option UInt8
  | .tcp => some 6
  | .udp => some 17
  | .both => none

def addDnatRuleExprs (dnat : NftDnatRule) (addresses ports : PortMap) :
    Except BuildFailure (List (Expr Nat)) :=
  match l4protoFor dnat.protocol with
  | none => .error .panicked
  | some l4proto => .ok
      [loadMeta .nfProto regProtocol,
        cmpRegister regProtocol (nfprotoFor dnat.outHost),
        loadMeta .l4Proto regProtocol,
        cmpRegister regProtocol l4proto,
        loadPayload 2 2 regPort,
        fibDaddrType regFibType,
        cmpRegister regFibType rtnLocal,
        mapLookup addresses regDnatAddr,
        mapLookup ports regDnatPort,
        .counter,
        .nat (nfprotoFamilyFor dnat.outHost) regDnatAddr regDnatPort]

def portMap (id dataType dataLen : Nat) : PortMap := ⟨id, dataType, dataLen, []⟩

def addElement (set : PortMap) (port : UInt16) (data : List UInt8) : PortMap :=
  { set with elements := set.elements ++ [⟨toBeBytes port, data⟩] }

/-- A port that was seen keeps its first entry. -/
def addEntries : List NftDnatRule -> List UInt16 -> PortMap × PortMap -> PortMap × PortMap
  | [], _, maps => maps
  | entry :: rest, seen, (addresses, ports) =>
      if entry.inPort ∈ seen then addEntries rest seen (addresses, ports)
      else
        addEntries rest (entry.inPort :: seen)
          (addElement addresses entry.inPort (octets entry.outHost),
            addElement ports entry.inPort (toBeBytes entry.outPort))

/-- The elements go out in several messages when they are many; the batch is applied
as a whole, so one message stands for them. -/
def setMessages (set : PortMap) : List Message :=
  [.newSet set.id set.dataType set.dataLen, .newElements set.id set.elements]

def inGroup (ipv6 : Bool) (protocol : Protocol) (rule : NftDnatRule) : Bool :=
  isIpv6 rule.outHost == ipv6 && rule.protocol == protocol

def dispatchGroup (rules : List NftDnatRule) (ipv6 : Bool) (protocol : Protocol) (id : Nat) :
    Except BuildFailure (List Message × Nat) :=
  match rules.filter (inGroup ipv6 protocol) with
  | [] => .ok ([], id)
  | first :: others => do
      let maps := addEntries (first :: others) []
        (portMap id (if ipv6 then 8 else 7) (if ipv6 then 16 else 4), portMap (id + 1) 13 2)
      let exprs <- addDnatRuleExprs first maps.1 maps.2
      .ok (setMessages maps.1 ++ setMessages maps.2 ++ [.newRule exprs], id + 2)

def dispatchGroups (rules : List NftDnatRule) :
    List (Bool × Protocol) -> Nat -> Except BuildFailure (List Message)
  | [], _ => .ok []
  | (ipv6, protocol) :: rest, id => do
      let sent <- dispatchGroup rules ipv6 protocol id
      let later <- dispatchGroups rules rest sent.2
      .ok (sent.1 ++ later)

/-- The order of the two loops. -/
def groups : List (Bool × Protocol) :=
  [(false, .tcp), (false, .udp), (true, .tcp), (true, .udp)]

/-- The batch that is sent. -/
def replaceRuleset (tableName chainName : String) (rules : List NftDnatRule) :
    Except BuildFailure Batch := do
  let table <- cstringName "table" tableName
  let chain <- cstringName "chain" chainName
  let messages <- dispatchGroups rules groups 1
  .ok ⟨table, chain, [.ensureTable, .addChain, .flushChain] ++ messages⟩

end LibNftnlBackend

/-!
# First match

What the rules say one by one, without maps and registers.
-/

def Matches (packet : Packet) (rule : NftDnatRule) : Prop :=
  LibNftnlBackend.nfprotoFamilyFor rule.outHost = packet.family ∧
    LibNftnlBackend.l4protoFor rule.protocol = some packet.l4Proto ∧
    packet.destinationPort = some rule.inPort

instance (packet : Packet) (rule : NftDnatRule) : Decidable (Matches packet rule) :=
  inferInstanceAs (Decidable (_ ∧ _ ∧ _))

def firstMatch (packet : Packet) (rules : List NftDnatRule) : Option Target :=
  if packet.daddrType = .localAddress then
    (rules.find? (fun rule => Matches packet rule)).map (fun rule => (rule.outHost, rule.outPort))
  else none

end Nft
end Runtime
end Relayd
