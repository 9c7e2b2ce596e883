import Mathlib.Data.List.Find
import Mathlib.Tactic.FinCases
import Relayd.Runtime.NetlinkMaps

/-!
# Maps and first match

The maps of a group hold the first entry of each port, so that a lookup finds what a
scan of the group finds first; and a packet belongs to at most one group.  So the chain
in the kernel may be taken for the list of rules it was made from, as the model of the
netlink runtime does.
-/

namespace Relayd
namespace Runtime
namespace Nft

open Foundation
open LibNftnlBackend

/-!
# The entries of a group
-/

/-- The entries that are put into the maps. -/
def firstEntries : List NftDnatRule -> List UInt16 -> List NftDnatRule
  | [], _ => []
  | entry :: rest, seen =>
      if entry.inPort ∈ seen then firstEntries rest seen
      else entry :: firstEntries rest (entry.inPort :: seen)

/-- The elements for a list of entries, given the data of each. -/
def elementsOf (data : NftDnatRule -> List UInt8) (entries : List NftDnatRule) : List Element :=
  entries.map (fun entry => ⟨toBeBytes entry.inPort, data entry⟩)

def PortMap.holding (set : PortMap) (elements : List Element) : PortMap :=
  { set with elements := elements }

def addressData (entry : NftDnatRule) : List UInt8 := octets entry.outHost

def portData (entry : NftDnatRule) : List UInt8 := toBeBytes entry.outPort

theorem addEntries_eq (entries : List NftDnatRule) (seen : List UInt16)
    (addresses ports : PortMap) :
    addEntries entries seen (addresses, ports) =
      (addresses.holding
          (addresses.elements ++ elementsOf addressData (firstEntries entries seen)),
        ports.holding (ports.elements ++ elementsOf portData (firstEntries entries seen))) := by
  induction entries generalizing seen addresses ports with
  | nil =>
      simp only [addEntries, firstEntries, elementsOf, List.map_nil, List.append_nil,
        PortMap.holding]
  | cons entry rest ih =>
      by_cases hseen : entry.inPort ∈ seen
      · simp only [addEntries, firstEntries, if_pos hseen]
        exact ih seen addresses ports
      · simp only [addEntries, firstEntries, if_neg hseen]
        rw [ih]
        simp only [PortMap.holding, addElement, elementsOf, List.map_cons, List.append_assoc,
          List.singleton_append, addressData, portData]

theorem find_firstEntries (port : UInt16) (entries : List NftDnatRule) {seen : List UInt16}
    (hport : port ∉ seen) :
    (firstEntries entries seen).find? (fun entry => entry.inPort == port) =
      entries.find? (fun entry => entry.inPort == port) := by
  induction entries generalizing seen with
  | nil => rfl
  | cons entry rest ih =>
      by_cases hentry : entry.inPort = port
      · have hseen : entry.inPort ∉ seen := by
          rw [hentry]
          exact hport
        simp only [firstEntries, if_neg hseen, List.find?_cons, beq_iff_eq.mpr hentry]
      · have hskip : (entry.inPort == port) = false := beq_eq_false_iff_ne.mpr hentry
        by_cases hseen : entry.inPort ∈ seen
        · simp only [firstEntries, if_pos hseen, List.find?_cons, hskip]
          exact ih hport
        · simp only [firstEntries, if_neg hseen, List.find?_cons, hskip]
          apply ih
          intro hmem
          rcases List.mem_cons.mp hmem with hsame | hold
          · exact hentry hsame.symm
          · exact hport hold

theorem mem_of_mem_firstEntries {entry : NftDnatRule} {entries : List NftDnatRule}
    {seen : List UInt16} (h : entry ∈ firstEntries entries seen) :
    entry ∈ entries ∧ entry.inPort ∉ seen := by
  induction entries generalizing seen with
  | nil => cases h
  | cons head rest ih =>
      by_cases hseen : head.inPort ∈ seen
      · simp only [firstEntries, if_pos hseen] at h
        rcases ih h with ⟨hrest, hnew⟩
        exact ⟨List.mem_cons_of_mem head hrest, hnew⟩
      · simp only [firstEntries, if_neg hseen] at h
        rcases List.mem_cons.mp h with rfl | htail
        · exact ⟨List.mem_cons_self, hseen⟩
        · rcases ih htail with ⟨hrest, hnew⟩
          exact ⟨List.mem_cons_of_mem head hrest, fun hold => hnew (List.mem_cons_of_mem _ hold)⟩

theorem nodup_firstEntries (entries : List NftDnatRule) (seen : List UInt16) :
    ((firstEntries entries seen).map NftDnatRule.inPort).Nodup := by
  induction entries generalizing seen with
  | nil => exact List.nodup_nil
  | cons entry rest ih =>
      by_cases hseen : entry.inPort ∈ seen
      · simp only [firstEntries, if_pos hseen]
        exact ih seen
      · simp only [firstEntries, if_neg hseen, List.map_cons]
        apply List.nodup_cons.mpr
        constructor
        · intro hmem
          rcases List.mem_map.mp hmem with ⟨other, hother, hport⟩
          exact (mem_of_mem_firstEntries hother).right (hport ▸ List.mem_cons_self)
        · exact ih _

theorem nodup_keys {data : NftDnatRule -> List UInt8} {entries : List NftDnatRule}
    (h : (entries.map NftDnatRule.inPort).Nodup) :
    ((elementsOf data entries).map Element.key).Nodup := by
  have hkeys : (elementsOf data entries).map Element.key =
      (entries.map NftDnatRule.inPort).map toBeBytes := by
    simp only [elementsOf, List.map_map]
    rfl
  rw [hkeys]
  exact h.map (fun _ _ hbytes => toBeBytes_inj hbytes)

/-- A lookup by the bytes of a port is a scan for the port. -/
theorem find_elementsOf (set : PortMap) (data : NftDnatRule -> List UInt8)
    (entries : List NftDnatRule) (port : UInt16) :
    (set.holding (elementsOf data entries)).find (toBeBytes port) =
      (entries.find? (fun entry => entry.inPort == port)).map data := by
  unfold PortMap.find PortMap.holding elementsOf
  induction entries with
  | nil => rfl
  | cons entry rest ih =>
      simp only [List.map_cons, List.find?_cons]
      by_cases hport : entry.inPort = port
      · rw [hport, beq_self_eq_true, beq_self_eq_true]
        rfl
      · have hbytes : (toBeBytes entry.inPort == toBeBytes port) = false :=
          beq_eq_false_iff_ne.mpr (fun hsame => hport (toBeBytes_inj hsame))
        rw [hbytes, beq_eq_false_iff_ne.mpr hport]
        exact ih

/-!
# Filling a map in the kernel
-/

theorem find_eq_none {set : PortMap} {key : List UInt8}
    (h : key ∉ set.elements.map Element.key) : set.find key = none := by
  unfold PortMap.find
  rw [Option.map_eq_none_iff, List.find?_eq_none]
  intro element helement hkey
  exact h (List.mem_map.mpr ⟨element, helement, beq_iff_eq.mp hkey⟩)

/-- Elements of the right lengths and with different keys are all taken. -/
theorem addAll_eq {elements : List Element} {set : PortMap}
    (hlengths : forall element, element ∈ elements ->
      element.key.length = 2 ∧ element.data.length = set.dataLen)
    (hnodup : ((set.elements ++ elements).map Element.key).Nodup) :
    set.addAll elements = some (set.holding (set.elements ++ elements)) := by
  induction elements generalizing set with
  | nil =>
      rw [List.append_nil]
      rfl
  | cons element rest ih =>
      have hfresh : set.find element.key = none := by
        apply find_eq_none
        rw [List.map_append, List.map_cons] at hnodup
        intro hmem
        exact (List.nodup_append.mp hnodup).right.right _ hmem _ List.mem_cons_self rfl
      have hadd : set.add element = some (set.holding (set.elements ++ [element])) := by
        unfold PortMap.add
        rw [if_pos (hlengths element List.mem_cons_self), hfresh]
        rfl
      have hassoc : set.elements ++ element :: rest = (set.elements ++ [element]) ++ rest := by
        rw [List.append_assoc]
        rfl
      unfold PortMap.addAll
      rw [hadd, Option.bind_some, hassoc]
      apply ih
      · intro other hother
        exact hlengths other (List.mem_cons_of_mem element hother)
      · rw [hassoc] at hnodup
        exact hnodup

/-!
# Registers
-/

theorem length_padded {bytes : List UInt8} (h : bytes.length ≤ 16) :
    (padded bytes).length ≤ 16 := by
  unfold padded
  rw [List.length_append, List.length_replicate]
  omega

theorem take_padded {bytes : List UInt8} {count : Nat} (h : count ≤ bytes.length) :
    (padded bytes).take count = bytes.take count := by
  unfold padded
  rw [List.take_append_of_le_length h]

/-- A register gives back the first bytes of what was put into it. -/
theorem get_put {register : Register} {bytes : List UInt8} {count : Nat} (registers : Registers)
    (h : count ≤ bytes.length) :
    get register count (put register bytes registers) = bytes.take count := by
  unfold get put
  have hpadded : count ≤ (padded bytes).length := by
    unfold padded
    rw [List.length_append]
    omega
  rw [Memory.load_store registers hpadded, take_padded h]

theorem get_put_self (register : Register) (bytes : List UInt8) (registers : Registers) :
    get register bytes.length (put register bytes registers) = bytes := by
  rw [get_put registers (Nat.le_refl _), List.take_length]

/-- What fits into one register leaves the others alone. -/
theorem get_put_other {register other : Register} {bytes : List UInt8} {count : Nat}
    (registers : Registers) (hne : register ≠ other) (hbytes : bytes.length ≤ 16)
    (hcount : count ≤ 16) :
    get other count (put register bytes registers) = get other count registers := by
  unfold get put
  apply Memory.load_store_of_disjoint
  have hpadded := length_padded hbytes
  cases register <;> cases other <;> simp only [Register.address] <;>
    first | exact absurd rfl hne | omega

/-!
# One rule
-/

def addressLen : ProtoFamily -> Nat
  | .ipv4 => 4
  | .ipv6 => 16

theorem length_octets (addr : IpAddr) :
    (octets addr).length = addressLen (nfprotoFamilyFor addr) := by
  cases addr <;> rfl

theorem ofOctets_octets (addr : IpAddr) :
    ofOctets (nfprotoFamilyFor addr) (octets addr) = some addr := by
  cases addr with
  | v4 addr => rfl
  | v6 addr =>
      have hsegments : ofOctets .ipv6 (octets (.v6 addr)) = (do
          let s0 <- ofBeBytes (toBeBytes addr.s0)
          let s1 <- ofBeBytes (toBeBytes addr.s1)
          let s2 <- ofBeBytes (toBeBytes addr.s2)
          let s3 <- ofBeBytes (toBeBytes addr.s3)
          let s4 <- ofBeBytes (toBeBytes addr.s4)
          let s5 <- ofBeBytes (toBeBytes addr.s5)
          let s6 <- ofBeBytes (toBeBytes addr.s6)
          let s7 <- ofBeBytes (toBeBytes addr.s7)
          some (.v6 ⟨s0, s1, s2, s3, s4, s5, s6, s7⟩)) := rfl
      show ofOctets .ipv6 (octets (.v6 addr)) = some (.v6 addr)
      rw [hsegments]
      simp only [ofBeBytes_toBeBytes]
      rfl

/-- The rule of a group, with its maps in place. -/
def dispatchRule (family : ProtoFamily) (l4proto : UInt8) (addresses ports : PortMap) :
    KernelRule :=
  [.metaLoad .nfProto .reg1,
    .cmp .reg1 [family.nfproto],
    .metaLoad .l4Proto .reg1,
    .cmp .reg1 [l4proto],
    .payload 2 2 .reg2,
    .fib 3 2 .reg3,
    .cmp .reg3 [rtnLocal],
    .lookup .reg2 addresses .reg1,
    .lookup .reg2 ports .reg2,
    .counter,
    .nat family .reg1 .reg2]

theorem runRule_next {packet : Packet} {registers registers' : Registers} {expr : Expr PortMap}
    (h : exec packet registers expr = .next registers') (rest : KernelRule) :
    runRule packet (expr :: rest) registers = runRule packet rest registers' := by
  rw [runRule, h]

/-- Loading a byte of meta data and comparing it. -/
theorem runRule_metaLoad_cmp (packet : Packet) (key : MetaKey) (register : Register)
    (byte : UInt8) (rest : KernelRule) (registers : Registers) :
    runRule packet (.metaLoad key register :: .cmp register [byte] :: rest) registers =
      if key.value packet = byte then
        runRule packet rest (put register [key.value packet] registers)
      else (none, put register [key.value packet] registers) := by
  have hget : get register 1 (put register [key.value packet] registers) =
      [key.value packet] := get_put_self register [key.value packet] registers
  simp only [runRule, exec, List.length_singleton, hget]
  by_cases hbyte : key.value packet = byte
  · rw [if_pos hbyte, if_pos (congrArg (fun value => [value]) hbyte)]
  · rw [if_neg hbyte, if_neg (fun hsame => hbyte (List.singleton_injective hsame))]

theorem raw_eq_rtnLocal (daddrType : RouteType) :
    (toLeBytes daddrType.raw).take 1 = [rtnLocal] <-> daddrType = .localAddress := by
  cases daddrType <;> decide

/-- The type is compared by its lowest byte, which comes first in the register. -/
theorem runRule_fib_cmp (packet : Packet) (rest : KernelRule) (registers : Registers) :
    runRule packet (.fib 3 2 .reg3 :: .cmp .reg3 [rtnLocal] :: rest) registers =
      if packet.daddrType = .localAddress then
        runRule packet rest (put .reg3 (toLeBytes packet.daddrType.raw) registers)
      else (none, put .reg3 (toLeBytes packet.daddrType.raw) registers) := by
  have hget : get .reg3 1 (put .reg3 (toLeBytes packet.daddrType.raw) registers) =
      (toLeBytes packet.daddrType.raw).take 1 :=
    get_put registers (show 1 ≤ 4 by decide)
  simp only [runRule, exec, and_self, if_true, List.length_singleton, hget, raw_eq_rtnLocal]
  by_cases hlocal : packet.daddrType = .localAddress
  · rw [if_pos hlocal, if_pos hlocal]
  · rw [if_neg hlocal, if_neg hlocal]

theorem runRule_payload (packet : Packet) (rest : KernelRule) (registers : Registers) :
    runRule packet (.payload 2 2 .reg2 :: rest) registers =
      match packet.destinationPort with
      | some port => runRule packet rest (put .reg2 (toBeBytes port) registers)
      | none => (none, registers) := by
  simp only [runRule, exec]
  by_cases hlong : 2 + 2 ≤ packet.transportHeader.length
  · have hlength : ((packet.transportHeader.drop 2).take 2).length = 2 := by
      rw [List.length_take, List.length_drop]
      omega
    rcases ofBeBytes_of_length hlength with ⟨port, hport⟩
    rw [if_pos hlong, Packet.destinationPort, hport, toBeBytes_of_ofBeBytes hport]
  · have hshort : packet.destinationPort = none := by
      cases hport : packet.destinationPort with
      | none => rfl
      | some port =>
          have hlength := congrArg List.length (toBeBytes_of_ofBeBytes hport)
          rw [List.length_take, List.length_drop, length_toBeBytes] at hlength
          omega
    rw [if_neg hlong, hshort]

theorem get_port_after_fib (packet : Packet) (port : UInt16) (registers : Registers) :
    get .reg2 2 (put .reg3 (toLeBytes packet.daddrType.raw)
      (put .reg2 (toBeBytes port) registers)) = toBeBytes port := by
  have hother : get .reg2 2 (put .reg3 (toLeBytes packet.daddrType.raw)
      (put .reg2 (toBeBytes port) registers)) =
        get .reg2 2 (put .reg2 (toBeBytes port) registers) :=
    get_put_other _ (by decide) (show 4 ≤ 16 by decide) (by decide)
  rw [hother]
  exact get_put_self .reg2 (toBeBytes port) registers

theorem exec_nat {packet : Packet} {family : ProtoFamily} {registers : Registers}
    {ipRegister portRegister : Register} {addr : IpAddr} {port : UInt16}
    (hfamily : family = packet.family)
    (haddr : ofOctets family (get ipRegister (addressLen family) registers) = some addr)
    (hport : ofBeBytes (get portRegister 2 registers) = some port) :
    exec packet registers (.nat family ipRegister portRegister) = .dnat (addr, port) := by
  cases family with
  | ipv4 =>
      simp only [addressLen] at haddr
      simp only [exec, if_pos hfamily, haddr, hport]
  | ipv6 =>
      simp only [addressLen] at haddr
      simp only [exec, if_pos hfamily, haddr, hport]

/-- Both lookups read the port from the same register; the second one overwrites it,
and by then the address is safe in the first register. -/
theorem runRule_lookups {packet : Packet} {addresses ports : PortMap} {port : UInt16}
    {found : Option NftDnatRule} {registers : Registers}
    (hport : get .reg2 2 registers = toBeBytes port)
    (haddresses : addresses.find (toBeBytes port) = found.map addressData)
    (hports : ports.find (toBeBytes port) = found.map portData)
    (hfamily : forall entry, found = some entry ->
      nfprotoFamilyFor entry.outHost = packet.family) :
    (runRule packet
      [.lookup .reg2 addresses .reg1, .lookup .reg2 ports .reg2, .counter,
        .nat packet.family .reg1 .reg2] registers).1 =
      found.map (fun entry => (entry.outHost, entry.outPort)) := by
  cases found with
  | none =>
      simp only [runRule, exec, hport, haddresses]
      rfl
  | some entry =>
      have hentry := hfamily entry rfl
      have hlength : (addressData entry).length = addressLen packet.family := by
        rw [← hentry]
        exact length_octets entry.outHost
      have hfits : (addressData entry).length ≤ 16 := by
        rw [hlength]
        cases packet.family <;> decide
      have hkept : get .reg2 2 (put .reg1 (addressData entry) registers) = toBeBytes port := by
        rw [get_put_other registers (by decide) hfits (by decide), hport]
      have haddress : get .reg1 (addressLen packet.family)
          (put .reg2 (portData entry) (put .reg1 (addressData entry) registers)) =
            addressData entry := by
        have hother : get .reg1 (addressLen packet.family)
            (put .reg2 (portData entry) (put .reg1 (addressData entry) registers)) =
              get .reg1 (addressLen packet.family) (put .reg1 (addressData entry) registers) :=
          get_put_other _ (by decide) (show 2 ≤ 16 by decide) (hlength ▸ hfits)
        rw [hother, ← hlength]
        exact get_put_self _ _ _
      have htranslated : get .reg2 2
          (put .reg2 (portData entry) (put .reg1 (addressData entry) registers)) =
            portData entry := get_put_self .reg2 (portData entry) _
      have hnat : exec packet
          (put .reg2 (portData entry) (put .reg1 (addressData entry) registers))
          (.nat packet.family .reg1 .reg2) = .dnat (entry.outHost, entry.outPort) := by
        have hhost : ofOctets packet.family (addressData entry) = some entry.outHost := by
          rw [← hentry]
          exact ofOctets_octets entry.outHost
        have hportBack : ofBeBytes (portData entry) = some entry.outPort :=
          ofBeBytes_toBeBytes entry.outPort
        rw [<- haddress] at hhost
        rw [<- htranslated] at hportBack
        exact exec_nat rfl hhost hportBack
      have hfirst : exec packet registers (.lookup .reg2 addresses .reg1) =
          .next (put .reg1 (addressData entry) registers) := by
        simp only [exec, hport, haddresses, Option.map_some]
      have hsecond : exec packet (put .reg1 (addressData entry) registers)
          (.lookup .reg2 ports .reg2) =
            .next (put .reg2 (portData entry) (put .reg1 (addressData entry) registers)) := by
        simp only [exec, hkept, hports, Option.map_some]
      rw [runRule_next hfirst, runRule_next hsecond, runRule_next rfl, runRule, hnat]
      rfl

/-- The rule of a group translates what a scan of its entries translates. -/
theorem runRule_dispatchRule {family : ProtoFamily} {addresses ports : PortMap}
    {entries : List NftDnatRule}
    (haddresses : forall port, addresses.find (toBeBytes port) =
      (entries.find? (fun entry => entry.inPort == port)).map addressData)
    (hports : forall port, ports.find (toBeBytes port) =
      (entries.find? (fun entry => entry.inPort == port)).map portData)
    (hfamily : forall entry, entry ∈ entries -> nfprotoFamilyFor entry.outHost = family)
    (l4proto : UInt8) (packet : Packet) (registers : Registers) :
    (runRule packet (dispatchRule family l4proto addresses ports) registers).1 =
      if packet.family = family ∧ packet.l4Proto = l4proto ∧
          packet.daddrType = .localAddress then
        packet.destinationPort.bind (fun port =>
          (entries.find? (fun entry => entry.inPort == port)).map
            (fun entry => (entry.outHost, entry.outPort)))
      else none := by
  unfold dispatchRule
  rw [runRule_metaLoad_cmp]
  by_cases hnfproto : MetaKey.nfProto.value packet = family.nfproto
  · have hpacket : packet.family = family := by
      revert hnfproto
      show packet.family.nfproto = family.nfproto -> packet.family = family
      cases packet.family <;> cases family <;> decide
    rw [if_pos hnfproto, runRule_metaLoad_cmp]
    by_cases hl4proto : MetaKey.l4Proto.value packet = l4proto
    · rw [if_pos hl4proto, runRule_payload]
      cases hport : packet.destinationPort with
      | none =>
          rw [Option.bind_none, ite_self]
      | some port =>
          show (runRule packet _ _).1 = _
          rw [runRule_fib_cmp]
          by_cases hlocal : packet.daddrType = .localAddress
          · rw [if_pos hlocal, if_pos ⟨hpacket, hl4proto, hlocal⟩, Option.bind_some, ← hpacket]
            apply runRule_lookups _ (haddresses port) (hports port)
            · intro entry hentry
              rw [hpacket]
              exact hfamily entry (List.mem_of_find?_eq_some hentry)
            · exact get_port_after_fib packet port _
          · rw [if_neg hlocal, if_neg (fun hall => hlocal hall.right.right)]
    · rw [if_neg hl4proto, if_neg (fun hall => hl4proto hall.right.left)]
  · have hpacket : packet.family ≠ family := by
      intro hsame
      exact hnfproto (congrArg ProtoFamily.nfproto hsame)
    rw [if_neg hnfproto, if_neg (fun hall => hpacket hall.left)]

/-!
# One group
-/

/-- Within a group only the port is left to compare. -/
theorem firstMatch_group {family : ProtoFamily} {l4proto : UInt8} {group : List NftDnatRule}
    (h : forall entry, entry ∈ group ->
      nfprotoFamilyFor entry.outHost = family ∧ l4protoFor entry.protocol = some l4proto)
    (packet : Packet) :
    firstMatch packet group =
      if packet.family = family ∧ packet.l4Proto = l4proto ∧
          packet.daddrType = .localAddress then
        packet.destinationPort.bind (fun port =>
          (group.find? (fun entry => entry.inPort == port)).map
            (fun entry => (entry.outHost, entry.outPort)))
      else none := by
  unfold firstMatch
  by_cases hlocal : packet.daddrType = .localAddress
  · rw [if_pos hlocal]
    by_cases hpacket : packet.family = family ∧ packet.l4Proto = l4proto
    · rw [if_pos ⟨hpacket.left, hpacket.right, hlocal⟩]
      cases hport : packet.destinationPort with
      | none =>
          have hfind : group.find? (fun entry => decide (Matches packet entry)) = none := by
            rw [List.find?_eq_none]
            intro entry _ hmatches
            have hentry := (of_decide_eq_true hmatches).right.right
            rw [hport] at hentry
            cases hentry
          rw [hfind]
          rfl
      | some port =>
          rw [Option.bind_some]
          congr 1
          apply List.find?_congr
          intro entry hentry
          rcases h entry hentry with ⟨hfamily, hl4proto⟩
          rw [Bool.eq_iff_iff, decide_eq_true_iff, beq_iff_eq]
          unfold Matches
          rw [hfamily, hl4proto, hpacket.left, hpacket.right, hport]
          simp only [true_and, Option.some.injEq]
          exact eq_comm
    · have hfind : group.find? (fun entry => decide (Matches packet entry)) = none := by
        rw [List.find?_eq_none]
        intro entry hentry hmatches
        rcases h entry hentry with ⟨hfamily, hl4proto⟩
        rcases of_decide_eq_true hmatches with ⟨hfamily', hl4proto', _⟩
        rw [hl4proto] at hl4proto'
        exact hpacket ⟨hfamily'.symm.trans hfamily, (Option.some.inj hl4proto').symm⟩
      rw [hfind, if_neg (fun hall => hpacket ⟨hall.left, hall.right.left⟩)]
      rfl
  · rw [if_neg hlocal, if_neg (fun hall => hlocal hall.right.right)]

theorem applyMessages_append (earlier later : List Message) (t : Transaction) :
    applyMessages (earlier ++ later) t = (applyMessages earlier t).bind (applyMessages later) := by
  induction earlier generalizing t with
  | nil => rfl
  | cons message rest ih =>
      simp only [List.cons_append, applyMessages]
      cases applyMessage t message with
      | none => rfl
      | some t' => exact ih t'

/-- The kernel keeps a map as it was sent. -/
theorem applyMessages_setMessages {set : PortMap} (t : Transaction)
    (hlengths : forall element, element ∈ set.elements ->
      element.key.length = 2 ∧ element.data.length = set.dataLen)
    (hnodup : (set.elements.map Element.key).Nodup) :
    exists sets, applyMessages (setMessages set) t = some ⟨sets, t.rules⟩ ∧
      sets.lookup set.id = some set ∧
      forall id, id ≠ set.id -> sets.lookup id = t.sets.lookup id := by
  have hfill : PortMap.addAll set.elements (set.holding []) = some set :=
    addAll_eq hlengths hnodup
  have hcreated : (t.sets.insert set.id (set.holding [])).lookup set.id =
      some (set.holding []) := by
    rw [lookup_insert_eq, if_pos rfl]
  have hfilled : applyMessage ⟨t.sets.insert set.id (set.holding []), t.rules⟩
      (.newElements set.id set.elements) =
        some ⟨(t.sets.insert set.id (set.holding [])).insert set.id set, t.rules⟩ := by
    simp only [applyMessage, hcreated, hfill, Option.bind_eq_bind, Option.bind_some]
  refine ⟨(t.sets.insert set.id (set.holding [])).insert set.id set, ?_, ?_, ?_⟩
  · show (applyMessage ⟨t.sets.insert set.id (set.holding []), t.rules⟩
      (.newElements set.id set.elements)).bind (applyMessages []) = _
    rw [hfilled]
    rfl
  · rw [lookup_insert_eq, if_pos rfl]
  · intro id hid
    rw [lookup_insert_eq, if_neg hid, lookup_insert_eq, if_neg hid]

theorem applyMessage_newRule {dnat : NftDnatRule} {l4proto : UInt8} {addresses ports : PortMap}
    {exprs : List (Expr Nat)} {t : Transaction}
    (hexprs : addDnatRuleExprs dnat addresses ports = .ok exprs)
    (hl4proto : l4protoFor dnat.protocol = some l4proto)
    (haddresses : t.sets.lookup addresses.id = some addresses)
    (hports : t.sets.lookup ports.id = some ports) :
    applyMessage t (.newRule exprs) = some ⟨t.sets, t.rules ++
      [dispatchRule (nfprotoFamilyFor dnat.outHost) l4proto addresses ports]⟩ := by
  unfold addDnatRuleExprs at hexprs
  rw [hl4proto] at hexprs
  cases hexprs
  simp only [applyMessage, loadMeta, cmpRegister, loadPayload, fibDaddrType, mapLookup,
    List.mapM_cons, List.mapM_nil, Expr.link, haddresses, hports, Option.map_some]
  rfl

theorem runChain_singleton (packet : Packet) (rule : KernelRule) (registers : Registers) :
    runChain packet [rule] registers = (runRule packet rule registers).1 := by
  unfold runChain
  rcases runRule packet rule registers with ⟨result, registers'⟩
  cases result <;> rfl

theorem runChain_append (packet : Packet) (earlier later : List KernelRule)
    (registers : Registers) :
    exists registers', runChain packet (earlier ++ later) registers =
      (runChain packet earlier registers).or (runChain packet later registers') := by
  induction earlier generalizing registers with
  | nil => exact ⟨registers, rfl⟩
  | cons rule rest ih =>
      simp only [List.cons_append, runChain]
      rcases runRule packet rule registers with ⟨result, registers'⟩
      cases result with
      | none => exact ih registers'
      | some target => exact ⟨registers', rfl⟩

theorem firstMatch_nil (packet : Packet) : firstMatch packet [] = none := by
  unfold firstMatch
  split
  · rfl
  · rfl

def familyOf (ipv6 : Bool) : ProtoFamily := if ipv6 then .ipv6 else .ipv4

theorem nfprotoFamilyFor_eq (addr : IpAddr) :
    nfprotoFamilyFor addr = familyOf (isIpv6 addr) := by
  cases addr <;> rfl

theorem inGroup_iff {ipv6 : Bool} {protocol : Protocol} {rule : NftDnatRule} :
    inGroup ipv6 protocol rule = true <-> isIpv6 rule.outHost = ipv6 ∧ rule.protocol = protocol := by
  unfold inGroup
  rw [Bool.and_eq_true, beq_iff_eq, beq_iff_eq]

/-- What a list of messages adds to the chain, whatever is there before it. -/
def Adds (messages : List Message) (count : Nat) (translate : Packet -> Option Target) : Prop :=
  forall t, exists t' added, applyMessages messages t = some t' ∧ t'.rules = t.rules ++ added ∧
    added.length ≤ count ∧
    forall packet registers, runChain packet added registers = translate packet

def addressMap (ipv6 : Bool) (id : Nat) (entries : List NftDnatRule) : PortMap :=
  (portMap id (if ipv6 then 8 else 7) (if ipv6 then 16 else 4)).holding
    (elementsOf addressData entries)

def outPortMap (id : Nat) (entries : List NftDnatRule) : PortMap :=
  (portMap id 13 2).holding (elementsOf portData entries)

/-- The kernel takes the elements of entries with different ports. -/
theorem applyMessages_elementsOf {set : PortMap} {data : NftDnatRule -> List UInt8}
    {entries : List NftDnatRule} (t : Transaction)
    (helements : set.elements = elementsOf data entries)
    (hdata : forall entry, entry ∈ entries -> (data entry).length = set.dataLen)
    (hnodup : (entries.map NftDnatRule.inPort).Nodup) :
    exists sets, applyMessages (setMessages set) t = some ⟨sets, t.rules⟩ ∧
      sets.lookup set.id = some set ∧
      forall id, id ≠ set.id -> sets.lookup id = t.sets.lookup id := by
  apply applyMessages_setMessages
  · intro element helement
    rw [helements] at helement
    rcases List.mem_map.mp helement with ⟨entry, hentry, rfl⟩
    exact ⟨length_toBeBytes entry.inPort, hdata entry hentry⟩
  · rw [helements]
    exact nodup_keys hnodup

/-- The two maps of a group and the rule that uses them. -/
theorem group_adds {ipv6 : Bool} {l4proto : UInt8} {first : NftDnatRule}
    {group : List NftDnatRule} {exprs : List (Expr Nat)} {id : Nat}
    (hgroup : forall entry, entry ∈ group ->
      nfprotoFamilyFor entry.outHost = familyOf ipv6 ∧ l4protoFor entry.protocol = some l4proto)
    (hfirst : first ∈ group)
    (hexprs : addDnatRuleExprs first (addressMap ipv6 id (firstEntries group []))
      (outPortMap (id + 1) (firstEntries group [])) = .ok exprs) :
    Adds (setMessages (addressMap ipv6 id (firstEntries group [])) ++
        setMessages (outPortMap (id + 1) (firstEntries group [])) ++ [.newRule exprs]) 1
      (fun packet => firstMatch packet group) := by
  intro t
  have hfamily : forall entry, entry ∈ firstEntries group [] ->
      nfprotoFamilyFor entry.outHost = familyOf ipv6 := by
    intro entry hentry
    exact (hgroup entry (mem_of_mem_firstEntries hentry).left).left
  have hlengths : forall entry, entry ∈ firstEntries group [] ->
      (addressData entry).length = (addressMap ipv6 id (firstEntries group [])).dataLen := by
    intro entry hentry
    show (octets entry.outHost).length = if ipv6 then 16 else 4
    rw [length_octets, hfamily entry hentry]
    cases ipv6 <;> rfl
  have hnodup := nodup_firstEntries group []
  rcases applyMessages_elementsOf t rfl hlengths hnodup with ⟨sets, happly, haddresses, _⟩
  have hportLengths : forall entry, entry ∈ firstEntries group [] ->
      (portData entry).length = (outPortMap (id + 1) (firstEntries group [])).dataLen :=
    fun _ _ => rfl
  rcases applyMessages_elementsOf ⟨sets, t.rules⟩ rfl hportLengths hnodup with
    ⟨sets', happly', hports, hothers⟩
  have hboth : sets'.lookup (addressMap ipv6 id (firstEntries group [])).id =
      some (addressMap ipv6 id (firstEntries group [])) :=
    (hothers id (show id ≠ id + 1 by omega)).trans haddresses
  rcases hgroup first hfirst with ⟨hfirstFamily, hfirstProto⟩
  have hrule := applyMessage_newRule (t := ⟨sets', t.rules⟩) hexprs hfirstProto hboth hports
  rw [hfirstFamily] at hrule
  refine ⟨⟨sets', t.rules ++ [dispatchRule (familyOf ipv6) l4proto
    (addressMap ipv6 id (firstEntries group [])) (outPortMap (id + 1) (firstEntries group []))]⟩,
    _, ?_, rfl, Nat.le_refl 1, ?_⟩
  · rw [applyMessages_append, applyMessages_append, happly, Option.bind_some, happly',
      Option.bind_some]
    show (applyMessage _ _).bind (applyMessages []) = _
    rw [hrule]
    rfl
  · intro packet registers
    show _ = firstMatch packet group
    rw [runChain_singleton, firstMatch_group hgroup]
    have hrun : (runRule packet (dispatchRule (familyOf ipv6) l4proto
        (addressMap ipv6 id (firstEntries group []))
        (outPortMap (id + 1) (firstEntries group []))) registers).1 = _ := runRule_dispatchRule
      (fun port => find_elementsOf _ addressData _ port)
      (fun port => find_elementsOf _ portData _ port) hfamily l4proto packet registers
    rw [hrun]
    simp only [find_firstEntries _ group (List.not_mem_nil)]

theorem dispatchGroup_adds (rules : List NftDnatRule) (ipv6 : Bool) {protocol : Protocol}
    {l4proto : UInt8} (hl4proto : l4protoFor protocol = some l4proto) (id : Nat) :
    exists messages id', dispatchGroup rules ipv6 protocol id = .ok (messages, id') ∧
      Adds messages 1 (fun packet => firstMatch packet (rules.filter (inGroup ipv6 protocol))) := by
  unfold dispatchGroup
  have hgroup : forall entry, entry ∈ rules.filter (inGroup ipv6 protocol) ->
      nfprotoFamilyFor entry.outHost = familyOf ipv6 ∧ l4protoFor entry.protocol = some l4proto := by
    intro entry hentry
    rcases inGroup_iff.mp (List.mem_filter.mp hentry).right with ⟨hipv6, hprotocol⟩
    rw [nfprotoFamilyFor_eq, hipv6, hprotocol]
    exact ⟨rfl, hl4proto⟩
  cases hrules : rules.filter (inGroup ipv6 protocol) with
  | nil =>
      refine ⟨[], id, rfl, ?_⟩
      intro t
      refine ⟨t, [], rfl, (List.append_nil _).symm, Nat.zero_le 1, ?_⟩
      intro packet registers
      exact (firstMatch_nil packet).symm
  | cons first others =>
      rw [hrules] at hgroup
      have hexprs : exists exprs, addDnatRuleExprs first
          (addressMap ipv6 id (firstEntries (first :: others) []))
          (outPortMap (id + 1) (firstEntries (first :: others) [])) = .ok exprs := by
        unfold addDnatRuleExprs
        rw [(hgroup first List.mem_cons_self).right]
        exact ⟨_, rfl⟩
      rcases hexprs with ⟨exprs, hexprs⟩
      refine ⟨_, id + 2, ?_, group_adds hgroup List.mem_cons_self hexprs⟩
      simp only [addEntries_eq]
      show (addDnatRuleExprs first (addressMap ipv6 id _) (outPortMap (id + 1) _)).bind _ = _
      rw [hexprs]
      rfl

/-!
# All groups
-/

theorem dispatchGroups_adds (rules : List NftDnatRule) {groups : List (Bool × Protocol)}
    (hgroups : forall group, group ∈ groups -> exists l4proto,
      l4protoFor group.2 = some l4proto) (id : Nat) :
    exists messages, dispatchGroups rules groups id = .ok messages ∧
      Adds messages groups.length (fun packet =>
        groups.findSome? (fun group =>
          firstMatch packet (rules.filter (inGroup group.1 group.2)))) := by
  induction groups generalizing id with
  | nil =>
      refine ⟨[], rfl, ?_⟩
      intro t
      exact ⟨t, [], rfl, (List.append_nil _).symm, Nat.le_refl 0, fun _ _ => rfl⟩
  | cons group rest ih =>
      rcases group with ⟨ipv6, protocol⟩
      rcases hgroups (ipv6, protocol) List.mem_cons_self with ⟨l4proto, hl4proto⟩
      rcases dispatchGroup_adds rules ipv6 hl4proto id with ⟨messages, id', hfirst, hadds⟩
      rcases ih (fun group hgroup => hgroups group (List.mem_cons_of_mem _ hgroup)) id' with
        ⟨later, hlater, haddsLater⟩
      refine ⟨messages ++ later, ?_, ?_⟩
      · simp only [dispatchGroups, hfirst, hlater, bind, Except.bind]
      · intro t
        rcases hadds t with ⟨t', added, happly, hrules, hcount, hrun⟩
        rcases haddsLater t' with ⟨t'', addedLater, happlyLater, hrulesLater, hcountLater, hrunLater⟩
        refine ⟨t'', added ++ addedLater, ?_, ?_, ?_, ?_⟩
        · rw [applyMessages_append, happly, Option.bind_some, happlyLater]
        · rw [hrulesLater, hrules, List.append_assoc]
        · rw [List.length_append, List.length_cons]
          omega
        · intro packet registers
          rcases runChain_append packet added addedLater registers with ⟨registers', happend⟩
          rw [happend, hrun, hrunLater]
          simp only [List.findSome?_cons]
          cases firstMatch packet (rules.filter (inGroup ipv6 protocol)) with
          | none => rfl
          | some target => rfl

theorem l4protoFor_inj {left right : Protocol} {l4proto : UInt8}
    (hleft : l4protoFor left = some l4proto) (hright : l4protoFor right = some l4proto) :
    left = right := by
  cases left <;> cases right <;> cases hleft <;> cases hright <;> rfl

theorem familyOf_inj {left right : Bool} (h : familyOf left = familyOf right) :
    left = right := by
  cases left <;> cases right <;> first | rfl | cases h

/-- A group holds all rules that match the packet or none of them. -/
theorem firstMatch_filter (packet : Packet) (rules : List NftDnatRule) (ipv6 : Bool)
    (protocol : Protocol) :
    firstMatch packet (rules.filter (inGroup ipv6 protocol)) =
      if familyOf ipv6 = packet.family ∧ l4protoFor protocol = some packet.l4Proto then
        firstMatch packet rules
      else none := by
  unfold firstMatch
  rw [List.find?_filter]
  by_cases hpacket : familyOf ipv6 = packet.family ∧ l4protoFor protocol = some packet.l4Proto
  · have hcover : forall rule, rule ∈ rules ->
        decide (inGroup ipv6 protocol rule = true ∧ decide (Matches packet rule) = true) =
          decide (Matches packet rule) := by
      intro rule _
      rw [Bool.eq_iff_iff, decide_eq_true_iff]
      constructor
      · exact And.right
      · intro hmatches
        rcases of_decide_eq_true hmatches with ⟨hfamily, hl4proto, _⟩
        rw [nfprotoFamilyFor_eq] at hfamily
        exact ⟨inGroup_iff.mpr ⟨familyOf_inj (hfamily.trans hpacket.left.symm),
          l4protoFor_inj hl4proto hpacket.right⟩, hmatches⟩
    rw [if_pos hpacket, List.find?_congr hcover]
  · have hnone : rules.find? (fun rule => decide (inGroup ipv6 protocol rule = true ∧
        decide (Matches packet rule) = true)) = none := by
      rw [List.find?_eq_none]
      intro rule _ hboth
      rcases of_decide_eq_true hboth with ⟨hgroup, hmatches⟩
      rcases inGroup_iff.mp hgroup with ⟨hipv6, hprotocol⟩
      rcases of_decide_eq_true hmatches with ⟨hfamily, hl4proto, _⟩
      rw [nfprotoFamilyFor_eq, hipv6] at hfamily
      rw [hprotocol] at hl4proto
      exact hpacket ⟨hfamily, hl4proto⟩
    rw [if_neg hpacket, hnone]
    split
    · rfl
    · rfl

theorem mem_groups {ipv6 : Bool} {protocol : Protocol} {l4proto : UInt8}
    (h : l4protoFor protocol = some l4proto) : (ipv6, protocol) ∈ groups := by
  cases protocol with
  | tcp => cases ipv6 <;> decide
  | udp => cases ipv6 <;> decide
  | both => cases h

/-- Every rule that can match is in one of the groups. -/
theorem findSome_groups (packet : Packet) (rules : List NftDnatRule) :
    groups.findSome? (fun group => firstMatch packet (rules.filter (inGroup group.1 group.2))) =
      firstMatch packet rules := by
  cases hmatch : firstMatch packet rules with
  | none =>
      rw [List.findSome?_eq_none_iff]
      intro group _
      rw [firstMatch_filter, hmatch, ite_self]
  | some target =>
      have hrule : exists rule, Matches packet rule := by
        unfold firstMatch at hmatch
        split at hmatch
        · rcases Option.map_eq_some_iff.mp hmatch with ⟨rule, hfind, _⟩
          have hmatches := List.find?_some hfind
          exact ⟨rule, of_decide_eq_true hmatches⟩
        · cases hmatch
      rcases hrule with ⟨rule, hfamily, hl4proto, _⟩
      rw [nfprotoFamilyFor_eq] at hfamily
      have hfound : (groups.findSome? (fun group =>
          firstMatch packet (rules.filter (inGroup group.1 group.2)))).isSome = true := by
        rw [List.findSome?_isSome_iff]
        refine ⟨(isIpv6 rule.outHost, rule.protocol), mem_groups hl4proto, ?_⟩
        rw [firstMatch_filter, if_pos ⟨hfamily, hl4proto⟩, hmatch]
        rfl
      rcases Option.isSome_iff_exists.mp hfound with ⟨other, hother⟩
      rcases List.exists_of_findSome?_eq_some hother with ⟨group, _, hgroup⟩
      rw [hother]
      rw [firstMatch_filter, hmatch] at hgroup
      split at hgroup
      · exact hgroup.symm
      · cases hgroup

theorem nulPosition_eq_none {chars : List Char} (h : nul ∉ chars) (position : Nat) :
    nulPosition chars position = none := by
  induction chars generalizing position with
  | nil => rfl
  | cons c rest ih =>
      unfold nulPosition
      have hc : c ≠ nul := by
        intro hsame
        exact h (hsame ▸ List.mem_cons_self)
      rw [if_neg hc]
      exact ih (fun hrest => h (List.mem_cons_of_mem c hrest)) _

/-- The chain that replaces any other translates a packet exactly as the first rule of
the list that matches it, and a packet that no rule matches not at all. -/
theorem replaceRuleset_first_match (tableName chainName : String) (rules : List NftDnatRule)
    (htable : nul ∉ tableName.toList) (hchain : nul ∉ chainName.toList)
    (old : List KernelRule) :
    exists batch chain, LibNftnlBackend.replaceRuleset tableName chainName rules = .ok batch ∧
      commit batch old = some chain ∧ chain.length ≤ 4 ∧
      forall packet registers, runChain packet chain registers = firstMatch packet rules := by
  have hgroups : forall group, group ∈ groups -> exists l4proto,
      l4protoFor group.2 = some l4proto := by
    intro group hgroup
    fin_cases hgroup <;> exact ⟨_, rfl⟩
  rcases dispatchGroups_adds rules hgroups 1 with ⟨messages, hmessages, hadds⟩
  rcases hadds ⟨∅, []⟩ with ⟨t, added, happly, hrules, hcount, hrun⟩
  refine ⟨⟨tableName, chainName, [.ensureTable, .addChain, .flushChain] ++ messages⟩, added,
    ?_, ?_, hcount, ?_⟩
  · unfold LibNftnlBackend.replaceRuleset cstringName
    rw [nulPosition_eq_none htable, nulPosition_eq_none hchain]
    show (dispatchGroups rules groups 1).bind _ = _
    rw [hmessages]
    rfl
  · show (applyMessages messages ⟨∅, []⟩).map Transaction.rules = some added
    rw [happly, Option.map_some, hrules]
    rfl
  · intro packet registers
    rw [hrun]
    exact findSome_groups packet rules

/-- Two entries for one port, and a packet for it. -/
def duplicateRules : List NftDnatRule :=
  [⟨"first", .tcp, 10000, .v4 ⟨192, 0, 2, 1⟩, 8080⟩,
    ⟨"second", .tcp, 10000, .v4 ⟨192, 0, 2, 2⟩, 8081⟩,
    ⟨"third", .udp, 10000, .v6 ⟨8193, 3512, 0, 0, 0, 0, 0, 1⟩, 8082⟩]

def tcpPacket : Packet := ⟨.ipv4, 6, [192, 0, 39, 16], .localAddress⟩

theorem replaceRuleset_duplicateRules :
    (exists batch chain,
      LibNftnlBackend.replaceRuleset "relayd" "prerouting" duplicateRules = .ok batch ∧
        commit batch [] = some chain ∧ chain.length ≤ 4 ∧
        forall packet registers,
          runChain packet chain registers = firstMatch packet duplicateRules) ∧
      firstMatch tcpPacket duplicateRules = some (.v4 ⟨192, 0, 2, 1⟩, 8080) :=
  ⟨replaceRuleset_first_match "relayd" "prerouting" duplicateRules (by decide) (by decide) [],
    by decide⟩

end Nft
end Runtime
end Relayd
