import Relayd.Foundation.IpLiteral

/-!
# Allocations and bindings

The records the control plane works with: a relay port reserved for one or both
transport protocols, and the binding that gives it a target.  Timestamps are
milliseconds as the wall clock reports them.
-/

namespace Relayd

open Foundation

inductive Protocol where
  | tcp
  | udp
  | both
deriving DecidableEq, Repr

inductive ModelError where
  | invalidProtocol (value : String)
deriving DecidableEq, Repr

def Protocol.asStr : Protocol -> String
  | .tcp => "tcp"
  | .udp => "udp"
  | .both => "both"

def toAsciiLowercase (value : String) : String :=
  String.ofList (value.toList.map Char.toLower)

def Protocol.fromStr (value : String) : Except ModelError Protocol :=
  if toAsciiLowercase value = "tcp" then .ok .tcp
  else if toAsciiLowercase value = "udp" then .ok .udp
  else if toAsciiLowercase value = "both" then .ok .both
  else .error (.invalidProtocol value)

theorem Protocol.fromStr_asStr (protocol : Protocol) :
    Protocol.fromStr protocol.asStr = .ok protocol := by
  cases protocol <;> decide

inductive RuntimeStatus where
  | active
  | rejectingNoHost
  | degradedBindFailed
  | degradedApplyFailed
  | degradedCloseFailed
deriving DecidableEq, Repr

inductive ErrorKind where
  | bindFailed
  | applyFailed
  | closeFailed
  | restoreFailed
  | invalidInput
deriving DecidableEq, Repr

structure Allocation where
  id : String
  protocol : Protocol
  port : UInt16
  targetPort : Option UInt16
  host : Option String
  createdAtMs : Int
  updatedAtMs : Int
deriving DecidableEq, Repr

structure Binding where
  allocationId : String
  targetPort : UInt16
  host : Option String
  createdAtMs : Int
  updatedAtMs : Int
deriving DecidableEq, Repr

/-- The transport protocols a reservation occupies on its port. -/
def protocolsFor : Protocol -> List Protocol
  | .tcp => [.tcp]
  | .udp => [.udp]
  | .both => [.tcp, .udp]

/-!
# Configuration values

The port range is inclusive at both ends and is not required to be ordered
here: the environment parser checks that, the allocation code does not rely on
it.
-/

structure PortRange where
  start : UInt16
  «end» : UInt16
deriving DecidableEq, Repr

inductive ConfigError where
  | invalidHttpListen
  | invalidHost
  | invalidPort
deriving DecidableEq, Repr

def parseIpLiteral (host : String) : Except ConfigError IpAddr :=
  match IpAddr.fromStr host with
  | some addr => .ok addr
  | none => .error .invalidHost

/-- `u32::from_str`: decimal digits, after a plus sign or not. -/
def u32FromStr (text : String) : Option UInt32 :=
  let digits :=
    match text.toList with
    | '+' :: rest => rest
    | chars => chars
  match readDigits 10 digits with
  | (value :: values, []) =>
      let parsed := (value :: values).foldl (fun acc digit => acc * 10 + digit) 0
      if parsed < 2 ^ 32 then some (UInt32.ofNat parsed) else none
  | _ => none

def parsePort (raw : String) : Except ConfigError UInt16 :=
  if raw = "" then .error .invalidPort
  else
    match u32FromStr raw with
    | none => .error .invalidPort
    | some parsed =>
        if parsed = 0 ∨ 65535 < parsed then .error .invalidPort else .ok parsed.toUInt16

end Relayd
