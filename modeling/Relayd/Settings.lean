import Relayd.Config
import Relayd.Foundation.Fallible

/-!
# The settings of the daemon

Every setting is read from an environment map, after the options of the command line have
been written over it.  An accepted configuration is well formed, and the command line that
is written from a well-formed one gives it back over any environment, as far as the options
go: an option that is a switch can only turn its setting on.
-/

namespace Relayd
namespace Config

open Foundation

inductive RuntimeMode where
  | proxy
  | netlink
deriving DecidableEq, Repr

def RuntimeMode.asStr : RuntimeMode -> String
  | .proxy => "proxy"
  | .netlink => "netlink"

/-- `Config`; a `usize` has 64 bits. -/
structure Settings where
  httpListenHost : String
  httpListenPort : UInt16
  proxyListenHost : String
  portRange : PortRange
  authToken : String
  tcpSessionModelEnabled : Bool
  tcpSessionModelWorkers : UInt32
  tcpSessionModelAcceptBalanced : Bool
  tcpSessionModelShardedAccept : Bool
  tcpSessionModelMaxActive : UInt32
  tcpSpliceEnabled : Bool
  forceTcpCopyFallback : Bool
  udpSessionWorkers : UInt32
  udpIoUringEnabled : Bool
  udpGroEnabled : Bool
  udpDataplaneRedesignEnabled : Bool
  udpFastPathEnabled : Bool
  udpFastPathSegmentSize : UInt32
  udpFastPathGsoBurst : UInt32
  udpMaxSessions : UInt64
  udpBatchEnabled : Bool
  udpSocketRecvBufferBytes : UInt32
  udpSocketSendBufferBytes : UInt32
  runtimeApplyTimeoutMs : UInt32
  restoreSweepTimeoutMs : UInt32
  runtimeMode : RuntimeMode
  nftablesTable : String
  nftablesChain : String
  dbPath : String
deriving DecidableEq, Repr

/-- `ConfigError`: the errors of the parsers, and those of the map. -/
inductive SettingsError where
  | parser (error : ConfigError)
  | missingEnv (name : String)
  | emptyAuthToken
  | invalidPortRange
  | invalidInteger (name : String)
  | invalidRuntimeMode
  | invalidNftablesName (name : String)
deriving DecidableEq, Repr

def SettingsError.toString : SettingsError -> String
  | .parser .invalidHttpListen => "invalid HTTP_LISTEN"
  | .parser .invalidHost => "invalid host"
  | .parser .invalidPort => "invalid port"
  | .missingEnv name => "missing environment variable: " ++ name
  | .emptyAuthToken => "required environment variable AUTH_TOKEN must not be empty"
  | .invalidPortRange => "invalid PORT_RANGE"
  | .invalidInteger name => "invalid integer for " ++ name
  | .invalidRuntimeMode => "invalid RELAYD_RUNTIME_MODE"
  | .invalidNftablesName name => "invalid nftables name for " ++ name

def RuntimeMode.fromStr (value : String) : Except SettingsError RuntimeMode :=
  if toAsciiLowercase value = "proxy" then .ok .proxy
  else if toAsciiLowercase value = "netlink" then .ok .netlink
  else .error .invalidRuntimeMode

/-!
# The environment
-/

abbrev Env := String -> Option String

/-- `str::split_once`. -/
def splitOnce (target : Char) : List Char -> Option (List Char × List Char)
  | [] => none
  | c :: rest =>
      if c = target then some ([], rest)
      else (splitOnce target rest).map (fun parts => (c :: parts.1, parts.2))

def parsePortRange (raw : String) : Except SettingsError PortRange :=
  match splitOnce '-' raw.toList with
  | none => .error .invalidPortRange
  | some (start, stop) => do
      let start <- (parsePort (String.ofList start)).mapError (fun _ => .invalidPortRange)
      let stop <- (parsePort (String.ofList stop)).mapError (fun _ => .invalidPortRange)
      if stop < start then .error .invalidPortRange else .ok ⟨start, stop⟩

def stripPlus : List Char -> List Char
  | '+' :: rest => rest
  | text => text

/-- `usize::from_str`: as for `u32`, with more bits. -/
def usizeFromStr (text : String) : Option UInt64 :=
  match readDigits 10 (stripPlus text.toList) with
  | (value :: values, []) =>
      let parsed := (value :: values).foldl (fun acc digit => acc * 10 + digit) 0
      if parsed < 2 ^ 64 then some (UInt64.ofNat parsed) else none
  | _ => none

def envBoolWithDefault (env : Env) (name : String) (defaultValue : Bool) : Bool :=
  ((env name).map (fun value =>
    decide (toAsciiLowercase value ∈ ["1", "true", "yes", "on"]))).getD defaultValue

def envBool (env : Env) (name : String) : Bool :=
  envBoolWithDefault env name false

def envU32 (env : Env) (name : String) (defaultValue : UInt32) :
    Except SettingsError UInt32 :=
  match env name with
  | some value =>
      match u32FromStr value with
      | some parsed => .ok parsed
      | none => .error (.invalidInteger name)
  | none => .ok defaultValue

def envNonzeroUsize (env : Env) (name : String) (defaultValue : UInt64) :
    Except SettingsError UInt64 :=
  match env name with
  | some value =>
      match (usizeFromStr value).filter (fun parsed => 0 < parsed) with
      | some parsed => .ok parsed
      | none => .error (.invalidInteger name)
  | none => .ok defaultValue

def envNonemptyString (env : Env) (name defaultValue : String) :
    Except SettingsError String :=
  let value := (env name).getD defaultValue
  if value = "" then .error (.invalidNftablesName name) else .ok value

/-- A panic is `none`, as in `Parser`. -/
abbrev Reader (value : Type) := ExceptT SettingsError Option value

section Steps

variable {value : Type}

def parsed (parser : Parser value) : Reader value :=
  ExceptT.mk (parser.run.map (Except.mapError SettingsError.parser))

def read (result : Except SettingsError value) : Reader value :=
  ExceptT.mk (some result)

end Steps

/-- `Config::from_env_map`; batching is on by default where the target is Linux. -/
def fromEnvMap (linux : Bool) (env : Env) : Reader Settings := do
  let listen <- parsed (parseHttpListen ((env "HTTP_LISTEN").getD ":8080"))
  let proxyListenHost := (env "PROXY_LISTEN_HOST").getD "0.0.0.0"
  let _ <- read ((parseIpLiteral proxyListenHost).mapError .parser)
  let portRange <- read (parsePortRange ((env "PORT_RANGE").getD "10000-30000"))
  let authToken <- read
    (match env "AUTH_TOKEN" with
    | some authToken => .ok authToken
    | none => .error (.missingEnv "AUTH_TOKEN"))
  if authToken = "" then read (.error .emptyAuthToken)
  else do
    let tcpSessionModelWorkers <- read (envU32 env "TCP_SESSION_MODEL_WORKERS" 0)
    let tcpSessionModelMaxActive <- read (envU32 env "TCP_SESSION_MODEL_MAX_ACTIVE" 256)
    let udpSessionWorkers <- read (envU32 env "UDP_SESSION_WORKERS" 0)
    let udpFastPathSegmentSize <- read (envU32 env "UDP_FAST_PATH_SEGMENT_SIZE" 1472)
    let udpFastPathGsoBurst <- read (envU32 env "UDP_FAST_PATH_GSO_BURST" 16)
    let udpMaxSessions <- read (envNonzeroUsize env "UDP_MAX_SESSIONS" 65536)
    let udpSocketRecvBufferBytes <-
      read (envU32 env "UDP_SOCKET_RCVBUF_BYTES" (8 * 1024 * 1024))
    let udpSocketSendBufferBytes <-
      read (envU32 env "UDP_SOCKET_SNDBUF_BYTES" (8 * 1024 * 1024))
    let runtimeApplyTimeoutMs <- read (envU32 env "RUNTIME_APPLY_TIMEOUT_MS" 2000)
    let restoreSweepTimeoutMs <- read (envU32 env "RESTORE_SWEEP_TIMEOUT_MS" 30000)
    let runtimeMode <- read (RuntimeMode.fromStr ((env "RELAYD_RUNTIME_MODE").getD "proxy"))
    let nftablesTable <- read (envNonemptyString env "RELAYD_NFTABLES_TABLE" "relayd")
    let nftablesChain <- read (envNonemptyString env "RELAYD_NFTABLES_CHAIN" "mapping")
    pure
      { httpListenHost := listen.host
        httpListenPort := listen.port
        proxyListenHost := proxyListenHost
        portRange := portRange
        authToken := authToken
        tcpSessionModelEnabled := envBool env "TCP_SESSION_MODEL_ENABLED"
        tcpSessionModelWorkers := tcpSessionModelWorkers
        tcpSessionModelAcceptBalanced := envBool env "TCP_SESSION_MODEL_ACCEPT_BALANCED"
        tcpSessionModelShardedAccept := envBool env "TCP_SESSION_MODEL_SHARDED_ACCEPT"
        tcpSessionModelMaxActive := tcpSessionModelMaxActive
        tcpSpliceEnabled := envBool env "TCP_SPLICE_ENABLED"
        forceTcpCopyFallback := envBool env "FORCE_TCP_COPY_FALLBACK"
        udpSessionWorkers := udpSessionWorkers
        udpIoUringEnabled := envBool env "UDP_IO_URING_ENABLED"
        udpGroEnabled := envBool env "UDP_GRO_ENABLED"
        udpDataplaneRedesignEnabled := envBool env "UDP_DATAPLANE_REDESIGN_ENABLED"
        udpFastPathEnabled := envBool env "UDP_FAST_PATH_ENABLED"
        udpFastPathSegmentSize := udpFastPathSegmentSize
        udpFastPathGsoBurst := udpFastPathGsoBurst
        udpMaxSessions := udpMaxSessions
        udpBatchEnabled := envBoolWithDefault env "UDP_BATCH_ENABLED" linux
        udpSocketRecvBufferBytes := udpSocketRecvBufferBytes
        udpSocketSendBufferBytes := udpSocketSendBufferBytes
        runtimeApplyTimeoutMs := runtimeApplyTimeoutMs
        restoreSweepTimeoutMs := restoreSweepTimeoutMs
        runtimeMode := runtimeMode
        nftablesTable := nftablesTable
        nftablesChain := nftablesChain
        dbPath := (env "SQLITE_PATH").getD "relayd.sqlite3" }

/-!
# The command line
-/

/-- The options as they were given; a switch that was not given is `false`. -/
structure Cli where
  httpListen : Option String
  proxyListenHost : Option String
  portRange : Option String
  authToken : Option String
  sqlitePath : Option String
  runtimeMode : Option String
  nftablesTable : Option String
  nftablesChain : Option String
  runtimeApplyTimeoutMs : Option String
  restoreSweepTimeoutMs : Option String
  tcpSessionModelEnabled : Bool
  tcpSessionModelWorkers : Option String
  tcpSessionModelAcceptBalanced : Bool
  tcpSessionModelShardedAccept : Bool
  tcpSessionModelMaxActive : Option String
  tcpSpliceEnabled : Bool
  forceTcpCopyFallback : Bool
  udpSessionWorkers : Option String
  udpMaxSessions : Option String
  udpBatchEnabled : Option Bool
  udpIoUringEnabled : Bool
  udpGroEnabled : Bool
  udpDataplaneRedesignEnabled : Bool
  udpFastPathEnabled : Bool
  udpFastPathSegmentSize : Option String
  udpFastPathGsoBurst : Option String
  udpSocketRcvbufBytes : Option String
  udpSocketSndbufBytes : Option String
deriving DecidableEq, Repr

def insertIfPresent (name : String) (value : Option String) (env : Env) : Env :=
  match value with
  | some value => Function.update env name (some value)
  | none => env

def insertFlag (name : String) (enabled : Bool) (env : Env) : Env :=
  if enabled then Function.update env name (some "true") else env

def boolText (enabled : Bool) : String :=
  if enabled then "true" else "false"

def insertOptionalFlag (name : String) (enabled : Option Bool) (env : Env) : Env :=
  match enabled with
  | some enabled => Function.update env name (some (boolText enabled))
  | none => env

/-- The inserts, in the order in which they are made. -/
def Cli.inserts (cli : Cli) : List (Env -> Env) :=
  [insertIfPresent "HTTP_LISTEN" cli.httpListen,
    insertIfPresent "PROXY_LISTEN_HOST" cli.proxyListenHost,
    insertIfPresent "PORT_RANGE" cli.portRange,
    insertIfPresent "AUTH_TOKEN" cli.authToken,
    insertIfPresent "SQLITE_PATH" cli.sqlitePath,
    insertIfPresent "RELAYD_RUNTIME_MODE" cli.runtimeMode,
    insertIfPresent "RELAYD_NFTABLES_TABLE" cli.nftablesTable,
    insertIfPresent "RELAYD_NFTABLES_CHAIN" cli.nftablesChain,
    insertIfPresent "RUNTIME_APPLY_TIMEOUT_MS" cli.runtimeApplyTimeoutMs,
    insertIfPresent "RESTORE_SWEEP_TIMEOUT_MS" cli.restoreSweepTimeoutMs,
    insertFlag "TCP_SESSION_MODEL_ENABLED" cli.tcpSessionModelEnabled,
    insertIfPresent "TCP_SESSION_MODEL_WORKERS" cli.tcpSessionModelWorkers,
    insertFlag "TCP_SESSION_MODEL_ACCEPT_BALANCED" cli.tcpSessionModelAcceptBalanced,
    insertFlag "TCP_SESSION_MODEL_SHARDED_ACCEPT" cli.tcpSessionModelShardedAccept,
    insertIfPresent "TCP_SESSION_MODEL_MAX_ACTIVE" cli.tcpSessionModelMaxActive,
    insertFlag "TCP_SPLICE_ENABLED" cli.tcpSpliceEnabled,
    insertFlag "FORCE_TCP_COPY_FALLBACK" cli.forceTcpCopyFallback,
    insertIfPresent "UDP_SESSION_WORKERS" cli.udpSessionWorkers,
    insertIfPresent "UDP_MAX_SESSIONS" cli.udpMaxSessions,
    insertOptionalFlag "UDP_BATCH_ENABLED" cli.udpBatchEnabled,
    insertFlag "UDP_IO_URING_ENABLED" cli.udpIoUringEnabled,
    insertFlag "UDP_GRO_ENABLED" cli.udpGroEnabled,
    insertFlag "UDP_DATAPLANE_REDESIGN_ENABLED" cli.udpDataplaneRedesignEnabled,
    insertFlag "UDP_FAST_PATH_ENABLED" cli.udpFastPathEnabled,
    insertIfPresent "UDP_FAST_PATH_SEGMENT_SIZE" cli.udpFastPathSegmentSize,
    insertIfPresent "UDP_FAST_PATH_GSO_BURST" cli.udpFastPathGsoBurst,
    insertIfPresent "UDP_SOCKET_RCVBUF_BYTES" cli.udpSocketRcvbufBytes,
    insertIfPresent "UDP_SOCKET_SNDBUF_BYTES" cli.udpSocketSndbufBytes]

def Cli.applyToEnv (cli : Cli) (env : Env) : Env :=
  cli.inserts.foldl (fun env insert => insert env) env

def configFromCliAndEnv (linux : Bool) (cli : Cli) (env : Env) : Reader Settings :=
  fromEnvMap linux (cli.applyToEnv env)

/-!
# What the options leave of the environment
-/

def switch (enabled : Bool) : Option String :=
  if enabled then some "true" else none

theorem insertFlag_eq (name : String) (enabled : Bool) :
    insertFlag name enabled = insertIfPresent name (switch enabled) := by
  cases enabled with
  | true => rfl
  | false => rfl

theorem insertOptionalFlag_eq (name : String) (enabled : Option Bool) :
    insertOptionalFlag name enabled = insertIfPresent name (enabled.map boolText) := by
  cases enabled with
  | some enabled => rfl
  | none => rfl

/-- The variable of each option and what the option writes to it. -/
def Cli.assignments (cli : Cli) : List (String × Option String) :=
  [("HTTP_LISTEN", cli.httpListen),
    ("PROXY_LISTEN_HOST", cli.proxyListenHost),
    ("PORT_RANGE", cli.portRange),
    ("AUTH_TOKEN", cli.authToken),
    ("SQLITE_PATH", cli.sqlitePath),
    ("RELAYD_RUNTIME_MODE", cli.runtimeMode),
    ("RELAYD_NFTABLES_TABLE", cli.nftablesTable),
    ("RELAYD_NFTABLES_CHAIN", cli.nftablesChain),
    ("RUNTIME_APPLY_TIMEOUT_MS", cli.runtimeApplyTimeoutMs),
    ("RESTORE_SWEEP_TIMEOUT_MS", cli.restoreSweepTimeoutMs),
    ("TCP_SESSION_MODEL_ENABLED", switch cli.tcpSessionModelEnabled),
    ("TCP_SESSION_MODEL_WORKERS", cli.tcpSessionModelWorkers),
    ("TCP_SESSION_MODEL_ACCEPT_BALANCED",
      switch cli.tcpSessionModelAcceptBalanced),
    ("TCP_SESSION_MODEL_SHARDED_ACCEPT",
      switch cli.tcpSessionModelShardedAccept),
    ("TCP_SESSION_MODEL_MAX_ACTIVE", cli.tcpSessionModelMaxActive),
    ("TCP_SPLICE_ENABLED", switch cli.tcpSpliceEnabled),
    ("FORCE_TCP_COPY_FALLBACK", switch cli.forceTcpCopyFallback),
    ("UDP_SESSION_WORKERS", cli.udpSessionWorkers),
    ("UDP_MAX_SESSIONS", cli.udpMaxSessions),
    ("UDP_BATCH_ENABLED", cli.udpBatchEnabled.map boolText),
    ("UDP_IO_URING_ENABLED", switch cli.udpIoUringEnabled),
    ("UDP_GRO_ENABLED", switch cli.udpGroEnabled),
    ("UDP_DATAPLANE_REDESIGN_ENABLED",
      switch cli.udpDataplaneRedesignEnabled),
    ("UDP_FAST_PATH_ENABLED", switch cli.udpFastPathEnabled),
    ("UDP_FAST_PATH_SEGMENT_SIZE", cli.udpFastPathSegmentSize),
    ("UDP_FAST_PATH_GSO_BURST", cli.udpFastPathGsoBurst),
    ("UDP_SOCKET_RCVBUF_BYTES", cli.udpSocketRcvbufBytes),
    ("UDP_SOCKET_SNDBUF_BYTES", cli.udpSocketSndbufBytes)]

theorem insertIfPresent_of_ne {name other : String} (value : Option String) (env : Env)
    (h : other ≠ name) : insertIfPresent name value env other = env other := by
  cases value with
  | some value => exact Function.update_of_ne h _ _
  | none => rfl

theorem insertIfPresent_self (name : String) (value : Option String) (env : Env) :
    insertIfPresent name value env name = value.or (env name) := by
  cases value with
  | some value => exact Function.update_self _ _ _
  | none => rfl

def assign : List (String × Option String) -> Env -> Env
  | [], env => env
  | assignment :: rest, env => assign rest (insertIfPresent assignment.1 assignment.2 env)

theorem assign_of_notMem {assignments : List (String × Option String)} {name : String}
    (h : name ∉ assignments.map Prod.fst) (env : Env) :
    assign assignments env name = env name := by
  induction assignments generalizing env with
  | nil => rfl
  | cons assignment rest ih =>
      rw [List.map_cons, List.mem_cons, not_or] at h
      rw [assign, ih h.right, insertIfPresent_of_ne _ _ h.left]

theorem assign_of_mem {assignments : List (String × Option String)} {name : String}
    {value : Option String} (hnames : (assignments.map Prod.fst).Nodup)
    (h : (name, value) ∈ assignments) (env : Env) :
    assign assignments env name = value.or (env name) := by
  induction assignments generalizing env with
  | nil => cases h
  | cons assignment rest ih =>
      rw [List.map_cons, List.nodup_cons] at hnames
      rw [assign]
      rcases List.mem_cons.mp h with rfl | hrest
      · rw [assign_of_notMem hnames.left, insertIfPresent_self]
      · have hne : name ≠ assignment.1 := by
          rintro rfl
          exact hnames.left (List.mem_map.mpr ⟨_, hrest, rfl⟩)
        rw [ih hnames.right hrest, insertIfPresent_of_ne _ _ hne]

theorem applyToEnv_eq (cli : Cli) (env : Env) :
    cli.applyToEnv env = assign cli.assignments env := by
  unfold Cli.applyToEnv Cli.inserts
  simp only [insertFlag_eq, insertOptionalFlag_eq]
  rfl

/-- An option that is given hides the variable; one that is not leaves it. -/
theorem applyToEnv_of_mem {cli : Cli} {name : String} {value : Option String}
    (h : (name, value) ∈ cli.assignments) (env : Env) :
    cli.applyToEnv env name = value.or (env name) := by
  rw [applyToEnv_eq]
  apply assign_of_mem _ h
  show (List.map Prod.fst _).Nodup
  simp only [Cli.assignments, List.map_cons, List.map_nil]
  decide

/-!
# Readers
-/

section Reading

variable {value result : Type} {env : Env} {name : String}

theorem read_bind (a : value) (next : value -> Reader result) :
    (read (.ok a) >>= next) = next a := rfl

theorem bind_eq_ok {reader : Reader value} {next : value -> Reader result} {b : result}
    (h : (reader >>= next).run = some (.ok b)) :
    exists a, reader.run = some (.ok a) ∧ (next a).run = some (.ok b) := by
  rcases reader with _ | error | a
  · cases h
  · cases h
  · exact ⟨a, rfl, h⟩

/-- A reader that does not panic. -/
def Total (reader : Reader value) : Prop :=
  exists result, reader.run = some result

theorem total_read (result : Except SettingsError value) : Total (read result) :=
  ⟨result, rfl⟩

theorem total_bind {reader : Reader value} {next : value -> Reader result}
    (h : Total reader) (hnext : forall a, Total (next a)) : Total (reader >>= next) := by
  rcases reader with _ | error | a
  · rcases h with ⟨_, h⟩
    cases h
  · exact ⟨.error error, rfl⟩
  · exact hnext a

theorem mapError_eq_ok {error error' : Type} {f : error -> error'}
    {checked : Except error value} {a : value} (h : checked.mapError f = .ok a) :
    checked = .ok a := by
  cases checked with
  | ok b =>
      cases h
      rfl
  | error e => cases h

theorem parsed_eq_ok {parser : Parser value} {a : value}
    (h : (parsed parser).run = some (.ok a)) : parser = some (.ok a) := by
  rcases Option.map_eq_some_iff.mp h with ⟨checked, hchecked, hok⟩
  rw [mapError_eq_ok hok] at hchecked
  exact hchecked

theorem notMem_toDigits {c : Char} (h : toDigit 10 c = none) (n : Nat) :
    c ∉ Nat.toDigits 10 n := by
  rcases exists_digits (by decide : 1 < 10) n with ⟨digits, htext, hall, _, _⟩
  rw [htext]
  intro hmem
  rcases List.mem_map.mp hmem with ⟨digit, hdigit, rfl⟩
  rw [writes_ten digit (hall digit hdigit)] at h
  cases h

theorem stripPlus_toDigits (n : Nat) : stripPlus (Nat.toDigits 10 n) = Nat.toDigits 10 n := by
  unfold stripPlus
  split
  · next rest htext =>
    have hmem : '+' ∈ Nat.toDigits 10 n := by
      rw [htext]
      exact List.mem_cons_self
    exact absurd hmem (notMem_toDigits (by decide) n)
  · rfl

theorem usizeFromStr_toDigits (n : UInt64) :
    usizeFromStr (String.ofList (Nat.toDigits 10 n.toNat)) = some n := by
  rcases exists_digits (by decide : 1 < 10) n.toNat with ⟨digits, htext, hall, hvalue, _⟩
  have hread := readDigits_map writes_ten hall (stops_nil 10)
  rw [List.append_nil, ← htext] at hread
  unfold usizeFromStr
  rw [String.toList_ofList, stripPlus_toDigits, hread]
  cases digits with
  | nil => exact absurd htext Nat.toDigits_ne_nil
  | cons digit digits =>
      simp only [hvalue]
      rw [if_pos n.toNat_lt, UInt64.ofNat_toNat]

theorem total_parsed (raw : String) : Total (parsed (parseHttpListen raw)) := by
  rcases parseHttpListen_total raw with ⟨result, hresult⟩
  rw [hresult]
  exact ⟨_, rfl⟩

theorem fromEnvMap_total (linux : Bool) (env : Env) : Total (fromEnvMap linux env) := by
  unfold fromEnvMap
  apply total_bind (total_parsed _)
  intro listen
  -- Every later step reads a variable or ends.
  repeat
    apply total_bind (total_read _)
    intro _
  split
  · exact total_read _
  · repeat
      apply total_bind (total_read _)
      intro _
    exact ⟨_, rfl⟩

end Reading

/-!
# What is accepted
-/

/-- The checks of the reader, on what it has read. -/
structure Settings.WellFormed (settings : Settings) : Prop where
  httpListenHost : exists addr, IpAddr.fromStr settings.httpListenHost = some addr
  httpListenPort : settings.httpListenPort ≠ 0
  proxyListenHost : exists addr, IpAddr.fromStr settings.proxyListenHost = some addr
  portRangeStart : settings.portRange.start ≠ 0
  portRangeOrder : settings.portRange.start ≤ settings.portRange.end
  authToken : settings.authToken ≠ ""
  udpMaxSessions : settings.udpMaxSessions ≠ 0
  nftablesTable : settings.nftablesTable ≠ ""
  nftablesChain : settings.nftablesChain ≠ ""

section Accepted

variable {raw : String}

theorem ne_zero_of_parsePort {port : UInt16} (h : parsePort raw = .ok port) : port ≠ 0 := by
  unfold parsePort at h
  split at h
  · cases h
  · split at h
    · cases h
    · next value _ =>
      split at h
      · cases h
      · next hrange =>
        cases h
        rw [not_or, UInt32.not_lt, UInt32.le_iff_toNat_le] at hrange
        rcases hrange with ⟨hzero, hle⟩
        intro hport
        have htoNat := congrArg UInt16.toNat hport
        rw [UInt32.toNat_toUInt16] at htoNat
        have hnonzero : value.toNat ≠ 0 := by
          intro hvalue
          exact hzero (UInt32.toNat_inj.mp hvalue)
        have hle' : value.toNat ≤ 65535 := hle
        have hmod : value.toNat % 65536 = 0 := htoNat
        lia

theorem addr_of_parseIpLiteral {addr : IpAddr} (h : parseIpLiteral raw = .ok addr) :
    exists addr, IpAddr.fromStr raw = some addr := by
  unfold parseIpLiteral at h
  split at h
  · next addr haddr => exact ⟨addr, haddr⟩
  · cases h

theorem checked_of_parseHttpListen {listen : HttpListen}
    (h : parseHttpListen raw = some (.ok listen)) :
    (exists addr, IpAddr.fromStr listen.host = some addr) ∧ listen.port ≠ 0 := by
  have hlistenAt : forall {host port : List Char}, listenAt host port = .ok listen ->
      (exists addr, IpAddr.fromStr listen.host = some addr) ∧ listen.port ≠ 0 := by
    intro host port hread
    rcases listenAt_eq_ok.mp hread with ⟨addr, parsed, hhost, hport, rfl⟩
    exact ⟨⟨addr, hhost⟩, ne_zero_of_parsePort hport⟩
  rcases parseHttpListen_cases raw with ⟨error, herror⟩ | ⟨port, _, hread⟩ |
    ⟨host, port, _, hread⟩ | ⟨host, port, _, _, hread⟩
  · rw [herror] at h
    cases h
  · rw [hread] at h
    rcases except_bind_eq_ok.mp (Option.some.inj h) with ⟨parsed, hport, hlisten⟩
    cases hlisten
    have hloopback : IpAddr.fromStr "127.0.0.1" = some (.v4 ⟨127, 0, 0, 1⟩) := by decide
    exact ⟨⟨_, hloopback⟩, ne_zero_of_parsePort hport⟩
  · rw [hread] at h
    exact hlistenAt (Option.some.inj h)
  · rw [hread] at h
    exact hlistenAt (Option.some.inj h)

theorem checked_of_parsePortRange {range : PortRange} (h : parsePortRange raw = .ok range) :
    range.start ≠ 0 ∧ range.start ≤ range.end := by
  unfold parsePortRange at h
  split at h
  · cases h
  · rcases except_bind_eq_ok.mp h with ⟨first, hfirst, h⟩
    rcases except_bind_eq_ok.mp h with ⟨last, _, h⟩
    split at h
    · cases h
    · next hrange =>
      cases h
      exact ⟨ne_zero_of_parsePort (mapError_eq_ok hfirst), UInt16.not_lt.mp hrange⟩

theorem nonzero_of_envNonzeroUsize {env : Env} {name : String} {defaultValue value : UInt64}
    (hdefault : defaultValue ≠ 0) (h : envNonzeroUsize env name defaultValue = .ok value) :
    value ≠ 0 := by
  unfold envNonzeroUsize at h
  split at h
  · split at h
    · next parsed hparsed =>
      cases h
      have hpos := of_decide_eq_true (Option.filter_eq_some_iff.mp hparsed).right
      exact UInt64.pos_iff_ne_zero.mp hpos
    · cases h
  · cases h
    exact hdefault

theorem nonempty_of_envNonemptyString {env : Env} {name defaultValue value : String}
    (h : envNonemptyString env name defaultValue = .ok value) : value ≠ "" := by
  unfold envNonemptyString at h
  dsimp only at h
  split at h
  · cases h
  · next hvalue =>
    cases h
    exact hvalue

theorem accepted_wellFormed {linux : Bool} {env : Env} {settings : Settings}
    (h : (fromEnvMap linux env).run = some (.ok settings)) : settings.WellFormed := by
  unfold fromEnvMap at h
  rcases bind_eq_ok h with ⟨listen, hlisten, h⟩
  rcases bind_eq_ok h with ⟨_, hproxy, h⟩
  rcases bind_eq_ok h with ⟨range, hrange, h⟩
  rcases bind_eq_ok h with ⟨authToken, _, h⟩
  split at h
  · cases h
  · next hauth =>
    rcases bind_eq_ok h with ⟨_, _, h⟩
    rcases bind_eq_ok h with ⟨_, _, h⟩
    rcases bind_eq_ok h with ⟨_, _, h⟩
    rcases bind_eq_ok h with ⟨_, _, h⟩
    rcases bind_eq_ok h with ⟨_, _, h⟩
    rcases bind_eq_ok h with ⟨sessions, hsessions, h⟩
    rcases bind_eq_ok h with ⟨_, _, h⟩
    rcases bind_eq_ok h with ⟨_, _, h⟩
    rcases bind_eq_ok h with ⟨_, _, h⟩
    rcases bind_eq_ok h with ⟨_, _, h⟩
    rcases bind_eq_ok h with ⟨_, _, h⟩
    rcases bind_eq_ok h with ⟨table, htable, h⟩
    rcases bind_eq_ok h with ⟨chain, hchain, h⟩
    cases h
    rcases checked_of_parseHttpListen (parsed_eq_ok hlisten) with ⟨hhost, hport⟩
    rcases checked_of_parsePortRange (Option.some.inj hrange) with ⟨hstart, horder⟩
    constructor
    · exact hhost
    · exact hport
    · exact addr_of_parseIpLiteral (mapError_eq_ok (Option.some.inj hproxy))
    · exact hstart
    · exact horder
    · exact hauth
    · exact nonzero_of_envNonzeroUsize (by decide) (Option.some.inj hsessions)
    · exact nonempty_of_envNonemptyString (Option.some.inj htable)
    · exact nonempty_of_envNonemptyString (Option.some.inj hchain)

end Accepted

/-!
# Writing settings as options
-/

def digitsText (n : Nat) : String :=
  String.ofList (Nat.toDigits 10 n)

/-- The listen address in the form of the grammar for its host. -/
def listenText (host : String) (port : UInt16) : String :=
  let digits := Nat.toDigits 10 port.toNat
  match IpAddr.fromStr host with
  | some (.v6 _) => String.ofList ('[' :: host.toList ++ ']' :: ':' :: digits)
  | _ => String.ofList (host.toList ++ ':' :: digits)

def rangeText (range : PortRange) : String :=
  String.ofList (Nat.toDigits 10 range.start.toNat ++
    '-' :: Nat.toDigits 10 range.end.toNat)

/-- The options that ask for the settings. -/
def commandLine (settings : Settings) : Cli where
  httpListen := some (listenText settings.httpListenHost settings.httpListenPort)
  proxyListenHost := some settings.proxyListenHost
  portRange := some (rangeText settings.portRange)
  authToken := some settings.authToken
  sqlitePath := some settings.dbPath
  runtimeMode := some settings.runtimeMode.asStr
  nftablesTable := some settings.nftablesTable
  nftablesChain := some settings.nftablesChain
  runtimeApplyTimeoutMs := some (digitsText settings.runtimeApplyTimeoutMs.toNat)
  restoreSweepTimeoutMs := some (digitsText settings.restoreSweepTimeoutMs.toNat)
  tcpSessionModelEnabled := settings.tcpSessionModelEnabled
  tcpSessionModelWorkers := some (digitsText settings.tcpSessionModelWorkers.toNat)
  tcpSessionModelAcceptBalanced := settings.tcpSessionModelAcceptBalanced
  tcpSessionModelShardedAccept := settings.tcpSessionModelShardedAccept
  tcpSessionModelMaxActive := some (digitsText settings.tcpSessionModelMaxActive.toNat)
  tcpSpliceEnabled := settings.tcpSpliceEnabled
  forceTcpCopyFallback := settings.forceTcpCopyFallback
  udpSessionWorkers := some (digitsText settings.udpSessionWorkers.toNat)
  udpMaxSessions := some (digitsText settings.udpMaxSessions.toNat)
  udpBatchEnabled := some settings.udpBatchEnabled
  udpIoUringEnabled := settings.udpIoUringEnabled
  udpGroEnabled := settings.udpGroEnabled
  udpDataplaneRedesignEnabled := settings.udpDataplaneRedesignEnabled
  udpFastPathEnabled := settings.udpFastPathEnabled
  udpFastPathSegmentSize := some (digitsText settings.udpFastPathSegmentSize.toNat)
  udpFastPathGsoBurst := some (digitsText settings.udpFastPathGsoBurst.toNat)
  udpSocketRcvbufBytes := some (digitsText settings.udpSocketRecvBufferBytes.toNat)
  udpSocketSndbufBytes := some (digitsText settings.udpSocketSendBufferBytes.toNat)

/-- The switches that the environment turns on are on. -/
def Settings.withSwitches (settings : Settings) (env : Env) : Settings :=
  { settings with
    tcpSessionModelEnabled :=
      settings.tcpSessionModelEnabled || envBool env "TCP_SESSION_MODEL_ENABLED"
    tcpSessionModelAcceptBalanced :=
      settings.tcpSessionModelAcceptBalanced || envBool env "TCP_SESSION_MODEL_ACCEPT_BALANCED"
    tcpSessionModelShardedAccept :=
      settings.tcpSessionModelShardedAccept || envBool env "TCP_SESSION_MODEL_SHARDED_ACCEPT"
    tcpSpliceEnabled := settings.tcpSpliceEnabled || envBool env "TCP_SPLICE_ENABLED"
    forceTcpCopyFallback :=
      settings.forceTcpCopyFallback || envBool env "FORCE_TCP_COPY_FALLBACK"
    udpIoUringEnabled := settings.udpIoUringEnabled || envBool env "UDP_IO_URING_ENABLED"
    udpGroEnabled := settings.udpGroEnabled || envBool env "UDP_GRO_ENABLED"
    udpDataplaneRedesignEnabled :=
      settings.udpDataplaneRedesignEnabled || envBool env "UDP_DATAPLANE_REDESIGN_ENABLED"
    udpFastPathEnabled := settings.udpFastPathEnabled || envBool env "UDP_FAST_PATH_ENABLED" }

section Writing

variable {env : Env} {name : String}

theorem parseHttpListen_listenText {host : String} {port : UInt16} {addr : IpAddr}
    (hhost : IpAddr.fromStr host = some addr) (hport : port ≠ 0) :
    parseHttpListen (listenText host port) = some (.ok ⟨host, port⟩) := by
  have hread := parsePort_toDigits hport
  have hname : String.ofList host.toList = host := String.ofList_toList
  have hliteral : IpAddr.fromStr (String.ofList host.toList) = some addr := by
    rw [hname]
    exact hhost
  rw [← hname]
  unfold listenText
  rw [hliteral, hname]
  cases addr with
  | v4 addr =>
      have haccepted := accepts_plain String.toList_ofList hliteral
        (head_of_fromStr_v4 hliteral) hread
      rw [hname] at haccepted
      exact haccepted
  | v6 addr =>
      have haccepted := accepts_bracketed String.toList_ofList hliteral hread
      rw [hname] at haccepted
      exact haccepted

theorem splitOnce_append {target : Char} {before : List Char} (h : target ∉ before)
    (after : List Char) : splitOnce target (before ++ target :: after) = some (before, after) := by
  induction before with
  | nil =>
      unfold splitOnce
      exact if_pos rfl
  | cons c before ih =>
      rw [List.mem_cons, not_or] at h
      show splitOnce target (c :: (before ++ target :: after)) = _
      rw [splitOnce, if_neg (Ne.symm h.left), ih h.right]
      rfl

theorem parsePortRange_rangeText {range : PortRange} (hstart : range.start ≠ 0)
    (horder : range.start ≤ range.end) : parsePortRange (rangeText range) = .ok range := by
  have hend : range.end ≠ 0 := by
    intro hzero
    rw [hzero] at horder
    exact hstart (UInt16.le_antisymm horder UInt16.zero_le)
  unfold parsePortRange rangeText
  rw [String.toList_ofList, splitOnce_append (notMem_toDigits (by decide) _)]
  simp only [parsePort_toDigits hstart, parsePort_toDigits hend]
  show (if _ then _ else _) = _
  rw [if_neg (UInt16.not_lt.mpr horder)]

theorem envU32_of_digits {value : UInt32} {defaultValue : UInt32}
    (h : env name = some (digitsText value.toNat)) :
    envU32 env name defaultValue = .ok value := by
  unfold envU32
  rw [h]
  simp only [digitsText, u32FromStr_toDigits value.toNat_lt, UInt32.ofNat_toNat]

theorem envNonzeroUsize_of_digits {value : UInt64} {defaultValue : UInt64} (hvalue : value ≠ 0)
    (h : env name = some (digitsText value.toNat)) :
    envNonzeroUsize env name defaultValue = .ok value := by
  have hpos : decide (0 < value) = true := decide_eq_true (UInt64.pos_iff_ne_zero.mpr hvalue)
  unfold envNonzeroUsize
  rw [h]
  simp only [digitsText, usizeFromStr_toDigits, Option.filter_some, hpos, if_true]

theorem envNonemptyString_of_some {text defaultValue : String} (htext : text ≠ "")
    (h : env name = some text) : envNonemptyString env name defaultValue = .ok text := by
  unfold envNonemptyString
  rw [h]
  exact if_neg htext

theorem RuntimeMode.fromStr_asStr (mode : RuntimeMode) :
    RuntimeMode.fromStr mode.asStr = .ok mode := by
  cases mode <;> decide

theorem envBoolWithDefault_of_boolText {enabled defaultValue : Bool}
    (h : env name = some (boolText enabled)) :
    envBoolWithDefault env name defaultValue = enabled := by
  have hread : forall enabled : Bool, decide (toAsciiLowercase (boolText enabled) ∈
      ["1", "true", "yes", "on"]) = enabled := by decide
  unfold envBoolWithDefault
  rw [h]
  exact hread enabled

/-- A switch of the command line can only turn a setting on. -/
theorem envBool_of_switch {env' : Env} {enabled : Bool}
    (h : env' name = (switch enabled).or (env name)) :
    envBool env' name = (enabled || envBool env name) := by
  cases enabled with
  | true => exact envBoolWithDefault_of_boolText h
  | false =>
      unfold envBool envBoolWithDefault
      rw [h]
      rfl

/-- The environment asks for the settings, beside the switches of another one. -/
structure Asks (settings : Settings) (env asked : Env) : Prop where
  httpListen : asked "HTTP_LISTEN" =
    some (listenText settings.httpListenHost settings.httpListenPort)
  proxyListenHost : asked "PROXY_LISTEN_HOST" = some settings.proxyListenHost
  portRange : asked "PORT_RANGE" = some (rangeText settings.portRange)
  authToken : asked "AUTH_TOKEN" = some settings.authToken
  dbPath : asked "SQLITE_PATH" = some settings.dbPath
  runtimeMode : asked "RELAYD_RUNTIME_MODE" = some settings.runtimeMode.asStr
  nftablesTable : asked "RELAYD_NFTABLES_TABLE" = some settings.nftablesTable
  nftablesChain : asked "RELAYD_NFTABLES_CHAIN" = some settings.nftablesChain
  udpBatchEnabled : asked "UDP_BATCH_ENABLED" = some (boolText settings.udpBatchEnabled)
  tcpSessionModelWorkers : asked "TCP_SESSION_MODEL_WORKERS" =
    some (digitsText settings.tcpSessionModelWorkers.toNat)
  tcpSessionModelMaxActive : asked "TCP_SESSION_MODEL_MAX_ACTIVE" =
    some (digitsText settings.tcpSessionModelMaxActive.toNat)
  udpSessionWorkers : asked "UDP_SESSION_WORKERS" =
    some (digitsText settings.udpSessionWorkers.toNat)
  udpFastPathSegmentSize : asked "UDP_FAST_PATH_SEGMENT_SIZE" =
    some (digitsText settings.udpFastPathSegmentSize.toNat)
  udpFastPathGsoBurst : asked "UDP_FAST_PATH_GSO_BURST" =
    some (digitsText settings.udpFastPathGsoBurst.toNat)
  udpMaxSessions : asked "UDP_MAX_SESSIONS" = some (digitsText settings.udpMaxSessions.toNat)
  udpSocketRecvBufferBytes : asked "UDP_SOCKET_RCVBUF_BYTES" =
    some (digitsText settings.udpSocketRecvBufferBytes.toNat)
  udpSocketSendBufferBytes : asked "UDP_SOCKET_SNDBUF_BYTES" =
    some (digitsText settings.udpSocketSendBufferBytes.toNat)
  runtimeApplyTimeoutMs : asked "RUNTIME_APPLY_TIMEOUT_MS" =
    some (digitsText settings.runtimeApplyTimeoutMs.toNat)
  restoreSweepTimeoutMs : asked "RESTORE_SWEEP_TIMEOUT_MS" =
    some (digitsText settings.restoreSweepTimeoutMs.toNat)
  tcpSessionModelEnabled : asked "TCP_SESSION_MODEL_ENABLED" =
    (switch settings.tcpSessionModelEnabled).or (env "TCP_SESSION_MODEL_ENABLED")
  tcpSessionModelAcceptBalanced : asked "TCP_SESSION_MODEL_ACCEPT_BALANCED" =
    (switch settings.tcpSessionModelAcceptBalanced).or (env "TCP_SESSION_MODEL_ACCEPT_BALANCED")
  tcpSessionModelShardedAccept : asked "TCP_SESSION_MODEL_SHARDED_ACCEPT" =
    (switch settings.tcpSessionModelShardedAccept).or (env "TCP_SESSION_MODEL_SHARDED_ACCEPT")
  tcpSpliceEnabled : asked "TCP_SPLICE_ENABLED" =
    (switch settings.tcpSpliceEnabled).or (env "TCP_SPLICE_ENABLED")
  forceTcpCopyFallback : asked "FORCE_TCP_COPY_FALLBACK" =
    (switch settings.forceTcpCopyFallback).or (env "FORCE_TCP_COPY_FALLBACK")
  udpIoUringEnabled : asked "UDP_IO_URING_ENABLED" =
    (switch settings.udpIoUringEnabled).or (env "UDP_IO_URING_ENABLED")
  udpGroEnabled : asked "UDP_GRO_ENABLED" =
    (switch settings.udpGroEnabled).or (env "UDP_GRO_ENABLED")
  udpDataplaneRedesignEnabled : asked "UDP_DATAPLANE_REDESIGN_ENABLED" =
    (switch settings.udpDataplaneRedesignEnabled).or (env "UDP_DATAPLANE_REDESIGN_ENABLED")
  udpFastPathEnabled : asked "UDP_FAST_PATH_ENABLED" =
    (switch settings.udpFastPathEnabled).or (env "UDP_FAST_PATH_ENABLED")

theorem applyToEnv_of_given {cli : Cli} {text : String}
    (h : (name, some text) ∈ cli.assignments) (env : Env) :
    cli.applyToEnv env name = some text :=
  applyToEnv_of_mem h env

theorem asks_commandLine (settings : Settings) (env : Env) :
    Asks settings env ((commandLine settings).applyToEnv env) := by
  constructor
  all_goals
    first
    | exact applyToEnv_of_given (by simp [Cli.assignments, commandLine]) env
    | exact applyToEnv_of_mem (by simp [Cli.assignments, commandLine]) env

theorem fromEnvMap_of_asks (linux : Bool) {settings : Settings} {asked : Env}
    (h : Asks settings env asked) (hchecks : settings.WellFormed) :
    (fromEnvMap linux asked).run = some (.ok (settings.withSwitches env)) := by
  rcases hchecks.httpListenHost with ⟨listenAddr, hlistenHost⟩
  rcases hchecks.proxyListenHost with ⟨proxyAddr, hproxyHost⟩
  have hlisten := parseHttpListen_listenText hlistenHost hchecks.httpListenPort
  have hproxy : parseIpLiteral settings.proxyListenHost = .ok proxyAddr := by
    unfold parseIpLiteral
    rw [hproxyHost]
  have hrange := parsePortRange_rangeText hchecks.portRangeStart hchecks.portRangeOrder
  unfold fromEnvMap
  simp only [h.httpListen, h.proxyListenHost, h.portRange, h.authToken, h.dbPath,
    h.runtimeMode, Option.getD_some, hlisten, hproxy, hrange, RuntimeMode.fromStr_asStr,
    envU32_of_digits h.tcpSessionModelWorkers, envU32_of_digits h.tcpSessionModelMaxActive,
    envU32_of_digits h.udpSessionWorkers, envU32_of_digits h.udpFastPathSegmentSize,
    envU32_of_digits h.udpFastPathGsoBurst, envU32_of_digits h.udpSocketRecvBufferBytes,
    envU32_of_digits h.udpSocketSendBufferBytes, envU32_of_digits h.runtimeApplyTimeoutMs,
    envU32_of_digits h.restoreSweepTimeoutMs,
    envNonzeroUsize_of_digits hchecks.udpMaxSessions h.udpMaxSessions,
    envNonemptyString_of_some hchecks.nftablesTable h.nftablesTable,
    envNonemptyString_of_some hchecks.nftablesChain h.nftablesChain,
    envBoolWithDefault_of_boolText h.udpBatchEnabled,
    envBool_of_switch h.tcpSessionModelEnabled, 
    envBool_of_switch h.tcpSessionModelAcceptBalanced,
    envBool_of_switch h.tcpSessionModelShardedAccept, envBool_of_switch h.tcpSpliceEnabled,
    envBool_of_switch h.forceTcpCopyFallback, envBool_of_switch h.udpIoUringEnabled,
    envBool_of_switch h.udpGroEnabled, envBool_of_switch h.udpDataplaneRedesignEnabled,
    envBool_of_switch h.udpFastPathEnabled, read_bind]
  show ExceptT.run (if settings.authToken = "" then _ else _ : Reader Settings) = _
  rw [if_neg hchecks.authToken]
  rfl

end Writing

/-- Reading never panics, what is accepted is exactly what is well formed, and a command
line that asks for settings gets them over any environment, but for the switches that the
environment turns on. -/
theorem command_line_overrides (linux : Bool) :
    (forall cli env, exists result, (configFromCliAndEnv linux cli env).run = some result) ∧
    (forall settings : Settings, settings.WellFormed <-> exists cli env,
      (configFromCliAndEnv linux cli env).run = some (.ok settings)) ∧
    forall (settings : Settings) env, settings.WellFormed ->
      (configFromCliAndEnv linux (commandLine settings) env).run =
        some (.ok (settings.withSwitches env)) := by
  refine ⟨?_, ?_, ?_⟩
  · intro cli env
    exact fromEnvMap_total linux _
  · intro settings
    constructor
    · intro h
      refine ⟨commandLine settings, fun _ => none, ?_⟩
      rw [configFromCliAndEnv, fromEnvMap_of_asks linux (asks_commandLine settings _) h]
      simp [Settings.withSwitches, envBool, envBoolWithDefault]
    · intro h
      rcases h with ⟨cli, env, haccepted⟩
      exact accepted_wellFormed haccepted
  · intro settings env h
    exact fromEnvMap_of_asks linux (asks_commandLine settings env) h

def sampleSettings : Settings where
  httpListenHost := "::1"
  httpListenPort := 8080
  proxyListenHost := "0.0.0.0"
  portRange := ⟨10000, 30000⟩
  authToken := "secret"
  tcpSessionModelEnabled := false
  tcpSessionModelWorkers := 0
  tcpSessionModelAcceptBalanced := false
  tcpSessionModelShardedAccept := false
  tcpSessionModelMaxActive := 256
  tcpSpliceEnabled := false
  forceTcpCopyFallback := true
  udpSessionWorkers := 0
  udpIoUringEnabled := false
  udpGroEnabled := false
  udpDataplaneRedesignEnabled := false
  udpFastPathEnabled := false
  udpFastPathSegmentSize := 1472
  udpFastPathGsoBurst := 16
  udpMaxSessions := 777
  udpBatchEnabled := false
  udpSocketRecvBufferBytes := 4096
  udpSocketSendBufferBytes := 4096
  runtimeApplyTimeoutMs := 1500
  restoreSweepTimeoutMs := 30000
  runtimeMode := .netlink
  nftablesTable := "relayd"
  nftablesChain := "mapping"
  dbPath := "relayd.sqlite3"

def sampleEnv : Env := fun name =>
  if name = "TCP_SPLICE_ENABLED" then some "yes"
  else if name = "PORT_RANGE" then some "unreadable"
  else none

theorem sampleSettings_wellFormed : sampleSettings.WellFormed where
  httpListenHost := ⟨.v6 ⟨0, 0, 0, 0, 0, 0, 0, 1⟩, by decide⟩
  httpListenPort := by decide
  proxyListenHost := ⟨.v4 ⟨0, 0, 0, 0⟩, by decide⟩
  portRangeStart := by decide
  portRangeOrder := by decide
  authToken := by decide
  udpMaxSessions := by decide
  nftablesTable := by decide
  nftablesChain := by decide

/-- The splicing that only the environment asks for stays on. -/
theorem command_line_overrides_unreadable :
    (configFromCliAndEnv true (commandLine sampleSettings) sampleEnv).run =
      some (.ok { sampleSettings with tcpSpliceEnabled := true }) := by
  rcases command_line_overrides true with ⟨_, _, hoverrides⟩
  have hswitches : sampleSettings.withSwitches sampleEnv =
      { sampleSettings with tcpSpliceEnabled := true } := by decide
  rw [← hswitches]
  exact hoverrides sampleSettings sampleEnv sampleSettings_wellFormed

end Config
end Relayd
