import Relayd.Foundation.IpChars
import Relayd.Foundation.Utf8
import Relayd.Model

/-!
# The listen address of the control plane

`parse_http_listen` takes a port after a colon, a bracketed address with a port, or splits
at the last colon.  It works with byte offsets into the text; a slice that does not fall
between two characters would be a panic, which is the `none` of the parser here.
-/

namespace Relayd
namespace Config

open Foundation

structure HttpListen where
  host : String
  port : UInt16
deriving DecidableEq, Repr

abbrev Parser (value : Type) := ExceptT ConfigError Option value

section Steps

variable {value : Type}

def returned (result : Except ConfigError value) : Parser value :=
  ExceptT.mk (some result)

def okOr (found : Option value) (error : ConfigError) : Parser value :=
  match found with
  | some found => returned (.ok found)
  | none => returned (.error error)

def sliced (taken : Option (List Char)) : Parser String :=
  ExceptT.mk (taken.map (fun text => .ok (String.ofList text)))

end Steps

def parseBracketed (text : List Char) : Parser HttpListen := do
  let stop <- okOr (Utf8.find ']' text) .invalidHttpListen
  if (Utf8.bytes text)[stop + 1]? ≠ some 58 then
    returned (.error .invalidHttpListen)
  else
    let host <- sliced (Utf8.slice 1 stop text)
    let _ <- returned (parseIpLiteral host)
    let rest <- sliced (Utf8.sliceFrom (stop + 2) text)
    let port <- returned (parsePort rest)
    returned (.ok ⟨host, port⟩)

def parseAtLastColon (text : List Char) : Parser HttpListen := do
  let idx <- okOr (Utf8.rfind ':' text) .invalidHttpListen
  let host <- sliced (Utf8.sliceTo idx text)
  if host = "" then returned (.error .invalidHttpListen)
  else
    let _ <- returned (parseIpLiteral host)
    let rest <- sliced (Utf8.sliceFrom (idx + 1) text)
    let port <- returned (parsePort rest)
    returned (.ok ⟨host, port⟩)

def parseHttpListen (raw : String) : Parser HttpListen :=
  match raw.toList with
  | [] => returned (.error .invalidHttpListen)
  | ':' :: port => do
      let port <- returned (parsePort (String.ofList port))
      returned (.ok ⟨"127.0.0.1", port⟩)
  | '[' :: rest => parseBracketed ('[' :: rest)
  | text => parseAtLastColon text

/-!
# What each form reads
-/

/-- An address and a port, each checked by its own parser. -/
def listenAt (host port : List Char) : Except ConfigError HttpListen := do
  let _ <- parseIpLiteral (String.ofList host)
  let port <- parsePort (String.ofList port)
  .ok ⟨String.ofList host, port⟩

/-- The last steps of both forms. -/
theorem checked_eq (host port : List Char) :
    (do
      let _ <- returned (parseIpLiteral (String.ofList host))
      let rest <- sliced (some port)
      let port <- returned (parsePort rest)
      returned (.ok ⟨String.ofList host, port⟩) : Parser HttpListen) =
        some (listenAt host port) := by
  unfold listenAt
  cases parseIpLiteral (String.ofList host) with
  | error error => rfl
  | ok addr =>
      show (returned (parsePort (String.ofList port)) >>= _ : Parser HttpListen) =
        some (parsePort (String.ofList port) >>= _)
      cases parsePort (String.ofList port) with
      | error error => rfl
      | ok port => rfl

theorem parseBracketed_of_missing {text : List Char} (h : Utf8.find ']' text = none) :
    parseBracketed text = some (.error .invalidHttpListen) := by
  unfold parseBracketed
  rw [h]
  rfl

theorem byte_after_bracket (host after : List Char) :
    (Utf8.bytes ('[' :: host ++ ']' :: after))[Utf8.length ('[' :: host) + 1]? =
      (Utf8.bytes after)[0]? := by
  have hsplit : '[' :: host ++ ']' :: after = ('[' :: host ++ [']']) ++ after := by simp
  have hlength : Utf8.length ('[' :: host) + 1 = Utf8.length ('[' :: host ++ [']']) := by
    rw [Utf8.length_append]
    rfl
  rw [hsplit, hlength, Utf8.getElem?_bytes_append]

theorem parseBracketed_of_no_colon {host after : List Char} (hhost : ']' ∉ '[' :: host)
    (hafter : forall rest, after ≠ ':' :: rest) :
    parseBracketed ('[' :: host ++ ']' :: after) = some (.error .invalidHttpListen) := by
  have hbyte : (Utf8.bytes ('[' :: host ++ ']' :: after))[Utf8.length ('[' :: host) + 1]? ≠
      some 58 := by
    intro h
    rw [byte_after_bracket] at h
    rcases Utf8.getElem?_bytes_zero h with ⟨rest, hrest⟩
    exact hafter rest hrest
  unfold parseBracketed
  rw [Utf8.find_split hhost]
  show (if _ then _ else _ : Parser HttpListen) = _
  rw [if_pos hbyte]
  rfl

theorem parseBracketed_eq {host port : List Char} (hhost : ']' ∉ '[' :: host) :
    parseBracketed ('[' :: host ++ ']' :: ':' :: port) = some (listenAt host port) := by
  have hbyte : (Utf8.bytes ('[' :: host ++ ']' :: ':' :: port))[
      Utf8.length ('[' :: host) + 1]? = some 58 := by
    rw [byte_after_bracket]
    rfl
  have hslice : Utf8.slice 1 (Utf8.length ('[' :: host))
      ('[' :: host ++ ']' :: ':' :: port) = some host :=
    Utf8.slice_append ['['] host (']' :: ':' :: port)
  have hrest : Utf8.sliceFrom (Utf8.length ('[' :: host) + 2)
      ('[' :: host ++ ']' :: ':' :: port) = some port := by
    have hsplit : '[' :: host ++ ']' :: ':' :: port = ('[' :: host ++ [']', ':']) ++ port := by
      simp
    have hlength : Utf8.length ('[' :: host) + 2 = Utf8.length ('[' :: host ++ [']', ':']) := by
      rw [Utf8.length_append]
      rfl
    rw [hsplit, hlength, Utf8.sliceFrom_append]
  unfold parseBracketed
  rw [Utf8.find_split hhost]
  show (if _ then _ else _ : Parser HttpListen) = _
  rw [if_neg (not_not_intro hbyte), hslice, hrest]
  exact checked_eq host port

theorem parseAtLastColon_of_missing {text : List Char} (h : Utf8.rfind ':' text = none) :
    parseAtLastColon text = some (.error .invalidHttpListen) := by
  unfold parseAtLastColon
  rw [h]
  rfl

theorem parseAtLastColon_eq {host port : List Char} (hhost : host ≠ [])
    (hport : ':' ∉ port) :
    parseAtLastColon (host ++ ':' :: port) = some (listenAt host port) := by
  have hslice := Utf8.sliceTo_append host (':' :: port)
  have hrest : Utf8.sliceFrom (Utf8.length host + 1) (host ++ ':' :: port) = some port := by
    have hsplit : host ++ ':' :: port = (host ++ [':']) ++ port := by simp
    have hlength : Utf8.length host + 1 = Utf8.length (host ++ [':']) := by
      rw [Utf8.length_append]
      rfl
    rw [hsplit, hlength, Utf8.sliceFrom_append]
  have hnamed : String.ofList host ≠ "" := by
    intro hempty
    exact hhost (String.ofList_eq_empty_iff.mp hempty)
  unfold parseAtLastColon
  rw [Utf8.rfind_split host hport]
  show (sliced (Utf8.sliceTo (Utf8.length host) (host ++ ':' :: port)) >>= _ :
    Parser HttpListen) = _
  rw [hslice]
  show (if _ then _ else _ : Parser HttpListen) = _
  rw [if_neg hnamed, hrest]
  exact checked_eq host port

/-!
# Ports

What `parse_port` takes has no colon in it, and it takes every port as it is printed.
-/

theorem digit_of_mem_readDigits (radix : Nat) {input : List Char} {c : Char}
    (hc : c ∈ input) :
    c ∈ (readDigits radix input).2 ∨ (toDigit radix c).isSome := by
  induction input with
  | nil => cases hc
  | cons first rest ih =>
      rw [readDigits]
      cases hdigit : toDigit radix first with
      | none => exact Or.inl hc
      | some digit =>
          rcases List.mem_cons.mp hc with hfirst | hrest
          · rw [hfirst, hdigit]
            exact Or.inr rfl
          · exact ih hrest

theorem char_of_u32FromStr {text : List Char} {parsed : UInt32}
    (h : u32FromStr (String.ofList text) = some parsed) {c : Char} (hc : c ∈ text) :
    c = '+' ∨ (toDigit 10 c).isSome := by
  unfold u32FromStr at h
  rw [String.toList_ofList] at h
  simp only at h
  split at h
  · next value values hread =>
    have hdigits : forall digits : List Char, readDigits 10 digits = (value :: values, []) ->
        c ∈ digits -> (toDigit 10 c).isSome := by
      intro digits hdigits hmem
      rcases digit_of_mem_readDigits 10 hmem with hunread | hdigit
      · rw [hdigits] at hunread
        cases hunread
      · exact hdigit
    split at hread
    · next rest =>
      rcases List.mem_cons.mp hc with hplus | hrest
      · exact Or.inl hplus
      · exact Or.inr (hdigits _ hread hrest)
    · exact Or.inr (hdigits _ hread hc)
  · cases h

theorem colon_notMem_of_parsePort {port : List Char} {parsed : UInt16}
    (h : parsePort (String.ofList port) = .ok parsed) : ':' ∉ port := by
  intro hcolon
  unfold parsePort at h
  split at h
  · cases h
  · split at h
    · cases h
    · next value hvalue =>
      rcases char_of_u32FromStr hvalue hcolon with hplus | hdigit
      · exact absurd hplus (by decide)
      · exact absurd hdigit (by decide)

theorem u32FromStr_toDigits {n : Nat} (h : n < 2 ^ 32) :
    u32FromStr (String.ofList (Nat.toDigits 10 n)) = some (UInt32.ofNat n) := by
  rcases exists_digits (by decide : 1 < 10) n with ⟨digits, htext, hall, hvalue, _⟩
  cases digits with
  | nil => exact absurd htext Nat.toDigits_ne_nil
  | cons digit digits =>
      have hplus : Nat.digitChar digit ≠ '+' := by
        intro hplus
        have hread := writes_ten digit (hall digit List.mem_cons_self)
        rw [hplus, show toDigit 10 '+' = none by decide] at hread
        cases hread
      have hread := readDigits_map writes_ten hall (stops_nil 10)
      rw [List.append_nil] at hread
      unfold u32FromStr
      rw [String.toList_ofList, htext]
      simp only
      split
      · next value values hdigits =>
        split at hdigits
        · next rest hrest =>
          rw [List.map_cons] at hrest
          exact absurd (List.cons.inj hrest).1 hplus
        · rw [hread] at hdigits
          cases hdigits
          rw [hvalue, if_pos h]
      · next hnone =>
        split at hnone
        · next rest hrest =>
          rw [List.map_cons] at hrest
          exact absurd (List.cons.inj hrest).1 hplus
        · rw [hread] at hnone
          exact absurd rfl (hnone digit digits)

theorem parsePort_toDigits {port : UInt16} (h : port ≠ 0) :
    parsePort (String.ofList (Nat.toDigits 10 port.toNat)) = .ok port := by
  have hlt : port.toNat < 65536 := port.toNat_lt
  have hpos : port.toNat ≠ 0 := by
    intro hzero
    exact h (UInt16.toNat_inj.mp hzero)
  have hnamed : String.ofList (Nat.toDigits 10 port.toNat) ≠ "" := by
    intro hempty
    exact Nat.toDigits_ne_nil (String.ofList_eq_empty_iff.mp hempty)
  have hparsed : (UInt32.ofNat port.toNat).toNat = port.toNat := by
    rw [UInt32.toNat_ofNat']
    lia
  have hrange : ¬ (UInt32.ofNat port.toNat = 0 ∨ 65535 < UInt32.ofNat port.toNat) := by
    rw [<- UInt32.toNat_inj, UInt32.lt_iff_toNat_lt, hparsed]
    show ¬ (port.toNat = 0 ∨ 65535 < port.toNat)
    lia
  unfold parsePort
  rw [if_neg hnamed, u32FromStr_toDigits (by lia)]
  simp only
  rw [if_neg hrange]
  congr 1
  apply UInt16.toNat_inj.mp
  rw [UInt32.toNat_toUInt16, hparsed]
  lia

/-!
# The grammar
-/

/-- A port, an address that parses with a port, and the address and port that are read. -/
inductive ListenGrammar : List Char -> HttpListen -> Prop where
  | loopback {port : List Char} {parsed : UInt16}
      (hport : parsePort (String.ofList port) = .ok parsed) :
      ListenGrammar (':' :: port) ⟨"127.0.0.1", parsed⟩
  | ipv4 {host port : List Char} {addr : Ipv4Addr} {parsed : UInt16}
      (hhost : IpAddr.fromStr (String.ofList host) = some (.v4 addr))
      (hport : parsePort (String.ofList port) = .ok parsed) :
      ListenGrammar (host ++ ':' :: port) ⟨String.ofList host, parsed⟩
  | ipv6 {host port : List Char} {addr : Ipv6Addr} {parsed : UInt16}
      (hhost : IpAddr.fromStr (String.ofList host) = some (.v6 addr))
      (hport : parsePort (String.ofList port) = .ok parsed) :
      ListenGrammar ('[' :: host ++ ']' :: ':' :: port) ⟨String.ofList host, parsed⟩

/-- The two forms that are taken besides: an IPv4 literal in brackets, and an IPv6 literal
without them. -/
inductive Misread : List Char -> Prop where
  | bracketedIpv4 {host port : List Char} {addr : Ipv4Addr} {parsed : UInt16}
      (hhost : IpAddr.fromStr (String.ofList host) = some (.v4 addr))
      (hport : parsePort (String.ofList port) = .ok parsed) :
      Misread ('[' :: host ++ ']' :: ':' :: port)
  | bareIpv6 {host port : List Char} {addr : Ipv6Addr} {parsed : UInt16}
      (hhost : IpAddr.fromStr (String.ofList host) = some (.v6 addr))
      (hstart : host.head? ≠ some ':')
      (hport : parsePort (String.ofList port) = .ok parsed) :
      Misread (host ++ ':' :: port)

theorem listenAt_eq_ok {host port : List Char} {listen : HttpListen} :
    listenAt host port = .ok listen <->
      exists addr parsed, IpAddr.fromStr (String.ofList host) = some addr ∧
        parsePort (String.ofList port) = .ok parsed ∧ listen = ⟨String.ofList host, parsed⟩ := by
  unfold listenAt parseIpLiteral
  cases hhost : IpAddr.fromStr (String.ofList host) with
  | none =>
      constructor
      · intro h
        cases h
      · intro h
        rcases h with ⟨addr, parsed, hsome, _⟩
        cases hsome
  | some addr =>
      show (parsePort (String.ofList port) >>= _) = _ <-> _
      cases hport : parsePort (String.ofList port) with
      | error error =>
          constructor
          · intro h
            cases h
          · intro h
            rcases h with ⟨addr, parsed, _, hok, _⟩
            cases hok
      | ok parsed =>
          constructor
          · intro h
            cases h
            exact ⟨addr, parsed, rfl, rfl, rfl⟩
          · intro h
            rcases h with ⟨addr', parsed', _, hok, hlisten⟩
            cases hok
            rw [hlisten]
            rfl

theorem notMem_of_fromStr {host : List Char} {addr : IpAddr} {c : Char}
    (h : IpAddr.fromStr (String.ofList host) = some addr) (hc : ¬ LiteralChar c) :
    c ∉ host := by
  intro hmem
  exact hc (fromStr_literalChar h hmem)

theorem ne_nil_of_fromStr {host : List Char} {addr : IpAddr}
    (h : IpAddr.fromStr (String.ofList host) = some addr) : host ≠ [] := by
  intro hnil
  rw [hnil] at h
  exact absurd h (by rw [show IpAddr.fromStr (String.ofList []) = none by decide]; simp)

theorem head_of_fromStr_v4 {host : List Char} {addr : Ipv4Addr}
    (h : IpAddr.fromStr (String.ofList host) = some (.v4 addr)) :
    host.head? ≠ some ':' := by
  intro hcolon
  cases host with
  | nil => cases hcolon
  | cons c rest =>
      cases Option.some.inj hcolon
      rw [fromStr_eq_v4, readIpv4Addr_colon] at h
      cases h

/-!
# The forms of the text
-/

theorem parseHttpListen_loopback {raw : String} {port : List Char}
    (h : raw.toList = ':' :: port) :
    parseHttpListen raw = some (do
      let port <- parsePort (String.ofList port)
      .ok ⟨"127.0.0.1", port⟩) := by
  unfold parseHttpListen
  rw [h]
  simp only
  cases parsePort (String.ofList port) with
  | error error => rfl
  | ok port => rfl

theorem parseHttpListen_bracketed {raw : String} {rest : List Char}
    (h : raw.toList = '[' :: rest) : parseHttpListen raw = parseBracketed ('[' :: rest) := by
  unfold parseHttpListen
  rw [h]
  rfl

theorem parseHttpListen_plain {raw : String} (hempty : raw.toList ≠ [])
    (hcolon : raw.toList.head? ≠ some ':') (hbracket : raw.toList.head? ≠ some '[') :
    parseHttpListen raw = parseAtLastColon raw.toList := by
  unfold parseHttpListen
  split
  · next h => exact absurd h hempty
  · next port h => exact absurd (by rw [h]; rfl) hcolon
  · next rest h => exact absurd (by rw [h]; rfl) hbracket
  · rfl

theorem bracketed_cases {raw : String} {rest : List Char} (h : raw.toList = '[' :: rest) :
    (exists error, parseHttpListen raw = some (.error error)) ∨
      exists host port, raw.toList = '[' :: host ++ ']' :: ':' :: port ∧
        parseHttpListen raw = some (listenAt host port) := by
  rw [parseHttpListen_bracketed h, h]
  rcases Utf8.find_cases ']' ('[' :: rest) with hnone | ⟨before, after, hsplit, hfirst, _⟩
  · exact Or.inl ⟨_, parseBracketed_of_missing hnone⟩
  · cases before with
    | nil => cases hsplit
    | cons bracket host =>
        have hbracket : bracket = '[' := (List.cons.inj hsplit).1.symm
        rw [hbracket] at hsplit hfirst
        rw [hsplit]
        by_cases hcolon : exists port, after = ':' :: port
        · rcases hcolon with ⟨port, hport⟩
          rw [hport]
          exact Or.inr ⟨host, port, rfl, parseBracketed_eq hfirst⟩
        · have hafter : forall port, after ≠ ':' :: port := fun port hport => hcolon ⟨port, hport⟩
          exact Or.inl ⟨_, parseBracketed_of_no_colon hfirst hafter⟩

theorem plain_cases {raw : String} (hempty : raw.toList ≠ [])
    (hcolon : raw.toList.head? ≠ some ':') (hbracket : raw.toList.head? ≠ some '[') :
    (exists error, parseHttpListen raw = some (.error error)) ∨
      exists host port, raw.toList = host ++ ':' :: port ∧ host.head? ≠ some ':' ∧
        parseHttpListen raw = some (listenAt host port) := by
  rw [parseHttpListen_plain hempty hcolon hbracket]
  rcases Utf8.rfind_cases ':' raw.toList with hnone | ⟨host, port, hsplit, hlast, _⟩
  · exact Or.inl ⟨_, parseAtLastColon_of_missing hnone⟩
  · rw [hsplit] at hcolon ⊢
    cases host with
    | nil => exact absurd rfl hcolon
    | cons c host =>
        exact Or.inr ⟨c :: host, port, rfl, hcolon,
          parseAtLastColon_eq (List.cons_ne_nil c host) hlast⟩

/-- A text is refused, or it has one of three forms that are checked part by part. -/
theorem parseHttpListen_cases (raw : String) :
    (exists error, parseHttpListen raw = some (.error error)) ∨
    (exists port, raw.toList = ':' :: port ∧ parseHttpListen raw = some (do
      let port <- parsePort (String.ofList port)
      .ok ⟨"127.0.0.1", port⟩)) ∨
    (exists host port, raw.toList = '[' :: host ++ ']' :: ':' :: port ∧
      parseHttpListen raw = some (listenAt host port)) ∨
    (exists host port, raw.toList = host ++ ':' :: port ∧ host.head? ≠ some ':' ∧
      parseHttpListen raw = some (listenAt host port)) := by
  cases htext : raw.toList with
  | nil =>
      refine Or.inl ⟨.invalidHttpListen, ?_⟩
      unfold parseHttpListen
      rw [htext]
      rfl
  | cons c rest =>
      by_cases hcolon : c = ':'
      · rw [hcolon] at htext ⊢
        exact Or.inr (Or.inl ⟨rest, rfl, parseHttpListen_loopback htext⟩)
      · by_cases hbracket : c = '['
        · rw [hbracket] at htext
          rcases bracketed_cases htext with herror | hread
          · exact Or.inl herror
          · rw [htext] at hread
            rw [hbracket]
            exact Or.inr (Or.inr (Or.inl hread))
        · have hempty : raw.toList ≠ [] := by
            rw [htext]
            exact List.cons_ne_nil c rest
          have hnocolon : raw.toList.head? ≠ some ':' := by
            rw [htext]
            simpa using hcolon
          have hnobracket : raw.toList.head? ≠ some '[' := by
            rw [htext]
            simpa using hbracket
          rcases plain_cases hempty hnocolon hnobracket with herror | hread
          · exact Or.inl herror
          · rw [htext] at hread
            exact Or.inr (Or.inr (Or.inr hread))

/-!
# What is accepted
-/

theorem parseHttpListen_total (raw : String) :
    exists result, parseHttpListen raw = some result := by
  rcases parseHttpListen_cases raw with ⟨_, h⟩ | ⟨_, _, h⟩ | ⟨_, _, _, h⟩ | ⟨_, _, _, _, h⟩
  · exact ⟨_, h⟩
  · exact ⟨_, h⟩
  · exact ⟨_, h⟩
  · exact ⟨_, h⟩

/-- Nothing else than the grammar and the two misread forms is accepted. -/
theorem accepted_cases {raw : String} {listen : HttpListen}
    (h : parseHttpListen raw = some (.ok listen)) :
    ListenGrammar raw.toList listen ∨ Misread raw.toList := by
  rcases parseHttpListen_cases raw with ⟨error, herror⟩ | ⟨port, htext, hread⟩ |
    ⟨host, port, htext, hread⟩ | ⟨host, port, htext, hstart, hread⟩
  · rw [herror] at h
    cases h
  · rw [hread] at h
    rw [htext]
    cases hport : parsePort (String.ofList port) with
    | error error =>
        rw [hport] at h
        cases h
    | ok parsed =>
        rw [hport] at h
        cases h
        exact Or.inl (ListenGrammar.loopback hport)
  · rw [hread] at h
    rw [htext]
    rcases listenAt_eq_ok.mp (Option.some.inj h) with ⟨addr, parsed, hhost, hport, rfl⟩
    cases addr with
    | v4 addr => exact Or.inr (Misread.bracketedIpv4 hhost hport)
    | v6 addr => exact Or.inl (ListenGrammar.ipv6 hhost hport)
  · rw [hread] at h
    rw [htext]
    rcases listenAt_eq_ok.mp (Option.some.inj h) with ⟨addr, parsed, hhost, hport, rfl⟩
    cases addr with
    | v4 addr => exact Or.inl (ListenGrammar.ipv4 hhost hport)
    | v6 addr => exact Or.inr (Misread.bareIpv6 hhost hstart hport)

theorem accepts_bracketed {raw : String} {host port : List Char} {addr : IpAddr}
    {parsed : UInt16} (htext : raw.toList = '[' :: host ++ ']' :: ':' :: port)
    (hhost : IpAddr.fromStr (String.ofList host) = some addr)
    (hport : parsePort (String.ofList port) = .ok parsed) :
    parseHttpListen raw = some (.ok ⟨String.ofList host, parsed⟩) := by
  have hclosing : ']' ∉ '[' :: host := by
    rw [List.mem_cons, not_or]
    exact ⟨by decide, notMem_of_fromStr hhost (by decide)⟩
  rw [parseHttpListen_bracketed htext]
  show parseBracketed ('[' :: host ++ ']' :: ':' :: port) = _
  rw [parseBracketed_eq hclosing]
  exact congrArg some (listenAt_eq_ok.mpr ⟨addr, parsed, hhost, hport, rfl⟩)

/-- The head of a text that starts with an address. -/
theorem head_append_of_fromStr {host : List Char} {addr : IpAddr}
    (hhost : IpAddr.fromStr (String.ofList host) = some addr) (rest : List Char) :
    (host ++ rest).head? = host.head? := by
  cases host with
  | nil => exact absurd rfl (ne_nil_of_fromStr hhost)
  | cons c host => rfl

theorem opening_of_fromStr {host : List Char} {addr : IpAddr}
    (hhost : IpAddr.fromStr (String.ofList host) = some addr) (rest : List Char) :
    (host ++ rest).head? ≠ some '[' := by
  rw [head_append_of_fromStr hhost]
  intro hopening
  exact notMem_of_fromStr hhost (by decide) (List.mem_of_head? hopening)

theorem accepts_plain {raw : String} {host port : List Char} {addr : IpAddr}
    {parsed : UInt16} (htext : raw.toList = host ++ ':' :: port)
    (hhost : IpAddr.fromStr (String.ofList host) = some addr)
    (hstart : host.head? ≠ some ':') (hport : parsePort (String.ofList port) = .ok parsed) :
    parseHttpListen raw = some (.ok ⟨String.ofList host, parsed⟩) := by
  have hcolon : raw.toList.head? ≠ some ':' := by
    rw [htext, head_append_of_fromStr hhost]
    exact hstart
  have hbracket : raw.toList.head? ≠ some '[' := by
    rw [htext]
    exact opening_of_fromStr hhost _
  have hempty : raw.toList ≠ [] := by
    rw [htext]
    exact List.append_ne_nil_of_right_ne_nil _ (List.cons_ne_nil _ _)
  rw [parseHttpListen_plain hempty hcolon hbracket, htext,
    parseAtLastColon_eq (ne_nil_of_fromStr hhost) (colon_notMem_of_parsePort hport)]
  exact congrArg some (listenAt_eq_ok.mpr ⟨addr, parsed, hhost, hport, rfl⟩)

theorem grammar_accepted {raw : String} {listen : HttpListen}
    (h : ListenGrammar raw.toList listen) : parseHttpListen raw = some (.ok listen) := by
  generalize htext : raw.toList = text at h
  cases h with
  | loopback hport =>
      rw [parseHttpListen_loopback htext, hport]
      rfl
  | ipv4 hhost hport => exact accepts_plain htext hhost (head_of_fromStr_v4 hhost) hport
  | ipv6 hhost hport => exact accepts_bracketed htext hhost hport

/-!
# Where the grammar is met
-/

/-- What is in brackets is an IPv6 address. -/
theorem ListenGrammar.host_v6 {text : List Char} {listen : HttpListen}
    (h : ListenGrammar text listen) (hopening : text.head? = some '[') :
    exists addr, IpAddr.fromStr listen.host = some (.v6 addr) := by
  cases h with
  | loopback hport => cases hopening
  | ipv4 hhost hport =>
      exact absurd hopening (opening_of_fromStr hhost _)
  | ipv6 hhost hport => exact ⟨_, hhost⟩

theorem ListenGrammar.host_v4 {text : List Char} {listen : HttpListen}
    (h : ListenGrammar text listen) (hopening : text.head? ≠ some '[') :
    exists addr, IpAddr.fromStr listen.host = some (.v4 addr) := by
  cases h with
  | loopback hport =>
      have hloopback : IpAddr.fromStr "127.0.0.1" = some (.v4 ⟨127, 0, 0, 1⟩) := by decide
      exact ⟨_, hloopback⟩
  | ipv4 hhost hport => exact ⟨_, hhost⟩
  | ipv6 hhost hport => exact absurd rfl hopening

theorem misread_accepted {raw : String} (h : Misread raw.toList) :
    exists listen, parseHttpListen raw = some (.ok listen) ∧
      ¬ ListenGrammar raw.toList listen := by
  generalize htext : raw.toList = text at h
  cases h with
  | bracketedIpv4 hhost hport =>
      refine ⟨_, accepts_bracketed htext hhost hport, ?_⟩
      intro hgrammar
      rcases hgrammar.host_v6 rfl with ⟨addr, hv6⟩
      rw [hhost] at hv6
      cases hv6
  | bareIpv6 hhost hstart hport =>
      refine ⟨_, accepts_plain htext hhost hstart hport, ?_⟩
      intro hgrammar
      rcases hgrammar.host_v4 (opening_of_fromStr hhost _) with ⟨addr, hv4⟩
      rw [hhost] at hv4
      cases hv4

/-- A text of the grammar is no IPv6 literal as a whole. -/
theorem ListenGrammar.not_ipv6 {text : List Char} {listen : HttpListen}
    (h : ListenGrammar text listen) (addr : Ipv6Addr) :
    IpAddr.fromStr (String.ofList text) ≠ some (.v6 addr) := by
  intro hliteral
  cases h with
  | loopback hport =>
      rcases readIpv6Addr_colon (fromStr_eq_v6.mp hliteral).2 with ⟨after, hafter⟩
      apply colon_notMem_of_parsePort hport
      rw [hafter]
      exact List.mem_cons_self
  | ipv4 hhost hport =>
      rw [fromStr_append_colon hhost] at hliteral
      cases hliteral
  | ipv6 hhost hport =>
      exact notMem_of_fromStr hliteral (by decide : ¬ LiteralChar '[') List.mem_cons_self

/-- The documented grammar is what is accepted of this text, and an IPv6 literal is not. -/
def MeetsGrammar (raw : String) : Prop :=
  (forall listen, parseHttpListen raw = some (.ok listen) <-> ListenGrammar raw.toList listen) ∧
    ((exists addr, IpAddr.fromStr raw = some (.v6 addr)) ->
      forall listen, parseHttpListen raw ≠ some (.ok listen))

theorem meetsGrammar_iff (raw : String) : MeetsGrammar raw <-> ¬ Misread raw.toList := by
  constructor
  · intro hmeets hmisread
    rcases misread_accepted hmisread with ⟨listen, haccepted, houtside⟩
    exact houtside ((hmeets.1 listen).mp haccepted)
  · intro hmisread
    have hgrammar : forall listen, parseHttpListen raw = some (.ok listen) ->
        ListenGrammar raw.toList listen := by
      intro listen haccepted
      exact (accepted_cases haccepted).resolve_right hmisread
    refine ⟨fun listen => ⟨hgrammar listen, grammar_accepted⟩, ?_⟩
    rintro ⟨addr, hliteral⟩ listen haccepted
    apply (hgrammar listen haccepted).not_ipv6 addr
    rwa [String.ofList_toList]

/-- `SocketAddr::to_string` of an address without a scope. -/
def socketAddrText (ip : IpAddr) (port : UInt16) : String :=
  let digits := Nat.toDigits 10 port.toNat
  match ip with
  | .v4 addr => String.ofList (addr.toText ++ ':' :: digits)
  | .v6 addr => String.ofList ('[' :: addr.toText ++ ']' :: ':' :: digits)

theorem parseHttpListen_socketAddrText (ip : IpAddr) {port : UInt16} (hport : port ≠ 0) :
    parseHttpListen (socketAddrText ip port) = some (.ok ⟨ip.toString, port⟩) := by
  have hread := parsePort_toDigits hport
  cases ip with
  | v4 addr =>
      have hhost : IpAddr.fromStr (String.ofList addr.toText) = some (.v4 addr) :=
        fromStr_toString (.v4 addr)
      exact accepts_plain String.toList_ofList hhost (head_of_fromStr_v4 hhost) hread
  | v6 addr =>
      have hhost : IpAddr.fromStr (String.ofList addr.toText) = some (.v6 addr) :=
        fromStr_toString (.v6 addr)
      exact accepts_bracketed String.toList_ofList hhost hread

/-- The parser never panics, meets the grammar exactly where the text is of neither misread
form, and reads every socket address back. -/
theorem parse_http_listen_grammar_iff (raw : String) (ip : IpAddr) (port : UInt16)
    (hport : port ≠ 0) :
    (exists result, parseHttpListen raw = some result) ∧
      (MeetsGrammar raw <-> ¬ Misread raw.toList) ∧
      parseHttpListen (socketAddrText ip port) = some (.ok ⟨ip.toString, port⟩) ∧
      IpAddr.fromStr ip.toString = some ip :=
  ⟨parseHttpListen_total raw, meetsGrammar_iff raw, parseHttpListen_socketAddrText ip hport,
    fromStr_toString ip⟩

theorem bracketed_loopback_not_misread : ¬ Misread "[::1]:8082".toList := by
  intro hmisread
  have hhost : IpAddr.fromStr (String.ofList "::1".toList) =
      some (.v6 ⟨0, 0, 0, 0, 0, 0, 0, 1⟩) := by decide
  have hport : parsePort (String.ofList "8082".toList) = .ok 8082 := by decide
  have hgrammar : ListenGrammar "[::1]:8082".toList ⟨"::1", 8082⟩ :=
    ListenGrammar.ipv6 hhost hport
  rcases misread_accepted hmisread with ⟨listen, haccepted, houtside⟩
  rw [grammar_accepted hgrammar] at haccepted
  cases haccepted
  exact houtside hgrammar

theorem parse_http_listen_grammar_loopback :
    MeetsGrammar "[::1]:8082" ∧ parseHttpListen "[::1]:8082" = some (.ok ⟨"::1", 8082⟩) := by
  have h := parse_http_listen_grammar_iff "[::1]:8082" (.v6 ⟨0, 0, 0, 0, 0, 0, 0, 1⟩) 8082
    (by decide)
  exact ⟨h.2.1.mpr bracketed_loopback_not_misread, h.2.2.1⟩

/-- An IPv6 literal that is taken for an address and a port, and an IPv4 literal that is
taken in brackets. -/
theorem parse_http_listen_misread :
    IpAddr.fromStr "1::2:80" = some (.v6 ⟨1, 0, 0, 0, 0, 0, 2, 128⟩) ∧
      parseHttpListen "1::2:80" = some (.ok ⟨"1::2", 80⟩) ∧ ¬ MeetsGrammar "1::2:80" ∧
      parseHttpListen "[127.0.0.1]:80" = some (.ok ⟨"127.0.0.1", 80⟩) ∧
      ¬ MeetsGrammar "[127.0.0.1]:80" := by
  have hport : parsePort (String.ofList "80".toList) = .ok 80 := by decide
  have hbare : IpAddr.fromStr (String.ofList "1::2".toList) =
      some (.v6 ⟨1, 0, 0, 0, 0, 0, 0, 2⟩) := by decide
  have hquad : IpAddr.fromStr (String.ofList "127.0.0.1".toList) =
      some (.v4 ⟨127, 0, 0, 1⟩) := by decide
  have hstart : "1::2".toList.head? ≠ some ':' := by decide
  have hbareMisread : Misread "1::2:80".toList := Misread.bareIpv6 hbare hstart hport
  have hquadMisread : Misread "[127.0.0.1]:80".toList := Misread.bracketedIpv4 hquad hport
  refine ⟨by decide, accepts_plain rfl hbare hstart hport, ?_, accepts_bracketed rfl hquad hport,
    ?_⟩
  · rw [meetsGrammar_iff]
    exact not_not_intro hbareMisread
  · rw [meetsGrammar_iff]
    exact not_not_intro hquadMisread

end Config
end Relayd
