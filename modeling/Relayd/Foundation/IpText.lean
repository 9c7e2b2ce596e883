import Relayd.Foundation.IpLiteral

/-!
# Addresses read back

Printing an address and reading the text gives the address again.  A number is read up to
the first character that is not one of its digits; the groups of an IPv6 address are read
up to the double colon or the end; and the zero groups the printer leaves out are the ones
the reader puts back.
-/

namespace Relayd
namespace Foundation

/-!
# Numbers
-/

/-- The rest does not go on with another digit. -/
def Stops (radix : Nat) (rest : List Char) : Prop :=
  forall c, rest.head? = some c -> toDigit radix c = none

theorem stops_nil (radix : Nat) : Stops radix [] := by
  intro c h
  cases h

theorem stops_cons {radix : Nat} {c : Char} (rest : List Char)
    (h : toDigit radix c = none) : Stops radix (c :: rest) := by
  intro other hother
  cases hother
  exact h

/-- The characters the printer writes are digits of the radix. -/
def Writes (radix : Nat) : Prop :=
  forall digit, digit < radix -> toDigit radix (Nat.digitChar digit) = some digit

theorem writes_ten : Writes 10 := by
  intro digit h
  have hall : forall digit : Fin 10,
      toDigit 10 (Nat.digitChar digit) = some digit.val := by decide
  exact hall ⟨digit, h⟩

theorem writes_sixteen : Writes 16 := by
  intro digit h
  have hall : forall digit : Fin 16,
      toDigit 16 (Nat.digitChar digit) = some digit.val := by decide
  exact hall ⟨digit, h⟩

/-- The printed number, digit by digit; only zero starts with the digit zero. -/
theorem exists_digits {radix : Nat} (hradix : 1 < radix) (n : Nat) :
    exists digits : List Nat, Nat.toDigits radix n = digits.map Nat.digitChar ∧
      (forall digit, digit ∈ digits -> digit < radix) ∧
      digits.foldl (fun acc digit => acc * radix + digit) 0 = n ∧
      (digits.head? = some 0 -> n = 0) := by
  induction n using Nat.strongRecOn with
  | ind n ih =>
      by_cases hsmall : n < radix
      · refine ⟨[n], Nat.toDigits_of_lt_base hsmall, ?_, ?_, ?_⟩
        · simpa using hsmall
        · simp
        · simp
      · have hbase : radix ≤ n := Nat.le_of_not_lt hsmall
        have hquotient : n / radix < n :=
          Nat.div_lt_self (Nat.lt_of_lt_of_le (Nat.zero_lt_of_lt hradix) hbase) hradix
        rcases ih (n / radix) hquotient with ⟨digits, htext, hall, hvalue, hzero⟩
        refine ⟨digits ++ [n % radix], ?_, ?_, ?_, ?_⟩
        · rw [Nat.toDigits_of_base_le hradix hbase, htext, List.map_append]
          rfl
        · intro digit hdigit
          rcases List.mem_append.mp hdigit with hdigit | hdigit
          · exact hall digit hdigit
          · rw [List.mem_singleton.mp hdigit]
            exact Nat.mod_lt n (Nat.zero_lt_of_lt hradix)
        · rw [List.foldl_append, hvalue]
          exact Nat.div_add_mod' n radix
        · intro hhead
          cases digits with
          | nil => exact absurd htext Nat.toDigits_ne_nil
          | cons digit digits =>
              have hquotientZero : n / radix = 0 := hzero hhead
              have hpos : 0 < n / radix := Nat.div_pos hbase (Nat.zero_lt_of_lt hradix)
              lia

theorem readDigits_map {radix : Nat} (hwrites : Writes radix) {digits : List Nat}
    (hall : forall digit, digit ∈ digits -> digit < radix) {rest : List Char}
    (hstops : Stops radix rest) :
    readDigits radix (digits.map Nat.digitChar ++ rest) = (digits, rest) := by
  induction digits with
  | nil =>
      cases rest with
      | nil => rfl
      | cons c rest =>
          show readDigits radix (c :: rest) = _
          rw [readDigits, hstops c rfl]
  | cons digit digits ih =>
      have hdigit := hwrites digit (hall digit List.mem_cons_self)
      have hrest := ih (fun other hother => hall other (List.mem_cons_of_mem _ hother))
      rw [List.map_cons, List.cons_append, readDigits, hdigit]
      simp only [hrest]

theorem readNumber_toDigits {radix maxDigits bound n : Nat} {allowZeroPrefix : Bool}
    {rest : List Char} (hradix : 1 < radix) (hwrites : Writes radix) (hbound : n < bound)
    (hdigits : 0 < maxDigits) (hlength : n < radix ^ maxDigits) (hstops : Stops radix rest) :
    readNumber radix maxDigits bound allowZeroPrefix (Nat.toDigits radix n ++ rest) =
      some (n, rest) := by
  rcases exists_digits hradix n with ⟨digits, htext, hall, hvalue, hzero⟩
  have hlong : digits.length ≤ maxDigits := by
    have h := (Nat.length_toDigits_le_iff hradix hdigits).mpr hlength
    rwa [htext, List.length_map] at h
  have hpos : digits.length ≠ 0 := by
    intro h
    rw [List.length_eq_zero_iff.mp h] at htext
    exact Nat.toDigits_ne_nil htext
  have hnoZero : digits.head? = some 0 -> ¬ digits.length > 1 := by
    intro hhead
    rw [hzero hhead, Nat.toDigits_zero] at htext
    have h := congrArg List.length htext
    rw [List.length_map] at h
    rw [<- h]
    decide
  unfold readNumber
  rw [htext, readDigits_map hwrites hall hstops]
  simp only [hvalue, if_neg (Nat.not_lt.mpr hlong), if_neg hpos, if_pos hbound]
  split
  · next h =>
    simp only [Bool.and_eq_true, beq_iff_eq, decide_eq_true_eq] at h
    exact absurd h.2 (hnoZero h.1.2)
  · rfl

theorem readDigits_suffix (radix : Nat) (input : List Char) :
    (readDigits radix input).2 <:+ input := by
  induction input with
  | nil => exact List.suffix_rfl
  | cons c rest ih =>
      rw [readDigits]
      split
      · exact List.suffix_rfl
      · exact ih.trans (List.suffix_cons c rest)

/-- A number is what its digits are, read to where they stop. -/
theorem readNumber_unread {radix maxDigits bound n : Nat} {allowZeroPrefix : Bool}
    {input unread : List Char}
    (h : readNumber radix maxDigits bound allowZeroPrefix input = some (n, unread)) :
    (readDigits radix input).2 = unread := by
  unfold readNumber at h
  simp only at h
  split at h
  · cases h
  · split at h
    · cases h
    · split at h
      · cases h
      · split at h
        · cases h
          rfl
        · cases h

theorem readNumber_suffix {radix maxDigits bound n : Nat} {allowZeroPrefix : Bool}
    {input unread : List Char}
    (h : readNumber radix maxDigits bound allowZeroPrefix input = some (n, unread)) :
    unread <:+ input := by
  rw [<- readNumber_unread h]
  exact readDigits_suffix radix input

/-!
# IPv4
-/

theorem readOctet (octet : UInt8) {rest : List Char} (hstops : Stops 10 rest) :
    readNumber 10 3 256 false (Nat.toDigits 10 octet.toNat ++ rest) =
      some (octet.toNat, rest) := by
  have hlt : octet.toNat < 256 := octet.toNat_lt
  exact readNumber_toDigits (by decide) writes_ten hlt (by decide) (by lia) hstops

theorem stops_dot (rest : List Char) : Stops 10 ('.' :: rest) :=
  stops_cons rest (by decide)

theorem readIpv4Addr_toText (addr : Ipv4Addr) {rest : List Char} (hstops : Stops 10 rest) :
    readIpv4Addr (addr.toText ++ rest) = some (addr, rest) := by
  unfold readIpv4Addr Ipv4Addr.toText
  simp only [List.append_assoc, List.cons_append]
  rw [readOctet addr.a (stops_dot _)]
  simp only [Option.bind_eq_bind, Option.bind_some, readGivenChar, if_true]
  rw [readOctet addr.b (stops_dot _)]
  simp only [Option.bind_some, if_true]
  rw [readOctet addr.c (stops_dot _)]
  simp only [Option.bind_some, if_true]
  rw [readOctet addr.d hstops]
  simp

/-- A text without a dot has no dotted quad at its front. -/
theorem readIpv4Addr_eq_none {input : List Char} (h : '.' ∉ input) :
    readIpv4Addr input = none := by
  unfold readIpv4Addr
  cases hnumber : readNumber 10 3 256 false input with
  | none => rfl
  | some read =>
      rcases read with ⟨n, unread⟩
      have hsuffix := readNumber_suffix hnumber
      have hdot : readGivenChar '.' unread = none := by
        cases unread with
        | nil => rfl
        | cons c rest =>
            have hne : c ≠ '.' := by
              intro hc
              apply h
              rw [<- hc]
              exact hsuffix.subset List.mem_cons_self
            simp [readGivenChar, hne]
      simp [hdot]

/-!
# IPv6 groups
-/

/-- Groups that follow another one. -/
def colonText (segments : List UInt16) : List Char :=
  segments.flatMap (fun segment => ':' :: Nat.toDigits 16 segment.toNat)

theorem groupsText_cons (segment : UInt16) (segments : List UInt16) :
    groupsText (segment :: segments) =
      Nat.toDigits 16 segment.toNat ++ colonText segments := by
  induction segments generalizing segment with
  | nil => simp [groupsText, colonText]
  | cons next rest ih =>
      rw [groupsText, ih next]
      · simp [colonText]
      · intro h
        cases h

/-- The groups from a position on, as they are printed there. -/
def groupsTextFrom (index : Nat) (segments : List UInt16) : List Char :=
  if index = 0 then groupsText segments else colonText segments

theorem dot_notMem_toDigits (n : Nat) : '.' ∉ Nat.toDigits 16 n := by
  rcases exists_digits (by decide : 1 < 16) n with ⟨digits, htext, hall, _, _⟩
  rw [htext]
  intro hmem
  rcases List.mem_map.mp hmem with ⟨digit, hdigit, hdot⟩
  have hread := writes_sixteen digit (hall digit hdigit)
  rw [hdot] at hread
  have hnone : toDigit 16 '.' = none := by decide
  rw [hnone] at hread
  cases hread

theorem dot_notMem_colonText (segments : List UInt16) : '.' ∉ colonText segments := by
  intro hmem
  rcases List.mem_flatMap.mp hmem with ⟨segment, _, hdot⟩
  rcases List.mem_cons.mp hdot with hcolon | hdigits
  · exact absurd hcolon (by decide)
  · exact dot_notMem_toDigits _ hdigits

theorem dot_notMem_groupsText (segments : List UInt16) : '.' ∉ groupsText segments := by
  cases segments with
  | nil => exact List.not_mem_nil
  | cons segment segments =>
      rw [groupsText_cons, List.mem_append]
      intro hmem
      rcases hmem with hdigits | hrest
      · exact dot_notMem_toDigits _ hdigits
      · exact dot_notMem_colonText _ hrest

/-- What a run of groups is followed by: nothing, or a double colon. -/
inductive Ends : List Char -> Prop where
  | done : Ends []
  | compressed (rest : List Char) (hdot : '.' ∉ rest) : Ends (':' :: ':' :: rest)

theorem Ends.dot_notMem {rest : List Char} (h : Ends rest) : '.' ∉ rest := by
  cases h with
  | done => exact List.not_mem_nil
  | compressed rest hdot =>
      intro hmem
      simp only [List.mem_cons] at hmem
      rcases hmem with h | h | h
      · exact absurd h (by decide)
      · exact absurd h (by decide)
      · exact hdot h

theorem stops_colonText (segments : List UInt16) {rest : List Char} (h : Ends rest) :
    Stops 16 (colonText segments ++ rest) := by
  have hcolon : toDigit 16 ':' = none := by decide
  cases segments with
  | nil =>
      cases h with
      | done => exact stops_nil 16
      | compressed rest _ => exact stops_cons _ hcolon
  | cons segment segments => exact stops_cons _ hcolon

theorem readNumber_colon (rest : List Char) :
    readNumber 16 4 65536 true (':' :: rest) = none := by
  have hcolon : toDigit 16 ':' = none := by decide
  simp [readNumber, readDigits, hcolon]

theorem readSegment (segment : UInt16) {rest : List Char} (hstops : Stops 16 rest) :
    readNumber 16 4 65536 true (Nat.toDigits 16 segment.toNat ++ rest) =
      some (segment.toNat, rest) := by
  have hlt : segment.toNat < 65536 := segment.toNat_lt
  exact readNumber_toDigits (by decide) writes_sixteen hlt (by decide) (by lia) hstops

theorem readSeparator_suffix {index : Nat} {input unread : List Char}
    (h : readSeparator ':' index input = some unread) : unread <:+ input := by
  unfold readSeparator at h
  split at h
  · cases input with
    | nil => cases h
    | cons c rest =>
        simp only [readGivenChar] at h
        split at h
        · cases h
          exact List.suffix_cons c _
        · cases h
  · cases h
    exact List.suffix_rfl

theorem embedded_eq_none {index : Nat} {input : List Char} (h : '.' ∉ input) :
    (readSeparator ':' index input).bind readIpv4Addr = none := by
  cases hread : readSeparator ':' index input with
  | none => rfl
  | some unread =>
      apply readIpv4Addr_eq_none
      intro hdot
      exact h ((readSeparator_suffix hread).subset hdot)

/-- Where the groups end no further one is read. -/
theorem readGroups_ends (limit index : Nat) {rest : List Char} (h : Ends rest) :
    readGroups limit index rest = ([], false, rest) := by
  cases limit with
  | zero => rfl
  | succ remaining =>
      have hnumber : (readSeparator ':' index rest).bind (readNumber 16 4 65536 true) =
          none := by
        unfold readSeparator
        cases h with
        | done =>
            split
            · rfl
            · decide
        | compressed rest _ =>
            split
            · simp only [readGivenChar, if_true, Option.bind_some]
              exact readNumber_colon rest
            · exact readNumber_colon (':' :: rest)
      rw [readGroups]
      simp only [embedded_eq_none h.dot_notMem, ite_self, hnumber]

theorem readGroups_text {segments : List UInt16} {limit : Nat} (index : Nat)
    {rest : List Char} (hlimit : segments.length ≤ limit) (hends : Ends rest) :
    readGroups limit index (groupsTextFrom index segments ++ rest) =
      (segments, false, rest) := by
  induction segments generalizing limit index with
  | nil =>
      have hnil : groupsTextFrom index [] = [] := by
        unfold groupsTextFrom
        split <;> rfl
      rw [hnil]
      exact readGroups_ends limit index hends
  | cons segment segments ih =>
      cases limit with
      | zero => cases hlimit
      | succ remaining =>
          have hdot : '.' ∉ groupsTextFrom index (segment :: segments) ++ rest := by
            rw [List.mem_append]
            intro hmem
            rcases hmem with hmem | hmem
            · unfold groupsTextFrom at hmem
              split at hmem
              · exact dot_notMem_groupsText _ hmem
              · exact dot_notMem_colonText _ hmem
            · exact hends.dot_notMem hmem
          have hseparated : readSeparator ':' index
              (groupsTextFrom index (segment :: segments) ++ rest) =
                some (Nat.toDigits 16 segment.toNat ++ (colonText segments ++ rest)) := by
            unfold readSeparator groupsTextFrom
            by_cases hindex : index = 0
            · rw [if_neg (by lia), if_pos hindex, groupsText_cons, List.append_assoc]
            · rw [if_pos (by lia), if_neg hindex]
              simp [colonText, readGivenChar]
          have hnumber : (readSeparator ':' index
              (groupsTextFrom index (segment :: segments) ++ rest)).bind
                (readNumber 16 4 65536 true) =
              some (segment.toNat, colonText segments ++ rest) := by
            rw [hseparated, Option.bind_some]
            exact readSegment segment (stops_colonText segments hends)
          have hrest : readGroups remaining (index + 1) (colonText segments ++ rest) =
              (segments, false, rest) := ih (index + 1) (Nat.le_of_succ_le_succ hlimit)
          rw [readGroups]
          simp only [embedded_eq_none hdot, ite_self, hnumber, hrest, UInt16.ofNat_toNat]

/-!
# The compressed run
-/

/-- The groups under a span are zero. -/
def ZeroAt (segments : List UInt16) (span : ZeroSpan) : Prop :=
  exists before after, segments = before ++ List.replicate span.len 0 ++ after ∧
    before.length = span.start

theorem ZeroAt.split {segments : List UInt16} {span : ZeroSpan} (h : ZeroAt segments span) :
    segments = segments.take span.start ++ List.replicate span.len 0 ++
      segments.drop (span.start + span.len) := by
  rcases h with ⟨before, after, hsegments, hstart⟩
  have htake : segments.take span.start = before := by
    rw [hsegments, <- hstart, List.append_assoc, List.take_left]
  have hdrop : segments.drop (span.start + span.len) = after := by
    have hlength : (before ++ List.replicate span.len (0 : UInt16)).length =
        span.start + span.len := by
      rw [List.length_append, List.length_replicate, hstart]
    rw [hsegments, <- hlength, List.drop_left]
  rw [htake, hdrop]
  exact hsegments

/-- The run that is being counted ends where the scan has come to. -/
def CountsTo (passed : List UInt16) (current : ZeroSpan) : Prop :=
  current.len = 0 ∨ exists before, passed = before ++ List.replicate current.len 0 ∧
    before.length = current.start

theorem longestZeroSpan_zeroAt {passed segments : List UInt16} {current longest : ZeroSpan}
    (hcurrent : CountsTo passed current)
    (hlongest : longest.len = 0 ∨ ZeroAt (passed ++ segments) longest) :
    (longestZeroSpan passed.length current longest segments).len = 0 ∨
      ZeroAt (passed ++ segments)
        (longestZeroSpan passed.length current longest segments) := by
  induction segments generalizing passed current longest with
  | nil => exact hlongest
  | cons segment segments ih =>
      have hlength : (passed ++ [segment]).length = passed.length + 1 := by simp
      have happend : passed ++ segment :: segments = passed ++ [segment] ++ segments := by simp
      rw [longestZeroSpan, happend]
      rw [happend] at hlongest
      by_cases hzero : segment = 0
      · subst hzero
        simp only [if_true]
        have hgrown : exists before, passed ++ [0] =
            before ++ List.replicate (current.len + 1) 0 ∧
              before.length = if current.len = 0 then passed.length else current.start := by
          by_cases hempty : current.len = 0
          · exact ⟨passed, by rw [hempty]; rfl, by rw [if_pos hempty]⟩
          · rcases hcurrent with hnone | ⟨before, hpassed, hbefore⟩
            · exact absurd hnone hempty
            · refine ⟨before, ?_, by rw [if_neg hempty, hbefore]⟩
              rw [hpassed, List.append_assoc, <- List.replicate_succ']
        rw [<- hlength]
        apply ih (Or.inr hgrown)
        split
        · rcases hgrown with ⟨before, hpassed, hbefore⟩
          exact Or.inr ⟨before, segments, by rw [hpassed], hbefore⟩
        · exact hlongest
      · rw [if_neg hzero, <- hlength]
        exact ih (Or.inl rfl) hlongest

theorem zeroAt_longestZeroSpan (segments : List UInt16)
    (h : 1 < (longestZeroSpan 0 ⟨0, 0⟩ ⟨0, 0⟩ segments).len) :
    ZeroAt segments (longestZeroSpan 0 ⟨0, 0⟩ ⟨0, 0⟩ segments) := by
  have hcurrent : CountsTo [] (⟨0, 0⟩ : ZeroSpan) := Or.inl rfl
  have hlongest : (⟨0, 0⟩ : ZeroSpan).len = 0 ∨ ZeroAt ([] ++ segments) ⟨0, 0⟩ := Or.inl rfl
  rcases longestZeroSpan_zeroAt hcurrent hlongest with hnone | hzero
  · have hlen : (longestZeroSpan 0 ⟨0, 0⟩ ⟨0, 0⟩ segments).len = 0 := hnone
    lia
  · exact hzero

/-!
# IPv6
-/

theorem length_segments (addr : Ipv6Addr) : addr.segments.length = 8 := rfl

theorem ofSegments_segments (addr : Ipv6Addr) : Ipv6Addr.ofSegments addr.segments = some addr :=
  rfl

/-- All eight groups are written out. -/
theorem readIpv6Addr_full (addr : Ipv6Addr) :
    readIpv6Addr (groupsText addr.segments) = some (addr, []) := by
  have hread : readGroups 8 0 (groupsText addr.segments) = (addr.segments, false, []) := by
    have h := readGroups_text 0 (Nat.le_of_eq (length_segments addr)) Ends.done
    rwa [List.append_nil] at h
  unfold readIpv6Addr
  simp only [hread, length_segments, if_true, ofSegments_segments]
  rfl

/-- What a double colon stands for is what is missing of the eight groups. -/
theorem readIpv6Addr_doubleColon {input rest unread : List Char} {head tail : List UInt16}
    {quad : Bool} (hhead : readGroups 8 0 input = (head, false, ':' :: ':' :: rest))
    (hshort : head.length ≠ 8)
    (htail : readGroups (8 - (head.length + 1)) 0 rest = (tail, quad, unread)) :
    readIpv6Addr input =
      (Ipv6Addr.ofSegments
        (head ++ List.replicate (8 - head.length - tail.length) 0 ++ tail)).bind
        (fun addr => some (addr, unread)) := by
  unfold readIpv6Addr
  simp only [hhead, if_neg hshort, readGivenChar, if_true, Option.bind_eq_bind,
    Option.bind_some, htail]
  rfl

/-- A run of at least two zero groups is left out. -/
theorem readIpv6Addr_compressed {addr : Ipv6Addr} {before after : List UInt16} {len : Nat}
    (hsegments : addr.segments = before ++ List.replicate len 0 ++ after) (hlen : 1 < len) :
    readIpv6Addr (groupsText before ++ "::".toList ++ groupsText after) = some (addr, []) := by
  have hlength : before.length + len + after.length = 8 := by
    have h := congrArg List.length hsegments
    rw [length_segments, List.length_append, List.length_append, List.length_replicate] at h
    exact h.symm
  have hhead : readGroups 8 0 (groupsText before ++ "::".toList ++ groupsText after) =
      (before, false, ':' :: ':' :: groupsText after) := by
    rw [List.append_assoc]
    exact readGroups_text 0 (by lia)
      (Ends.compressed (groupsText after) (dot_notMem_groupsText after))
  have htail : readGroups (8 - (before.length + 1)) 0 (groupsText after) =
      (after, false, []) := by
    have h : readGroups (8 - (before.length + 1)) 0 (groupsTextFrom 0 after ++ []) =
        (after, false, []) := readGroups_text 0 (by lia) Ends.done
    rwa [List.append_nil] at h
  have hzeroes : 8 - before.length - after.length = len := by lia
  rw [readIpv6Addr_doubleColon hhead (by lia) htail, hzeroes, <- hsegments,
    ofSegments_segments]
  rfl

theorem readIpv4Addr_colon (rest : List Char) : readIpv4Addr (':' :: rest) = none := by
  have hcolon : toDigit 10 ':' = none := by decide
  simp [readIpv4Addr, readNumber, readDigits, hcolon]

/-- No group starts with a colon. -/
theorem readGroups_colon (rest : List Char) :
    readGroups 8 0 (':' :: rest) = ([], false, ':' :: rest) := by
  rw [readGroups]
  simp only [readSeparator, gt_iff_lt, Nat.lt_irrefl, if_false, Option.bind_some,
    readIpv4Addr_colon, readNumber_colon, ite_self]

theorem rejoin_bytes (segment : UInt16) :
    (segment / 256).toUInt8.toUInt16 * 256 + (segment % 256).toUInt8.toUInt16 = segment := by
  apply UInt16.toNat_inj.mp
  have hlt : segment.toNat < 65536 := segment.toNat_lt
  simp only [UInt16.toNat_add, UInt16.toNat_mul, UInt8.toNat_toUInt16, UInt16.toNat_toUInt8,
    UInt16.toNat_div, UInt16.toNat_mod, UInt16.reduceToNat]
  lia

theorem groups_of_toIpv4Mapped {addr : Ipv6Addr} {mapped : Ipv4Addr}
    (h : addr.toIpv4Mapped = some mapped) :
    addr.segments = [0, 0, 0, 0, 0, 65535] ++ mapped.groups := by
  unfold Ipv6Addr.toIpv4Mapped at h
  split at h
  · next high low hsegments =>
    cases h
    rw [hsegments]
    simp only [Ipv4Addr.groups, rejoin_bytes]
    rfl
  · cases h

theorem readIpv6Addr_mapped {addr : Ipv6Addr} {mapped : Ipv4Addr}
    (h : addr.toIpv4Mapped = some mapped) :
    readIpv6Addr ("::ffff:".toList ++ mapped.toText) = some (addr, []) := by
  have hquad : readIpv4Addr mapped.toText = some (mapped, []) := by
    have hread := readIpv4Addr_toText mapped (stops_nil 10)
    rwa [List.append_nil] at hread
  have hsegments : List.replicate 5 0 ++ (65535 :: mapped.groups) = addr.segments :=
    (groups_of_toIpv4Mapped h).symm
  have hlast : readGroups 6 1 (':' :: mapped.toText) = (mapped.groups, true, []) := by
    rw [readGroups]
    simp [readSeparator, readGivenChar, hquad]
  have hfirst : readNumber 16 4 65536 true ("ffff".toList ++ ':' :: mapped.toText) =
      some (65535, ':' :: mapped.toText) :=
    readSegment 65535 (stops_cons _ (by decide))
  have hnoQuad : readIpv4Addr ("ffff".toList ++ ':' :: mapped.toText) = none := by
    have hf : toDigit 10 'f' = none := by decide
    simp [readIpv4Addr, readNumber, readDigits, hf]
  have htail : readGroups 7 0 ("ffff".toList ++ ':' :: mapped.toText) =
      (65535 :: mapped.groups, true, []) := by
    rw [readGroups]
    simp only [readSeparator, gt_iff_lt, Nat.lt_irrefl, if_false, Option.bind_some, hnoQuad,
      hfirst, hlast, ite_self]
    rfl
  have hhead : readGroups 8 0 ("::ffff:".toList ++ mapped.toText) =
      ([], false, "::ffff:".toList ++ mapped.toText) := readGroups_colon _
  have hcolons : "::ffff:".toList ++ mapped.toText =
      ':' :: ':' :: ("ffff".toList ++ ':' :: mapped.toText) := rfl
  rw [hcolons] at hhead ⊢
  rw [readIpv6Addr_doubleColon hhead (by decide) htail]
  have hzeroes : [] ++ List.replicate (8 - ([] : List UInt16).length -
      (65535 :: mapped.groups).length) 0 ++ (65535 :: mapped.groups) = addr.segments :=
    hsegments
  rw [hzeroes, ofSegments_segments]
  rfl

/-- `IpAddr::to_string` is undone by `IpAddr::from_str`. -/
theorem fromStr_toString (addr : IpAddr) : IpAddr.fromStr addr.toString = some addr := by
  cases addr with
  | v4 addr =>
      have hread : readIpv4Addr addr.toText = some (addr, []) := by
        have h := readIpv4Addr_toText addr (stops_nil 10)
        rwa [List.append_nil] at h
      simp [IpAddr.fromStr, IpAddr.toString, readIpAddr, hread]
  | v6 addr =>
      have hread : readIpv4Addr addr.toText = none ∧
          readIpv6Addr addr.toText = some (addr, []) := by
        unfold Ipv6Addr.toText
        cases hmapped : addr.toIpv4Mapped with
        | some mapped => exact ⟨readIpv4Addr_colon _, readIpv6Addr_mapped hmapped⟩
        | none =>
            simp only
            split
            · next hlen =>
              have hsplit := (zeroAt_longestZeroSpan addr.segments hlen).split
              constructor
              · apply readIpv4Addr_eq_none
                simp only [List.mem_append, not_or]
                exact ⟨⟨dot_notMem_groupsText _, by decide⟩, dot_notMem_groupsText _⟩
              · exact readIpv6Addr_compressed hsplit hlen
            · constructor
              · exact readIpv4Addr_eq_none (dot_notMem_groupsText _)
              · exact readIpv6Addr_full addr
      simp [IpAddr.fromStr, IpAddr.toString, readIpAddr, hread.1, hread.2]

end Foundation
end Relayd
