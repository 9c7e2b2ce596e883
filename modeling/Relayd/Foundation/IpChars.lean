import Relayd.Foundation.IpText

/-!
# The characters of a literal

A reader consumes hexadecimal digits, colons and dots and nothing else, and a dotted quad
is read in the same way whatever comes after the character it stops at.
-/

namespace Relayd
namespace Foundation

def LiteralChar (c : Char) : Prop :=
  (toDigit 16 c).isSome ∨ c = ':' ∨ c = '.'

instance (c : Char) : Decidable (LiteralChar c) :=
  inferInstanceAs (Decidable ((toDigit 16 c).isSome ∨ c = ':' ∨ c = '.'))

/-- What lies between the two is made of the characters of a literal. -/
def Consumes (input unread : List Char) : Prop :=
  exists read, input = read ++ unread ∧ forall c, c ∈ read -> LiteralChar c

theorem consumes_refl (input : List Char) : Consumes input input :=
  ⟨[], rfl, fun _ h => absurd h List.not_mem_nil⟩

theorem Consumes.trans {input middle unread : List Char} (h : Consumes input middle)
    (h' : Consumes middle unread) : Consumes input unread := by
  rcases h with ⟨read, hinput, hread⟩
  rcases h' with ⟨read', hmiddle, hread'⟩
  refine ⟨read ++ read', by rw [hinput, hmiddle, List.append_assoc], ?_⟩
  intro c hc
  rcases List.mem_append.mp hc with hc | hc
  · exact hread c hc
  · exact hread' c hc

theorem consumes_cons {c : Char} (hc : LiteralChar c) (rest : List Char) :
    Consumes (c :: rest) rest := by
  refine ⟨[c], rfl, ?_⟩
  intro other hother
  rw [List.mem_singleton.mp hother]
  exact hc

theorem literalChar_of_toDigit {radix : Nat} (hradix : radix <= 16) {c : Char} {digit : Nat}
    (h : toDigit radix c = some digit) : LiteralChar c := by
  apply Or.inl
  unfold toDigit at h ⊢
  rw [Option.filter_eq_some_iff] at h
  have hlt : digit < radix := of_decide_eq_true h.2
  rw [Option.isSome_iff_exists]
  refine ⟨digit, Option.filter_eq_some_iff.mpr ⟨h.1, ?_⟩⟩
  exact decide_eq_true (Nat.lt_of_lt_of_le hlt hradix)

theorem readDigits_consumes {radix : Nat} (hradix : radix <= 16) (input : List Char) :
    Consumes input (readDigits radix input).2 := by
  induction input with
  | nil => exact consumes_refl []
  | cons c rest ih =>
      rw [readDigits]
      split
      · exact consumes_refl _
      · next digit hdigit =>
        exact (consumes_cons (literalChar_of_toDigit hradix hdigit) rest).trans ih

theorem readNumber_consumes {radix maxDigits bound n : Nat} {allowZeroPrefix : Bool}
    {input unread : List Char} (hradix : radix <= 16)
    (h : readNumber radix maxDigits bound allowZeroPrefix input = some (n, unread)) :
    Consumes input unread := by
  rw [<- readNumber_unread h]
  exact readDigits_consumes hradix input

theorem readGivenChar_eq_some {target : Char} {input unread : List Char}
    (h : readGivenChar target input = some unread) : input = target :: unread := by
  cases input with
  | nil => cases h
  | cons c rest =>
      rw [readGivenChar] at h
      split at h
      · next hc =>
        cases h
        rw [hc]
      · cases h

theorem readGivenChar_consumes {target : Char} (htarget : LiteralChar target)
    {input unread : List Char} (h : readGivenChar target input = some unread) :
    Consumes input unread := by
  rw [readGivenChar_eq_some h]
  exact consumes_cons htarget unread

theorem readSeparator_consumes {index : Nat} {input unread : List Char}
    (h : readSeparator ':' index input = some unread) : Consumes input unread := by
  unfold readSeparator at h
  split at h
  · exact readGivenChar_consumes (Or.inr (Or.inl rfl)) h
  · cases h
    exact consumes_refl input

theorem literalChar_dot : LiteralChar '.' := Or.inr (Or.inr rfl)

theorem literalChar_colon : LiteralChar ':' := Or.inr (Or.inl rfl)

theorem readIpv4Addr_consumes {input unread : List Char} {addr : Ipv4Addr}
    (h : readIpv4Addr input = some (addr, unread)) : Consumes input unread := by
  have hten : 10 <= 16 := by decide
  unfold readIpv4Addr at h
  simp only [Option.bind_eq_bind, Option.bind_eq_some_iff] at h
  rcases h with ⟨⟨a, _⟩, ha, _, hdot, ⟨b, _⟩, hb, _, hdot', ⟨c, _⟩, hc, _, hdot'', ⟨d, _⟩,
    hd, h⟩
  cases h
  have hfirst := (readNumber_consumes hten ha).trans
    (readGivenChar_consumes literalChar_dot hdot)
  have hsecond := (readNumber_consumes hten hb).trans
    (readGivenChar_consumes literalChar_dot hdot')
  have hthird := (readNumber_consumes hten hc).trans
    (readGivenChar_consumes literalChar_dot hdot'')
  exact hfirst.trans (hsecond.trans (hthird.trans (readNumber_consumes hten hd)))

theorem readGroups_consumes (limit index : Nat) (input : List Char) :
    Consumes input (readGroups limit index input).2.2 := by
  induction limit generalizing index input with
  | zero => exact consumes_refl input
  | succ remaining ih =>
      rw [readGroups]
      simp only
      split
      · next addr unread hembedded =>
        split at hembedded
        · rcases Option.bind_eq_some_iff.mp hembedded with ⟨separated, hseparated, hquad⟩
          exact (readSeparator_consumes hseparated).trans (readIpv4Addr_consumes hquad)
        · cases hembedded
      · split
        · exact consumes_refl input
        · next value unread hnumber =>
          rcases Option.bind_eq_some_iff.mp hnumber with ⟨separated, hseparated, hread⟩
          exact ((readSeparator_consumes hseparated).trans
            (readNumber_consumes (by decide) hread)).trans (ih (index + 1) unread)

theorem readIpv6Addr_consumes {input unread : List Char} {addr : Ipv6Addr}
    (h : readIpv6Addr input = some (addr, unread)) : Consumes input unread := by
  have hhead := readGroups_consumes 8 0 input
  unfold readIpv6Addr at h
  simp only at h
  split at h
  · simp only [Option.bind_eq_bind, Option.bind_eq_some_iff] at h
    rcases h with ⟨found, _, h⟩
    cases h
    exact hhead
  · split at h
    · cases h
    · simp only [Option.bind_eq_bind, Option.bind_eq_some_iff] at h
      rcases h with ⟨_, hcolon, rest, hcolon', found, _, h⟩
      cases h
      exact (hhead.trans (readGivenChar_consumes literalChar_colon hcolon)).trans
        ((readGivenChar_consumes literalChar_colon hcolon').trans (readGroups_consumes _ 0 rest))

/-!
# Literals
-/

theorem fromStr_eq_some {text : List Char} {addr : IpAddr} :
    IpAddr.fromStr (String.ofList text) = some addr <->
      readIpAddr text = some (addr, []) := by
  unfold IpAddr.fromStr
  rw [String.toList_ofList]
  cases readIpAddr text with
  | none => simp
  | some read =>
      rcases read with ⟨found, unread⟩
      cases unread with
      | nil => simp
      | cons c rest => simp

theorem fromStr_eq_v4 {text : List Char} {addr : Ipv4Addr} :
    IpAddr.fromStr (String.ofList text) = some (.v4 addr) <->
      readIpv4Addr text = some (addr, []) := by
  rw [fromStr_eq_some, readIpAddr]
  cases readIpv4Addr text with
  | some read => simp [Prod.ext_iff]
  | none => simp

theorem fromStr_eq_v6 {text : List Char} {addr : Ipv6Addr} :
    IpAddr.fromStr (String.ofList text) = some (.v6 addr) <->
      readIpv4Addr text = none ∧ readIpv6Addr text = some (addr, []) := by
  rw [fromStr_eq_some, readIpAddr]
  cases readIpv4Addr text with
  | some read => simp
  | none => simp

theorem fromStr_literalChar {text : List Char} {addr : IpAddr}
    (h : IpAddr.fromStr (String.ofList text) = some addr) {c : Char} (hc : c ∈ text) :
    LiteralChar c := by
  have hconsumes : Consumes text [] := by
    cases addr with
    | v4 addr => exact readIpv4Addr_consumes (fromStr_eq_v4.mp h)
    | v6 addr => exact readIpv6Addr_consumes (fromStr_eq_v6.mp h).2
  rcases hconsumes with ⟨read, htext, hread⟩
  rw [List.append_nil] at htext
  rw [htext] at hc
  exact hread c hc

/-!
# Going on with a colon
-/

theorem readDigits_append_colon {radix : Nat} (hstops : toDigit radix ':' = none)
    (input rest : List Char) :
    readDigits radix (input ++ ':' :: rest) =
      ((readDigits radix input).1, (readDigits radix input).2 ++ ':' :: rest) := by
  induction input with
  | nil =>
      show readDigits radix (':' :: rest) = ([], ':' :: rest)
      rw [readDigits, hstops]
  | cons c input ih =>
      rw [List.cons_append, readDigits, readDigits]
      cases toDigit radix c with
      | none => rfl
      | some digit =>
          simp only [ih]

theorem readOctet_append_colon {input unread : List Char} {n : Nat}
    (h : readNumber 10 3 256 false input = some (n, unread)) (rest : List Char) :
    readNumber 10 3 256 false (input ++ ':' :: rest) = some (n, unread ++ ':' :: rest) := by
  have hcolon : toDigit 10 ':' = none := by decide
  have hunread := readNumber_unread h
  unfold readNumber at h ⊢
  simp only [readDigits_append_colon hcolon, hunread] at h ⊢
  split at h
  · cases h
  · next hmax =>
    rw [if_neg hmax]
    split at h
    · cases h
    · next hempty =>
      rw [if_neg hempty]
      split at h
      · cases h
      · next hzero =>
        rw [if_neg hzero]
        split at h
        · next hbound =>
          cases h
          rw [if_pos hbound]
        · cases h

theorem readGivenChar_append {target : Char} {input unread : List Char}
    (h : readGivenChar target input = some unread) (rest : List Char) :
    readGivenChar target (input ++ rest) = some (unread ++ rest) := by
  rw [readGivenChar_eq_some h, List.cons_append, readGivenChar, if_pos rfl]

theorem readIpv4Addr_append_colon {input unread : List Char} {addr : Ipv4Addr}
    (h : readIpv4Addr input = some (addr, unread)) (rest : List Char) :
    readIpv4Addr (input ++ ':' :: rest) = some (addr, unread ++ ':' :: rest) := by
  unfold readIpv4Addr at h ⊢
  simp only [Option.bind_eq_bind, Option.bind_eq_some_iff] at h
  rcases h with ⟨⟨a, _⟩, ha, _, hdot, ⟨b, _⟩, hb, _, hdot', ⟨c, _⟩, hc, _, hdot'', ⟨d, _⟩,
    hd, h⟩
  cases h
  simp only [Option.bind_eq_bind, readOctet_append_colon ha, Option.bind_some,
    readGivenChar_append hdot, readOctet_append_colon hb, readGivenChar_append hdot',
    readOctet_append_colon hc, readGivenChar_append hdot'', readOctet_append_colon hd]

/-- A literal that starts with a colon starts with two. -/
theorem readIpv6Addr_colon {rest unread : List Char} {addr : Ipv6Addr}
    (h : readIpv6Addr (':' :: rest) = some (addr, unread)) :
    exists after, rest = ':' :: after := by
  unfold readIpv6Addr at h
  simp only [readGroups_colon, List.length_nil, if_neg (by decide : ¬ 0 = 8)] at h
  simp only [Bool.false_eq_true, if_false, Option.bind_eq_bind, Option.bind_eq_some_iff] at h
  rcases h with ⟨_, hcolon, after, hcolon', _⟩
  have hrest := List.cons.inj (readGivenChar_eq_some hcolon)
  exact ⟨after, hrest.2.trans (readGivenChar_eq_some hcolon')⟩

/-- A dotted quad with a port after it is no address. -/
theorem fromStr_append_colon {text : List Char} {addr : Ipv4Addr}
    (h : IpAddr.fromStr (String.ofList text) = some (.v4 addr)) (rest : List Char) :
    IpAddr.fromStr (String.ofList (text ++ ':' :: rest)) = none := by
  have hread := readIpv4Addr_append_colon (fromStr_eq_v4.mp h) rest
  unfold IpAddr.fromStr readIpAddr
  rw [String.toList_ofList, hread]
  rfl

end Foundation
end Relayd
