import Mathlib.Algebra.Order.Field.Rat
import Mathlib.Data.List.Induction
import Mathlib.Tactic.FieldSimp
import Relayd.Model
import Relayd.Foundation.KeyedMap

/-!
# Scrape rates

Every scrape of the metrics endpoint hands the calculator the counters of all
listeners and the time, and gets a speed for each of them from what the scrape
before left behind.  Floating point is read as exact arithmetic; the division
itself stays a parameter, so that what it does at a divisor that is not
positive can be seen to play no part.
-/

namespace Relayd
namespace Prometheus

open Foundation

structure ListenerMetricsSnapshot where
  port : UInt16
  protocol : Protocol
  connectionsCurrent : UInt64
  rxBytesTotal : UInt64
  txBytesTotal : UInt64
deriving DecidableEq, Repr

structure ListenerMetricsRate where
  port : UInt16
  protocol : Protocol
  connectionsCurrent : UInt64
  rxBytesPerSecond : ℚ
  txBytesPerSecond : ℚ
deriving DecidableEq, Repr

structure Sample where
  rxBytesTotal : UInt64
  txBytesTotal : UInt64
  timestampMs : Int
  generation : UInt64
deriving DecidableEq, Repr

structure RateCalculator where
  samples : KeyMap UInt32 Sample
  generation : UInt64

def RateCalculator.default : RateCalculator where
  samples := ∅
  generation := 0

def listenerKey (port : UInt16) (protocol : Protocol) : UInt32 :=
  let protocol : UInt32 :=
    match protocol with
    | .tcp => 0
    | .udp => 1
    | .both => 2
  (port.toUInt32 <<< 2) ||| protocol

def ListenerMetricsSnapshot.key (snapshot : ListenerMetricsSnapshot) : UInt32 :=
  listenerKey snapshot.port snapshot.protocol

def i64Max : Int := 2 ^ 63 - 1

def i64Min : Int := -2 ^ 63

def saturatingSub (left right : Int) : Int :=
  max i64Min (min i64Max (left - right))

section Calculate

variable (divide : ℚ -> ℚ -> ℚ)

def bytesPerSecond (current previous : UInt64) (elapsedSeconds : ℚ) : ℚ :=
  if current <= previous then 0
  else divide ((current - previous).toNat : ℚ) elapsedSeconds

def calculateRate (snapshot : ListenerMetricsSnapshot) (previous : Option Sample)
    (timestampMs : Int) : ListenerMetricsRate :=
  let rates : ℚ × ℚ :=
    match previous with
    | none => (0, 0)
    | some previous =>
      let elapsedMs := saturatingSub timestampMs previous.timestampMs
      if 0 < elapsedMs then
        let elapsedSeconds := divide (elapsedMs : ℚ) 1000
        (bytesPerSecond divide snapshot.rxBytesTotal previous.rxBytesTotal elapsedSeconds,
          bytesPerSecond divide snapshot.txBytesTotal previous.txBytesTotal elapsedSeconds)
      else (0, 0)
  { port := snapshot.port
    protocol := snapshot.protocol
    connectionsCurrent := snapshot.connectionsCurrent
    rxBytesPerSecond := rates.1
    txBytesPerSecond := rates.2 }

def sampleOf (timestampMs : Int) (generation : UInt64)
    (snapshot : ListenerMetricsSnapshot) : Sample where
  rxBytesTotal := snapshot.rxBytesTotal
  txBytesTotal := snapshot.txBytesTotal
  timestampMs := timestampMs
  generation := generation

/-- The loop over the rows: each one is compared with the sample it replaces. -/
def calculateRows (timestampMs : Int) (generation : UInt64) :
    List ListenerMetricsSnapshot -> KeyMap UInt32 Sample ->
      List ListenerMetricsRate × KeyMap UInt32 Sample
  | [], samples => ([], samples)
  | snapshot :: snapshots, samples =>
    let current := sampleOf timestampMs generation snapshot
    let previous := samples.lookup snapshot.key
    let rest := calculateRows timestampMs generation snapshots
      (samples.insert snapshot.key current)
    (calculateRate divide snapshot previous timestampMs :: rest.1, rest.2)

def RateCalculator.calculate (calculator : RateCalculator)
    (snapshots : List ListenerMetricsSnapshot) (timestampMs : Int) :
    List ListenerMetricsRate × RateCalculator :=
  let generation := calculator.generation + 1
  let rows := calculateRows divide timestampMs generation snapshots calculator.samples
  (rows.1,
    { samples := retain (fun sample => sample.generation == generation) rows.2
      generation := generation })

end Calculate

/-!
# Packed keys

The protocol fills the two bits the shifted port leaves free, so a key is the
port and the protocol and nothing else.
-/

def protocolCode : Protocol -> Nat
  | .tcp => 0
  | .udp => 1
  | .both => 2

theorem listenerKey_toNat (port : UInt16) (protocol : Protocol) :
    (listenerKey port protocol).toNat = 4 * port.toNat + protocolCode protocol := by
  have hport := port.toNat_lt
  have hshift : (port.toUInt32 <<< 2).toNat = port.toNat <<< 2 := by
    rw [UInt32.toNat_shiftLeft, UInt16.toNat_toUInt32]
    apply Nat.mod_eq_of_lt
    rw [Nat.shiftLeft_eq]
    show port.toNat * 4 < 4294967296
    omega
  have hor : forall code, code < 4 ->
      port.toNat <<< 2 ||| code = 4 * port.toNat + code := by
    intro code hcode
    rw [<- Nat.shiftLeft_add_eq_or_of_lt hcode, Nat.shiftLeft_eq]
    omega
  cases protocol <;>
    · rw [listenerKey, UInt32.toNat_or, hshift]
      exact hor _ (by decide)

theorem listenerKey_inj {port port' : UInt16} {protocol protocol' : Protocol}
    (h : listenerKey port protocol = listenerKey port' protocol') :
    port = port' ∧ protocol = protocol' := by
  have hnat := congrArg UInt32.toNat h
  rw [listenerKey_toNat, listenerKey_toNat] at hnat
  have hcode : protocolCode protocol < 4 := by cases protocol <;> decide
  have hcode' : protocolCode protocol' < 4 := by cases protocol' <;> decide
  constructor
  · apply UInt16.toNat_inj.mp
    omega
  · have hsame : protocolCode protocol = protocolCode protocol' := by omega
    cases protocol <;> cases protocol' <;> first | rfl | cases hsame

theorem key_eq_iff {row other : ListenerMetricsSnapshot} :
    row.key = other.key <-> row.port = other.port ∧ row.protocol = other.protocol := by
  constructor
  · intro h
    exact listenerKey_inj h
  · intro h
    rcases h with ⟨hport, hprotocol⟩
    unfold ListenerMetricsSnapshot.key
    rw [hport, hprotocol]

/-!
# One call

With distinct keys no row meets the sample another row of the same call put
down: what a row is compared with, and what stays of the map, can be read off
the map the call started from.
-/

def rowAt (rows : List ListenerMetricsSnapshot) (key : UInt32) :
    Option ListenerMetricsSnapshot :=
  rows.find? fun row => row.key == key

theorem rowAt_cons (row : ListenerMetricsSnapshot) (rows : List ListenerMetricsSnapshot)
    (key : UInt32) :
    rowAt (row :: rows) key = if row.key = key then some row else rowAt rows key := by
  by_cases hkey : row.key = key
  · simp [rowAt, hkey]
  · simp [rowAt, hkey]

theorem rowAt_eq_none {rows : List ListenerMetricsSnapshot} {key : UInt32}
    (h : key ∉ rows.map ListenerMetricsSnapshot.key) : rowAt rows key = none := by
  apply List.find?_eq_none.mpr
  intro row hrow hkey
  apply h
  rw [<- eq_of_beq hkey]
  exact List.mem_map_of_mem hrow

theorem rowAt_eq_some {rows : List ListenerMetricsSnapshot} {key : UInt32}
    {row : ListenerMetricsSnapshot} (h : rowAt rows key = some row) :
    row ∈ rows ∧ row.key = key := by
  unfold rowAt at h
  have hkey := List.find?_some h
  exact ⟨List.mem_of_find?_eq_some h, eq_of_beq hkey⟩

theorem rowAt_of_mem {rows : List ListenerMetricsSnapshot}
    (hdistinct : (rows.map ListenerMetricsSnapshot.key).Nodup)
    {row : ListenerMetricsSnapshot} (hrow : row ∈ rows) : rowAt rows row.key = some row := by
  induction rows with
  | nil => cases hrow
  | cons first rest ih =>
      rw [List.map_cons, List.nodup_cons] at hdistinct
      rw [rowAt_cons]
      rcases List.mem_cons.mp hrow with rfl | hrest
      · rw [if_pos rfl]
      · rw [if_neg, ih hdistinct.2 hrest]
        intro hkey
        apply hdistinct.1
        rw [hkey]
        exact List.mem_map_of_mem hrest

section Calls

variable {divide : ℚ -> ℚ -> ℚ}

theorem calculateRows_rates {timestampMs : Int} {generation : UInt64}
    {rows : List ListenerMetricsSnapshot}
    (hdistinct : (rows.map ListenerMetricsSnapshot.key).Nodup)
    (samples : KeyMap UInt32 Sample) :
    (calculateRows divide timestampMs generation rows samples).1 =
      rows.map fun row => calculateRate divide row (samples.lookup row.key) timestampMs := by
  induction rows generalizing samples with
  | nil => rfl
  | cons row rest ih =>
      rw [List.map_cons, List.nodup_cons] at hdistinct
      rw [calculateRows, List.map_cons, ih hdistinct.2]
      apply congrArg (List.cons _)
      apply List.map_congr_left
      intro other hother
      have hkey : other.key ≠ row.key := by
        intro hsame
        apply hdistinct.1
        rw [<- hsame]
        exact List.mem_map_of_mem hother
      rw [AList.lookup_insert_ne hkey]

theorem calculateRows_samples {timestampMs : Int} {generation : UInt64}
    {rows : List ListenerMetricsSnapshot}
    (hdistinct : (rows.map ListenerMetricsSnapshot.key).Nodup)
    (samples : KeyMap UInt32 Sample) (key : UInt32) :
    (calculateRows divide timestampMs generation rows samples).2.lookup key =
      ((rowAt rows key).map (sampleOf timestampMs generation)).or (samples.lookup key) := by
  induction rows generalizing samples with
  | nil => rfl
  | cons row rest ih =>
      rw [List.map_cons, List.nodup_cons] at hdistinct
      rw [calculateRows, ih hdistinct.2, lookup_insert_eq, rowAt_cons]
      by_cases hkey : key = row.key
      · rw [if_pos hkey, if_pos hkey.symm, rowAt_eq_none (hkey ▸ hdistinct.1)]
        rfl
      · rw [if_neg hkey, if_neg (Ne.symm hkey)]

/-- What a scrape leaves behind: its own rows, under its own generation. -/
def Holds (calculator : RateCalculator) (rows : List ListenerMetricsSnapshot)
    (timestampMs : Int) : Prop :=
  forall key, calculator.samples.lookup key =
    (rowAt rows key).map (sampleOf timestampMs calculator.generation)

theorem uint64_succ_ne (generation : UInt64) : generation ≠ generation + 1 := by
  intro h
  have hnat := congrArg UInt64.toNat h
  rw [UInt64.toNat_add] at hnat
  have hlt := generation.toNat_lt
  have hone : (1 : UInt64).toNat = 1 := rfl
  omega

theorem calculate_holds {calculator : RateCalculator}
    {before rows : List ListenerMetricsSnapshot} {timestampMs : Int} (beforeMs : Int)
    (h : Holds calculator before beforeMs)
    (hdistinct : (rows.map ListenerMetricsSnapshot.key).Nodup) :
    Holds (calculator.calculate divide rows timestampMs).2 rows timestampMs := by
  intro key
  show (retain _ _).lookup key = _
  rw [lookup_retain, calculateRows_samples hdistinct, h key]
  cases hrow : rowAt rows key with
  | some row =>
      -- a row of this call carries this call's generation
      simp [sampleOf, RateCalculator.calculate]
  | none =>
      -- an older sample carries the generation before, also when the counter wraps
      cases rowAt before key with
      | none => rfl
      | some old =>
          have hold := uint64_succ_ne calculator.generation
          simp [sampleOf, hold]

end Calls

/-!
# Histories of scrapes
-/

structure Scrape where
  rows : List ListenerMetricsSnapshot
  timestampMs : Int

/-- No two rows of a scrape are about the same listener. -/
def Scrape.Distinct (scrape : Scrape) : Prop :=
  (scrape.rows.map fun row => (row.port, row.protocol)).Nodup

/-- The clock reports a signed 64-bit number of milliseconds after the epoch. -/
def Scrape.Timed (scrape : Scrape) : Prop :=
  0 <= scrape.timestampMs ∧ scrape.timestampMs <= i64Max

theorem Scrape.Distinct.keys {scrape : Scrape} (h : scrape.Distinct) :
    (scrape.rows.map ListenerMetricsSnapshot.key).Nodup := by
  unfold Scrape.Distinct List.Nodup at h
  rw [List.pairwise_map] at h
  unfold List.Nodup
  rw [List.pairwise_map]
  apply h.imp
  intro row other hpair hkey
  obtain ⟨hport, hprotocol⟩ := key_eq_iff.mp hkey
  apply hpair
  rw [hport, hprotocol]

section Histories

variable (divide : ℚ -> ℚ -> ℚ)

/-- The calculator the endpoint holds after the scrapes made so far. -/
def afterScrapes (history : List Scrape) : RateCalculator :=
  history.foldl
    (fun calculator scrape =>
      (calculator.calculate divide scrape.rows scrape.timestampMs).2)
    RateCalculator.default

def scrapeRates (history : List Scrape) (scrape : Scrape) : List ListenerMetricsRate :=
  ((afterScrapes divide history).calculate divide scrape.rows scrape.timestampMs).1

theorem afterScrapes_concat (history : List Scrape) (scrape : Scrape) :
    afterScrapes divide (history ++ [scrape]) =
      ((afterScrapes divide history).calculate divide scrape.rows scrape.timestampMs).2 := by
  unfold afterScrapes
  rw [List.foldl_append]
  rfl

def rowsOf (previous : Option Scrape) : List ListenerMetricsSnapshot :=
  (previous.map Scrape.rows).getD []

def timeOf (previous : Option Scrape) : Int :=
  (previous.map Scrape.timestampMs).getD 0

theorem samples_afterScrapes {history : List Scrape}
    (hdistinct : forall scrape, scrape ∈ history -> scrape.Distinct) :
    Holds (afterScrapes divide history) (rowsOf history.getLast?)
      (timeOf history.getLast?) := by
  induction history using List.reverseRecOn with
  | nil =>
      intro key
      rfl
  | append_singleton earlier scrape ih =>
      have hearlier : forall other, other ∈ earlier -> other.Distinct := fun other hother =>
        hdistinct other (List.mem_append_left _ hother)
      have hscrape : scrape.Distinct := hdistinct scrape (by simp)
      rw [afterScrapes_concat, List.getLast?_concat]
      exact calculate_holds _ (ih hearlier) hscrape.keys

/-- The rates of a scrape, from the rows of the scrape before. -/
theorem scrapeRates_eq {history : List Scrape} {scrape : Scrape}
    (hhistory : forall other, other ∈ history -> other.Distinct) (hscrape : scrape.Distinct) :
    scrapeRates divide history scrape =
      scrape.rows.map fun row =>
        calculateRate divide row
          ((rowAt (rowsOf history.getLast?) row.key).map
            (sampleOf (timeOf history.getLast?) (afterScrapes divide history).generation))
          scrape.timestampMs := by
  show (calculateRows _ _ _ _ _).1 = _
  rw [calculateRows_rates hscrape.keys]
  apply List.map_congr_left
  intro row hrow
  rw [samples_afterScrapes divide hhistory row.key]

end Histories

/-!
# The speed of a listener

A speed is the growth of the counter over the time since the scrape before.  It
is nothing when that scrape did not show the listener, the counter did not grow
or the clock did not advance.
-/

/-- The counter of the row grew since the scrape before, and time passed. -/
structure Grown (total : ListenerMetricsSnapshot -> UInt64) (previous : Option Scrape)
    (timestampMs : Int) (row : ListenerMetricsSnapshot) (before : Scrape)
    (old : ListenerMetricsSnapshot) : Prop where
  previous_eq : previous = some before
  mem : old ∈ before.rows
  port_eq : old.port = row.port
  protocol_eq : old.protocol = row.protocol
  total_lt : total old < total row
  time_lt : before.timestampMs < timestampMs

def IsSpeed (total : ListenerMetricsSnapshot -> UInt64) (previous : Option Scrape)
    (timestampMs : Int) (row : ListenerMetricsSnapshot) (speed : ℚ) : Prop :=
  (forall before old, Grown total previous timestampMs row before old ->
    speed = 1000 * ((total row).toNat - (total old).toNat) /
      (timestampMs - before.timestampMs)) ∧
  ((forall before old, ¬ Grown total previous timestampMs row before old) -> speed = 0)

structure IsRate (previous : Option Scrape) (timestampMs : Int)
    (row : ListenerMetricsSnapshot) (rate : ListenerMetricsRate) : Prop where
  port_eq : rate.port = row.port
  protocol_eq : rate.protocol = row.protocol
  connections_eq : rate.connectionsCurrent = row.connectionsCurrent
  rx : IsSpeed ListenerMetricsSnapshot.rxBytesTotal previous timestampMs row
    rate.rxBytesPerSecond
  tx : IsSpeed ListenerMetricsSnapshot.txBytesTotal previous timestampMs row
    rate.txBytesPerSecond

theorem saturatingSub_eq {left right : Int} (hleft : 0 <= left ∧ left <= i64Max)
    (hright : 0 <= right ∧ right <= i64Max) : saturatingSub left right = left - right := by
  unfold saturatingSub i64Max i64Min at *
  omega

section Speeds

variable {divide : ℚ -> ℚ -> ℚ}

def speed (divide : ℚ -> ℚ -> ℚ) (current : UInt64) (previous : Option (UInt64 × Int))
    (timestampMs : Int) : ℚ :=
  match previous with
  | none => 0
  | some (previous, beforeMs) =>
    let elapsedMs := saturatingSub timestampMs beforeMs
    if 0 < elapsedMs then
      bytesPerSecond divide current previous (divide (elapsedMs : ℚ) 1000)
    else 0

theorem calculateRate_rx (row : ListenerMetricsSnapshot) (previous : Option Sample)
    (timestampMs : Int) :
    (calculateRate divide row previous timestampMs).rxBytesPerSecond =
      speed divide row.rxBytesTotal
        (previous.map fun sample => (sample.rxBytesTotal, sample.timestampMs))
        timestampMs := by
  cases previous with
  | none => rfl
  | some sample => simp only [calculateRate, speed, Option.map_some, apply_ite Prod.fst]

theorem calculateRate_tx (row : ListenerMetricsSnapshot) (previous : Option Sample)
    (timestampMs : Int) :
    (calculateRate divide row previous timestampMs).txBytesPerSecond =
      speed divide row.txBytesTotal
        (previous.map fun sample => (sample.txBytesTotal, sample.timestampMs))
        timestampMs := by
  cases previous with
  | none => rfl
  | some sample => simp only [calculateRate, speed, Option.map_some, apply_ite Prod.snd]

-- Both divisors are positive here: a thousand, and the seconds that passed.
theorem bytesPerSecond_of_lt
    (hdivide : forall x y, 0 < y -> divide x y = x / y) {current previous : UInt64}
    (hgrown : previous < current) {elapsedMs : Int} (helapsed : 0 < elapsedMs) :
    bytesPerSecond divide current previous (divide (elapsedMs : ℚ) 1000) =
      1000 * (current.toNat - previous.toNat) / elapsedMs := by
  have hms : (0 : ℚ) < elapsedMs := Int.cast_pos.mpr helapsed
  have hseconds : divide (elapsedMs : ℚ) 1000 = elapsedMs / 1000 :=
    hdivide _ _ (by norm_num)
  have hpositive : (0 : ℚ) < elapsedMs / 1000 := div_pos hms (by norm_num)
  have hle : previous.toNat <= current.toNat := Nat.le_of_lt (UInt64.lt_iff_toNat_lt.mp hgrown)
  have hsub : (current - previous).toNat = current.toNat - previous.toNat :=
    UInt64.toNat_sub_of_le _ _ (UInt64.le_iff_toNat_le.mpr hle)
  rw [bytesPerSecond, if_neg (UInt64.not_le.mpr hgrown), hseconds, hdivide _ _ hpositive,
    hsub, Nat.cast_sub hle]
  field_simp

theorem bytesPerSecond_of_not_lt {current previous : UInt64} (h : ¬ previous < current)
    (elapsedSeconds : ℚ) : bytesPerSecond divide current previous elapsedSeconds = 0 := by
  rw [bytesPerSecond, if_pos (UInt64.not_lt.mp h)]

theorem isSpeed_speed (hdivide : forall x y, 0 < y -> divide x y = x / y)
    (total : ListenerMetricsSnapshot -> UInt64) {previous : Option Scrape}
    (hdistinct : forall before, previous = some before -> before.Distinct)
    (htimed : forall before, previous = some before -> before.Timed)
    {timestampMs : Int} (hnow : 0 <= timestampMs ∧ timestampMs <= i64Max)
    (row : ListenerMetricsSnapshot) :
    IsSpeed total previous timestampMs row
      (speed divide (total row)
        ((rowAt (rowsOf previous) row.key).map fun old => (total old, timeOf previous))
        timestampMs) := by
  constructor
  · intro before old hgrown
    have hbefore := hgrown.previous_eq
    have hkey : old.key = row.key := key_eq_iff.mpr ⟨hgrown.port_eq, hgrown.protocol_eq⟩
    have hold : rowAt (rowsOf previous) row.key = some old := by
      rw [hbefore, <- hkey]
      exact rowAt_of_mem (hdistinct before hbefore).keys hgrown.mem
    have htime : timeOf previous = before.timestampMs := by rw [hbefore]; rfl
    have helapsed : 0 < timestampMs - before.timestampMs := by
      have hlt := hgrown.time_lt
      omega
    rw [hold, Option.map_some, htime, speed, saturatingSub_eq hnow (htimed before hbefore),
      if_pos helapsed, bytesPerSecond_of_lt hdivide hgrown.total_lt helapsed, Int.cast_sub]
  · intro hnone
    cases hrow : rowAt (rowsOf previous) row.key with
    | none => rfl
    | some old =>
        obtain ⟨hmem, hkey⟩ := rowAt_eq_some hrow
        cases previous with
        | none => cases hmem
        | some before =>
            obtain ⟨hport, hprotocol⟩ := key_eq_iff.mp hkey
            rw [Option.map_some, speed]
            by_cases htime : before.timestampMs < timestampMs
            · have hsmall : ¬ total old < total row := fun hlt =>
                hnone before old ⟨rfl, hmem, hport, hprotocol, hlt, htime⟩
              rw [bytesPerSecond_of_not_lt hsmall, ite_self]
            · apply if_neg
              show ¬ 0 < saturatingSub timestampMs before.timestampMs
              rw [saturatingSub_eq hnow (htimed before rfl)]
              omega

theorem isRate_calculateRate (hdivide : forall x y, 0 < y -> divide x y = x / y)
    {previous : Option Scrape}
    (hdistinct : forall before, previous = some before -> before.Distinct)
    (htimed : forall before, previous = some before -> before.Timed)
    {timestampMs : Int} (hnow : 0 <= timestampMs ∧ timestampMs <= i64Max)
    (row : ListenerMetricsSnapshot) (generation : UInt64) :
    IsRate previous timestampMs row
      (calculateRate divide row
        ((rowAt (rowsOf previous) row.key).map (sampleOf (timeOf previous) generation))
        timestampMs) where
  port_eq := rfl
  protocol_eq := rfl
  connections_eq := rfl
  rx := by
    rw [calculateRate_rx, Option.map_map]
    exact isSpeed_speed hdivide _ hdistinct htimed hnow row
  tx := by
    rw [calculateRate_tx, Option.map_map]
    exact isSpeed_speed hdivide _ hdistinct htimed hnow row

end Speeds

/-!
# The order of the rows
-/

def rateFor (port : UInt16) (protocol : Protocol) (rates : List ListenerMetricsRate) :
    Option ListenerMetricsRate :=
  rates.find? fun rate => rate.port == port && rate.protocol == protocol

/-- The same rows at the same time, in any order. -/
structure SameRows (scrape scrape' : Scrape) : Prop where
  rows : scrape.rows.Perm scrape'.rows
  time : scrape.timestampMs = scrape'.timestampMs

theorem SameRows.distinct {scrape scrape' : Scrape} (h : SameRows scrape scrape')
    (hdistinct : scrape.Distinct) : scrape'.Distinct :=
  (h.rows.map _).nodup hdistinct

theorem distinct_of_sameRows {history history' : List Scrape}
    (h : List.Forall₂ SameRows history history')
    (hdistinct : forall scrape, scrape ∈ history -> scrape.Distinct) :
    forall scrape, scrape ∈ history' -> scrape.Distinct := by
  induction h with
  | nil =>
      intro scrape hscrape
      cases hscrape
  | cons hsame _ ih =>
      intro scrape hscrape
      rcases List.mem_cons.mp hscrape with rfl | hrest
      · exact hsame.distinct (hdistinct _ List.mem_cons_self)
      · apply ih _ scrape hrest
        intro other hother
        exact hdistinct other (List.mem_cons_of_mem _ hother)

theorem rowAt_perm {rows rows' : List ListenerMetricsSnapshot} (h : rows.Perm rows')
    (hdistinct : (rows.map ListenerMetricsSnapshot.key).Nodup) (key : UInt32) :
    rowAt rows key = rowAt rows' key := by
  have hdistinct' : (rows'.map ListenerMetricsSnapshot.key).Nodup :=
    (h.map _).nodup hdistinct
  apply Option.ext
  intro row
  constructor
  · intro hrow
    obtain ⟨hmem, rfl⟩ := rowAt_eq_some hrow
    exact rowAt_of_mem hdistinct' (h.mem_iff.mp hmem)
  · intro hrow
    obtain ⟨hmem, rfl⟩ := rowAt_eq_some hrow
    exact rowAt_of_mem hdistinct (h.mem_iff.mpr hmem)

theorem rateFor_map (divide : ℚ -> ℚ -> ℚ) (rows : List ListenerMetricsSnapshot)
    (previous : ListenerMetricsSnapshot -> Option Sample) (timestampMs : Int)
    (port : UInt16) (protocol : Protocol) :
    rateFor port protocol
        (rows.map fun row => calculateRate divide row (previous row) timestampMs) =
      (rowAt rows (listenerKey port protocol)).map
        fun row => calculateRate divide row (previous row) timestampMs := by
  unfold rateFor rowAt
  rw [List.find?_map]
  congr 2
  funext row
  have hkey : row.key = listenerKey port protocol <->
      row.port = port ∧ row.protocol = protocol := by
    constructor
    · intro h
      exact listenerKey_inj h
    · intro h
      rcases h with ⟨rfl, rfl⟩
      rfl
  rw [Bool.eq_iff_iff]
  simp [calculateRate, hkey]

section Order

variable {divide : ℚ -> ℚ -> ℚ}

theorem generation_afterScrapes_eq {history history' : List Scrape}
    (h : history.length = history'.length) :
    (afterScrapes divide history).generation = (afterScrapes divide history').generation := by
  induction history using List.reverseRecOn generalizing history' with
  | nil =>
      rw [List.eq_nil_of_length_eq_zero h.symm]
  | append_singleton earlier scrape ih =>
      rcases history'.eq_nil_or_concat with rfl | ⟨earlier', scrape', rfl⟩
      · simp at h
      · have hlength : earlier.length = earlier'.length := by simpa using h
        rw [List.concat_eq_append, afterScrapes_concat, afterScrapes_concat]
        show (afterScrapes divide earlier).generation + 1 = _
        rw [ih hlength]
        rfl

theorem sameRows_getLast {history history' : List Scrape}
    (h : List.Forall₂ SameRows history history')
    (hdistinct : forall scrape, scrape ∈ history -> scrape.Distinct) (key : UInt32) :
    rowAt (rowsOf history.getLast?) key = rowAt (rowsOf history'.getLast?) key ∧
      timeOf history.getLast? = timeOf history'.getLast? := by
  rcases history.eq_nil_or_concat with rfl | ⟨earlier, scrape, rfl⟩
  · cases h
    exact ⟨rfl, rfl⟩
  · rcases history'.eq_nil_or_concat with rfl | ⟨earlier', scrape', rfl⟩
    · have hlength := h.length_eq
      simp at hlength
    · have hlast : SameRows scrape scrape' := by
        have hreverse := List.forall₂_reverse_iff.mpr h
        simp only [List.concat_eq_append, List.reverse_append, List.reverse_singleton,
          List.singleton_append] at hreverse
        exact (List.forall₂_cons.mp hreverse).1
      have hscrape : scrape.Distinct := hdistinct scrape (by simp)
      simp only [List.concat_eq_append, List.getLast?_concat]
      exact ⟨rowAt_perm hlast.rows hscrape.keys key, hlast.time⟩

theorem rateFor_reordered {history history' : List Scrape} {scrape scrape' : Scrape}
    (hhistory : List.Forall₂ SameRows history history') (hscrape : SameRows scrape scrape')
    (hdistinct : forall other, other ∈ history -> other.Distinct) (hnow : scrape.Distinct)
    (port : UInt16) (protocol : Protocol) :
    rateFor port protocol (scrapeRates divide history' scrape') =
      rateFor port protocol (scrapeRates divide history scrape) := by
  have hdistinct' := distinct_of_sameRows hhistory hdistinct
  rw [scrapeRates_eq divide hdistinct' (hscrape.distinct hnow),
    scrapeRates_eq divide hdistinct hnow, rateFor_map, rateFor_map,
    rowAt_perm hscrape.rows hnow.keys]
  apply congrArg (fun rate => Option.map rate _)
  funext row
  obtain ⟨hrow, htime⟩ := sameRows_getLast hhistory hdistinct row.key
  rw [hrow, htime, generation_afterScrapes_eq hhistory.length_eq, hscrape.time]

end Order

theorem scrape_rates {divide : ℚ -> ℚ -> ℚ}
    (hdivide : forall x y, 0 < y -> divide x y = x / y)
    {history : List Scrape} {scrape : Scrape}
    (hdistinct : forall other, other ∈ history ++ [scrape] -> other.Distinct)
    (htimed : forall other, other ∈ history ++ [scrape] -> other.Timed) :
    List.Forall₂ (IsRate history.getLast? scrape.timestampMs) scrape.rows
        (scrapeRates divide history scrape) ∧
      (forall history' scrape', List.Forall₂ SameRows history history' ->
        SameRows scrape scrape' -> forall port protocol,
          rateFor port protocol (scrapeRates divide history' scrape') =
            rateFor port protocol (scrapeRates divide history scrape)) ∧
      forall key, key ∈ (afterScrapes divide (history ++ [scrape])).samples <->
        exists row, row ∈ scrape.rows ∧ listenerKey row.port row.protocol = key := by
  have hhistory : forall other, other ∈ history -> other.Distinct := fun other hother =>
    hdistinct other (List.mem_append_left _ hother)
  have hnow : scrape.Distinct := hdistinct scrape (by simp)
  have hlast : forall before, history.getLast? = some before -> before ∈ history :=
    fun before hbefore => List.mem_of_getLast? hbefore
  constructor
  · rw [scrapeRates_eq divide hhistory hnow, List.forall₂_map_right_iff, List.forall₂_same]
    intro row hrow
    apply isRate_calculateRate hdivide
    · intro before hbefore
      exact hhistory before (hlast before hbefore)
    · intro before hbefore
      exact htimed before (List.mem_append_left _ (hlast before hbefore))
    · exact htimed scrape (by simp)
  constructor
  · intro history' scrape' hsame hsame' port protocol
    exact rateFor_reordered hsame hsame' hhistory hnow port protocol
  · intro key
    have hholds := samples_afterScrapes divide hdistinct key
    rw [List.getLast?_concat] at hholds
    rw [<- AList.lookup_isSome, hholds, Option.isSome_map, Option.isSome_iff_exists]
    constructor
    · intro h
      rcases h with ⟨row, hrow⟩
      exact ⟨row, rowAt_eq_some hrow⟩
    · intro h
      rcases h with ⟨row, hmem, rfl⟩
      exact ⟨row, rowAt_of_mem hnow.keys hmem⟩

def firstScrape : Scrape where
  rows := [⟨7000, .tcp, 1, 100, 50⟩, ⟨7000, .udp, 2, 1000, 500⟩]
  timestampMs := 1000

def secondScrape : Scrape where
  rows := [⟨7000, .udp, 2, 1200, 400⟩, ⟨7000, .tcp, 1, 150, 75⟩]
  timestampMs := 2000

theorem scrape_rates_second :
    scrapeRates (fun x y => x / y) [firstScrape] secondScrape =
        [⟨7000, .udp, 2, 200, 0⟩, ⟨7000, .tcp, 1, 50, 25⟩] ∧
      List.Forall₂ (IsRate (some firstScrape) 2000) secondScrape.rows
        (scrapeRates (fun x y => x / y) [firstScrape] secondScrape) := by
  have hdistinct : forall other, other ∈ [firstScrape] ++ [secondScrape] -> other.Distinct := by
    simp only [List.cons_append, List.nil_append, List.forall_mem_cons]
    unfold Scrape.Distinct
    decide
  have htimed : forall other, other ∈ [firstScrape] ++ [secondScrape] -> other.Timed := by
    simp only [List.cons_append, List.nil_append, List.forall_mem_cons]
    unfold Scrape.Timed
    decide
  constructor
  · decide +kernel
  · exact (scrape_rates (fun _ _ _ => rfl) hdistinct htimed).1

end Prometheus
end Relayd
