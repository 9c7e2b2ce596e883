import Mathlib.Data.List.Basic

/-!
# Bytes

Words as bytes in network order and in the order of a little-endian host, and a flat
memory that is written and read in runs of cells.
-/

namespace Relayd
namespace Foundation

/-!
# Words
-/

/-- `u16::to_be_bytes`. -/
def toBeBytes (word : UInt16) : List UInt8 :=
  [UInt8.ofNat (word.toNat / 256), UInt8.ofNat (word.toNat % 256)]

def ofBeBytes : List UInt8 -> Option UInt16
  | [high, low] => some (UInt16.ofNat (high.toNat * 256 + low.toNat))
  | _ => none

/-- `u32::to_le_bytes`. -/
def toLeBytes (word : UInt32) : List UInt8 :=
  [UInt8.ofNat (word.toNat % 256), UInt8.ofNat (word.toNat / 256 % 256),
    UInt8.ofNat (word.toNat / 65536 % 256), UInt8.ofNat (word.toNat / 16777216)]

theorem length_toBeBytes (word : UInt16) : (toBeBytes word).length = 2 := rfl

theorem ofBeBytes_toBeBytes (word : UInt16) : ofBeBytes (toBeBytes word) = some word := by
  have hlt : word.toNat < 65536 := word.toNat_lt
  show some (UInt16.ofNat _) = some word
  congr 1
  apply UInt16.toNat_inj.mp
  simp only [UInt16.toNat_ofNat', UInt8.toNat_ofNat']
  omega

theorem toBeBytes_of_ofBeBytes {bytes : List UInt8} {word : UInt16}
    (h : ofBeBytes bytes = some word) : bytes = toBeBytes word := by
  match bytes with
  | [high, low] =>
      have hhigh : high.toNat < 256 := high.toNat_lt
      have hlow : low.toNat < 256 := low.toNat_lt
      have hword : (UInt16.ofNat (high.toNat * 256 + low.toNat)).toNat =
          high.toNat * 256 + low.toNat := by
        rw [UInt16.toNat_ofNat']
        omega
      cases Option.some.inj h
      unfold toBeBytes
      rw [hword]
      congr 1
      · apply UInt8.toNat_inj.mp
        rw [UInt8.toNat_ofNat']
        omega
      · congr 1
        apply UInt8.toNat_inj.mp
        rw [UInt8.toNat_ofNat']
        omega
  | [] => cases h
  | [_] => cases h
  | _ :: _ :: _ :: _ => cases h

theorem toBeBytes_inj {left right : UInt16} (h : toBeBytes left = toBeBytes right) :
    left = right := by
  have hboth : ofBeBytes (toBeBytes left) = ofBeBytes (toBeBytes right) := by rw [h]
  rw [ofBeBytes_toBeBytes, ofBeBytes_toBeBytes] at hboth
  exact Option.some.inj hboth

theorem ofBeBytes_of_length {bytes : List UInt8} (h : bytes.length = 2) :
    exists word, ofBeBytes bytes = some word := by
  match bytes, h with
  | [high, low], _ => exact ⟨_, rfl⟩

/-!
# Byte order

A word in memory is the bytes a host stores it as.  Data from the network has its most
significant byte first whatever the host.
-/

inductive Endian where
  | little
  | big
deriving DecidableEq, Repr

/-- `u16::from_ne_bytes`. -/
def ofNeBytes16 : Endian -> UInt8 -> UInt8 -> UInt16
  | .little, b0, b1 => UInt16.ofNat (b0.toNat + b1.toNat * 256)
  | .big, b0, b1 => UInt16.ofNat (b0.toNat * 256 + b1.toNat)

def swapBytes16 (word : UInt16) : UInt16 :=
  UInt16.ofNat (word.toNat % 256 * 256 + word.toNat / 256)

/-- `u16::from_be`. -/
def fromBe16 : Endian -> UInt16 -> UInt16
  | .little, word => swapBytes16 word
  | .big, word => word

/-- `u32::from_ne_bytes`. -/
def ofNeBytes32 : Endian -> UInt8 -> UInt8 -> UInt8 -> UInt8 -> UInt32
  | .little, b0, b1, b2, b3 => UInt32.ofNat
      (b0.toNat + b1.toNat * 256 + b2.toNat * 65536 + b3.toNat * 16777216)
  | .big, b0, b1, b2, b3 => UInt32.ofNat
      (b0.toNat * 16777216 + b1.toNat * 65536 + b2.toNat * 256 + b3.toNat)

/-- `u32::to_ne_bytes`. -/
def toNeBytes32 : Endian -> UInt32 -> Vector UInt8 4
  | .little, word => ⟨(toLeBytes word).toArray, rfl⟩
  | .big, word => ⟨(toLeBytes word).reverse.toArray, rfl⟩

def swapBytes32 (word : UInt32) : UInt32 :=
  UInt32.ofNat (word.toNat % 256 * 16777216 + word.toNat / 256 % 256 * 65536 +
    word.toNat / 65536 % 256 * 256 + word.toNat / 16777216)

/-- `u32::from_be`. -/
def fromBe32 : Endian -> UInt32 -> UInt32
  | .little, word => swapBytes32 word
  | .big, word => word

theorem fromBe16_ofNeBytes16 (endian : Endian) (b0 b1 : UInt8) :
    fromBe16 endian (ofNeBytes16 endian b0 b1) = ofNeBytes16 .big b0 b1 := by
  cases endian with
  | big => rfl
  | little =>
      have h0 := b0.toNat_lt
      have h1 := b1.toNat_lt
      have hword : (ofNeBytes16 .little b0 b1).toNat = b0.toNat + b1.toNat * 256 := by
        rw [ofNeBytes16, UInt16.toNat_ofNat']
        omega
      have hlow : (b0.toNat + b1.toNat * 256) % 256 = b0.toNat := by omega
      have hhigh : (b0.toNat + b1.toNat * 256) / 256 = b1.toNat := by omega
      rw [fromBe16, swapBytes16, hword, hlow, hhigh]
      rfl

theorem toNat_ofNeBytes32_little (b0 b1 b2 b3 : UInt8) :
    (ofNeBytes32 .little b0 b1 b2 b3).toNat =
      b0.toNat + b1.toNat * 256 + b2.toNat * 65536 + b3.toNat * 16777216 := by
  have h0 := b0.toNat_lt
  have h1 := b1.toNat_lt
  have h2 := b2.toNat_lt
  have h3 := b3.toNat_lt
  rw [ofNeBytes32, UInt32.toNat_ofNat']
  omega

theorem ofNeBytes32_big (b0 b1 b2 b3 : UInt8) :
    ofNeBytes32 .big b0 b1 b2 b3 = ofNeBytes32 .little b3 b2 b1 b0 := by
  rw [ofNeBytes32, ofNeBytes32]
  congr 1
  omega

theorem toLeBytes_ofNeBytes32 (b0 b1 b2 b3 : UInt8) :
    toLeBytes (ofNeBytes32 .little b0 b1 b2 b3) = [b0, b1, b2, b3] := by
  have h0 := b0.toNat_lt
  have h1 := b1.toNat_lt
  have h2 := b2.toNat_lt
  have h3 := b3.toNat_lt
  unfold toLeBytes
  rw [toNat_ofNeBytes32_little]
  simp only [List.cons.injEq, and_true]
  refine ⟨?_, ?_, ?_, ?_⟩ <;>
    (apply UInt8.toNat_inj.mp; rw [UInt8.toNat_ofNat']; omega)

theorem toNeBytes32_ofNeBytes32 (endian : Endian) (b0 b1 b2 b3 : UInt8) :
    toNeBytes32 endian (ofNeBytes32 endian b0 b1 b2 b3) = #v[b0, b1, b2, b3] := by
  apply Vector.toList_inj.mp
  cases endian with
  | little => exact toLeBytes_ofNeBytes32 b0 b1 b2 b3
  | big =>
      show (toLeBytes (ofNeBytes32 .big b0 b1 b2 b3)).reverse = [b0, b1, b2, b3]
      rw [ofNeBytes32_big, toLeBytes_ofNeBytes32]
      rfl

theorem swapBytes32_ofNeBytes32 (b0 b1 b2 b3 : UInt8) :
    swapBytes32 (ofNeBytes32 .little b0 b1 b2 b3) = ofNeBytes32 .big b0 b1 b2 b3 := by
  have h0 := b0.toNat_lt
  have h1 := b1.toNat_lt
  have h2 := b2.toNat_lt
  have h3 := b3.toNat_lt
  let word := b0.toNat + b1.toNat * 256 + b2.toNat * 65536 + b3.toNat * 16777216
  have hfirst : word % 256 = b0.toNat := by omega
  have hsecond : word / 256 % 256 = b1.toNat := by omega
  have hthird : word / 65536 % 256 = b2.toNat := by omega
  have hfourth : word / 16777216 = b3.toNat := by omega
  unfold swapBytes32
  rw [toNat_ofNeBytes32_little, hfirst, hsecond, hthird, hfourth]
  rfl

/-- Conversion from network order changes a word exactly when the host is little-endian
and the bytes do not read the same backwards. -/
theorem fromBe32_eq_self_iff (endian : Endian) (b0 b1 b2 b3 : UInt8) :
    fromBe32 endian (ofNeBytes32 endian b0 b1 b2 b3) = ofNeBytes32 endian b0 b1 b2 b3 <->
      endian = .big ∨ (b0 = b3 ∧ b1 = b2) := by
  cases endian with
  | big => simp [fromBe32]
  | little =>
      rw [fromBe32, swapBytes32_ofNeBytes32, ofNeBytes32_big]
      constructor
      · intro h
        have hbytes := congrArg toLeBytes h
        rw [toLeBytes_ofNeBytes32, toLeBytes_ofNeBytes32] at hbytes
        simp only [List.cons.injEq, and_true] at hbytes
        exact Or.inr ⟨hbytes.1.symm, hbytes.2.1.symm⟩
      · intro h
        rcases h with hbig | ⟨houter, hinner⟩
        · cases hbig
        · rw [houter, hinner]

/-!
# Memory
-/

/-- Cells by address. -/
def Memory (α : Type) := Nat -> α

namespace Memory

variable {α : Type}

def store (address : Nat) (cells : List α) (memory : Memory α) : Memory α := fun at' =>
  if address ≤ at' then (cells[at' - address]?).getD (memory at') else memory at'

def load (address count : Nat) (memory : Memory α) : List α :=
  (List.range count).map (fun i => memory (address + i))

theorem store_apply (address : Nat) (cells : List α) (memory : Memory α) {i : Nat} {cell : α}
    (h : cells[i]? = some cell) : memory.store address cells (address + i) = cell := by
  unfold store
  rw [if_pos (Nat.le_add_right address i), Nat.add_sub_cancel_left, h]
  rfl

theorem store_apply_of_outside {address other : Nat} {cells : List α} (memory : Memory α)
    (h : other < address ∨ address + cells.length ≤ other) :
    memory.store address cells other = memory other := by
  unfold store
  split
  · next hle =>
    rw [List.getElem?_eq_none (by omega)]
    rfl
  · rfl

/-- Reading back no more than was written. -/
theorem load_store {address count : Nat} {cells : List α} (memory : Memory α)
    (h : count ≤ cells.length) :
    (memory.store address cells).load address count = cells.take count := by
  unfold load
  apply List.ext_getElem?
  intro i
  rw [List.getElem?_map]
  by_cases hi : i < count
  · have hcell : cells[i]? = some (cells[i]) := List.getElem?_eq_getElem (by omega)
    rw [List.getElem?_range hi, List.getElem?_take_of_lt hi, hcell]
    show some (memory.store address cells (address + i)) = _
    rw [store_apply address cells memory hcell]
  · rw [List.getElem?_eq_none (by simpa using hi), List.getElem?_eq_none (by simp; omega)]
    rfl

theorem load_store_of_disjoint {address other count : Nat} {cells : List α} (memory : Memory α)
    (h : other + count ≤ address ∨ address + cells.length ≤ other) :
    (memory.store address cells).load other count = memory.load other count := by
  unfold load
  apply List.map_congr_left
  intro i hi
  have hi := List.mem_range.mp hi
  exact memory.store_apply_of_outside (by omega)

end Memory

end Foundation
end Relayd
