import Mathlib.Algebra.GroupWithZero.Nat
import Mathlib.Data.List.Basic

/-!
# Text by byte offsets

An offset into a text counts bytes of its UTF-8 encoding.  A slice whose ends do not lie
between two characters does not exist: taking it is a panic.
-/

namespace Relayd
namespace Foundation
namespace Utf8

def bytes (text : List Char) : List UInt8 :=
  text.flatMap String.utf8EncodeChar

def length (text : List Char) : Nat :=
  (text.map Char.utf8Size).sum

/-- The offset of the first occurrence. -/
def find (target : Char) : List Char -> Option Nat
  | [] => none
  | c :: rest =>
      if c = target then some 0
      else (find target rest).map (fun offset => c.utf8Size + offset)

/-- The offset of the last occurrence. -/
def rfind (target : Char) : List Char -> Option Nat
  | [] => none
  | c :: rest =>
      match rfind target rest with
      | some offset => some (c.utf8Size + offset)
      | none => if c = target then some 0 else none

def sliceFrom : Nat -> List Char -> Option (List Char)
  | 0, text => some text
  | _ + 1, [] => none
  | offset + 1, c :: rest =>
      if c.utf8Size <= offset + 1 then sliceFrom (offset + 1 - c.utf8Size) rest else none

def sliceTo : Nat -> List Char -> Option (List Char)
  | 0, _ => some []
  | _ + 1, [] => none
  | offset + 1, c :: rest =>
      if c.utf8Size <= offset + 1 then
        (sliceTo (offset + 1 - c.utf8Size) rest).map (fun taken => c :: taken)
      else none

def slice (start stop : Nat) (text : List Char) : Option (List Char) :=
  if start <= stop then (sliceFrom start text).bind (sliceTo (stop - start)) else none

/-!
# Slices between characters
-/

@[simp] theorem length_nil : length [] = 0 := rfl

@[simp] theorem length_cons (c : Char) (rest : List Char) :
    length (c :: rest) = c.utf8Size + length rest := rfl

theorem length_append (before after : List Char) :
    length (before ++ after) = length before + length after := by
  unfold length
  rw [List.map_append, List.sum_append]

theorem sliceFrom_append (before after : List Char) :
    sliceFrom (length before) (before ++ after) = some after := by
  induction before with
  | nil => cases after <;> rfl
  | cons c rest ih =>
      have hpos := c.utf8Size_pos
      rw [length_cons, List.cons_append,
        show c.utf8Size + length rest = c.utf8Size + length rest - 1 + 1 by lia, sliceFrom,
        if_pos (by lia), show c.utf8Size + length rest - 1 + 1 - c.utf8Size = length rest by lia]
      exact ih

theorem sliceTo_append (before after : List Char) :
    sliceTo (length before) (before ++ after) = some before := by
  induction before with
  | nil => cases after <;> rfl
  | cons c rest ih =>
      have hpos := c.utf8Size_pos
      rw [length_cons, List.cons_append,
        show c.utf8Size + length rest = c.utf8Size + length rest - 1 + 1 by lia, sliceTo,
        if_pos (by lia), show c.utf8Size + length rest - 1 + 1 - c.utf8Size = length rest by lia,
        ih]
      rfl

theorem slice_append (before middle after : List Char) :
    slice (length before) (length before + length middle) (before ++ (middle ++ after)) =
      some middle := by
  unfold slice
  rw [if_pos (Nat.le_add_right _ _), sliceFrom_append, Option.bind_some,
    Nat.add_sub_cancel_left, sliceTo_append]

/-!
# Occurrences
-/

theorem find_split {target : Char} {before : List Char} (h : target ∉ before)
    (after : List Char) : find target (before ++ target :: after) = some (length before) := by
  induction before with
  | nil => exact if_pos rfl
  | cons c rest ih =>
      rw [List.mem_cons, not_or] at h
      rw [List.cons_append, find, if_neg (fun heq => h.1 heq.symm), ih h.2]
      rfl

/-- A text has no occurrence, or it splits at the first one. -/
theorem find_cases (target : Char) (text : List Char) :
    find target text = none ∨
      exists before after, text = before ++ target :: after ∧ target ∉ before ∧
        find target text = some (length before) := by
  by_cases hmem : target ∈ text
  · rcases List.eq_append_cons_of_mem hmem with ⟨before, after, htext, hfirst⟩
    refine Or.inr ⟨before, after, htext, hfirst, ?_⟩
    rw [htext]
    exact find_split hfirst after
  · apply Or.inl
    induction text with
    | nil => rfl
    | cons c rest ih =>
        rw [List.mem_cons, not_or] at hmem
        rw [find, if_neg (fun heq => hmem.1 heq.symm), ih hmem.2]
        rfl

theorem rfind_eq_none {target : Char} {text : List Char} (h : target ∉ text) :
    rfind target text = none := by
  induction text with
  | nil => rfl
  | cons c rest ih =>
      rw [List.mem_cons, not_or] at h
      rw [rfind, ih h.2]
      exact if_neg (fun heq => h.1 heq.symm)

theorem rfind_split {target : Char} {after : List Char} (before : List Char)
    (h : target ∉ after) :
    rfind target (before ++ target :: after) = some (length before) := by
  induction before with
  | nil =>
      rw [List.nil_append, rfind, rfind_eq_none h]
      exact if_pos rfl
  | cons c rest ih =>
      rw [List.cons_append, rfind, ih]
      rfl

/-- A text has no occurrence, or it splits at the last one. -/
theorem rfind_cases (target : Char) (text : List Char) :
    rfind target text = none ∨
      exists before after, text = before ++ target :: after ∧ target ∉ after ∧
        rfind target text = some (length before) := by
  by_cases hmem : target ∈ text
  · rcases List.eq_append_cons_of_mem (List.mem_reverse.mpr hmem) with
      ⟨after, before, htext, hlast⟩
    have hsplit : text = before.reverse ++ target :: after.reverse := by
      rw [<- List.reverse_reverse text, htext]
      simp
    refine Or.inr ⟨before.reverse, after.reverse, hsplit, ?_, ?_⟩
    · rwa [List.mem_reverse]
    · rw [hsplit]
      exact rfind_split _ (by rwa [List.mem_reverse])
  · exact Or.inl (rfind_eq_none hmem)

/-!
# Bytes
-/

theorem length_bytes (text : List Char) : (bytes text).length = length text := by
  unfold bytes length
  rw [List.length_flatMap]
  congr 1
  apply List.map_congr_left
  intro c _
  exact String.length_utf8EncodeChar c

theorem bytes_append (before after : List Char) :
    bytes (before ++ after) = bytes before ++ bytes after := by
  unfold bytes
  exact List.flatMap_append

theorem getElem?_bytes_append (before after : List Char) :
    (bytes (before ++ after))[length before]? = (bytes after)[0]? := by
  rw [bytes_append, <- length_bytes, List.getElem?_append_right (Nat.le_refl _), Nat.sub_self]

/-- Only a colon begins with the byte of a colon. -/
theorem head_utf8EncodeChar {c : Char} (h : (String.utf8EncodeChar c)[0]? = some 58) :
    c = ':' := by
  have hfirst : forall {n : Nat} {rest : List UInt8},
      (UInt8.ofNat n :: rest)[0]? = some 58 -> n % 256 = 58 := by
    intro n rest hhead
    have hbyte := congrArg UInt8.toNat (Option.some.inj hhead)
    rwa [UInt8.toNat_ofNat'] at hbyte
  have hval : c.val.toNat = 58 := by
    unfold String.utf8EncodeChar at h
    simp only at h
    split at h
    · have hbyte := hfirst h
      lia
    · split at h
      · have hbyte := hfirst h
        lia
      · split at h
        · have hbyte := hfirst h
          lia
        · have hbyte := hfirst h
          lia
  apply Char.ext
  apply UInt32.toNat_inj.mp
  exact hval

theorem getElem?_bytes_zero {text : List Char} (h : (bytes text)[0]? = some 58) :
    exists rest, text = ':' :: rest := by
  cases text with
  | nil => cases h
  | cons c rest =>
      have hne : String.utf8EncodeChar c ≠ [] := String.utf8EncodeChar_ne_nil
      have hpos : 0 < (String.utf8EncodeChar c).length := List.length_pos_of_ne_nil hne
      unfold bytes at h
      rw [List.flatMap_cons, List.getElem?_append_left hpos] at h
      exact ⟨rest, by rw [head_utf8EncodeChar h]⟩

end Utf8
end Foundation
end Relayd
