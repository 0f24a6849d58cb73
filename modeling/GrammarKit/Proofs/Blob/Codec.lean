import GrammarKit.Blob.Codec
import Mathlib.Algebra.Order.Ring.Nat

/-!
# Faithful codecs

A codec is faithful to some values (`Faithful`) if it reads back what it writes of
them, whatever stands behind, and reads nothing else. Every way to combine codecs
keeps this, so a codec is faithful by its parts.

The bound on a number comes from the bytes and the last byte that reading it
allows: below `2 ^ 32` for a word, below `2 ^ 64` for a length.
-/
namespace GrammarKit

namespace Reader

variable {α β : Type} {r : Reader α} {bs rest : List UInt8} {a : α}

theorem bind_of_ok {f : α → Reader β} (h : r bs = .ok (a, rest)) : r.bind f bs = f a rest := by
  rw [bind, h]

theorem bind_ok_iff {f : α → Reader β} {b : β} : r.bind f bs = .ok (b, rest) ↔
    ∃ a mid, r bs = .ok (a, mid) ∧ f a mid = .ok (b, rest) := by
  unfold bind
  cases r bs with
  | error e => simp
  | ok p =>
    constructor
    · intro h
      exact ⟨p.1, p.2, rfl, h⟩
    · intro h
      obtain ⟨a, mid, heq, h⟩ := h
      cases heq
      exact h

theorem map_of_ok {f : α → β} (h : r bs = .ok (a, rest)) : r.map f bs = .ok (f a, rest) :=
  bind_of_ok h

theorem map_ok_iff {f : α → β} {b : β} :
    r.map f bs = .ok (b, rest) ↔ ∃ a, r bs = .ok (a, rest) ∧ f a = b := by
  unfold map
  rw [bind_ok_iff]
  constructor
  · intro h
    obtain ⟨a, mid, h, heq⟩ := h
    cases heq
    exact ⟨a, h, rfl⟩
  · intro h
    obtain ⟨a, h, rfl⟩ := h
    exact ⟨a, rest, h, rfl⟩

end Reader

/-! ## Numbers -/

theorem varintBytes_of_lt {n : Nat} (h : n < 128) : varintBytes n = [n.toUInt8] := by
  rw [varintBytes, if_pos h]

theorem varintBytes_of_ge {n : Nat} (h : 128 ≤ n) :
    varintBytes n = (n % 128 + 128).toUInt8 :: varintBytes (n / 128) := by
  rw [varintBytes, if_neg (by omega)]

theorem toNat_toUInt8 {n : Nat} (h : n < 256) : n.toUInt8.toNat = n :=
  Nat.mod_eq_of_lt h

/-- Reading a number goes on after a byte with the high bit. -/
theorem varint_cons (last n : Nat) (b : UInt8) (bs : List UInt8) :
    Reader.varint last (n + 1) (b :: bs) =
      if b.toNat < 128 then
        if n = 0 ∧ b.toNat > last then .error .badVarint else .ok (b.toNat, bs)
      else (Reader.varint last n).map (fun m => b.toNat - 128 + 128 * m) bs := by
  rw [Reader.varint, Reader.bind_of_ok (r := Reader.byte) rfl]
  split
  · split
    · rfl
    · rfl
  · rfl

/-- A number within the bounds of `k + 1` bytes is read back. -/
theorem varint_varintBytes {last : Nat} (hlast : last < 128) {k n : Nat}
    (h : n < (last + 1) * 128 ^ k) (rest : List UInt8) :
    Reader.varint last (k + 1) (varintBytes n ++ rest) = .ok (n, rest) := by
  induction k generalizing n with
  | zero =>
    have hn : n < 128 := by omega
    have hbyte := toNat_toUInt8 (show n < 256 by omega)
    rw [varintBytes_of_lt hn, List.singleton_append, varint_cons, hbyte, if_pos hn,
      if_neg (by omega)]
  | succ k ih =>
    by_cases hn : n < 128
    · have hbyte := toNat_toUInt8 (show n < 256 by omega)
      rw [varintBytes_of_lt hn, List.singleton_append, varint_cons, hbyte, if_pos hn,
        if_neg (by omega)]
    · have hbyte := toNat_toUInt8 (show n % 128 + 128 < 256 by omega)
      have hrest : n / 128 < (last + 1) * 128 ^ k := by
        rw [Nat.div_lt_iff_lt_mul (by decide), Nat.mul_assoc, ← Nat.pow_succ]
        exact h
      rw [varintBytes_of_ge (by omega), List.cons_append, varint_cons, hbyte, if_neg (by omega),
        Reader.map_of_ok (ih hrest), Nat.add_sub_cancel, Nat.mod_add_div]

/-- Reading `k + 1` bytes gives a number within their bounds. -/
theorem lt_of_varint {last k n : Nat} {bs rest : List UInt8}
    (h : Reader.varint last (k + 1) bs = .ok (n, rest)) : n < (last + 1) * 128 ^ k := by
  induction k generalizing n bs rest with
  | zero =>
    cases bs with
    | nil => cases h
    | cons b bs =>
      rw [varint_cons] at h
      split at h
      · split at h
        · cases h
        · cases h
          omega
      · obtain ⟨m, h, -⟩ := Reader.map_ok_iff.mp h
        cases h
  | succ k ih =>
    cases bs with
    | nil => cases h
    | cons b bs =>
      have hb := b.toNat_lt
      have hpos : 1 ≤ (last + 1) * 128 ^ k :=
        Nat.mul_pos (Nat.succ_pos last) (Nat.pow_pos (by decide))
      rw [varint_cons] at h
      rw [Nat.pow_succ, ← Nat.mul_assoc]
      split at h
      · split at h
        · cases h
        · cases h
          omega
      · obtain ⟨m, hm, rfl⟩ := Reader.map_ok_iff.mp h
        have := ih hm
        omega

namespace Codec

variable {α β : Type}

/-- The codec reads back what it writes of the values `P`, and reads only such values. -/
structure Faithful (c : Codec α) (P : α → Prop) : Prop where
  read_write : ∀ a rest, P a → c.read (c.write a ++ rest) = .ok (a, rest)
  of_read : ∀ bs a rest, c.read bs = .ok (a, rest) → P a

/-- A number that fits into four bytes. -/
def Word (n : Nat) : Prop := n < 2 ^ 32

/-- A number that fits into eight bytes. -/
def Length (n : Nat) : Prop := n < 2 ^ 64

instance (n : Nat) : Decidable (Word n) := inferInstanceAs (Decidable (n < 2 ^ 32))

instance (n : Nat) : Decidable (Length n) := inferInstanceAs (Decidable (n < 2 ^ 64))

/-- As many things as there are words to number them can be listed. -/
theorem length_of_le {n : Nat} (h : n ≤ 2 ^ 32) : Length n :=
  Nat.lt_of_le_of_lt h (by decide)

/-- A string whose size is a length. -/
def Short (s : String) : Prop := Length s.utf8ByteSize

instance (s : String) : Decidable (Short s) := inferInstanceAs (Decidable (Length _))

/-- A list whose size is a length, and what holds of its elements. -/
structure Each {α : Type} (P : α → Prop) (as : List α) : Prop where
  size : Length as.length
  all : ∀ a ∈ as, P a

instance {α : Type} {P : α → Prop} [DecidablePred P] (as : List α) : Decidable (Each P as) :=
  decidable_of_iff (Length as.length ∧ ∀ a ∈ as, P a)
    ⟨fun h => ⟨h.1, h.2⟩, fun h => ⟨h.size, h.all⟩⟩

theorem faithful_word : Faithful word Word :=
  ⟨fun _ rest h => varint_varintBytes (k := 4) (by decide) h rest,
    fun _ _ _ h => lt_of_varint (k := 4) h⟩

theorem faithful_length : Faithful length Length :=
  ⟨fun _ rest h => varint_varintBytes (k := 9) (by decide) h rest,
    fun _ _ _ h => lt_of_varint (k := 9) h⟩

theorem faithful_bool : Faithful bool fun _ => True :=
  ⟨fun b _ _ => by cases b <;> rfl, fun _ _ _ _ => trivial⟩

/-! ## Combinations -/

section Combinations

variable {c : Codec α} {d : Codec β} {P : α → Prop} {Q : β → Prop}

theorem Faithful.option (hc : c.Faithful P) : (option c).Faithful fun o => ∀ a ∈ o, P a where
  read_write := by
    intro o rest h
    cases o with
    | none => rfl
    | some a => exact Reader.map_of_ok (hc.read_write a rest (h a rfl))
  of_read := by
    intro bs o rest h
    obtain ⟨b, mid, -, h⟩ := Reader.bind_ok_iff.mp h
    split at h
    · cases h
      simp
    split at h
    · obtain ⟨a, ha, rfl⟩ := Reader.map_ok_iff.mp h
      simpa using hc.of_read _ _ _ ha
    · cases h

theorem Faithful.pair (hc : c.Faithful P) (hd : d.Faithful Q) :
    (pair c d).Faithful fun p => P p.1 ∧ Q p.2 where
  read_write := by
    intro p rest h
    show (c.read.bind _) ((c.write p.1 ++ d.write p.2) ++ rest) = _
    rw [List.append_assoc, Reader.bind_of_ok (hc.read_write p.1 _ h.1)]
    exact Reader.map_of_ok (hd.read_write p.2 rest h.2)
  of_read := by
    intro bs p rest h
    obtain ⟨a, mid, ha, h⟩ := Reader.bind_ok_iff.mp h
    obtain ⟨b, hb, rfl⟩ := Reader.map_ok_iff.mp h
    exact ⟨hc.of_read _ _ _ ha, hd.of_read _ _ _ hb⟩

/-- Values in the form of others. -/
theorem Faithful.via (hd : d.Faithful Q) {form : α → β} {value : β → α}
    (hform : ∀ a, P a → Q (form a) ∧ value (form a) = a) (hvalue : ∀ b, Q b → P (value b)) :
    (via d form value).Faithful P where
  read_write := by
    intro a rest h
    obtain ⟨hq, heq⟩ := hform a h
    have hread := Reader.map_of_ok (f := value) (hd.read_write (form a) rest hq)
    rwa [heq] at hread
  of_read := by
    intro bs a rest h
    obtain ⟨b, hb, rfl⟩ := Reader.map_ok_iff.mp h
    exact hvalue b (hd.of_read _ _ _ hb)

theorem Faithful.replicate (hc : c.Faithful P) {as : List α} (h : ∀ a ∈ as, P a)
    (rest : List UInt8) :
    c.read.replicate as.length (as.flatMap c.write ++ rest) = .ok (as, rest) := by
  induction as with
  | nil => rfl
  | cons a as ih =>
    obtain ⟨ha, has⟩ := List.forall_mem_cons.mp h
    rw [List.flatMap_cons, List.append_assoc, List.length_cons, Reader.replicate,
      Reader.bind_of_ok (hc.read_write a _ ha)]
    exact Reader.map_of_ok (ih has)

theorem Faithful.of_replicate (hc : c.Faithful P) {n : Nat} {bs rest : List UInt8} {as : List α}
    (h : c.read.replicate n bs = .ok (as, rest)) : as.length = n ∧ ∀ a ∈ as, P a := by
  induction n generalizing bs as with
  | zero =>
    cases h
    exact ⟨rfl, by simp⟩
  | succ n ih =>
    obtain ⟨a, mid, ha, h⟩ := Reader.bind_ok_iff.mp h
    obtain ⟨as', has, rfl⟩ := Reader.map_ok_iff.mp h
    obtain ⟨hlen, hall⟩ := ih has
    exact ⟨congrArg (· + 1) hlen, List.forall_mem_cons.mpr ⟨hc.of_read _ _ _ ha, hall⟩⟩

theorem Faithful.list (hc : c.Faithful P) : (list c).Faithful (Each P) where
  read_write := by
    intro as rest h
    show (length.read.bind _) ((length.write as.length ++ as.flatMap c.write) ++ rest) = _
    rw [List.append_assoc, Reader.bind_of_ok (faithful_length.read_write _ _ h.size)]
    exact hc.replicate h.all rest
  of_read := by
    intro bs as rest h
    obtain ⟨n, mid, hn, h⟩ := Reader.bind_ok_iff.mp h
    obtain ⟨rfl, hall⟩ := hc.of_replicate h
    exact ⟨faithful_length.of_read _ _ _ hn, hall⟩

/-- Alternatives that are told apart by their number. -/
theorem faithful_tagged {tag : α → Nat} {fields : α → List UInt8}
    {alternative : Nat → Option (Reader α)}
    (hwrite : ∀ a, P a → Word (tag a) ∧ ∃ r, alternative (tag a) = some r ∧
      ∀ rest, r (fields a ++ rest) = .ok (a, rest))
    (hread : ∀ t r, alternative t = some r → ∀ bs a rest, r bs = .ok (a, rest) → P a) :
    (tagged tag fields alternative).Faithful P where
  read_write := by
    intro a rest h
    obtain ⟨htag, r, hr, hfields⟩ := hwrite a h
    show (word.read.bind _) ((word.write (tag a) ++ fields a) ++ rest) = _
    rw [List.append_assoc, Reader.bind_of_ok (faithful_word.read_write _ _ htag), hr]
    exact hfields rest
  of_read := by
    intro bs a rest h
    obtain ⟨t, mid, -, h⟩ := Reader.bind_ok_iff.mp h
    cases hr : alternative t with
    | none =>
      rw [hr] at h
      cases h
    | some r =>
      rw [hr] at h
      exact hread t r hr _ _ _ h

end Combinations

/-! ## Strings -/

theorem toList_loop_eq (b : ByteArray) (i : Nat) (bytes : List UInt8) :
    ByteArray.toList.loop b i bytes = bytes.reverse ++ b.data.toList.drop i := by
  fun_induction ByteArray.toList.loop b i bytes with
  | case1 i bytes hlt ih =>
    have hlt : i < b.data.toList.length := hlt
    have hget : b.get! i = b.data.toList[i] := getElem!_pos b.data i hlt
    rw [ih, List.drop_eq_getElem_cons hlt, List.reverse_cons, List.append_assoc, hget,
      List.singleton_append]
  | case2 i bytes hge =>
    have hge : b.data.toList.length ≤ i := Nat.le_of_not_lt hge
    rw [List.drop_of_length_le hge, List.append_nil]

/-- The bytes of a string. -/
theorem toList_toUTF8 (s : String) : s.toUTF8.toList = s.toByteArray.data.toList := by
  rw [String.toUTF8_eq_toByteArray, ByteArray.toList, toList_loop_eq]
  rfl

theorem fromUTF8?_toByteArray (s : String) : String.fromUTF8? s.toByteArray = some s := by
  rw [String.fromUTF8?, dif_pos s.isValidUTF8]
  rfl

theorem size_of_fromUTF8? {b : ByteArray} {s : String} (h : String.fromUTF8? b = some s) :
    s.utf8ByteSize = b.size := by
  unfold String.fromUTF8? at h
  split at h
  · cases h
    rfl
  · cases h

theorem faithful_string : Faithful string Short where
  read_write := by
    intro s rest h
    have hlen : s.toByteArray.data.toList.length = s.utf8ByteSize := rfl
    have htake : Reader.take s.utf8ByteSize (s.toByteArray.data.toList ++ rest) =
        .ok (s.toByteArray.data.toList, rest) := by
      rw [Reader.take, if_pos (by rw [List.length_append]; omega), ← hlen, List.take_left,
        List.drop_left]
    show (length.read.bind _) ((length.write s.utf8ByteSize ++ s.toUTF8.toList) ++ rest) = _
    rw [List.append_assoc, Reader.bind_of_ok (faithful_length.read_write _ _ h), toList_toUTF8,
      Reader.bind_of_ok htake, Array.toArray_toList, fromUTF8?_toByteArray]
    rfl
  of_read := by
    intro bs s rest h
    obtain ⟨n, mid, hn, h⟩ := Reader.bind_ok_iff.mp h
    obtain ⟨bytes, mid', htake, h⟩ := Reader.bind_ok_iff.mp h
    have hlen : bytes.length = n := by
      unfold Reader.take at htake
      split at htake
      · next hle =>
        cases htake
        exact List.length_take_of_le hle
      · cases htake
    cases hs : String.fromUTF8? ⟨bytes.toArray⟩ with
    | none =>
      rw [hs] at h
      cases h
    | some s' =>
      rw [hs] at h
      cases h
      have hsize : s.utf8ByteSize = bytes.toArray.size := size_of_fromUTF8? hs
      rw [Short, hsize, List.size_toArray, hlen]
      exact faithful_length.of_read _ _ _ hn

end Codec
end GrammarKit
