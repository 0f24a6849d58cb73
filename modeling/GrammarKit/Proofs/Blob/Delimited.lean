import GrammarKit.Proofs.Blob.Codec

/-!
# Written forms that tell where they end

A reader takes bytes off the front of a blob and does not look behind them. If it finds a
value or refuses a byte, it does the same when more bytes follow; only if it runs out of
bytes they matter (`Reader.Incremental`).

A codec is delimited (`Codec.Delimited`) if its reader is incremental and stops where the
written form stops, whatever the value is. This holds also of values that the codec does
not read back: a number may be refused for its size, a set comes back in another order, but
no reader goes on into the bytes behind. Every way to combine codecs keeps it.

So no codec reads a form that was cut off (`Delimited.exists_error_of_prefix`), and if it
would have read the whole, the end of the bytes is all that it complains about
(`Delimited.read_prefix`).
-/
namespace GrammarKit

namespace Reader

variable {α β : Type}

/-- Unless the reader runs out of bytes, more of them change nothing, and are left over. -/
def Incremental (r : Reader α) : Prop :=
  ∀ bs ext, r bs ≠ .error .unexpectedEnd → r (bs ++ ext) = (r bs).map fun p => (p.1, p.2 ++ ext)

theorem incremental_pure (a : α) : (pure a).Incremental := fun _ _ _ => rfl

theorem incremental_fail (e : BlobError) : (fail e : Reader α).Incremental := fun _ _ _ => rfl

theorem incremental_byte : byte.Incremental := by
  intro bs ext h
  cases bs with
  | nil => exact absurd rfl h
  | cons b bs => rfl

theorem incremental_take (n : Nat) : (take n).Incremental := by
  intro bs ext h
  unfold take at h ⊢
  by_cases hn : n ≤ bs.length
  · have hlen : n ≤ (bs ++ ext).length := by rw [List.length_append]; omega
    rw [if_pos hn, if_pos hlen, List.take_append_of_le_length hn, List.drop_append_of_le_length hn]
    rfl
  · rw [if_neg hn] at h
    exact absurd rfl h

variable {r : Reader α} {f : α → Reader β}

theorem Incremental.bind (hr : r.Incremental) (hf : ∀ a, (f a).Incremental) :
    (r.bind f).Incremental := by
  intro bs ext h
  have hext := hr bs ext
  unfold Reader.bind at h ⊢
  cases hbs : r bs with
  | error e =>
    rw [hbs] at h hext
    have hne : (Except.error e : Except BlobError (α × List UInt8)) ≠ .error .unexpectedEnd := by
      rintro ⟨⟩
      exact h rfl
    rw [hext hne]
    rfl
  | ok p =>
    rw [hbs] at h hext
    rw [hext (by simp)]
    exact hf p.1 p.2 ext h

theorem Incremental.map (hr : r.Incremental) (g : α → β) : (r.map g).Incremental :=
  hr.bind fun a => incremental_pure (g a)

theorem Incremental.replicate (hr : r.Incremental) (n : Nat) : (r.replicate n).Incremental := by
  induction n with
  | zero => exact incremental_pure []
  | succ n ih => exact hr.bind fun a => ih.map (a :: ·)

theorem incremental_varint (last n : Nat) : (varint last n).Incremental := by
  induction n with
  | zero => exact incremental_fail _
  | succ n ih =>
    refine incremental_byte.bind fun b => ?_
    split
    · split
      · exact incremental_fail _
      · exact incremental_pure _
    · exact ih.map _

/-- A reader that gets along with some bytes gets nowhere with less than it needs of them. -/
theorem Incremental.read_prefix (hr : r.Incremental) {front back rest : List UInt8} {a : α}
    (h : r (front ++ back) = .ok (a, rest)) (hlt : rest.length < back.length) :
    r front = .error .unexpectedEnd := by
  by_contra hne
  have hext := hr front back hne
  rw [h] at hext
  cases hfront : r front with
  | error e =>
    rw [hfront] at hext
    cases hext
  | ok p =>
    rw [hfront] at hext
    cases hext
    rw [List.length_append] at hlt
    omega

end Reader

/-- If reading a number succeeds, it finds the one that was written. -/
theorem eq_of_varint_varintBytes {last k n m : Nat} {rest left : List UInt8}
    (h : Reader.varint last k (varintBytes n ++ rest) = .ok (m, left)) : m = n ∧ left = rest := by
  induction k generalizing n m with
  | zero => cases h
  | succ k ih =>
    by_cases hn : n < 128
    · have hbyte := toNat_toUInt8 (show n < 256 by omega)
      rw [varintBytes_of_lt hn, List.singleton_append, varint_cons, hbyte, if_pos hn] at h
      split at h
      · cases h
      · cases h
        exact ⟨rfl, rfl⟩
    · have hbyte := toNat_toUInt8 (show n % 128 + 128 < 256 by omega)
      rw [varintBytes_of_ge (by omega), List.cons_append, varint_cons, hbyte,
        if_neg (by omega)] at h
      obtain ⟨q, hq, rfl⟩ := Reader.map_ok_iff.mp h
      obtain ⟨rfl, rfl⟩ := ih hq
      exact ⟨by omega, rfl⟩

namespace Codec

variable {α β : Type}

/-- The reader does not look ahead, and stops where the written form of a value stops. -/
structure Delimited (c : Codec α) : Prop where
  incremental : c.read.Incremental
  stops : ∀ a b rest left, c.read (c.write a ++ rest) = .ok (b, left) → left = rest

theorem delimited_word : Delimited word :=
  ⟨Reader.incremental_varint _ _, fun _ _ _ _ h => (eq_of_varint_varintBytes h).2⟩

theorem delimited_bool : Delimited bool where
  incremental := by
    refine Reader.incremental_byte.bind fun b => ?_
    split
    · exact Reader.incremental_pure _
    split
    · exact Reader.incremental_pure _
    · exact Reader.incremental_fail _
  stops := by
    intro a b rest left h
    cases a with
    | false =>
      cases h
      rfl
    | true =>
      cases h
      rfl

section Combinations

variable {c : Codec α} {d : Codec β}

theorem Delimited.option (hc : c.Delimited) : (option c).Delimited where
  incremental := by
    refine Reader.incremental_byte.bind fun b => ?_
    split
    · exact Reader.incremental_pure _
    split
    · exact hc.incremental.map some
    · exact Reader.incremental_fail _
  stops := by
    intro o b rest left h
    cases o with
    | none =>
      cases h
      rfl
    | some a =>
      have h : c.read.map some (c.write a ++ rest) = .ok (b, left) := h
      obtain ⟨b', hread, -⟩ := Reader.map_ok_iff.mp h
      exact hc.stops a b' rest left hread

theorem Delimited.pair (hc : c.Delimited) (hd : d.Delimited) : (pair c d).Delimited where
  incremental := hc.incremental.bind fun a => hd.incremental.map fun b => (a, b)
  stops := by
    intro p b rest left h
    have h : (c.read.bind fun a => d.read.map fun b => (a, b))
        ((c.write p.1 ++ d.write p.2) ++ rest) = .ok (b, left) := h
    rw [List.append_assoc] at h
    obtain ⟨a', mid, hfirst, h⟩ := Reader.bind_ok_iff.mp h
    obtain ⟨b', hsecond, -⟩ := Reader.map_ok_iff.mp h
    rw [hc.stops _ _ _ _ hfirst] at hsecond
    exact hd.stops _ _ _ _ hsecond

theorem Delimited.via (hd : d.Delimited) (form : α → β) (value : β → α) :
    (via d form value).Delimited where
  incremental := hd.incremental.map value
  stops := by
    intro a b rest left h
    obtain ⟨b', hread, -⟩ := Reader.map_ok_iff.mp h
    exact hd.stops _ _ _ _ hread

theorem Delimited.replicate (hc : c.Delimited) {as bs : List α} {rest left : List UInt8}
    (h : c.read.replicate as.length (as.flatMap c.write ++ rest) = .ok (bs, left)) :
    left = rest := by
  induction as generalizing bs with
  | nil =>
    cases h
    rfl
  | cons a as ih =>
    rw [List.flatMap_cons, List.append_assoc] at h
    obtain ⟨a', mid, hfirst, h⟩ := Reader.bind_ok_iff.mp h
    obtain ⟨bs', hothers, -⟩ := Reader.map_ok_iff.mp h
    rw [hc.stops _ _ _ _ hfirst] at hothers
    exact ih hothers

theorem Delimited.list (hc : c.Delimited) : (list c).Delimited where
  incremental := (Reader.incremental_varint _ _).bind fun n => hc.incremental.replicate n
  stops := by
    intro as bs rest left h
    have h : (length.read.bind c.read.replicate)
        ((length.write as.length ++ as.flatMap c.write) ++ rest) = .ok (bs, left) := h
    rw [List.append_assoc] at h
    obtain ⟨n, mid, hn, h⟩ := Reader.bind_ok_iff.mp h
    obtain ⟨rfl, rfl⟩ := eq_of_varint_varintBytes hn
    exact hc.replicate h

theorem delimited_string : Delimited string where
  incremental := by
    refine (Reader.incremental_varint _ _).bind fun n => (Reader.incremental_take n).bind fun bs => ?_
    split
    · exact Reader.incremental_pure _
    · exact Reader.incremental_fail _
  stops := by
    intro s b rest left h
    have h : string.read ((length.write s.utf8ByteSize ++ s.toUTF8.toList) ++ rest) =
        .ok (b, left) := h
    rw [List.append_assoc, toList_toUTF8] at h
    obtain ⟨n, mid, hn, h⟩ := Reader.bind_ok_iff.mp h
    obtain ⟨rfl, rfl⟩ := eq_of_varint_varintBytes hn
    obtain ⟨bytes, mid, htake, h⟩ := Reader.bind_ok_iff.mp h
    have hlen : s.toByteArray.data.toList.length = s.utf8ByteSize := rfl
    have hmid : mid = rest := by
      rw [Reader.take, if_pos (by rw [List.length_append]; omega), ← hlen, List.take_left,
        List.drop_left] at htake
      cases htake
      rfl
    cases hs : String.fromUTF8? ⟨bytes.toArray⟩ with
    | none =>
      rw [hs] at h
      cases h
    | some s' =>
      rw [hs] at h
      cases h
      exact hmid

/-- Alternatives that are told apart by their number. -/
theorem delimited_tagged {tag : α → Nat} {fields : α → List UInt8}
    {alternative : Nat → Option (Reader α)}
    (hincremental : ∀ t r, alternative t = some r → r.Incremental)
    (hstops : ∀ a r, alternative (tag a) = some r →
      ∀ b rest left, r (fields a ++ rest) = .ok (b, left) → left = rest) :
    (tagged tag fields alternative).Delimited where
  incremental := by
    refine (Reader.incremental_varint _ _).bind fun t => ?_
    cases hr : alternative t with
    | none => exact Reader.incremental_fail _
    | some r => exact hincremental t r hr
  stops := by
    intro a b rest left h
    have h : (word.read.bind fun t => (alternative t).getD (Reader.fail .unknownVariant))
        ((word.write (tag a) ++ fields a) ++ rest) = .ok (b, left) := h
    rw [List.append_assoc] at h
    obtain ⟨t, mid, ht, h⟩ := Reader.bind_ok_iff.mp h
    obtain ⟨rfl, rfl⟩ := eq_of_varint_varintBytes ht
    cases hr : alternative (tag a) with
    | none =>
      rw [hr] at h
      cases h
    | some r =>
      rw [hr] at h
      exact hstops a r hr b rest left h

/-! ## Forms that were cut off -/

variable {front : List UInt8} {a : α}

/-- Less than the written form of a value is not read. -/
theorem Delimited.exists_error_of_prefix (hc : c.Delimited) (h : front <+: c.write a)
    (hne : front ≠ c.write a) : ∃ e, c.read front = .error e := by
  obtain ⟨back, hback⟩ := h
  cases hfront : c.read front with
  | error e => exact ⟨e, rfl⟩
  | ok p =>
    -- the same value would be read from the whole form, with the part that was cut off left over
    have hwhole := hc.incremental front back (by simp [hfront])
    rw [hfront, hback] at hwhole
    have hleft := hc.stops a p.1 [] (p.2 ++ back) (by rw [List.append_nil]; exact hwhole)
    rw [(List.append_eq_nil_iff.mp hleft).2, List.append_nil] at hback
    exact absurd hback hne

/-- If the value would be read back, the bytes have come to their end. -/
theorem Delimited.read_prefix {P : α → Prop} (hc : c.Delimited) (hfaithful : c.Faithful P)
    (ha : P a) (h : front <+: c.write a) (hne : front ≠ c.write a) :
    c.read front = .error .unexpectedEnd := by
  obtain ⟨back, hback⟩ := h
  have hwhole := hfaithful.read_write a [] ha
  rw [List.append_nil, ← hback] at hwhole
  refine hc.incremental.read_prefix hwhole (List.length_pos_iff.mpr ?_)
  rintro rfl
  exact hne (by rw [← hback, List.append_nil])

end Combinations
end Codec
end GrammarKit
