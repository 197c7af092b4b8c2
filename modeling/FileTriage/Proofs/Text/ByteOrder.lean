/-
The order of texts is the order of their bytes.

Texts are compared character by character, by code points.  UTF-8 keeps that order: the leading byte
grows with the length, and among characters of one length the first byte in which they differ grows
with the code point (`utf8EncodeChar_lt`).  So texts compare as their bytes do.
-/
import FileTriage.Proofs.Text.Utf8

namespace FileTriage.Text.Utf8

section Bytes

variable {m n : Nat} {s t : List UInt8}

/-- The first byte decides between two sequences unless it is the same in both. -/
theorem ofNat_cons_lt (hm : m < 256) (hn : n < 256) (hle : m ≤ n) (hrest : m = n → s < t) :
    UInt8.ofNat m :: s < UInt8.ofNat n :: t := by
  rw [List.cons_lt_cons_iff, UInt8.lt_iff_toNat_lt, ← UInt8.toNat_inj, toNat_ofNat_of_lt hm,
    toNat_ofNat_of_lt hn]
  rcases Nat.lt_or_eq_of_le hle with hlt | heq
  · exact .inl hlt
  · exact .inr ⟨heq, hrest heq⟩

theorem ofNat_cons_lt_of_lt (hn : n < 256) (hlt : m < n) :
    UInt8.ofNat m :: s < UInt8.ofNat n :: t :=
  ofNat_cons_lt (Nat.lt_trans hlt hn) hn (Nat.le_of_lt hlt) fun heq =>
    absurd heq (Nat.ne_of_lt hlt)

/-- A continuation byte carries the last six bits, and decides in the same way. -/
theorem continuation_cons_lt (hle : m % 64 ≤ n % 64) (hrest : m % 64 = n % 64 → s < t) :
    continuation m :: s < continuation n :: t :=
  ofNat_cons_lt (by omega) (by omega) (by omega) fun heq => hrest (by omega)

end Bytes

/-- The bytes of a character come before those of every greater one, whatever follows. -/
theorem utf8EncodeChar_lt {c d : Char} (h : c < d) (s t : List UInt8) :
    String.utf8EncodeChar c ++ s < String.utf8EncodeChar d ++ t := by
  have hlt : c.toNat < d.toNat := h
  rcases utf8EncodeChar_cases c with ⟨hc, hbytes⟩ | ⟨hc, hc', hbytes⟩ | ⟨hc, hc', hbytes⟩ |
      ⟨hc, hc', hbytes⟩ <;>
    rcases utf8EncodeChar_cases d with ⟨hd, hbytes'⟩ | ⟨hd, hd', hbytes'⟩ | ⟨hd, hd', hbytes'⟩ |
      ⟨hd, hd', hbytes'⟩ <;>
    rw [hbytes, hbytes']
  -- the leading byte decides unless both have the same number of bytes, and more than one
  -- one byte
  · exact ofNat_cons_lt_of_lt (by omega) (by omega)
  · exact ofNat_cons_lt_of_lt (by omega) (by omega)
  · exact ofNat_cons_lt_of_lt (by omega) (by omega)
  · exact ofNat_cons_lt_of_lt (by omega) (by omega)
  -- two bytes
  · omega
  · exact ofNat_cons_lt (by omega) (by omega) (by omega) fun _ =>
      continuation_cons_lt (by omega) fun _ => by omega
  · exact ofNat_cons_lt_of_lt (by omega) (by omega)
  · exact ofNat_cons_lt_of_lt (by omega) (by omega)
  -- three bytes
  · omega
  · omega
  · exact ofNat_cons_lt (by omega) (by omega) (by omega) fun _ =>
      continuation_cons_lt (by omega) fun _ => continuation_cons_lt (by omega) fun _ => by omega
  · exact ofNat_cons_lt_of_lt (by omega) (by omega)
  -- four bytes
  · omega
  · omega
  · omega
  · exact ofNat_cons_lt (by omega) (by omega) (by omega) fun _ =>
      continuation_cons_lt (by omega) fun _ => continuation_cons_lt (by omega) fun _ =>
        continuation_cons_lt (by omega) fun _ => by omega

theorem flatMap_utf8EncodeChar_lt {chars others : List Char} (h : chars < others) :
    chars.flatMap String.utf8EncodeChar < others.flatMap String.utf8EncodeChar := by
  induction chars generalizing others with
  | nil =>
    cases others with
    | nil => exact absurd h (List.not_lt_nil [])
    | cons d others =>
      obtain ⟨b, bytes, hbytes⟩ := List.exists_cons_of_ne_nil (String.utf8EncodeChar_ne_nil (c := d))
      rw [List.flatMap_nil, List.flatMap_cons, hbytes, List.cons_append]
      exact List.nil_lt_cons b _
  | cons c chars ih =>
    cases others with
    | nil => exact absurd h (List.not_lt_nil _)
    | cons d others =>
      rw [List.flatMap_cons, List.flatMap_cons]
      rcases List.cons_lt_cons_iff.1 h with hlt | ⟨rfl, hlt⟩
      · exact utf8EncodeChar_lt hlt _ _
      · exact List.append_left_lt (ih hlt)

/-- A text comes before another exactly if its bytes do. -/
theorem encode_lt_iff {s t : String} : encode s < encode t ↔ s < t := by
  have hmono : ∀ {s t : String}, s < t → encode s < encode t := fun h =>
    flatMap_utf8EncodeChar_lt (String.lt_iff.1 h)
  refine ⟨fun hbytes => ?_, hmono⟩
  by_cases heq : s = t
  · exact absurd (heq ▸ hbytes) (List.lt_irrefl _)
  · refine Classical.byContradiction fun hnot => ?_
    -- otherwise the other text comes first, and so do its bytes
    have hle : t ≤ s := String.not_lt.1 hnot
    have hlt : t < s := Classical.byContradiction fun hnot' =>
      heq (String.le_antisymm (String.not_lt.1 hnot') hle)
    exact List.lt_asymm hbytes (hmono hlt)

end FileTriage.Text.Utf8
