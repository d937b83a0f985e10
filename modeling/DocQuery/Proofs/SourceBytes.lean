import DocQuery.Text.Position
import DocQuery.Text.Utf8
import Mathlib

/-!
# DocQuery.Proofs.SourceBytes

The bytes of a source, character by character. Places count bytes and lines are found by newline
bytes, while everything else reads characters; the two views meet here:

* `bytes_eq_flatMap` — the bytes of a text are those of its characters in order;
* `count_newlineByte` — no character but the newline has a newline byte in it;
* `lineBytes_count` — behind whole lines of bytes the next line starts;
* `lineBytes_of_count` and `lineBytes_beyond` — where the line after `n` newlines starts, for a text
  that is cut in two.
-/

namespace DocQuery.Text

/-- What is left of a list behind everything up to an element starts with that element, unless
nothing is left. -/
theorem dropWhile_bne_cases {α : Type} [BEq α] [LawfulBEq α] (a : α) (l : List α) :
    l.dropWhile (· != a) = [] ∨ ∃ rest, l.dropWhile (· != a) = a :: rest := by
  cases hdrop : l.dropWhile (· != a) with
  | nil => exact .inl rfl
  | cons b rest =>
      have hb := List.head_dropWhile_not (p := (· != a)) (l := l) (by rw [hdrop]; simp)
      simp only [hdrop, List.head_cons, bne_eq_false_iff_eq] at hb
      exact .inr ⟨rest, by rw [hb]⟩

/-! ### Byte arrays as lists -/

/-- The loop behind `ByteArray.toList` appends the bytes from `i` on. -/
theorem toList_loop (bytes : ByteArray) (i : Nat) (done : List UInt8) :
    ByteArray.toList.loop bytes i done = done.reverse ++ bytes.data.toList.drop i := by
  fun_induction ByteArray.toList.loop bytes i done with
  | case1 i done hi ih =>
      have hlen : i < bytes.data.toList.length := by simpa using hi
      have hget : bytes.get! i = bytes.data.toList.get ⟨i, hlen⟩ := by
        change bytes.data[i]! = _
        rw [getElem!_pos bytes.data i hi]
        rfl
      rw [ih, List.drop_eq_getElem_cons hlen, List.reverse_cons, List.append_assoc, hget]
      rfl
  | case2 i done hi =>
      have hlen : bytes.data.toList.length ≤ i := by simpa using hi
      rw [List.drop_eq_nil_of_le hlen, List.append_nil]

theorem toList_eq_data (bytes : ByteArray) : bytes.toList = bytes.data.toList :=
  toList_loop bytes 0 []

/-- The bytes of a text are those of its characters. -/
theorem bytes_eq_flatMap (src : String) : bytes src = src.toList.flatMap charBytes := by
  have hencode : src.toUTF8 = (src.toList.flatMap String.utf8EncodeChar).toByteArray := by
    conv => lhs; rw [← String.ofList_toList (s := src)]
    rw [String.toUTF8_eq_toByteArray, String.toByteArray_ofList, List.utf8Encode]
  rw [bytes, hencode, toList_eq_data, List.toList_data_toByteArray]
  rfl

theorem length_flatMap_charBytes (cs : List Char) :
    (cs.flatMap charBytes).length = byteLength cs := by
  induction cs with
  | nil => rfl
  | cons c cs ih =>
      rw [List.flatMap_cons, List.length_append, ih, byteLength_cons, charBytes,
        String.length_utf8EncodeChar]

theorem length_bytes (src : String) : (bytes src).length = byteLength src.toList := by
  rw [bytes_eq_flatMap, length_flatMap_charBytes]

/-! ### Newline bytes -/

/-- A byte of a character is the character itself, or it has its highest bit set. -/
theorem toNat_of_mem_charBytes {c : Char} {b : UInt8} (hb : b ∈ charBytes c) :
    b.toNat = c.val.toNat ∨ 128 ≤ b.toNat := by
  have htoNat (n : Nat) : (UInt8.ofNat n).toNat = n % 256 := UInt8.toNat_ofNat'
  unfold charBytes String.utf8EncodeChar at hb
  dsimp only at hb
  split at hb
  · rw [List.mem_singleton] at hb
    subst hb
    have := htoNat c.val.toNat
    omega
  · -- a leading byte of a longer form, and those that continue it, are at least 128
    right
    split at hb
    · simp only [List.mem_cons, List.not_mem_nil, or_false] at hb
      rcases hb with rfl | rfl <;> rw [htoNat] <;> omega
    · split at hb
      · simp only [List.mem_cons, List.not_mem_nil, or_false] at hb
        rcases hb with rfl | rfl | rfl <;> rw [htoNat] <;> omega
      · simp only [List.mem_cons, List.not_mem_nil, or_false] at hb
        rcases hb with rfl | rfl | rfl | rfl <;> rw [htoNat] <;> omega

theorem newlineByte_not_mem {c : Char} (hc : c ≠ '\n') : newlineByte ∉ charBytes c := by
  intro hmem
  rcases toNat_of_mem_charBytes hmem with h | h
  · exact hc (Char.ext (UInt32.toNat_inj.1 h.symm))
  · exact absurd h (by decide)

/-- A text has as many newline bytes as newlines. -/
theorem count_newlineByte (cs : List Char) :
    (cs.flatMap charBytes).count newlineByte = cs.count '\n' := by
  induction cs with
  | nil => rfl
  | cons c cs ih =>
      rw [List.flatMap_cons, List.count_append, ih, List.count_cons]
      by_cases hc : c = '\n'
      · subst hc
        have hone : (charBytes '\n').count newlineByte = 1 := by decide
        rw [hone, beq_self_eq_true, if_pos rfl, Nat.add_comm]
      · rw [List.count_eq_zero.2 (newlineByte_not_mem hc), if_neg (by simpa using hc), Nat.zero_add,
          Nat.add_zero]

/-! ### Where a line starts -/

/-- Newlines that a first part holds need not be looked for in the second. -/
theorem lineBytes_append {before : List UInt8} {n : Nat} (h : before.count newlineByte < n)
    (rest : List UInt8) : lineBytes n (before ++ rest) =
      (lineBytes (n - before.count newlineByte) rest).map (· + before.length) := by
  induction before generalizing n with
  | nil => simp
  | cons b before ih =>
      cases n with
      | zero => omega
      | succ n =>
          by_cases hb : b = newlineByte
          · subst hb
            rw [List.count_cons_self] at h ⊢
            rw [List.cons_append, lineBytes, if_pos rfl, ih (by omega), Option.map_map,
              Nat.add_sub_add_right]
            rfl
          · rw [List.count_cons_of_ne hb] at h ⊢
            rw [List.cons_append, lineBytes, if_neg hb, ih h, Option.map_map]
            rfl

theorem pos_of_lineBytes {n s : Nat} {bs : List UInt8} (h : lineBytes (n + 1) bs = some s) :
    0 < s := by
  cases bs with
  | nil => cases h
  | cons b rest =>
      rw [lineBytes] at h
      split at h
      · obtain ⟨m, -, rfl⟩ := Option.map_eq_some_iff.1 h
        omega
      · obtain ⟨m, -, rfl⟩ := Option.map_eq_some_iff.1 h
        omega

/-- Bytes that are whole lines, each with its newline. -/
def WholeLines (lines : List UInt8) : Prop := lines = [] ∨ ∃ ls, lines = ls ++ [newlineByte]

/-- Behind whole lines the next one starts. -/
theorem lineBytes_count {before : List UInt8} (hbefore : WholeLines before) (rest : List UInt8) :
    lineBytes (before.count newlineByte) (before ++ rest) = some before.length := by
  rcases hbefore with rfl | ⟨lines, rfl⟩
  · rw [List.count_nil, lineBytes]
    rfl
  · have hlast : lineBytes 1 (newlineByte :: rest) = some 1 := by
      rw [lineBytes, if_pos rfl, lineBytes]
      rfl
    have hcount : (lines ++ [newlineByte]).count newlineByte = lines.count newlineByte + 1 := by
      rw [List.count_append, List.count_singleton_self]
    rw [hcount, List.append_assoc, List.singleton_append, lineBytes_append (Nat.lt_add_one _),
      Nat.add_sub_cancel_left, hlast, Option.map_some, List.length_append, Nat.add_comm]
    rfl

/-- Whether a text is empty or ends with a newline, so that a line starts behind it. -/
def AtLineStart (cs : List Char) : Prop := cs = [] ∨ ∃ before, cs = before ++ ['\n']

variable {before : List Char} {n : Nat}

/-- Behind a text that ends with its `n`-th newline the line after `n` newlines starts. -/
theorem lineBytes_of_count (hcount : before.count '\n' = n) (hstart : AtLineStart before)
    (rest : List Char) :
    lineBytes n ((before ++ rest).flatMap charBytes) = some (byteLength before) := by
  have hbytes : WholeLines (before.flatMap charBytes) := by
    rcases hstart with rfl | ⟨lines, rfl⟩
    · exact .inl rfl
    · exact .inr ⟨lines.flatMap charBytes, List.flatMap_append⟩
  rw [← hcount, ← count_newlineByte, List.flatMap_append, lineBytes_count hbytes,
    length_flatMap_charBytes]

/-- Where a text holds fewer than `n` newlines, the line after `n` newlines starts further on. -/
theorem lineBytes_beyond (hcount : before.count '\n' < n) (rest : List Char) {s : Nat}
    (h : lineBytes n ((before ++ rest).flatMap charBytes) = some s) : byteLength before < s := by
  rw [List.flatMap_append, lineBytes_append (by rwa [count_newlineByte]), count_newlineByte] at h
  obtain ⟨m, hm, rfl⟩ := Option.map_eq_some_iff.1 h
  obtain ⟨k, hk⟩ : ∃ k, n - before.count '\n' = k + 1 := ⟨n - before.count '\n' - 1, by omega⟩
  rw [hk] at hm
  have := pos_of_lineBytes hm
  rw [length_flatMap_charBytes]
  omega

end DocQuery.Text
