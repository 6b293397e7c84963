import OfferService.Text.Utf8

/-
  OfferService.Proofs.Text.Utf8

  Text as bytes and back. The bytes of a text are those of its characters, one after another. Each
  of the four lengths of a character is read back by the row of the table that its first byte
  selects: the rows are finite, and what the bytes after the first one add is arithmetic.
-/
namespace OfferService.Text.Utf8

/-! ## Bytes of a text -/

theorem toList_loop (bs : ByteArray) (i : Nat) (r : List UInt8) :
    ByteArray.toList.loop bs i r = r.reverse ++ bs.data.toList.drop i := by
  induction hrest : bs.size - i generalizing i r with
  | zero =>
    rw [ByteArray.toList.loop, if_neg (by omega), List.drop_of_length_le, List.append_nil]
    exact Nat.le_of_sub_eq_zero hrest
  | succ n ih =>
    have hi : i < bs.size := by omega
    have hlength : i < bs.data.toList.length := hi
    have hget : bs.get! i = bs.data.toList[i] := getElem!_pos bs.data i hi
    rw [ByteArray.toList.loop, if_pos hi, ih (i + 1) _ (by omega), List.reverse_cons,
      List.append_assoc, List.singleton_append, hget, ← List.drop_eq_getElem_cons]

theorem encode_eq (s : String) : encode s = s.toList.flatMap String.utf8EncodeChar := by
  have hbytes (bs : ByteArray) : bs.toList = bs.data.toList := by
    rw [ByteArray.toList, toList_loop]
    rfl
  rw [encode, hbytes, ← String.ofList_toList (s := s), String.toUTF8_eq_toByteArray,
    String.toByteArray_ofList, List.utf8Encode, List.toList_data_toByteArray,
    String.toList_ofList]

@[simp] theorem encode_append (s t : String) : encode (s ++ t) = encode s ++ encode t := by
  rw [encode_eq, encode_eq, encode_eq, String.toList_append, List.flatMap_append]

@[simp] theorem encode_ofList (cs : List Char) :
    encode (String.ofList cs) = cs.flatMap String.utf8EncodeChar := by
  rw [encode_eq, String.toList_ofList]

@[simp] theorem encode_singleton (c : Char) :
    encode (String.singleton c) = String.utf8EncodeChar c := by
  rw [encode_eq, String.toList_singleton, List.flatMap_singleton]

/-! ## Bytes of a character -/

/-- A byte after the first one of a character. -/
def tail (n : Nat) : UInt8 := UInt8.ofNat (n + 128)

theorem toNat_tail {n : Nat} (h : n < 64) : (tail n).toNat = n + 128 :=
  UInt8.toNat_ofNat_of_lt' (by show n + 128 < 256; omega)

/-- A character below 128 is one byte, its number. -/
theorem utf8EncodeChar_of_lt {c : Char} (h : c.toNat < 128) :
    String.utf8EncodeChar c = [UInt8.ofNat c.toNat] := by
  unfold String.utf8EncodeChar
  exact if_pos (Nat.le_of_lt_succ h)

/-- The bytes of all other characters are above 127. -/
theorem le_of_mem_utf8EncodeChar {c : Char} (h : 128 ≤ c.toNat) {b : UInt8}
    (mem : b ∈ String.utf8EncodeChar c) : 128 ≤ b.toNat := by
  have hbyte {n : Nat} (low : 128 ≤ n) (high : n < 256) : 128 ≤ (UInt8.ofNat n).toNat := by
    rw [UInt8.toNat_ofNat_of_lt' high]
    exact low
  have hval : c.val.toNat = c.toNat := rfl
  unfold String.utf8EncodeChar at mem
  simp only [hval] at mem
  rw [if_neg (by omega)] at mem
  split at mem
  · simp only [List.mem_cons, List.not_mem_nil, or_false] at mem
    rcases mem with rfl | rfl <;> exact hbyte (by omega) (by omega)
  · split at mem
    · simp only [List.mem_cons, List.not_mem_nil, or_false] at mem
      rcases mem with rfl | rfl | rfl <;> exact hbyte (by omega) (by omega)
    · simp only [List.mem_cons, List.not_mem_nil, or_false] at mem
      rcases mem with rfl | rfl | rfl | rfl <;> exact hbyte (by omega) (by omega)

/-! ## First bytes -/

/-- A character of two bytes after its first one. -/
def ofTwo (n : Nat) : Partial where
  bits := n
  more := 1

/-- A character of three bytes after its first one: two bytes are not enough for it, and it is no
    half of a pair. -/
def ofThree (n : Nat) : Partial where
  bits := n
  more := 2
  low := if n = 0 then 0xa0 else 0x80
  high := if n = 13 then 0x9f else 0xbf

/-- A character of four bytes after its first one: three bytes are not enough for it, and it is not
    beyond the last one. -/
def ofFour (n : Nat) : Partial where
  bits := n
  more := 3
  low := if n = 0 then 0x90 else 0x80
  high := if n = 4 then 0x8f else 0xbf

theorem lead_one {n : Nat} (h : n < 128) : lead (UInt8.ofNat n) = .whole (Char.ofNat n) := by
  have hall : ∀ n : Fin 128, lead (UInt8.ofNat n.val) = .whole (Char.ofNat n.val) := by
    decide +kernel
  exact hall ⟨n, h⟩

theorem lead_two {n : Nat} (low : 2 ≤ n) (high : n < 32) :
    lead (UInt8.ofNat (n + 192)) = .begins (ofTwo n) := by
  have hall : ∀ n : Fin 32, 2 ≤ n.val → lead (UInt8.ofNat (n.val + 192)) = .begins (ofTwo n) := by
    decide +kernel
  exact hall ⟨n, high⟩ low

theorem lead_three {n : Nat} (h : n < 16) :
    lead (UInt8.ofNat (n + 224)) = .begins (ofThree n) := by
  have hall : ∀ n : Fin 16, lead (UInt8.ofNat (n.val + 224)) = .begins (ofThree n) := by
    decide +kernel
  exact hall ⟨n, h⟩

theorem lead_four {n : Nat} (h : n < 5) : lead (UInt8.ofNat (n + 240)) = .begins (ofFour n) := by
  have hall : ∀ n : Fin 5, lead (UInt8.ofNat (n.val + 240)) = .begins (ofFour n) := by
    decide +kernel
  exact hall ⟨n, h⟩

/-! ## Reading a character -/

section Reading

variable {cs : List Char} {good : Nat} {p : Partial} {n : Nat}

/-- May a byte with these bits come next? -/
structure Partial.Admits (p : Partial) (n : Nat) : Prop where
  lt : n < 64
  low : p.low.toNat ≤ n + 128
  high : n + 128 ≤ p.high.toNat

theorem Partial.admits_tail (h : p.Admits n) : p.admits (tail n) = true := by
  rw [Partial.admits, Bool.and_eq_true, decide_eq_true_iff, decide_eq_true_iff,
    UInt8.le_iff_toNat_le, UInt8.le_iff_toNat_le, toNat_tail h.lt]
  exact ⟨h.low, h.high⟩

theorem Partial.extend_tail (h : n < 64) : p.extend (tail n) = p.bits * 64 + n := by
  have htail := toNat_tail h
  show p.bits * 64 + ((tail n).toNat - 128) = _
  omega

theorem step_first {b : UInt8} (first : lead b = .begins p) :
    step { chars := cs, good } b = { chars := cs, good, openChar := some p } := by
  simp only [step, Option.isSome_none, Bool.false_eq_true, if_false, first]

/-- A byte in the middle of a character; any byte may come after it. -/
theorem step_middle (h : p.Admits n) (more : 2 ≤ p.more) :
    step { chars := cs, good, openChar := some p } (tail n) =
      { chars := cs, good, openChar := some ⟨p.bits * 64 + n, p.taken + 1, p.more - 1, 0x80, 0xbf⟩ } := by
  simp only [step, Option.isSome_none, Bool.false_eq_true, if_false, Partial.admits_tail h, if_true,
    Partial.take, if_neg (Nat.not_le.mpr more), Partial.extend_tail h.lt]

/-- The last byte of a character. -/
theorem step_last (h : p.Admits n) (last : p.more ≤ 1) :
    step { chars := cs, good, openChar := some p } (tail n) =
      { chars := Char.ofNat (p.bits * 64 + n) :: cs, good := good + p.taken + 1 } := by
  simp only [step, Option.isSome_none, Bool.false_eq_true, if_false, Partial.admits_tail h, if_true,
    Partial.take, if_pos last, Partial.extend_tail h.lt]

end Reading

/-- Where nothing is excluded, six bits may come next. -/
theorem Partial.admits_of_lt {p : Partial} {n : Nat} (low : p.low = 0x80) (high : p.high = 0xbf)
    (h : n < 64) : p.Admits n where
  lt := h
  low := by
    rw [low]
    exact Nat.le_add_left 128 n
  high := by
    rw [high]
    show n + 128 ≤ 191
    omega

/-- The second of three bytes of a character that needs three and is no half of a pair. -/
theorem ofThree_admits {m n : Nat} (h : n < 64) (long : m = 0 → 32 ≤ n) (whole : m = 13 → n < 32) :
    (ofThree m).Admits n where
  lt := h
  low := by
    show (if m = 0 then 0xa0 else 0x80 : UInt8).toNat ≤ n + 128
    split
    · show 160 ≤ n + 128
      omega
    · exact Nat.le_add_left 128 n
  high := by
    show n + 128 ≤ (if m = 13 then 0x9f else 0xbf : UInt8).toNat
    split
    · show n + 128 ≤ 159
      omega
    · show n + 128 ≤ 191
      omega

/-- The second of four bytes of a character that needs four. -/
theorem ofFour_admits {m n : Nat} (h : n < 64) (long : m = 0 → 16 ≤ n) (last : m = 4 → n < 16) :
    (ofFour m).Admits n where
  lt := h
  low := by
    show (if m = 0 then 0x90 else 0x80 : UInt8).toNat ≤ n + 128
    split
    · show 144 ≤ n + 128
      omega
    · exact Nat.le_add_left 128 n
  high := by
    show n + 128 ≤ (if m = 4 then 0x8f else 0xbf : UInt8).toNat
    split
    · show n + 128 ≤ 143
      omega
    · show n + 128 ≤ 191
      omega

/-- The bytes of a character are read back as that character. -/
theorem foldl_step_utf8EncodeChar (cs : List Char) (good : Nat) (c : Char) :
    (String.utf8EncodeChar c).foldl step { chars := cs, good } =
      { chars := c :: cs, good := good + (String.utf8EncodeChar c).length } := by
  have hvalid : c.toNat < 0xd800 ∨ 0xdfff < c.toNat ∧ c.toNat < 0x110000 := c.valid
  have hchar : Char.ofNat c.toNat = c := Char.ofNat_toNat c
  have hval : c.val.toNat = c.toNat := rfl
  have hmod (n : Nat) : n % 64 < 64 := Nat.mod_lt n (by decide)
  generalize c.toNat = v at *
  unfold String.utf8EncodeChar
  simp only [hval]
  split
  · show step { chars := cs, good } (UInt8.ofNat v) = _
    simp only [step, Option.isSome_none, Bool.false_eq_true, if_false,
      lead_one (show v < 128 by omega), hchar]
    rfl
  split
  · have hsplit : v / 64 % 32 * 64 + v % 64 = v := by omega
    show step (step { chars := cs, good } (UInt8.ofNat (v / 64 % 32 + 192))) (tail (v % 64)) = _
    rw [step_first (lead_two (by omega) (by omega)),
      step_last (Partial.admits_of_lt rfl rfl (hmod _)) (Nat.le_refl 1)]
    show State.mk (Char.ofNat (v / 64 % 32 * 64 + v % 64) :: cs) _ _ _ = _
    rw [hsplit, hchar]
    rfl
  split
  · have hsplit : (v / 4096 % 16 * 64 + v / 64 % 64) * 64 + v % 64 = v := by omega
    show step (step (step { chars := cs, good } (UInt8.ofNat (v / 4096 % 16 + 224)))
      (tail (v / 64 % 64))) (tail (v % 64)) = _
    rw [step_first (lead_three (by omega)),
      step_middle (ofThree_admits (hmod _) (by omega) (by omega)) (Nat.le_refl 2),
      step_last (Partial.admits_of_lt rfl rfl (hmod _)) (Nat.le_refl 1)]
    show State.mk (Char.ofNat ((v / 4096 % 16 * 64 + v / 64 % 64) * 64 + v % 64) :: cs) _ _ _ = _
    rw [hsplit, hchar]
    rfl
  · have hsplit : ((v / 262144 % 8 * 64 + v / 4096 % 64) * 64 + v / 64 % 64) * 64 + v % 64 = v := by
      omega
    show step (step (step (step { chars := cs, good } (UInt8.ofNat (v / 262144 % 8 + 240)))
      (tail (v / 4096 % 64))) (tail (v / 64 % 64))) (tail (v % 64)) = _
    rw [step_first (lead_four (by omega)),
      step_middle (ofFour_admits (hmod _) (by omega) (by omega)) (Nat.le_succ 2),
      step_middle (Partial.admits_of_lt rfl rfl (hmod _)) (Nat.le_refl 2),
      step_last (Partial.admits_of_lt rfl rfl (hmod _)) (Nat.le_refl 1)]
    show State.mk (Char.ofNat
      (((v / 262144 % 8 * 64 + v / 4096 % 64) * 64 + v / 64 % 64) * 64 + v % 64) :: cs) _ _ _ = _
    rw [hsplit, hchar]
    rfl

/-! ## Reading a text -/

theorem foldl_step_encode (cs before : List Char) (good : Nat) :
    (cs.flatMap String.utf8EncodeChar).foldl step { chars := before, good } =
      { chars := cs.reverse ++ before,
        good := good + (cs.flatMap String.utf8EncodeChar).length } := by
  induction cs generalizing before good with
  | nil => rfl
  | cons c cs ih =>
    rw [List.flatMap_cons, List.foldl_append, foldl_step_utf8EncodeChar, ih, List.reverse_cons,
      List.append_assoc, List.singleton_append, List.length_append, Nat.add_assoc]

/-- Characters are read back from their bytes. -/
theorem decode_flatMap (cs : List Char) :
    decode (cs.flatMap String.utf8EncodeChar) = .ok cs := by
  rw [decode, foldl_step_encode]
  show Except.ok (cs.reverse ++ []).reverse = _
  rw [List.append_nil, List.reverse_reverse]

end OfferService.Text.Utf8
