import Linting.Path
import Mathlib.Data.List.Basic

/-! Bytes that decode are the encoding of what they decode to, so the text of a path that is UTF-8
says which path it is. -/

namespace Linting.Text

theorem toNat_val_ofNat {n : Nat} (h : n.isValidChar) : (Char.ofNat n).val.toNat = n := by
  rw [Char.ofNat, dif_pos h]
  rfl

theorem ofNat_eq {b : UInt8} {n : Nat} (h : n = b.toNat) : UInt8.ofNat n = b := by
  rw [h, UInt8.ofNat_toNat]

/-- The bounds of a byte that continues a character. -/
def IsTail (b : UInt8) : Prop := 0x80 ≤ b.toNat ∧ b.toNat ≤ 0xBF

theorem utf8EncodeChar_one {a : UInt8} (ha : a.toNat < 0x80) :
    String.utf8EncodeChar (Char.ofNat a.toNat) = [a] := by
  have value := toNat_val_ofNat (n := a.toNat) (.inl (by omega))
  rw [String.utf8EncodeChar, value, if_pos (by omega), ofNat_eq rfl]

theorem utf8EncodeChar_two {a b : UInt8} (ha : 0xC2 ≤ a.toNat ∧ a.toNat < 0xE0) (hb : IsTail b) :
    String.utf8EncodeChar (Char.ofNat (a.toNat % 0x20 * 64 + b.toNat % 64)) = [a, b] := by
  obtain ⟨hb₁, hb₂⟩ := hb
  have value := toNat_val_ofNat (n := a.toNat % 0x20 * 64 + b.toNat % 64) (.inl (by omega))
  rw [String.utf8EncodeChar, value, if_neg (by omega), if_pos (by omega)]
  rw [ofNat_eq (b := a) (by omega), ofNat_eq (b := b) (by omega)]

theorem utf8EncodeChar_three {a b c : UInt8} (ha : 0xE0 ≤ a.toNat ∧ a.toNat < 0xF0)
    (hb : IsTail b) (hc : IsTail c) (long : a.toNat = 0xE0 → 0xA0 ≤ b.toNat)
    (surrogate : a.toNat = 0xED → b.toNat ≤ 0x9F) :
    String.utf8EncodeChar
      (Char.ofNat ((a.toNat % 0x10 * 64 + b.toNat % 64) * 64 + c.toNat % 64)) = [a, b, c] := by
  obtain ⟨hb₁, hb₂⟩ := hb
  obtain ⟨hc₁, hc₂⟩ := hc
  have valid : ((a.toNat % 0x10 * 64 + b.toNat % 64) * 64 + c.toNat % 64).isValidChar := by
    unfold Nat.isValidChar
    omega
  have value := toNat_val_ofNat valid
  rw [String.utf8EncodeChar, value, if_neg (by omega), if_neg (by omega), if_pos (by omega)]
  rw [ofNat_eq (b := a) (by omega), ofNat_eq (b := b) (by omega), ofNat_eq (b := c) (by omega)]

theorem utf8EncodeChar_four {a b c d : UInt8} (ha : 0xF0 ≤ a.toNat ∧ a.toNat ≤ 0xF4)
    (hb : IsTail b) (hc : IsTail c) (hd : IsTail d) (long : a.toNat = 0xF0 → 0x90 ≤ b.toNat)
    (last : a.toNat = 0xF4 → b.toNat ≤ 0x8F) :
    String.utf8EncodeChar (Char.ofNat
      (((a.toNat % 0x08 * 64 + b.toNat % 64) * 64 + c.toNat % 64) * 64 + d.toNat % 64)) =
      [a, b, c, d] := by
  obtain ⟨hb₁, hb₂⟩ := hb
  obtain ⟨hc₁, hc₂⟩ := hc
  obtain ⟨hd₁, hd₂⟩ := hd
  have valid : (((a.toNat % 0x08 * 64 + b.toNat % 64) * 64 + c.toNat % 64) * 64 +
      d.toNat % 64).isValidChar := by
    unfold Nat.isValidChar
    omega
  have value := toNat_val_ofNat valid
  rw [String.utf8EncodeChar, value, if_neg (by omega), if_neg (by omega), if_neg (by omega)]
  rw [ofNat_eq (b := a) (by omega), ofNat_eq (b := b) (by omega), ofNat_eq (b := c) (by omega),
    ofNat_eq (b := d) (by omega)]

/-- All bytes that a character needs are there: the next is within its bounds, the others
continue. -/
theorem tailLength_succ {n lo hi : Nat} {rest : List UInt8}
    (h : tailLength (n + 1) lo hi rest = n + 1) :
    ∃ b more, rest = b :: more ∧ (lo ≤ b.toNat ∧ b.toNat ≤ hi) ∧
      tailLength n 0x80 0xBF more = n := by
  cases rest with
  | nil => simp [tailLength] at h
  | cons b more =>
    rw [tailLength] at h
    split at h
    · rename_i bounds
      exact ⟨b, more, rfl, bounds, by omega⟩
    · omega

/-- The leading bytes of characters of one to four bytes, with the bounds that they set. -/
theorem tailShape_cases {a n lo hi : Nat} (h : tailShape a = some (n, lo, hi)) :
    (n = 0 ∧ a < 0x80) ∨
    (n = 1 ∧ (0xC2 ≤ a ∧ a < 0xE0) ∧ 0x80 ≤ lo ∧ hi ≤ 0xBF) ∨
    (n = 2 ∧ (0xE0 ≤ a ∧ a < 0xF0) ∧ (0x80 ≤ lo ∧ hi ≤ 0xBF) ∧
      (a = 0xE0 → lo = 0xA0) ∧ (a = 0xED → hi = 0x9F)) ∨
    (n = 3 ∧ (0xF0 ≤ a ∧ a ≤ 0xF4) ∧ (0x80 ≤ lo ∧ hi ≤ 0xBF) ∧
      (a = 0xF0 → lo = 0x90) ∧ (a = 0xF4 → hi = 0x8F)) := by
  unfold tailShape at h
  repeat' split at h
  all_goals cases h
  all_goals omega

theorem utf8EncodeChar_assemble {a : UInt8} {n lo hi : Nat} {rest : List UInt8}
    (hshape : tailShape a.toNat = some (n, lo, hi)) (htail : tailLength n lo hi rest = n) :
    String.utf8EncodeChar (assemble a.toNat (rest.take n)) = a :: rest.take n := by
  rcases tailShape_cases hshape with ⟨rfl, ha⟩ | ⟨rfl, ha, low, high⟩ |
    ⟨rfl, ha, ⟨low, high⟩, long, surrogate⟩ | ⟨rfl, ha, ⟨low, high⟩, long, last⟩
  · exact utf8EncodeChar_one ha
  · obtain ⟨b, more, rfl, hb, _⟩ := tailLength_succ htail
    exact utf8EncodeChar_two ha ⟨by omega, by omega⟩
  · obtain ⟨b, more, rfl, hb, htail⟩ := tailLength_succ htail
    obtain ⟨c, more, rfl, hc, _⟩ := tailLength_succ htail
    exact utf8EncodeChar_three ha ⟨by omega, by omega⟩ hc (by omega) (by omega)
  · obtain ⟨b, more, rfl, hb, htail⟩ := tailLength_succ htail
    obtain ⟨c, more, rfl, hc, htail⟩ := tailLength_succ htail
    obtain ⟨d, more, rfl, hd, _⟩ := tailLength_succ htail
    exact utf8EncodeChar_four ha ⟨by omega, by omega⟩ hc hd (by omega) (by omega)

theorem encode_of_scan {bytes : List UInt8} {cs : List Char}
    (h : scan bytes = cs.map some) : encode cs = bytes := by
  fun_induction scan bytes generalizing cs with
  | case1 =>
    obtain rfl : cs = [] := by simpa using h.symm
    rfl
  | case2 a rest _ ih =>
    cases cs <;> simp at h
  | case3 a rest n lo hi hshape k =>
    rename_i ih
    cases cs with
    | nil => simp at h
    | cons c cs =>
      obtain ⟨first, more⟩ := List.cons.inj h
      have whole : k = n := by
        by_contra short
        simp [short] at first
      rw [if_pos whole, whole] at first
      rw [whole] at more ih
      have char := utf8EncodeChar_assemble hshape whole
      rw [Option.some.inj first] at char
      rw [encode, List.flatMap_cons, char, List.cons_append, ← encode, ih more,
        List.take_append_drop]

theorem scan_of_decode? {bytes : List UInt8} {cs : List Char} (h : decode? bytes = some cs) :
    scan bytes = cs.map some := by
  unfold decode? at h
  generalize scan bytes = found at h
  induction found generalizing cs with
  | nil =>
    obtain rfl : [] = cs := by simpa using h
    rfl
  | cons c found ih =>
    cases c with
    | none => simp at h
    | some c =>
      obtain ⟨rest, hrest, rfl⟩ : ∃ rest, found.mapM id = some rest ∧ c :: rest = cs := by
        simpa [Option.bind_eq_some_iff] using h
      rw [List.map_cons, ih hrest]

theorem encode_of_decode? {bytes : List UInt8} {cs : List Char} (h : decode? bytes = some cs) :
    encode cs = bytes :=
  encode_of_scan (scan_of_decode? h)

theorem decodeLossy_of_decode? {bytes : List UInt8} {cs : List Char}
    (h : decode? bytes = some cs) : decodeLossy bytes = cs := by
  rw [decodeLossy, scan_of_decode? h, List.map_map]
  exact List.map_id cs

end Linting.Text

namespace Linting.Path

/-- A path that is UTF-8 is determined by the text that is shown for it. -/
theorem ofString_display {p : Path} {text : String} (h : p.toText? = some text) :
    p.display = text ∧ ofString text = p := by
  obtain ⟨cs, hdecode, rfl⟩ := Option.map_eq_some_iff.mp h
  rw [display, ofString, Text.decodeLossy_of_decode? hdecode, String.toList_ofList,
    Text.encode_of_decode? hdecode]
  exact ⟨rfl, rfl⟩

end Linting.Path
