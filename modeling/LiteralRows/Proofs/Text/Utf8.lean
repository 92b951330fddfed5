import LiteralRows.Text.Utf8
import Mathlib.Data.List.Forall2

/-!
# UTF-8 read back

Reading bytes as characters undoes writing characters as bytes, and no byte of an ASCII character is
ever lost, however broken the bytes around it are.

* `exists_encodeChar`: the encoding of a character is a leading byte and as many further bytes, in
  their ranges, as the leading byte asks for; put together they are the character.
* `decodeLossy_encode`: a text is read back from its encoding.
* `isSome_faultFrom` and `faultFrom_encode_append`: whether bytes have a fault does not depend on
  the text that is encoded in front of them.
* `toByteArray_decodeLossy`: bytes are valid UTF-8 exactly as `ByteArray.IsValidUTF8` has it, and
  reading such bytes loses nothing.
* `mem_decodeLossy_of_ascii`: an ASCII byte is read as its character wherever it stands, because it
  lies in no range of continuing bytes.
-/

namespace LiteralRows.Text.Utf8

/-- The byte lies in the range. -/
def InRange (range : UInt8 × UInt8) (b : UInt8) : Prop :=
  range.1 ≤ b ∧ b ≤ range.2

/-! ## The encoding of a character -/

theorem toNat_ofNat {n : Nat} (h : n < 0x100) : (UInt8.ofNat n).toNat = n :=
  UInt8.toNat_ofNat_of_lt' h

/-- Which leading byte asks for which bytes, by its number. -/
theorem continuations_ofNat {n : Nat} (h : n < 0x100) :
    continuations (UInt8.ofNat n) =
      if n < 0x80 then some []
      else if n < 0xC2 then none
      else if n < 0xE0 then some [(0x80, 0xBF)]
      else if n = 0xE0 then some [(0xA0, 0xBF), (0x80, 0xBF)]
      else if n = 0xED then some [(0x80, 0x9F), (0x80, 0xBF)]
      else if n < 0xF0 then some [(0x80, 0xBF), (0x80, 0xBF)]
      else if n = 0xF0 then some [(0x90, 0xBF), (0x80, 0xBF), (0x80, 0xBF)]
      else if n < 0xF4 then some [(0x80, 0xBF), (0x80, 0xBF), (0x80, 0xBF)]
      else if n = 0xF4 then some [(0x80, 0x8F), (0x80, 0xBF), (0x80, 0xBF)]
      else none := by
  simp only [continuations, UInt8.lt_iff_toNat_lt, ← UInt8.toNat_inj, toNat_ofNat h]
  rfl

theorem inRange_ofNat {lo hi : UInt8} {n : Nat} (h : n < 0x100) (hlo : lo.toNat ≤ n)
    (hhi : n ≤ hi.toNat) : InRange (lo, hi) (UInt8.ofNat n) := by
  simp only [InRange, UInt8.le_iff_toNat_le, toNat_ofNat h]
  exact ⟨hlo, hhi⟩

/-- Six bits of payload make a continuing byte. -/
theorem inRange_tail (n : Nat) : InRange (0x80, 0xBF) (UInt8.ofNat (0x80 + n % 0x40)) := by
  refine inRange_ofNat (by omega) ?_ ?_
  · show 0x80 ≤ _
    omega
  · show _ ≤ 0xBF
    omega

/-- The bytes are the encoding of the character: as many as the first one asks for, all of them in
their ranges, and with the payload of the character. -/
structure Spells (lead : UInt8) (tail : List UInt8) (c : Char) : Prop where
  continued : ∃ ranges, continuations lead = some ranges ∧ List.Forall₂ InRange ranges tail
  assemble_eq : assemble lead tail = c

theorem toNat_cases (c : Char) : c.toNat < 0xD800 ∨ 0xDFFF < c.toNat ∧ c.toNat < 0x110000 :=
  c.valid

/-- A character is put together from bytes whose payload is its number. -/
theorem assemble_eq {lead : UInt8} {tail : List UInt8} {c : Char}
    (h : tail.foldl (fun n b => n * 0x40 + b.toNat % 0x40) (leadBits lead tail.length) = c.toNat) :
    assemble lead tail = c := by
  rw [assemble, h, Char.ofNat_toNat]

/-- After the leading byte of three, the range of the second one keeps out what two bytes would do
for, and the surrogates. -/
theorem exists_continuations_three {n : Nat} (h : 0x800 ≤ n)
    (hvalid : n < 0xD800 ∨ 0xDFFF < n ∧ n < 0x10000) :
    ∃ lo hi, continuations (UInt8.ofNat (0xE0 + n / 0x1000)) = some [(lo, hi), (0x80, 0xBF)] ∧
      InRange (lo, hi) (UInt8.ofNat (0x80 + n / 0x40 % 0x40)) := by
  rw [continuations_ofNat (by omega), if_neg (by omega), if_neg (by omega), if_neg (by omega)]
  by_cases hE0 : 0xE0 + n / 0x1000 = 0xE0
  · refine ⟨0xA0, 0xBF, if_pos hE0, inRange_ofNat (by omega) ?_ ?_⟩
    · show 0xA0 ≤ _
      omega
    · show _ ≤ 0xBF
      omega
  rw [if_neg hE0]
  by_cases hED : 0xE0 + n / 0x1000 = 0xED
  · refine ⟨0x80, 0x9F, if_pos hED, inRange_ofNat (by omega) ?_ ?_⟩
    · show 0x80 ≤ _
      omega
    · show _ ≤ 0x9F
      omega
  · rw [if_neg hED, if_pos (by omega)]
    exact ⟨0x80, 0xBF, rfl, inRange_tail _⟩

/-- After the leading byte of four, the range of the second one keeps out what three bytes would do
for, and what is no character any more. -/
theorem exists_continuations_four {n : Nat} (h : 0x10000 ≤ n) (hvalid : n < 0x110000) :
    ∃ lo hi, continuations (UInt8.ofNat (0xF0 + n / 0x40000)) =
        some [(lo, hi), (0x80, 0xBF), (0x80, 0xBF)] ∧
      InRange (lo, hi) (UInt8.ofNat (0x80 + n / 0x1000 % 0x40)) := by
  rw [continuations_ofNat (by omega), if_neg (by omega), if_neg (by omega), if_neg (by omega),
    if_neg (by omega), if_neg (by omega), if_neg (by omega)]
  by_cases hF0 : 0xF0 + n / 0x40000 = 0xF0
  · refine ⟨0x90, 0xBF, if_pos hF0, inRange_ofNat (by omega) ?_ ?_⟩
    · show 0x90 ≤ _
      omega
    · show _ ≤ 0xBF
      omega
  rw [if_neg hF0]
  by_cases hF4 : 0xF0 + n / 0x40000 < 0xF4
  · rw [if_pos hF4]
    exact ⟨0x80, 0xBF, rfl, inRange_tail _⟩
  · rw [if_neg hF4, if_pos (by omega)]
    refine ⟨0x80, 0x8F, rfl, inRange_ofNat (by omega) ?_ ?_⟩
    · show 0x80 ≤ _
      omega
    · show _ ≤ 0x8F
      omega

/-- The four widths of an encoding. -/
theorem exists_encodeChar (c : Char) :
    ∃ lead tail, encodeChar c = lead :: tail ∧ Spells lead tail c := by
  have hvalid := toNat_cases c
  have hpow : Nat.pow 0x40 0 = 1 ∧ Nat.pow 0x40 1 = 0x40 ∧ Nat.pow 0x40 2 = 0x1000 := by decide
  simp only [encodeChar, hpow, Nat.div_one]
  split
  · refine ⟨_, _, rfl, ⟨[], ?_, .nil⟩, assemble_eq ?_⟩
    · rw [continuations_ofNat (by omega), if_pos (by omega)]
    · exact toNat_ofNat (by omega)
  split
  · refine ⟨_, _, rfl, ⟨[(0x80, 0xBF)], ?_, .cons (inRange_tail _) .nil⟩, assemble_eq ?_⟩
    · rw [continuations_ofNat (by omega), if_neg (by omega), if_neg (by omega), if_pos (by omega)]
    · simp only [List.foldl_cons, List.foldl_nil, List.length_cons, List.length_nil, leadBits]
      rw [toNat_ofNat (by omega), toNat_ofNat (by omega)]
      omega
  split
  · obtain ⟨lo, hi, hranges, hsecond⟩ := exists_continuations_three (n := c.toNat) (by omega)
      (by omega)
    refine ⟨_, _, rfl, ⟨_, hranges, .cons hsecond (.cons (inRange_tail _) .nil)⟩, assemble_eq ?_⟩
    simp only [List.foldl_cons, List.foldl_nil, List.length_cons, List.length_nil, leadBits]
    rw [toNat_ofNat (by omega), toNat_ofNat (by omega), toNat_ofNat (by omega)]
    omega
  · obtain ⟨lo, hi, hranges, hsecond⟩ := exists_continuations_four (n := c.toNat) (by omega)
      (by omega)
    refine ⟨_, _, rfl,
      ⟨_, hranges, .cons hsecond (.cons (inRange_tail _) (.cons (inRange_tail _) .nil))⟩,
      assemble_eq ?_⟩
    simp only [List.foldl_cons, List.foldl_nil, List.length_cons, List.length_nil, leadBits]
    rw [toNat_ofNat (by omega), toNat_ofNat (by omega), toNat_ofNat (by omega),
      toNat_ofNat (by omega)]
    omega

/-! ## Reading an encoding -/

theorem matching_append {ranges : List (UInt8 × UInt8)} {tail : List UInt8}
    (h : List.Forall₂ InRange ranges tail) (rest : List UInt8) :
    matching ranges (tail ++ rest) = tail.length := by
  induction h with
  | nil => cases rest <;> rfl
  | @cons range b _ _ hb _ ih =>
    have hb : range.1 ≤ b ∧ b ≤ range.2 := hb
    rw [List.cons_append, matching, if_pos hb, ih, List.length_cons]

/-- The encoding of a character is read as the character, whatever follows it. -/
theorem Spells.front_eq {lead : UInt8} {tail : List UInt8} {c : Char} (h : Spells lead tail c)
    (rest : List UInt8) : front lead (tail ++ rest) = .whole c tail.length := by
  obtain ⟨⟨ranges, hranges, htail⟩, hassemble⟩ := h
  rw [front, hranges]
  dsimp only
  rw [matching_append htail, if_pos htail.length_eq.symm, List.take_left, hassemble]

theorem decodeLossy_encodeChar_append (c : Char) (rest : List UInt8) :
    decodeLossy (encodeChar c ++ rest) = c :: decodeLossy rest := by
  obtain ⟨lead, tail, hencode, hspells⟩ := exists_encodeChar c
  rw [hencode, List.cons_append, decodeLossy, hspells.front_eq]
  dsimp only
  rw [List.drop_left]

/-- The encoding of a text is read as the text, whatever follows it. -/
theorem decodeLossy_encode_append (s : List Char) (rest : List UInt8) :
    decodeLossy (encode s ++ rest) = s ++ decodeLossy rest := by
  induction s with
  | nil => rfl
  | cons c s ih =>
    rw [encode_cons, List.append_assoc, decodeLossy_encodeChar_append, ih, List.cons_append]

/-- **A text is read back from its encoding.** -/
theorem decodeLossy_encode (s : List Char) : decodeLossy (encode s) = s := by
  have h := decodeLossy_encode_append s []
  rwa [List.append_nil, decodeLossy_nil, List.append_nil] at h

/-! ## Faults -/

/-- Whether there is a fault does not depend on where the bytes stand. -/
theorem isSome_faultFrom (bytes : List UInt8) (i j : Nat) :
    (faultFrom i bytes).isSome = (faultFrom j bytes).isSome := by
  induction i, bytes using faultFrom.induct generalizing j with
  | case1 => rw [faultFrom, faultFrom]
  | case2 i lead rest c more hfront ih =>
    rw [faultFrom, faultFrom, hfront]
    exact ih _
  | case3 i lead rest more hfront =>
    rw [faultFrom, faultFrom, hfront]
    rfl
  | case4 i lead rest hfront =>
    rw [faultFrom, faultFrom, hfront]
    rfl

/-- There is no fault in the encoding of a text. -/
theorem faultFrom_encode_append (s : List Char) (rest : List UInt8) (index : Nat) :
    faultFrom index (encode s ++ rest) = faultFrom (index + (encode s).length) rest := by
  induction s generalizing index with
  | nil => rfl
  | cons c s ih =>
    obtain ⟨lead, tail, hencode, hspells⟩ := exists_encodeChar c
    rw [encode_cons, List.append_assoc, hencode, List.cons_append, faultFrom, hspells.front_eq]
    dsimp only
    rw [List.drop_left, ih, List.length_append, List.length_cons]
    congr 1
    omega

theorem firstFault_encode (s : List Char) : firstFault (encode s) = none := by
  have h := faultFrom_encode_append s [] 0
  rwa [List.append_nil, faultFrom] at h

theorem decode?_encode (s : List Char) : decode? (encode s) = some s := by
  rw [decode?, firstFault_encode, decodeLossy_encode]

/-! ## Valid bytes -/

/-- The encoding of a character is that of the strings of the language. -/
theorem encodeChar_eq_utf8EncodeChar (c : Char) : encodeChar c = String.utf8EncodeChar c := by
  have hvalid := toNat_cases c
  have hpow : Nat.pow 0x40 0 = 1 ∧ Nat.pow 0x40 1 = 0x40 ∧ Nat.pow 0x40 2 = 0x1000 := by decide
  simp only [encodeChar, String.utf8EncodeChar, hpow, Nat.div_one, Char.toNat_val]
  by_cases h1 : c.toNat < 0x80
  · rw [if_pos h1, if_pos (show c.toNat ≤ 0x7F by omega)]
  rw [if_neg h1, if_neg (show ¬ c.toNat ≤ 0x7F by omega)]
  by_cases h2 : c.toNat < 0x800
  · rw [if_pos h2, if_pos (show c.toNat ≤ 0x7FF by omega),
      Nat.mod_eq_of_lt (show c.toNat / 64 < 32 by omega)]
    simp only [Nat.add_comm]
  rw [if_neg h2, if_neg (show ¬ c.toNat ≤ 0x7FF by omega)]
  by_cases h3 : c.toNat < 0x10000
  · rw [if_pos h3, if_pos (show c.toNat ≤ 0xFFFF by omega),
      Nat.mod_eq_of_lt (show c.toNat / 4096 < 16 by omega)]
    simp only [Nat.add_comm]
  · rw [if_neg h3, if_neg (show ¬ c.toNat ≤ 0xFFFF by omega),
      Nat.mod_eq_of_lt (show c.toNat / 262144 < 8 by omega)]
    simp only [Nat.add_comm]

theorem toByteArray_encode (s : List Char) : (encode s).toByteArray = s.utf8Encode := by
  rw [encode, funext encodeChar_eq_utf8EncodeChar]
  rfl

/-- **Reading valid bytes loses nothing.** -/
theorem toByteArray_decodeLossy {bytes : List UInt8} (h : bytes.toByteArray.IsValidUTF8) :
    (String.ofList (decodeLossy bytes)).toByteArray = bytes.toByteArray := by
  obtain ⟨s, hs⟩ := h
  rw [← toByteArray_encode, List.toByteArray_inj] at hs
  rw [hs, decodeLossy_encode, String.toByteArray_ofList, toByteArray_encode]

/-! ## ASCII bytes -/

/-- The bytes that continue a character are none of ASCII. -/
theorem le_of_continuations {lead : UInt8} {ranges : List (UInt8 × UInt8)}
    (h : continuations lead = some ranges) : ∀ range ∈ ranges, 0x80 ≤ range.1 := by
  rw [continuations] at h
  repeat' split at h
  all_goals cases h
  all_goals simp

theorem le_of_mem_take_matching {ranges : List (UInt8 × UInt8)} {rest : List UInt8}
    (h : ∀ range ∈ ranges, 0x80 ≤ range.1) :
    ∀ b ∈ rest.take (matching ranges rest), 0x80 ≤ b := by
  induction ranges generalizing rest with
  | nil => cases rest <;> exact nofun
  | cons range ranges ih =>
    cases rest with
    | nil => exact nofun
    | cons d rest =>
      rw [matching]
      split
      · rename_i hd
        rw [List.take_succ_cons]
        refine List.forall_mem_cons.mpr ⟨?_, ih fun r hr => h r (List.mem_cons_of_mem _ hr)⟩
        exact UInt8.le_trans (h range List.mem_cons_self) hd.1
      · exact nofun

theorem front_of_ascii {lead : UInt8} (h : lead < 0x80) (rest : List UInt8) :
    front lead rest = .whole (Char.ofNat lead.toNat) 0 := by
  rw [front, continuations, if_pos h]
  cases rest <;> rfl

/-- No part of a byte string that is read as one swallows an ASCII byte after its first. -/
theorem mem_drop_front (lead : UInt8) {b : UInt8} {rest : List UInt8} (hb : b < 0x80)
    (h : b ∈ rest) :
    match front lead rest with
    | .whole _ more => b ∈ rest.drop more
    | .broken more => b ∈ rest.drop more
    | .cut => False := by
  have hdrop : ∀ ranges, continuations lead = some ranges →
      b ∈ rest.drop (matching ranges rest) := by
    intro ranges hranges
    rw [← List.take_append_drop (matching ranges rest) rest, List.mem_append] at h
    refine h.resolve_left fun htake => UInt8.not_le.mpr hb ?_
    exact le_of_mem_take_matching (le_of_continuations hranges) b htake
  rw [front]
  cases hranges : continuations lead with
  | none => exact h
  | some ranges =>
    have hmem := hdrop ranges hranges
    dsimp only
    by_cases hwhole : matching ranges rest = ranges.length
    · rw [if_pos hwhole]
      exact hmem
    rw [if_neg hwhole]
    by_cases hcut : matching ranges rest = rest.length
    · rw [if_pos hcut]
      rw [hcut, List.drop_length] at hmem
      cases hmem
    · rw [if_neg hcut]
      exact hmem

/-- **An ASCII byte is read as its character**, also among bytes that are no text. -/
theorem mem_decodeLossy_of_ascii {b : UInt8} {bytes : List UInt8} (hb : b < 0x80) (h : b ∈ bytes) :
    Char.ofNat b.toNat ∈ decodeLossy bytes := by
  induction bytes using decodeLossy.induct with
  | case1 => cases h
  | case2 lead rest c more hfront ih =>
    rw [decodeLossy, hfront]
    rcases List.mem_cons.mp h with rfl | hrest
    · rw [front_of_ascii hb] at hfront
      cases hfront
      exact List.mem_cons_self
    · have hmem := mem_drop_front lead hb hrest
      rw [hfront] at hmem
      exact List.mem_cons_of_mem _ (ih hmem)
  | case3 lead rest more hfront ih =>
    rw [decodeLossy, hfront]
    rcases List.mem_cons.mp h with rfl | hrest
    · rw [front_of_ascii hb] at hfront
      cases hfront
    · have hmem := mem_drop_front lead hb hrest
      rw [hfront] at hmem
      exact List.mem_cons_of_mem _ (ih hmem)
  | case4 lead rest hfront =>
    rcases List.mem_cons.mp h with rfl | hrest
    · rw [front_of_ascii hb] at hfront
      cases hfront
    · have hmem := mem_drop_front lead hb hrest
      rw [hfront] at hmem
      exact hmem.elim

end LiteralRows.Text.Utf8
