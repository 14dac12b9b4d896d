import DefectScan.Text.Utf8
import Mathlib.Data.List.TakeWhile

/-!
# Encoded texts and their boundaries

Decoding the encoding of a text gives the text back: the bytes of a character pass every test of
the decoder, and no byte behind them is touched. A byte offset is a boundary when the bytes before
it encode a beginning of the text, and what lies between two boundaries is again an encoded text.
-/

namespace DefectScan.Text

/-! ### The bytes of a character -/

section Bytes

variable {lead b : UInt8}

theorem followers?_of_lt (h : lead.toNat < 0x80) : followers? lead = some 0 := by
  simp only [followers?, UInt8.lt_iff_toNat_lt]
  exact if_pos h

/-- The number of bytes that follow a lead byte, by the range that the lead byte is in. -/
theorem followers?_of_ge (h : 0xC2 ≤ lead.toNat) (h' : lead.toNat < 0xF5) :
    followers? lead =
      some (if lead.toNat < 0xE0 then 1 else if lead.toNat < 0xF0 then 2 else 3) := by
  simp only [followers?, UInt8.lt_iff_toNat_lt, UInt8.reduceToNat]
  grind

/-- A byte of the common range can follow a lead byte, unless the form is overlong, a surrogate or
too large. -/
theorem isSecond_of_range (hlow : 0x80 ≤ b.toNat) (hhigh : b.toNat ≤ 0xBF)
    (he0 : lead.toNat = 0xE0 → 0xA0 ≤ b.toNat) (hed : lead.toNat = 0xED → b.toNat ≤ 0x9F)
    (hf0 : lead.toNat = 0xF0 → 0x90 ≤ b.toNat) (hf4 : lead.toNat = 0xF4 → b.toNat ≤ 0x8F) :
    isSecond lead b = true := by
  simp only [isSecond, Bool.and_eq_true, decide_eq_true_eq, ← UInt8.toNat_inj,
    UInt8.le_iff_toNat_le]
  constructor
  · split
    · exact he0 ‹_›
    · split
      · exact hf0 ‹_›
      · exact hlow
  · split
    · exact hed ‹_›
    · split
      · exact hf4 ‹_›
      · exact hhigh

theorem isContinuation_of_range (hlow : 0x80 ≤ b.toNat) (hhigh : b.toNat ≤ 0xBF) :
    isContinuation b = true := by
  simp only [isContinuation, Bool.and_eq_true, decide_eq_true_eq, UInt8.le_iff_toNat_le]
  exact ⟨hlow, hhigh⟩

/-- The continuation of a lead byte stops after the bytes that belong to it. -/
theorem continuation_cons_append (hsecond : isSecond lead b = true) (more rest : List UInt8)
    (hmore : ∀ x ∈ more, isContinuation x = true) :
    continuation lead (more.length + 1) (b :: (more ++ rest)) = b :: more := by
  have htake : more.takeWhile isContinuation = more := List.takeWhile_eq_self_iff.2 hmore
  simp [continuation, hsecond, htake]

end Bytes

/-- A lead byte and the bytes that belong to it are decoded to one character. -/
theorem decoded_cons_append {lead : UInt8} {c : Char} (more rest : List UInt8)
    (hfollowers : followers? lead = some more.length)
    (hmore : continuation lead more.length (more ++ rest) = more)
    (hvalue : more.foldl (fun n b => n * 0x40 + b.toNat % 0x40) (leadBits lead more.length) =
      c.toNat) :
    decoded (lead :: (more ++ rest)) = some c :: decoded rest := by
  have hfirst : decodeFirst lead (more ++ rest) = (some c, more.length) := by
    simp [decodeFirst, hfollowers, hmore, hvalue]
  rw [decoded, hfirst, List.drop_left]

private theorem toNat_ofNat_of_lt {n : Nat} (h : n < 256) : (UInt8.ofNat n).toNat = n := by
  simpa using h

/-- The bytes after the lead byte carry six bits each. -/
private theorem toNat_tailByte (n : Nat) :
    (UInt8.ofNat (n % 0x40 + 0x80)).toNat = n % 0x40 + 0x80 :=
  toNat_ofNat_of_lt (by omega)

private theorem isContinuation_tailByte (n : Nat) :
    isContinuation (UInt8.ofNat (n % 0x40 + 0x80)) = true := by
  have hbyte := toNat_tailByte n
  exact isContinuation_of_range (by omega) (by omega)

/-- The bytes of a character are decoded to it. -/
theorem decoded_utf8EncodeChar_append (c : Char) (rest : List UInt8) :
    decoded (String.utf8EncodeChar c ++ rest) = some c :: decoded rest := by
  have hvalid : c.toNat < 0xD800 ∨ 0xDFFF < c.toNat ∧ c.toNat < 0x110000 := c.valid
  have hlast := toNat_tailByte c.toNat
  have hnext := toNat_tailByte (c.toNat / 64)
  have hfirst := toNat_tailByte (c.toNat / 4096)
  simp only [String.utf8EncodeChar, Char.toNat_val]
  split
  · have hlead := toNat_ofNat_of_lt (n := c.toNat) (by omega)
    refine decoded_cons_append [] rest (followers?_of_lt (by omega)) ?_ hlead
    cases rest <;> rfl
  · split
    · have hlead := toNat_ofNat_of_lt (n := c.toNat / 64 % 0x20 + 0xc0) (by omega)
      refine decoded_cons_append [_] rest ?_ ?_ ?_
      · rw [followers?_of_ge (by omega) (by omega), if_pos (by omega)]
        rfl
      · refine continuation_cons_append ?_ [] rest (List.forall_mem_nil _)
        exact isSecond_of_range (by omega) (by omega) (by omega) (by omega) (by omega) (by omega)
      · simp only [List.length_cons, List.length_nil, leadBits, List.foldl_cons, List.foldl_nil,
          hlead, hlast]
        omega
    · split
      · have hlead := toNat_ofNat_of_lt (n := c.toNat / 4096 % 0x10 + 0xe0) (by omega)
        refine decoded_cons_append [_, _] rest ?_ ?_ ?_
        · rw [followers?_of_ge (by omega) (by omega), if_neg (by omega), if_pos (by omega)]
          rfl
        · refine continuation_cons_append ?_ [_] rest
            (List.forall_mem_singleton.2 (isContinuation_tailByte _))
          exact isSecond_of_range (by omega) (by omega) (by omega) (by omega) (by omega) (by omega)
        · simp only [List.length_cons, List.length_nil, leadBits, List.foldl_cons, List.foldl_nil,
            hlead, hnext, hlast]
          omega
      · have hlead := toNat_ofNat_of_lt (n := c.toNat / 262144 % 0x08 + 0xf0) (by omega)
        refine decoded_cons_append [_, _, _] rest ?_ ?_ ?_
        · rw [followers?_of_ge (by omega) (by omega), if_neg (by omega), if_neg (by omega)]
          rfl
        · refine continuation_cons_append ?_ [_, _] rest
            (List.forall_mem_cons.2 ⟨isContinuation_tailByte _,
              List.forall_mem_singleton.2 (isContinuation_tailByte _)⟩)
          exact isSecond_of_range (by omega) (by omega) (by omega) (by omega) (by omega) (by omega)
        · simp only [List.length_cons, List.length_nil, leadBits, List.foldl_cons, List.foldl_nil,
            hlead, hfirst, hnext, hlast]
          omega

/-! ### Encoded texts -/

@[simp] theorem utf8_nil : utf8 [] = [] := rfl

theorem utf8_cons (c : Char) (s : List Char) : utf8 (c :: s) = String.utf8EncodeChar c ++ utf8 s :=
  rfl

theorem utf8_append (s t : List Char) : utf8 (s ++ t) = utf8 s ++ utf8 t := List.flatMap_append

theorem decoded_utf8 (s : List Char) : decoded (utf8 s) = s.map some := by
  induction s with
  | nil => simp [decoded]
  | cons c s ih => rw [utf8_cons, decoded_utf8EncodeChar_append, ih, List.map_cons]

/-- Decoding gives back what was encoded. -/
@[simp] theorem ofUtf8Lossy_utf8 (s : List Char) : ofUtf8Lossy (utf8 s) = s := by
  rw [ofUtf8Lossy, decoded_utf8, List.map_map]
  exact List.map_id'' (fun _ => rfl) s

theorem firstDamage?_eq_none {bytes : List UInt8} (h : ∀ c ∈ decoded bytes, c.isSome = true)
    (position : Nat) : firstDamage? position bytes = none := by
  fun_induction firstDamage? position bytes with
  | case1 => rfl
  | case2 position lead bytes first hfirst =>
    have hsome := h first.1 (by rw [decoded]; exact List.mem_cons_self)
    rw [Option.isNone_iff_eq_none.1 hfirst] at hsome
    cases hsome
  | case3 position lead bytes first hfirst ih =>
    refine ih fun c hc => h c ?_
    rw [decoded]
    exact List.mem_cons_of_mem _ hc

/-- What was encoded is not damaged. -/
@[simp] theorem ofUtf8_utf8 (s : List Char) : ofUtf8 (utf8 s) = .ok s := by
  have hnone : firstDamage? 0 (utf8 s) = none := by
    refine firstDamage?_eq_none (fun c hc => ?_) 0
    rw [decoded_utf8] at hc
    obtain ⟨_, -, rfl⟩ := List.mem_map.1 hc
    rfl
  rw [ofUtf8, hnone, ofUtf8Lossy_utf8]

/-- Both decoders agree where nothing is damaged. -/
theorem ofUtf8Lossy_of_ofUtf8 {bytes : List UInt8} {s : List Char} (h : ofUtf8 bytes = .ok s) :
    ofUtf8Lossy bytes = s := by
  unfold ofUtf8 at h
  split at h
  · cases h
  · exact Except.ok.inj h

/-! ### Boundaries -/

/-- A byte offset before which the bytes of whole characters lie. -/
def IsBoundary (text : List Char) (offset : Nat) : Prop :=
  ∃ k, (utf8 (text.take k)).length = offset

/-- Between two boundaries lies a part of the text. -/
theorem IsBoundary.exists_parts {text : List Char} {start stop : Nat}
    (hstart : IsBoundary text start) (hstop : IsBoundary text stop) (h : start < stop) :
    ∃ before part after, text = before ++ (part ++ after) ∧ (utf8 before).length = start ∧
      (utf8 before).length + (utf8 part).length = stop := by
  obtain ⟨i, rfl⟩ := hstart
  obtain ⟨j, rfl⟩ := hstop
  have hij : i ≤ j := by
    by_contra hij
    have hprefix : text.take j <+: text.take i := List.take_prefix_take_left (by omega)
    obtain ⟨s, hs⟩ := hprefix
    rw [← hs, utf8_append, List.length_append] at h
    omega
  have hparts : text.take j = text.take i ++ (text.drop i).take (j - i) := by
    rw [← List.take_add, Nat.add_sub_of_le hij]
  refine ⟨text.take i, (text.drop i).take (j - i), text.drop j, ?_, rfl, ?_⟩
  · rw [← List.append_assoc, ← hparts, List.take_append_drop]
  · rw [hparts, utf8_append, List.length_append]

end DefectScan.Text
