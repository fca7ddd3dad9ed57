import CodeRepair.Proofs.Text.Decoding

/-!
# Decoding what was encoded

The bytes of a text decode to the text, and they begin with a byte that continues no character.  So
they decode to the same text behind any bytes, which are well-formed or not whatever follows.
-/

namespace CodeRepair.Text

theorem encode_append (text more : Text) : encode (text ++ more) = encode text ++ encode more :=
  List.flatMap_append

namespace Decoding

/-! ## One character -/

theorem step_first (units : List (Option Char)) {byte : Nat} (h : byte < 256) :
    step ⟨units, none⟩ (UInt8.ofNat byte) = start units byte := by
  have hbyte : (UInt8.ofNat byte).toNat = byte := UInt8.toNat_ofNat_of_lt' h
  simp only [step, hbyte]

theorem step_next (units : List (Option Char)) {bits missing low high byte : Nat} (h : byte < 256)
    (hlow : low ≤ byte) (hhigh : byte ≤ high) :
    step ⟨units, some ⟨bits, missing, low, high⟩⟩ (UInt8.ofNat byte) =
      if missing ≤ 1 then emit units (some (Char.ofNat (64 * bits + (byte - 0x80))))
      else ⟨units, some ⟨64 * bits + (byte - 0x80), missing - 1, 0x80, 0xBF⟩⟩ := by
  have hbyte : (UInt8.ofNat byte).toNat = byte := UInt8.toNat_ofNat_of_lt' h
  simp [step, hbyte, hlow, hhigh]

/-- The bytes of a character decode to that character. -/
theorem foldl_utf8EncodeChar (units : List (Option Char)) (c : Char) :
    (String.utf8EncodeChar c).foldl step ⟨units, none⟩ = emit units (some c) := by
  have hvalid : c.toNat < 0xD800 ∨ 0xDFFF < c.toNat ∧ c.toNat < 0x110000 := c.valid
  have hemit {n : Nat} (hn : n = c.toNat) : emit units (some (Char.ofNat n)) = emit units (some c) := by
    rw [hn, Char.ofNat_toNat]
  have hval : c.val.toNat = c.toNat := rfl
  simp only [String.utf8EncodeChar, hval]
  generalize c.toNat = n at hvalid hemit
  split
  · rw [List.foldl_cons, List.foldl_nil, step_first units (by omega), start, if_pos (by omega)]
    exact hemit rfl
  split
  · simp only [List.foldl_cons, List.foldl_nil]
    rw [step_first units (by omega), start, if_neg (by omega), if_neg (by omega), if_pos (by omega),
      step_next units (by omega) (by omega) (by omega), if_pos (Nat.le_refl 1)]
    exact hemit (by omega)
  split
  · simp only [List.foldl_cons, List.foldl_nil]
    rw [step_first units (by omega), start, if_neg (by omega), if_neg (by omega), if_neg (by omega),
      if_pos (by omega),
      step_next units (by omega) (by split <;> omega) (by split <;> omega), if_neg (by decide),
      step_next units (by omega) (by omega) (by omega), if_pos (Nat.le_refl 1)]
    exact hemit (by omega)
  · simp only [List.foldl_cons, List.foldl_nil]
    rw [step_first units (by omega), start, if_neg (by omega), if_neg (by omega), if_neg (by omega),
      if_neg (by omega), if_pos (by omega),
      step_next units (by omega) (by split <;> omega) (by split <;> omega), if_neg (by decide),
      step_next units (by omega) (by omega) (by omega), if_neg (by decide),
      step_next units (by omega) (by omega) (by omega), if_pos (Nat.le_refl 1)]
    exact hemit (by omega)

theorem foldl_encode (units : List (Option Char)) (text : Text) :
    (encode text).foldl step ⟨units, none⟩ = ⟨(text.map some).reverse ++ units, none⟩ := by
  induction text generalizing units with
  | nil => rfl
  | cons c text ih =>
    have hcons : encode (c :: text) = String.utf8EncodeChar c ++ encode text := rfl
    rw [hcons, List.foldl_append, foldl_utf8EncodeChar, emit, ih]
    simp

/-! ## Bytes in front -/

/-- What follows a first byte lies in the range of the bytes that follow first bytes. -/
def Narrow (state : Decoding) : Prop :=
  ∀ unfinished ∈ state.unfinished, 0x80 ≤ unfinished.low ∧ unfinished.high ≤ 0xBF

theorem narrow_start (units : List (Option Char)) (byte : Nat) : (start units byte).Narrow := by
  intro unfinished h
  unfold start emit at h
  grind

theorem Narrow.step {state : Decoding} (h : state.Narrow) (byte : UInt8) :
    (state.step byte).Narrow := by
  obtain ⟨units, _ | unfinished⟩ := state
  · exact narrow_start units _
  · rcases step_cases units unfinished byte with ⟨-, ⟨-, hstep⟩ | ⟨-, hstep⟩⟩ | ⟨-, hstep⟩
    · rw [hstep]
      exact nofun
    · rw [hstep]
      intro other hother
      rw [← Option.some.inj hother]
      exact ⟨Nat.le_refl _, Nat.le_refl _⟩
    · rw [hstep]
      exact narrow_start _ _

theorem narrow_run (bytes : List UInt8) : (run bytes).Narrow := by
  have hfold (state : Decoding) (h : state.Narrow) : (bytes.foldl Decoding.step state).Narrow := by
    induction bytes generalizing state with
    | nil => exact h
    | cons byte bytes ih => exact ih (state.step byte) (h.step byte)
  exact hfold {} nofun

end Decoding

/-- The first byte of a character continues no other one. -/
theorem exists_utf8EncodeChar_eq_cons (c : Char) :
    ∃ byte bytes, String.utf8EncodeChar c = byte :: bytes ∧
      (byte.toNat < 0x80 ∨ 0xBF < byte.toNat) := by
  have hbyte {n : Nat} (h : n < 256) : (UInt8.ofNat n).toNat = n := UInt8.toNat_ofNat_of_lt' h
  simp only [String.utf8EncodeChar]
  generalize c.val.toNat = n
  split
  · exact ⟨_, _, rfl, by rw [hbyte (by omega)]; omega⟩
  split
  · exact ⟨_, _, rfl, by rw [hbyte (by omega)]; omega⟩
  split
  · exact ⟨_, _, rfl, by rw [hbyte (by omega)]; omega⟩
  · exact ⟨_, _, rfl, by rw [hbyte (by omega)]; omega⟩

theorem decodeUnits_append_encode (bytes : List UInt8) (text : Text) :
    decodeUnits (bytes ++ encode text) = decodeUnits bytes ++ text.map some := by
  have hnarrow := Decoding.narrow_run bytes
  unfold decodeUnits
  rw [Decoding.run, List.foldl_append, ← Decoding.run]
  generalize Decoding.run bytes = state at hnarrow ⊢
  obtain ⟨units, _ | unfinished⟩ := state
  · rw [Decoding.foldl_encode]
    simp [Decoding.finish]
  · cases text with
    | nil => exact (List.append_nil _).symm
    | cons c text =>
      -- The unfinished character ends at the first byte, as it would at the end of the bytes.
      have hcut : (encode (c :: text)).foldl Decoding.step ⟨units, some unfinished⟩ =
          (encode (c :: text)).foldl Decoding.step ⟨none :: units, none⟩ := by
        obtain ⟨byte, rest, hc, hrange⟩ := exists_utf8EncodeChar_eq_cons c
        have hout : ¬(unfinished.low ≤ byte.toNat ∧ byte.toNat ≤ unfinished.high) := by
          have hlimits := hnarrow unfinished rfl
          omega
        have hcons : encode (c :: text) = byte :: (rest ++ encode text) := by
          rw [← List.cons_append, ← hc]
          rfl
        rw [hcons, List.foldl_cons, List.foldl_cons]
        simp [Decoding.step, hout]
      rw [hcut, Decoding.foldl_encode]
      simp [Decoding.finish]

/-- Bytes are well-formed or not whatever text follows them. -/
theorem decode?_append_encode (bytes : List UInt8) (text : Text) :
    decode? (bytes ++ encode text) = (decode? bytes).map (· ++ text) := by
  have hall : (text.map some).all Option.isSome = true := by simp
  simp only [decode?, decodeUnits_append_encode, List.all_append, hall, Bool.and_true]
  split
  · simp [List.filterMap_append]
  · rfl

/-- A text is decoded from its bytes. -/
theorem decode?_encode (text : Text) : decode? (encode text) = some text := by
  have h := decode?_append_encode [] text
  rw [List.nil_append] at h
  exact h

end CodeRepair.Text
