import CodeRepair.Proofs.Text.Decoding

/-!
# Bytes of ASCII

A byte of ASCII continues no character.  It ends one that was begun before it as ill-formed and stands
for itself, so the bytes on both sides of it are decoded apart.  In turn, a character of ASCII comes
from no other byte than its own.
-/

namespace CodeRepair.Text

namespace Decoding

theorem step_ascii {state : Decoding} (h : state.Sound) {byte : UInt8} (hbyte : byte.toNat < 0x80) :
    state.step byte = emit state.finish.reverse (some (Char.ofNat byte.toNat)) := by
  have hstart (units : List (Option Char)) :
      start units byte.toNat = emit units (some (Char.ofNat byte.toNat)) := by
    rw [start, if_pos hbyte]
  obtain ⟨units, _ | unfinished⟩ := state
  · simp only [step, finish, hstart, List.reverse_reverse]
  · have hlow : byte.toNat < unfinished.low :=
      Nat.lt_of_lt_of_le hbyte (h unfinished rfl).low
    obtain ⟨hrange, -⟩ | ⟨-, hstep⟩ := step_cases units unfinished byte
    · exact absurd hrange.1 (Nat.not_le.2 hlow)
    · simp only [hstep, finish, hstart, List.reverse_reverse]

/-! ## Where characters of ASCII come from -/

theorem mem_of_mem_none_cons {units : List (Option Char)} {c : Char}
    (h : some c ∈ none :: units) : some c ∈ units :=
  (List.mem_cons.1 h).resolve_left (Option.some_ne_none c)

theorem mem_units_start {units : List (Option Char)} {byte : Nat} {c : Char}
    (h : some c ∈ (start units byte).units) : some c ∈ units ∨ c.toNat = byte := by
  unfold start at h
  split at h
  · rename_i hbyte
    have hvalid : byte.isValidChar := .inl (by omega)
    rcases List.mem_cons.1 h with hc | h
    · exact .inr (by rw [Option.some.inj hc, toNat_ofNat_of_isValidChar hvalid])
    · exact .inl h
  split at h
  · exact .inl (mem_of_mem_none_cons h)
  split at h
  · exact .inl h
  split at h
  · exact .inl h
  split at h
  · exact .inl h
  · exact .inl (mem_of_mem_none_cons h)

section

variable {state : Decoding} {c : Char} (hc : c.toNat < 0x80)
include hc

theorem mem_units_step (hstate : state.Sound) {byte : UInt8}
    (h : some c ∈ (state.step byte).units) : some c ∈ state.units ∨ c.toNat = byte.toNat := by
  obtain ⟨units, _ | unfinished⟩ := state
  · exact mem_units_start h
  · rcases step_cases units unfinished byte with
      ⟨hrange, ⟨hmissing, hstep⟩ | ⟨-, hstep⟩⟩ | ⟨-, hstep⟩
    · -- What is completed here lies beyond ASCII.
      rw [hstep] at h
      have hbeyond := (hstate unfinished rfl).complete hrange.1 hrange.2 hmissing
      refine .inl ((List.mem_cons.1 h).resolve_left fun hcomplete ↦ ?_)
      rw [← Option.some.inj hcomplete] at hbeyond
      omega
    · rw [hstep] at h
      exact .inl h
    · rw [hstep] at h
      exact (mem_units_start h).imp_left mem_of_mem_none_cons

theorem mem_units_foldl (hstate : state.Sound) (bytes : List UInt8)
    (h : some c ∈ (bytes.foldl step state).units) :
    some c ∈ state.units ∨ ∃ byte ∈ bytes, c.toNat = byte.toNat := by
  induction bytes generalizing state with
  | nil => exact .inl h
  | cons byte bytes ih =>
    rcases ih (hstate.step byte) h with hunits | ⟨other, hother, heq⟩
    · exact (mem_units_step hc hstate hunits).imp_right fun heq ↦ ⟨byte, List.mem_cons_self, heq⟩
    · exact .inr ⟨other, List.mem_cons_of_mem byte hother, heq⟩

end

theorem mem_finish {state : Decoding} {c : Char} (h : some c ∈ state.finish) :
    some c ∈ state.units := by
  obtain ⟨units, _ | unfinished⟩ := state
  · exact List.mem_reverse.1 h
  · exact mem_of_mem_none_cons (List.mem_reverse.1 h)

end Decoding

/-! ## Decoded texts -/

theorem decodeUnits_append_ascii (first second : List UInt8) {byte : UInt8}
    (h : byte.toNat < 0x80) :
    decodeUnits (first ++ byte :: second) =
      decodeUnits first ++ some (Char.ofNat byte.toNat) :: decodeUnits second := by
  unfold decodeUnits
  rw [Decoding.run, List.foldl_append, List.foldl_cons, ← Decoding.run,
    Decoding.step_ascii (Decoding.sound_run first) h, Decoding.emit, Decoding.finish_foldl,
    List.reverse_cons, List.reverse_reverse, List.append_assoc]
  rfl

/-- Bytes are decoded apart on both sides of a byte of ASCII. -/
theorem decodeLenient_append_ascii (first second : List UInt8) {byte : UInt8}
    (h : byte.toNat < 0x80) :
    decodeLenient (first ++ byte :: second) =
      decodeLenient first ++ Char.ofNat byte.toNat :: decodeLenient second := by
  rw [decodeLenient, decodeUnits_append_ascii first second h, List.map_append, List.map_cons]
  rfl

/-- A character of ASCII is decoded from its own byte only. -/
theorem exists_byte_of_mem_decodeLenient {bytes : List UInt8} {c : Char} (hc : c.toNat < 0x80)
    (h : c ∈ decodeLenient bytes) : ∃ byte ∈ bytes, c.toNat = byte.toNat := by
  obtain ⟨unit, hunit, hvalue⟩ := List.mem_map.1 h
  cases unit with
  | none =>
    rw [← hvalue] at hc
    exact absurd hc (by decide)
  | some d =>
    obtain rfl : d = c := hvalue
    have hempty : Decoding.Sound {} := nofun
    exact (Decoding.mem_units_foldl hc hempty bytes (Decoding.mem_finish hunit)).resolve_left
      List.not_mem_nil

end CodeRepair.Text
