import CodeRepair.Execution.Event

/-!
# What is collected of events

What is kept of the output depends on its bytes only, not on the parts they come in, and the lines of
error output between them change nothing of it.  So collecting events comes down to the beginning of
all their output, as long as the limit lets it be.
-/

namespace CodeRepair.Execution

/-- What is kept of some bytes when at most a number of them is. -/
def Kept.beginning (limit : Nat) (bytes : List UInt8) : Kept :=
  ⟨bytes.take limit, bytes.length - limit⟩

theorem Kept.beginning_nil (limit : Nat) : Kept.beginning limit [] = {} := by
  rw [beginning, List.take_nil, List.length_nil, Nat.zero_sub]

/-- What is kept depends on the bytes, not on their parts. -/
theorem Kept.add_beginning (limit : Nat) (bytes chunk : List UInt8) :
    (Kept.beginning limit bytes).add limit chunk = Kept.beginning limit (bytes ++ chunk) := by
  have hroom : limit - (bytes.take limit).length = limit - bytes.length := by
    rw [List.length_take]
    omega
  have htruncated : bytes.length - limit + (chunk.length - (chunk.take (limit - bytes.length)).length) =
      (bytes ++ chunk).length - limit := by
    rw [List.length_take, List.length_append]
    omega
  simp only [add, beginning]
  rw [hroom, htruncated, List.take_append]

/-- Events that are no last ones add their output to what is kept, and their lines are passed on. -/
theorem collectFrom_append {before : List Event} (hbefore : ∀ event ∈ before, event.isTerminal = false)
    (limit : Nat) (bytes : List UInt8) (events : List Event) :
    collectFrom limit (.beginning limit bytes) (before ++ events) =
      (errorLinesOf before ++
          (collectFrom limit (.beginning limit (bytes ++ outputOf before)) events).1,
        (collectFrom limit (.beginning limit (bytes ++ outputOf before)) events).2) := by
  induction before generalizing bytes with
  | nil => rw [List.nil_append, outputOf, List.flatMap_nil, List.append_nil]; rfl
  | cons event before ih =>
    have hrest := ih fun other hother ↦ hbefore other (List.mem_cons_of_mem event hother)
    cases event with
    | output chunk =>
      rw [List.cons_append, collectFrom, Kept.add_beginning, hrest, List.append_assoc]
      rfl
    | errorLine line =>
      rw [List.cons_append, collectFrom, hrest]
      rfl
    | completed code => cases hbefore (.completed code) List.mem_cons_self
    | failed message => cases hbefore (.failed message) List.mem_cons_self

theorem received_append {before : List Event} (hbefore : ∀ event ∈ before, event.isTerminal = false)
    {last : Event} (hlast : last.isTerminal = true) (after : List Event) :
    received (before ++ last :: after) = before ++ [last] := by
  induction before with
  | nil => rw [List.nil_append, received, if_pos hlast, List.nil_append]
  | cons event before ih =>
    have hevent : ¬ event.isTerminal = true := by
      rw [hbefore event List.mem_cons_self]
      exact Bool.false_ne_true
    rw [List.cons_append, received, if_neg hevent,
      ih fun other hother ↦ hbefore other (List.mem_cons_of_mem event hother)]
    rfl

/-- Up to the last event, all lines of error output are passed on and the output is kept. -/
theorem collect_append {before : List Event} (hbefore : ∀ event ∈ before, event.isTerminal = false)
    {last : Event} (hlast : last.isTerminal = true) (limit : Nat) (after : List Event) :
    collect limit (before ++ last :: after) =
      (errorLinesOf before, (collectFrom limit (.beginning limit (outputOf before)) [last]).2) := by
  have hnone (kept : Kept) : (collectFrom limit kept [last]).1 = [] := by
    cases last <;> first | rfl | cases hlast
  rw [collect, received_append hbefore hlast, ← Kept.beginning_nil limit,
    collectFrom_append hbefore, hnone, List.append_nil, List.nil_append]

/-- A command that completed is collected as the text of the beginning of its output. -/
theorem collect_completed {before : List Event} (hbefore : ∀ event ∈ before, event.isTerminal = false)
    (limit : Nat) (code : Option Nat) (after : List Event) :
    collect limit (before ++ .completed code :: after) =
      (errorLinesOf before, .ok ⟨Text.decodeLenient ((outputOf before).take limit), code,
        (outputOf before).length - limit⟩) :=
  collect_append hbefore rfl limit after

theorem collect_failed {before : List Event} (hbefore : ∀ event ∈ before, event.isTerminal = false)
    (limit : Nat) (message : Text) (after : List Event) :
    collect limit (before ++ .failed message :: after) = (errorLinesOf before, .error message) :=
  collect_append hbefore rfl limit after

/-- Events with the same output, the same lines of error output and the same last event come to the
same, however the output is divided and wherever the lines come between its parts. -/
theorem collect_congr {before other : List Event}
    (hbefore : ∀ event ∈ before, event.isTerminal = false)
    (hother : ∀ event ∈ other, event.isTerminal = false) {last : Event}
    (hlast : last.isTerminal = true) (houtput : outputOf other = outputOf before)
    (herrors : errorLinesOf other = errorLinesOf before) (limit : Nat) (after rest : List Event) :
    collect limit (other ++ last :: rest) = collect limit (before ++ last :: after) := by
  rw [collect_append hother hlast, collect_append hbefore hlast, houtput, herrors]

/-- Each line of error output is passed on once and in order.  A command that completed comes to the
text of the beginning of its output, up to the limit, and the number of bytes beyond it; one that failed
comes to its message.  So only the output as a whole, the lines and the last event count, and what is
sent behind the last event does not. -/
theorem collect_of_streams {before : List Event} {last : Event}
    (hbefore : ∀ event ∈ before, event.isTerminal = false) (hlast : last.isTerminal = true)
    (limit : Nat) (after : List Event) :
    let output := outputOf before
    let kept := min limit output.length
    let result := collect limit (before ++ last :: after)
    result.1 = errorLinesOf before ∧
      (∀ code, last = .completed code →
        result.2 = .ok ⟨Text.decodeLenient (output.take kept), code, output.length - kept⟩) ∧
      (∀ message, last = .failed message → result.2 = .error message) ∧
      ∀ other rest, (∀ event ∈ other, event.isTerminal = false) → outputOf other = output →
        errorLinesOf other = errorLinesOf before →
        collect limit (other ++ last :: rest) = result := by
  intro output kept result
  refine ⟨?_, ?_, ?_, fun other rest hother houtput herrors ↦ ?_⟩
  · simp only [result, collect_append hbefore hlast]
  · rintro code rfl
    have htruncated : output.length - kept = output.length - limit := by
      simp only [kept]
      omega
    simp only [result, collect_completed hbefore, htruncated]
    rw [List.take_eq_take_min]
  · rintro message rfl
    simp only [result, collect_failed hbefore]
  · exact collect_congr hbefore hother hlast houtput herrors limit after rest

/-- A character is cut apart between two parts of the output and another one by the limit, and a line
comes late. -/
theorem collect_of_streams_cut :
    let before : List Event := [.output [0x61, 0xC3], .errorLine "e".toList, .output [],
      .output [0xA9, 0xE2, 0x82, 0xAC], .errorLine "f".toList]
    let other : List Event := [.errorLine "e".toList, .errorLine "f".toList,
      .output [0x61, 0xC3, 0xA9, 0xE2, 0x82, 0xAC]]
    let last : Event := .completed (some 1)
    (∀ event ∈ before, event.isTerminal = false) ∧ last.isTerminal = true ∧
      collect 5 (before ++ last :: [.errorLine "late".toList]) =
        (["e".toList, "f".toList], .ok ⟨"aé\uFFFD".toList, some 1, 1⟩) ∧
      collect 5 (other ++ last :: []) =
        collect 5 (before ++ last :: [.errorLine "late".toList]) := by
  intro before other last
  have hbefore : ∀ event ∈ before, event.isTerminal = false := by decide
  have hother : ∀ event ∈ other, event.isTerminal = false := by decide
  have hlast : last.isTerminal = true := rfl
  obtain ⟨hlines, hcompleted, -, hsame⟩ :=
    collect_of_streams hbefore hlast 5 [.errorLine "late".toList]
  refine ⟨hbefore, hlast, Prod.ext hlines ?_, hsame other [] hother rfl rfl⟩
  exact (hcompleted (some 1) rfl).trans (congrArg Except.ok (by decide +kernel))

end CodeRepair.Execution
