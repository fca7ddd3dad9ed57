import CodeRepair.Execution.Supervision
import CodeRepair.Proofs.Execution.Collected
import CodeRepair.Proofs.Execution.Progress
import Mathlib.Data.List.ReduceOption

/-!
# What a consumer collects of an execution

The parties of an execution move in any order, and the events of a conduct are listed in one order.  A
consumer that reads that the command completed collects the same in both, so the one order stands for
all of them.
-/

namespace CodeRepair.Execution

/-! ## The events of a conduct -/

/-- The events of a command that ended by itself, in front of the last one. -/
def streamsOf (output errors : List UInt8) : List Event :=
  (if output.isEmpty then [] else [.output output]) ++ (errorLines errors).map .errorLine

variable {output errors : List UInt8}

theorem isTerminal_of_mem_streamsOf {event : Event} (h : event ∈ streamsOf output errors) :
    event.isTerminal = false := by
  rcases List.mem_append.1 h with h | h
  · split at h
    · cases h
    · rw [List.mem_singleton.1 h]
      rfl
  · obtain ⟨line, -, rfl⟩ := List.mem_map.1 h
    rfl

theorem outputOf_streamsOf : outputOf (streamsOf output errors) = output := by
  have hlines (lines : List Text) : outputOf (lines.map .errorLine) = [] := by
    simp [outputOf]
  rw [streamsOf, outputOf_append, hlines, List.append_nil]
  cases output with
  | nil => rfl
  | cons byte output => exact List.append_nil _

theorem errorLinesOf_streamsOf : errorLinesOf (streamsOf output errors) = errorLines errors := by
  have hlines (lines : List Text) : errorLinesOf (lines.map .errorLine) = lines := by
    simp [errorLinesOf, List.filterMap_map]
  rw [streamsOf, errorLinesOf_append, hlines]
  cases output <;> rfl

namespace System

variable {course : Course}

/-- In whatever order the parties move, what is collected of a command that completed is what its
events come to in the order in which they are listed. -/
theorem collect_reads (h : course.Reads output errors) (schedule : List Party)
    {code : Option Nat} (hread : some (.completed code) ∈ (run course schedule).reads)
    (keep wait : Nat) :
    collect keep (run course schedule).reads.reduceOption =
      collect keep ((Conduct.started output errors (.exited code)).events wait) := by
  obtain ⟨sent, hsound⟩ := sound_run course schedule
  obtain ⟨events, hquiet, hreads⟩ := reads_of_sound h hsound
  have hearlier : some (.completed code) ∉ events.map some := by
    intro hmem
    obtain ⟨event, hevent, heq⟩ := List.mem_map.1 hmem
    cases (Option.some.inj heq) ▸ hquiet event hevent
  rcases hreads with hreads | ⟨last, count, hlast, hreads, hcompleted⟩
  · exact absurd (hreads ▸ hread) hearlier
  · obtain rfl : last = .completed code := by
      rw [hreads] at hread
      rcases List.mem_cons.1 ((List.mem_append.1 hread).resolve_left hearlier) with heq | hmem
      · exact (Option.some.inj heq).symm
      · cases (List.mem_replicate.1 hmem).2
    obtain ⟨-, houtput, herrors⟩ := hcompleted code rfl
    have hreduced : (run course schedule).reads.reduceOption = events ++ .completed code :: [] := by
      rw [hreads]
      simp [List.reduceOption]
    rw [hreduced]
    refine collect_congr (fun event ↦ isTerminal_of_mem_streamsOf) hquiet hlast ?_ ?_ keep [] []
    · rw [houtput, outputOf_streamsOf]
    · rw [herrors, errorLinesOf_streamsOf]

end System

end CodeRepair.Execution
