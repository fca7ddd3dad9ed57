import CodeRepair.Proofs.Execution.Interleaving

/-!
# The last event of an execution

An execution whose parties keep moving comes to its last event.  Only those parties have to keep
moving that it really waits for: after a command that did not start or that ran too long, the last
event comes even if the forwarders never move again.  Together with what is read on the way this says
that the events of an execution end exactly once.
-/

namespace CodeRepair.Execution

/-- A course that reads, unless a fault breaks the reading off, all that a command writes. -/
structure Course.Reads (course : Course) (output errors : List UInt8) : Prop where
  output : course.outputFault = none → course.chunks.flatten = output
  errors : course.errorFault = none → course.lines = byteLines errors

namespace System

variable {course : Course} {system next : System} {sent : List Event}

/-! ## Work that is left -/

/-- How far the supervisor is from leaving. -/
def phaseWork : Phase → Nat
  | .starting => 4
  | .waiting => 3
  | .joining _ => 2
  | .gone => 0

/-- What is left to do until the last event is read.  Whatever is still to be sent counts twice, since
it has to be read as well. -/
def work (system : System) : Nat :=
  2 * system.chunks.length + 2 * system.lines.length + (!system.outputDone).toNat +
    (!system.errorsDone).toNat + (!system.inputDone).toNat + phaseWork system.phase +
    system.channel.length + (!system.finished).toNat

/-- The state after so many moves of a schedule without end. -/
def after (course : Course) (schedule : Nat → Party) (count : Nat) : System :=
  run course ((List.range count).map schedule)

/-- The events before a last one that says that the command completed are all that it wrote. -/
theorem reads_of_sound {output errors : List UInt8} (hreads : course.Reads output errors)
    (h : Sound course system sent) :
    ∃ events : List Event, (∀ event ∈ events, event.isTerminal = false) ∧
      (system.reads = events.map some ∨
        ∃ last count, last.isTerminal = true ∧
          system.reads = events.map some ++ some last :: List.replicate count none ∧
          ∀ code, last = .completed code →
            course.wait = .exited code ∧ outputOf events = output ∧
              errorLinesOf events = errorLines errors) := by
  have hreading := h.reading
  generalize system.finished = finished, hread : system.reads = reads at hreading
  cases hreading with
  | going events hquiet => exact ⟨events, hquiet, .inl rfl⟩
  | ended events last count hquiet hlast hsent =>
    refine ⟨events, hquiet, .inr ⟨last, count, hlast, rfl, ?_⟩⟩
    rintro code rfl
    have hsent := hsent.resolve_left nofun
    obtain ⟨hwait, houtputFault, herrorFault, houtput, herrors⟩ := h.of_read_completed hsent
    refine ⟨hwait, houtput.trans (hreads.output houtputFault), ?_⟩
    rw [herrors, hreads.errors herrorFault]
    rfl

end System

end CodeRepair.Execution
