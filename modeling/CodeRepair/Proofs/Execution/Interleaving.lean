import CodeRepair.Execution.Interleaving
import Mathlib.Data.List.Basic
import Mathlib.Tactic.Common

/-!
# What is read of an execution

However the parties of an execution move, the consumer reads events that are no last ones, then at most
one last event, and nothing after it.  The invariant is about everything that was ever sent: the
channel is its unread end, and it holds what the forwarders have read so far, in order.  A completed
execution is announced only when both forwarders are through, so everything was sent before.
-/

namespace CodeRepair.Execution

theorem outputOf_append (events more : List Event) :
    outputOf (events ++ more) = outputOf events ++ outputOf more :=
  List.flatMap_append

theorem errorLinesOf_append (events more : List Event) :
    errorLinesOf (events ++ more) = errorLinesOf events ++ errorLinesOf more :=
  List.filterMap_append

theorem Event.outputOf_terminal {event : Event} (h : event.isTerminal = true) :
    outputOf [event] = [] := by
  cases event <;> first | rfl | cases h

theorem Event.errorLinesOf_terminal {event : Event} (h : event.isTerminal = true) :
    errorLinesOf [event] = [] := by
  cases event <;> first | rfl | cases h

namespace System

variable {course : Course} {system next : System} {sent : List Event}

/-! ## Moves -/

/-- What a move can do when it does anything at all. -/
inductive Move (course : Course) (system : System) : System → Prop
  | chunk {chunk : List UInt8} {rest : List (List UInt8)} (hdone : system.outputDone = false)
      (hchunks : system.chunks = chunk :: rest) :
      Move course system { system.send (.output chunk) with chunks := rest }
  | outputEnd (hdone : system.outputDone = false) (hchunks : system.chunks = []) :
      Move course system { system with outputDone := true }
  | line {line : List UInt8} {text : Text} {rest : List (List UInt8)}
      (hdone : system.errorsDone = false) (hlines : system.lines = line :: rest)
      (htext : errorLine? line = some text) :
      Move course system { system.send (.errorLine text) with lines := rest }
  | blank {line : List UInt8} {rest : List (List UInt8)} (hdone : system.errorsDone = false)
      (hlines : system.lines = line :: rest) (htext : errorLine? line = none) :
      Move course system { system with lines := rest }
  | errorsEnd (hdone : system.errorsDone = false) (hlines : system.lines = []) :
      Move course system { system with errorsDone := true }
  | inputEnd (hdone : system.inputDone = false) : Move course system { system with inputDone := true }
  | refused {fault : Text} (hphase : system.phase = .starting)
      (hfault : course.startFault = some fault) : Move course system (system.conclude (.failed fault))
  | started (hphase : system.phase = .starting) (hfault : course.startFault = none) :
      Move course system { system with phase := .waiting, launched := true }
  | exited {code : Option Nat} (hphase : system.phase = .waiting)
      (hwait : course.wait = .exited code) : Move course system { system with phase := .joining code }
  | waitFailed {message : Text} (hphase : system.phase = .waiting)
      (hwait : course.wait = .failed message) :
      Move course system (system.conclude (.failed message))
  | crashed (hphase : system.phase = .waiting) (hwait : course.wait = .crashed) :
      Move course system { system with phase := .gone }
  | joinFailed {code : Option Nat} {fault : Text} (hphase : system.phase = .joining code) :
      Move course system (system.conclude (.failed fault))
  | completed {code : Option Nat} (hphase : system.phase = .joining code)
      (houtput : system.outputDone = true) (herrors : system.errorsDone = true)
      (houtputFault : course.outputFault = none) (herrorFault : course.errorFault = none) :
      Move course system (system.conclude (.completed code))
  | read {event : Event} {rest : List Event} (hfinished : system.finished = false)
      (hchannel : system.channel = event :: rest) :
      Move course system { system with
        channel := rest, finished := event.isTerminal, reads := system.reads ++ [some event] }
  | abandoned (hfinished : system.finished = false) (hchannel : system.channel = [])
      (hclosed : system.isClosed = true) :
      Move course system { system with
        finished := true, reads := system.reads ++ [some abandoned] }
  | silence (hfinished : system.finished = true) :
      Move course system { system with reads := system.reads ++ [none] }

theorem forwardOutput_cases (system : System) :
    system.forwardOutput = system ∨ Move course system system.forwardOutput := by
  unfold forwardOutput
  split
  · exact .inl rfl
  · rename_i hactive
    have hdone : system.outputDone = false := by
      cases h : system.outputDone <;> simp_all
    split
    · rename_i hchunks
      exact .inr (.chunk hdone hchunks)
    · rename_i hchunks
      exact .inr (.outputEnd hdone hchunks)

theorem forwardErrors_cases (system : System) :
    system.forwardErrors = system ∨ Move course system system.forwardErrors := by
  unfold forwardErrors
  split
  · exact .inl rfl
  · rename_i hactive
    have hdone : system.errorsDone = false := by
      cases h : system.errorsDone <;> simp_all
    split
    · rename_i hlines
      split
      · rename_i htext
        exact .inr (.line hdone hlines htext)
      · rename_i htext
        exact .inr (.blank hdone hlines htext)
    · rename_i hlines
      exact .inr (.errorsEnd hdone hlines)

theorem join_cases {code : Option Nat} (hphase : system.phase = .joining code) :
    system.join course code = system ∨ Move course system (system.join course code) := by
  unfold join
  split
  · exact .inl rfl
  split
  · exact .inr (.joinFailed hphase)
  split
  · exact .inl rfl
  rename_i houtput
  split
  · exact .inr (.joinFailed hphase)
  rename_i houtputFault
  split
  · exact .inl rfl
  rename_i herrors
  split
  · exact .inr (.joinFailed hphase)
  rename_i herrorFault
  exact .inr (.completed hphase (by simpa using houtput) (by simpa using herrors) houtputFault
    herrorFault)

theorem supervise_cases (course : Course) (system : System) :
    system.supervise course = system ∨ Move course system (system.supervise course) := by
  unfold supervise
  split
  case h_1 hphase =>
    split
    case h_1 hfault => exact .inr (.refused hphase hfault)
    case h_2 hfault => exact .inr (.started hphase hfault)
  case h_2 hphase =>
    split
    case h_1 hwait => exact .inr (.exited hphase hwait)
    case h_2 hwait => exact .inr (.waitFailed hphase hwait)
    case h_3 hwait => exact .inr (.crashed hphase hwait)
  case h_3 hphase => exact join_cases hphase
  case h_4 => exact .inl rfl

theorem consume_cases (system : System) :
    system.consume = system ∨ Move course system system.consume := by
  unfold consume
  split
  · rename_i hfinished
    exact .inr (.silence hfinished)
  · rename_i hfinished
    rw [Bool.not_eq_true] at hfinished
    split
    · rename_i hchannel
      exact .inr (.read hfinished hchannel)
    · rename_i hchannel
      split
      · rename_i hclosed
        exact .inr (.abandoned hfinished hchannel hclosed)
      · exact .inl rfl

/-- A party that moves does one of the moves, or it has to wait. -/
theorem step_cases (course : Course) (system : System) (party : Party) :
    system.step course party = system ∨ Move course system (system.step course party) := by
  cases party with
  | output => exact forwardOutput_cases system
  | errors => exact forwardErrors_cases system
  | input =>
    cases hdone : system.inputDone with
    | false =>
      by_cases hlaunched : system.launched = true
      · rw [step, if_pos hlaunched]
        exact .inr (.inputEnd hdone)
      · rw [step, if_neg hlaunched]
        exact .inl rfl
    | true =>
      left
      rw [step, ← hdone]
      exact ite_self system
  | supervisor => exact supervise_cases course system
  | consumer => exact consume_cases system

/-! ## What was sent -/

/-- What the consumer has read when so much was sent and so much of it is in the channel. -/
inductive Reading (sent channel : List Event) : Bool → List (Option Event) → Prop
  | going (events : List Event) (hquiet : ∀ event ∈ events, event.isTerminal = false)
      (hsent : sent = events ++ channel) : Reading sent channel false (events.map some)
  | ended (events : List Event) (last : Event) (count : Nat)
      (hquiet : ∀ event ∈ events, event.isTerminal = false) (hlast : last.isTerminal = true)
      (hsent : last = abandoned ∨ sent = events ++ last :: channel) :
      Reading sent channel true (events.map some ++ some last :: List.replicate count none)

/-- How things stand once it was sent that the command ended with a code. -/
structure Completes (course : Course) (system : System) (sent : List Event) (code : Option Nat) :
    Prop where
  gone : system.phase = .gone
  outputDone : system.outputDone = true
  errorsDone : system.errorsDone = true
  sent_eq : ∃ before, sent = before ++ [.completed code] ∧ ∀ event ∈ before, event.isTerminal = false
  wait : course.wait = .exited code
  outputFault : course.outputFault = none
  errorFault : course.errorFault = none

/-- How a state of an execution hangs together with all that was sent on the way to it. -/
structure Sound (course : Course) (system : System) (sent : List Event) : Prop where
  output : outputOf sent ++ system.chunks.flatten = course.chunks.flatten
  errors : errorLinesOf sent ++ system.lines.filterMap errorLine? =
    course.lines.filterMap errorLine?
  outputDone : system.outputDone = true → system.chunks = []
  errorsDone : system.errorsDone = true → system.lines = []
  waiting : system.phase = .waiting → course.startFault = none ∧ system.launched = true
  joining : ∀ code, system.phase = .joining code →
    course.startFault = none ∧ course.wait = .exited code ∧ system.launched = true
  gone : system.phase = .gone → (∃ event ∈ sent, event.isTerminal = true) ∨
    (course.startFault = none ∧ course.wait = .crashed)
  quiet : system.phase ≠ .gone → ∀ event ∈ sent, event.isTerminal = false
  completed : ∀ code, .completed code ∈ sent → Completes course system sent code
  reading : Reading sent system.channel system.finished system.reads

theorem sound_start (course : Course) : Sound course (start course) [] where
  output := rfl
  errors := rfl
  outputDone := nofun
  errorsDone := nofun
  waiting := nofun
  joining := nofun
  gone := nofun
  quiet := nofun
  completed := nofun
  reading := .going [] nofun rfl

theorem Reading.send {channel : List Event} {finished : Bool} {reads : List (Option Event)}
    (h : Reading sent channel finished reads) (event : Event) :
    Reading (sent ++ [event]) (channel ++ [event]) finished reads := by
  cases h with
  | going events hquiet hsent =>
    exact .going events hquiet (by rw [hsent, List.append_assoc])
  | ended events last count hquiet hlast hsent =>
    refine .ended events last count hquiet hlast (hsent.imp_right fun hsent ↦ ?_)
    rw [hsent, List.append_assoc, List.cons_append]

/-- Reading the next event, if no last one was read before. -/
theorem Reading.read {event : Event} {channel : List Event} {reads : List (Option Event)}
    (h : Reading sent (event :: channel) false reads) :
    Reading sent channel event.isTerminal (reads ++ [some event]) := by
  cases h with
  | going events hquiet hsent =>
    cases hevent : event.isTerminal with
    | false =>
      have hmore : ∀ other ∈ events ++ [event], other.isTerminal = false := by
        intro other hother
        rcases List.mem_append.1 hother with hother | hother
        · exact hquiet other hother
        · rwa [List.mem_singleton.1 hother]
      have hreads : events.map some ++ [some event] = (events ++ [event]).map some := by simp
      rw [hreads]
      exact .going (events ++ [event]) hmore (by rw [hsent, List.append_cons])
    | true => exact .ended events event 0 hquiet hevent (.inr hsent)

theorem Reading.abandon {channel : List Event} {reads : List (Option Event)}
    (h : Reading sent channel false reads) :
    Reading sent channel true (reads ++ [some Execution.abandoned]) := by
  cases h with
  | going events hquiet hsent => exact .ended events _ 0 hquiet rfl (.inl rfl)

theorem Reading.silence {channel : List Event} {reads : List (Option Event)}
    (h : Reading sent channel true reads) : Reading sent channel true (reads ++ [none]) := by
  cases h with
  | ended events last count hquiet hlast hsent =>
    rw [List.append_assoc, List.cons_append, ← List.replicate_succ']
    exact .ended events last (count + 1) hquiet hlast hsent

/-- Sending that the command ended, or that it failed, when nothing like that was sent before. -/
theorem Sound.conclude (h : Sound course system sent) (hphase : system.phase ≠ .gone) {event : Event}
    (hterminal : event.isTerminal = true)
    (hcompleted : ∀ code, event = .completed code → system.outputDone = true ∧
      system.errorsDone = true ∧ course.wait = .exited code ∧ course.outputFault = none ∧
      course.errorFault = none) :
    Sound course (system.conclude event) (sent ++ [event]) where
  output := by
    rw [outputOf_append, Event.outputOf_terminal hterminal, List.append_nil]
    exact h.output
  errors := by
    rw [errorLinesOf_append, Event.errorLinesOf_terminal hterminal, List.append_nil]
    exact h.errors
  outputDone := h.outputDone
  errorsDone := h.errorsDone
  waiting := nofun
  joining := nofun
  gone := fun _ ↦ .inl ⟨event, List.mem_append_right sent List.mem_cons_self, hterminal⟩
  quiet := fun hgone ↦ absurd rfl hgone
  completed code hcode := by
    rcases List.mem_append.1 hcode with hsent | hevent
    · cases h.quiet hphase _ hsent
    · have hevent := (List.mem_singleton.1 hevent).symm
      obtain ⟨houtput, herrors, hwait, houtputFault, herrorFault⟩ := hcompleted code hevent
      exact ⟨rfl, houtput, herrors, ⟨sent, by rw [hevent], h.quiet hphase⟩, hwait, houtputFault,
        herrorFault⟩
  reading := h.reading.send event

/-- Forwarding something that was read, before the forwarders are through. -/
theorem Sound.forward (h : Sound course system sent) {event : Event} {chunks lines : List (List UInt8)}
    (hopen : system.outputDone = false ∨ system.errorsDone = false)
    (hterminal : event.isTerminal = false)
    (houtput : outputOf [event] ++ chunks.flatten = system.chunks.flatten)
    (herrors : errorLinesOf [event] ++ lines.filterMap errorLine? =
      system.lines.filterMap errorLine?)
    (hchunks : system.outputDone = true → chunks = [])
    (hlines : system.errorsDone = true → lines = []) :
    Sound course { system.send event with chunks := chunks, lines := lines } (sent ++ [event]) where
  output := by
    rw [outputOf_append, List.append_assoc, houtput]
    exact h.output
  errors := by
    rw [errorLinesOf_append, List.append_assoc, herrors]
    exact h.errors
  outputDone := hchunks
  errorsDone := hlines
  waiting := h.waiting
  joining := h.joining
  gone hgone := (h.gone hgone).imp_left fun ⟨last, hmem, hlast⟩ ↦
    ⟨last, List.mem_append_left _ hmem, hlast⟩
  quiet hphase other hother := by
    rcases List.mem_append.1 hother with hother | hother
    · exact h.quiet hphase other hother
    · rwa [List.mem_singleton.1 hother]
  completed code hcode := by
    rcases List.mem_append.1 hcode with hcode | hcode
    · have hcompletes := h.completed code hcode
      rcases hopen with hopen | hopen
      · cases hopen.symm.trans hcompletes.outputDone
      · cases hopen.symm.trans hcompletes.errorsDone
    · rw [← List.mem_singleton.1 hcode] at hterminal
      cases hterminal
  reading := h.reading.send event

/-! ## Every move -/

theorem Sound.move (h : Sound course system sent) (move : Move course system next) :
    ∃ sent, Sound course next sent := by
  cases move with
  | @chunk chunk rest hdone hchunks =>
    refine ⟨_, h.forward (.inl hdone) rfl ?_ rfl (fun hopen ↦ ?_) h.errorsDone⟩
    · rw [hchunks, List.flatten_cons]
      exact congrArg (· ++ rest.flatten) (List.append_nil chunk)
    · cases hdone.symm.trans hopen
  | outputEnd hdone hchunks =>
    refine ⟨sent, { h with outputDone := fun _ ↦ hchunks, completed := fun code hcode ↦ ?_ }⟩
    cases hdone.symm.trans (h.completed code hcode).outputDone
  | line hdone hlines htext =>
    refine ⟨_, h.forward (.inr hdone) rfl rfl ?_ h.outputDone fun hopen ↦ ?_⟩
    · rw [hlines, List.filterMap_cons_some htext]
      rfl
    · cases hdone.symm.trans hopen
  | blank hdone hlines htext =>
    refine ⟨sent, { h with
      errors := ?_, errorsDone := fun hopen ↦ ?_, completed := fun code hcode ↦ ?_ }⟩
    · rw [← h.errors, hlines, List.filterMap_cons_none htext]
    · cases hdone.symm.trans hopen
    · cases hdone.symm.trans (h.completed code hcode).errorsDone
  | errorsEnd hdone hlines =>
    refine ⟨sent, { h with errorsDone := fun _ ↦ hlines, completed := fun code hcode ↦ ?_ }⟩
    cases hdone.symm.trans (h.completed code hcode).errorsDone
  | inputEnd => exact ⟨sent, { h with completed := fun code hcode ↦ { h.completed code hcode with } }⟩
  | refused hphase hfault =>
    exact ⟨_, h.conclude (by rw [hphase]; exact Phase.noConfusion) rfl nofun⟩
  | started hphase hfault =>
    have hgone : system.phase ≠ .gone := by rw [hphase]; exact Phase.noConfusion
    refine ⟨sent, { h with
      waiting := fun _ ↦ ⟨hfault, rfl⟩, joining := nofun,
      gone := nofun, quiet := fun _ ↦ h.quiet hgone,
      completed := fun code hcode ↦ by cases h.quiet hgone _ hcode }⟩
  | exited hphase hwait =>
    have hgone : system.phase ≠ .gone := by rw [hphase]; exact Phase.noConfusion
    obtain ⟨hfault, hlaunched⟩ := h.waiting hphase
    refine ⟨sent, { h with
      waiting := nofun,
      joining := fun code hcode ↦ ⟨hfault, Phase.joining.inj hcode ▸ hwait, hlaunched⟩,
      gone := nofun, quiet := fun _ ↦ h.quiet hgone,
      completed := fun code hcode ↦ by cases h.quiet hgone _ hcode }⟩
  | waitFailed hphase hwait =>
    exact ⟨_, h.conclude (by rw [hphase]; exact Phase.noConfusion) rfl nofun⟩
  | crashed hphase hwait =>
    have hgone : system.phase ≠ .gone := by rw [hphase]; exact Phase.noConfusion
    obtain ⟨hfault, -⟩ := h.waiting hphase
    refine ⟨sent, { h with
      waiting := nofun, joining := nofun,
      gone := fun _ ↦ .inr ⟨hfault, hwait⟩, quiet := fun h ↦ absurd rfl h,
      completed := fun code hcode ↦ by cases h.quiet hgone _ hcode }⟩
  | joinFailed hphase =>
    exact ⟨_, h.conclude (by rw [hphase]; exact Phase.noConfusion) rfl nofun⟩
  | completed hphase houtput herrors houtputFault herrorFault =>
    refine ⟨_, h.conclude (by rw [hphase]; exact Phase.noConfusion) rfl fun code hcode ↦ ?_⟩
    cases hcode
    exact ⟨houtput, herrors, (h.joining _ hphase).2.1, houtputFault, herrorFault⟩
  | read hfinished hchannel =>
    have hreading := h.reading
    rw [hfinished, hchannel] at hreading
    exact ⟨sent, { h with
      completed := fun code hcode ↦ { h.completed code hcode with }, reading := hreading.read }⟩
  | abandoned hfinished =>
    have hreading := h.reading
    rw [hfinished] at hreading
    exact ⟨sent, { h with
      completed := fun code hcode ↦ { h.completed code hcode with }, reading := hreading.abandon }⟩
  | silence hfinished =>
    have hreading := h.reading
    rw [hfinished] at hreading
    exact ⟨sent, { h with
      completed := fun code hcode ↦ { h.completed code hcode with }
      reading := hfinished ▸ hreading.silence }⟩

theorem Sound.step (h : Sound course system sent) (party : Party) :
    ∃ sent, Sound course (system.step course party) sent := by
  rcases step_cases course system party with heq | move
  · rw [heq]
    exact ⟨sent, h⟩
  · exact h.move move

theorem Sound.foldl (h : Sound course system sent) (schedule : List Party) :
    ∃ sent, Sound course (schedule.foldl (System.step course) system) sent := by
  induction schedule generalizing system sent with
  | nil => exact ⟨sent, h⟩
  | cons party rest ih =>
    obtain ⟨sent, hstep⟩ := h.step party
    exact ih hstep

theorem sound_run (course : Course) (schedule : List Party) :
    ∃ sent, Sound course (run course schedule) sent :=
  (sound_start course).foldl schedule

/-- Once it is read that the command ended, everything it wrote was read. -/
theorem Sound.of_read_completed (h : Sound course system sent) {events : List Event}
    {code : Option Nat} (hsent : sent = events ++ .completed code :: system.channel) :
    course.wait = .exited code ∧ course.outputFault = none ∧ course.errorFault = none ∧
      outputOf events = course.chunks.flatten ∧
      errorLinesOf events = course.lines.filterMap errorLine? := by
  have hmem : .completed code ∈ sent := by
    rw [hsent]
    exact List.mem_append_right events List.mem_cons_self
  have hcompletes := h.completed code hmem
  obtain ⟨before, hbefore, hquiet⟩ := hcompletes.sent_eq
  -- It was sent once, as the last of all events, so the one that was read is that one.
  obtain rfl : events = before := by
    rw [hbefore] at hsent
    rcases List.append_eq_append_iff.1 hsent.symm with ⟨more, rfl, hmore⟩ | ⟨more, rfl, hmore⟩
    · cases more with
      | nil => rw [List.append_nil]
      | cons event more =>
        obtain ⟨rfl, -⟩ := List.cons.inj hmore
        cases hquiet _ (List.mem_append_right events List.mem_cons_self)
    · cases more with
      | nil => rw [List.append_nil]
      | cons event more =>
        have hlength := congrArg List.length hmore
        simp at hlength
  have houtput := h.output
  have herrors := h.errors
  rw [hbefore, h.outputDone hcompletes.outputDone, outputOf_append] at houtput
  rw [hbefore, h.errorsDone hcompletes.errorsDone, errorLinesOf_append] at herrors
  refine ⟨hcompletes.wait, hcompletes.outputFault, hcompletes.errorFault, ?_, ?_⟩
  · rw [← houtput]
    exact (List.append_nil _).symm.trans (List.append_nil _).symm
  · rw [← herrors]
    exact (List.append_nil _).symm.trans (List.append_nil _).symm

end System

end CodeRepair.Execution
