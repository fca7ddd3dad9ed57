import CodeRepair.Proofs.Path.Order
import CodeRepair.Watch.Loop
import Mathlib.Data.List.DropRight

/-!
# Every event belongs to one batch

The loop only knows the events that wait.  Seen from the whole history these are the events behind the
last timeout, so a timeout closes the batch of the events since the timeout before it, and every event
is in the batch of the first timeout behind it and in no other one.
-/

namespace CodeRepair.Watch

/-! ## Saved files -/

theorem mem_saves_iff {events : List Event} {path : Path} :
    path ∈ saves events ↔ ∃ event ∈ events, event.change.isSave = true ∧ path ∈ event.paths ∧
      Language.ofPath path = .python := by
  simp only [saves, List.mem_flatMap, List.mem_filter, beq_iff_eq, and_assoc]

/-! ## What waits -/

/-- The event that an input is, if it is one. -/
def Input.event? : Input → Option Event
  | .event received => some received
  | .timeout => none

/-- The events among some inputs, in order. -/
def eventsOf (inputs : List Input) : List Event :=
  inputs.filterMap Input.event?

/-- The events behind the last timeout. -/
def waiting (inputs : List Input) : List Event :=
  eventsOf (inputs.rtakeWhile (· != .timeout))

/-- What the loop does from its start, turn by turn. -/
def turns (inputs : List Input) : List (List Path) :=
  run [] inputs

theorem eventsOf_concat (inputs : List Input) (last : Input) :
    eventsOf (inputs ++ [last]) = eventsOf inputs ++ last.event?.toList := by
  rw [eventsOf, List.filterMap_append]
  cases last <;> rfl

theorem waiting_concat_event (inputs : List Input) (event : Event) :
    waiting (inputs ++ [.event event]) = waiting inputs ++ [event] := by
  rw [waiting, List.rtakeWhile_concat_pos _ _ _ rfl, eventsOf_concat]
  rfl

theorem waiting_concat_timeout (inputs : List Input) : waiting (inputs ++ [.timeout]) = [] := by
  rw [waiting, List.rtakeWhile_concat_neg _ _ _ (by decide)]
  rfl

/-- One turn keeps that the events behind the last timeout are those that wait. -/
theorem step_waiting (inputs : List Input) (input : Input) :
    (step (waiting inputs) input).1 = waiting (inputs ++ [input]) := by
  cases input with
  | event event => exact (waiting_concat_event inputs event).symm
  | timeout => exact (waiting_concat_timeout inputs).symm

theorem getElem?_run_waiting (before inputs : List Input) (i : Nat) :
    (run (waiting before) inputs)[i]? =
      inputs[i]?.map fun input ↦ (step (waiting (before ++ inputs.take i)) input).2 := by
  induction inputs generalizing before i with
  | nil => rfl
  | cons input inputs ih =>
    cases i with
    | zero => simp [run]
    | succ i =>
      rw [run, List.getElem?_cons_succ, step_waiting, ih, List.append_assoc]
      rfl

/-- In every turn the events since the last timeout wait, however long the run is. -/
theorem getElem?_turns (inputs : List Input) (i : Nat) :
    (turns inputs)[i]? = inputs[i]?.map fun input ↦ (step (waiting (inputs.take i)) input).2 :=
  getElem?_run_waiting [] inputs i

/-! ## Which batch an event is in -/

/-- A place in a list with one more item is one of the list, or it is that of the item. -/
theorem getElem?_concat_eq_some_iff {α : Type} {items : List α} {last item : α} {i : Nat} :
    (items ++ [last])[i]? = some item ↔
      items[i]? = some item ∨ i = items.length ∧ last = item := by
  rw [List.getElem?_append]
  split
  · next hlt => simp [Nat.ne_of_lt hlt]
  · next hge =>
    rw [List.getElem?_eq_none (Nat.le_of_not_lt hge), List.getElem?_singleton,
      Option.ite_none_right_eq_some]
    simp [show i - items.length = 0 ↔ i = items.length by omega]

/-- Whether the event at the place `j` is in the batch of the timeout at the place `i`, which is the
first one behind it. -/
structure IsClosedAt (inputs : List Input) (j i : Nat) (event : Event) : Prop where
  event_at : inputs[j]? = some (.event event)
  timeout_at : inputs[i]? = some .timeout
  lt : j < i
  first : ∀ k, j < k → k < i → inputs[k]? ≠ some .timeout

theorem mem_waiting_iff {inputs : List Input} {event : Event} :
    event ∈ waiting inputs ↔
      ∃ j : Nat, inputs[j]? = some (.event event) ∧
        ∀ k : Nat, j < k → inputs[k]? ≠ some .timeout := by
  induction inputs using List.reverseRecOn with
  | nil => simp [waiting, eventsOf, List.rtakeWhile]
  | append_singleton inputs last ih =>
    cases last with
    | event newer =>
      rw [waiting_concat_event, List.mem_append, ih, List.mem_singleton]
      constructor
      · rintro (⟨j, hj, hlater⟩ | rfl)
        · refine ⟨j, getElem?_concat_eq_some_iff.2 (.inl hj), fun k hk htimeout ↦ ?_⟩
          rcases getElem?_concat_eq_some_iff.1 htimeout with htimeout | ⟨-, hlast⟩
          · exact hlater k hk htimeout
          · cases hlast
        · refine ⟨inputs.length, List.getElem?_concat_length, fun k hk htimeout ↦ ?_⟩
          rcases getElem?_concat_eq_some_iff.1 htimeout with htimeout | ⟨-, hlast⟩
          · exact Nat.lt_asymm hk (List.getElem?_eq_some_iff.1 htimeout).1
          · cases hlast
      · rintro ⟨j, hj, hlater⟩
        rcases getElem?_concat_eq_some_iff.1 hj with hj | ⟨-, hlast⟩
        · exact .inl ⟨j, hj, fun k hk htimeout ↦
            hlater k hk (getElem?_concat_eq_some_iff.2 (.inl htimeout))⟩
        · exact .inr (Input.event.inj hlast).symm
    | timeout =>
      rw [waiting_concat_timeout]
      refine iff_of_false List.not_mem_nil ?_
      rintro ⟨j, hj, hlater⟩
      rcases getElem?_concat_eq_some_iff.1 hj with hj | ⟨-, hlast⟩
      · exact hlater inputs.length (List.getElem?_eq_some_iff.1 hj).1 List.getElem?_concat_length
      · cases hlast

theorem mem_waiting_take_iff {inputs : List Input} {i : Nat} {event : Event}
    (hi : inputs[i]? = some .timeout) :
    event ∈ waiting (inputs.take i) ↔ ∃ j, IsClosedAt inputs j i event := by
  rw [mem_waiting_iff]
  constructor
  · rintro ⟨j, hj, hlater⟩
    have hlt : j < i := by
      have hlength := (List.getElem?_eq_some_iff.1 hj).1
      rw [List.length_take] at hlength
      omega
    rw [List.getElem?_take_of_lt hlt] at hj
    refine ⟨j, hj, hi, hlt, fun k hk hki ↦ ?_⟩
    rw [← List.getElem?_take_of_lt hki]
    exact hlater k hk
  · rintro ⟨j, hj, -, hlt, hfirst⟩
    refine ⟨j, by rw [List.getElem?_take_of_lt hlt, hj], fun k hk htimeout ↦ ?_⟩
    rw [List.getElem?_take] at htimeout
    split at htimeout
    · next hki => exact hfirst k hk hki htimeout
    · cases htimeout

/-- What came before a timeout waits no more behind it. -/
theorem waiting_eq_drop {inputs : List Input} {k : Nat} (hk : inputs[k]? = some .timeout) :
    waiting inputs = waiting (inputs.drop (k + 1)) := by
  induction inputs using List.reverseRecOn with
  | nil => cases hk
  | append_singleton inputs last ih =>
    rcases getElem?_concat_eq_some_iff.1 hk with hfront | ⟨rfl, rfl⟩
    · rw [List.drop_append_of_le_length (List.getElem?_eq_some_iff.1 hfront).1]
      cases last with
      | event event => rw [waiting_concat_event, waiting_concat_event, ih hfront]
      | timeout => rw [waiting_concat_timeout, waiting_concat_timeout]
    · rw [waiting_concat_timeout, List.drop_eq_nil_of_le (by simp)]
      rfl

/-! ## The laws of batches -/

/-- The batches that timeouts close, in order. -/
def batches (inputs : List Input) : List (List Event) :=
  (List.range inputs.length).filterMap fun i ↦
    if inputs[i]? = some .timeout then some (waiting (inputs.take i)) else none

theorem batches_concat (inputs : List Input) (last : Input) :
    batches (inputs ++ [last]) =
      batches inputs ++ if last = .timeout then [waiting inputs] else [] := by
  have hfront : ∀ i ∈ List.range inputs.length,
      (if (inputs ++ [last])[i]? = some .timeout then some (waiting ((inputs ++ [last]).take i))
        else none) =
      if inputs[i]? = some .timeout then some (waiting (inputs.take i)) else none := by
    intro i hi
    have hlt := List.mem_range.1 hi
    rw [List.getElem?_append_left hlt, List.take_append_of_le_length (Nat.le_of_lt hlt)]
  rw [batches, List.length_append, List.length_singleton, List.range_succ, List.filterMap_append,
    List.filterMap_congr hfront]
  cases last <;> simp [batches]

/-- The batches are made of all the events, except for those that still wait. -/
theorem flatten_batches_append (inputs : List Input) :
    (batches inputs).flatten ++ waiting inputs = eventsOf inputs := by
  induction inputs using List.reverseRecOn with
  | nil => rfl
  | append_singleton inputs last ih =>
    rw [batches_concat, eventsOf_concat, ← ih]
    cases last with
    | event event =>
      rw [waiting_concat_event, if_neg nofun, List.append_nil, List.append_assoc]
      rfl
    | timeout =>
      rw [waiting_concat_timeout, if_pos rfl, List.flatten_append, List.flatten_singleton]
      rfl

/-- How the loop treats its inputs, whatever they are. -/
structure TreatsInBatches (inputs : List Input) : Prop where
  /-- There is one turn for each input. -/
  length_eq : (turns inputs).length = inputs.length
  /-- Nothing is refreshed when an event comes. -/
  at_event : ∀ (i : Nat) event, inputs[i]? = some (.event event) → (turns inputs)[i]? = some []
  /-- A timeout refreshes the saved files of the events since the timeout before it. -/
  at_timeout : ∀ i : Nat, inputs[i]? = some .timeout →
    (turns inputs)[i]? = some (savedPaths (waiting (inputs.take i)))
  /-- No event gets lost, and none is in two batches. -/
  parted : (batches inputs).flatten ++ waiting inputs = eventsOf inputs
  /-- A saved Python file is refreshed by the first timeout behind the event, and that once. -/
  refreshed : ∀ j i event path, IsClosedAt inputs j i event → event.change.isSave = true →
    path ∈ event.paths → Language.ofPath path = .python →
    ∃ turn kept, (turns inputs)[i]? = some turn ∧ turn.filter (·.same path) = [kept]
  /-- What is refreshed was saved by an event of the batch that is closed then. -/
  caused : ∀ (i : Nat) turn path, (turns inputs)[i]? = some turn → path ∈ turn →
    ∃ j event, IsClosedAt inputs j i event ∧ event.change.isSave = true ∧ path ∈ event.paths ∧
      Language.ofPath path = .python
  /-- No turn refreshes a file twice, under any of its spellings. -/
  once : ∀ turn ∈ turns inputs, turn.Pairwise fun path other ↦ path.same other = false
  /-- An event shows in no other turn than that of the timeout that closes its batch. -/
  apart : ∀ (j : Nat) event other, inputs[j]? = some (.event event) →
    ∀ n : Nat, ¬ IsClosedAt inputs j n event →
      (turns (inputs.set j (.event other)))[n]? = (turns inputs)[n]?

theorem getElem?_turns_of_event {inputs : List Input} {i : Nat} {event : Event}
    (h : inputs[i]? = some (.event event)) : (turns inputs)[i]? = some [] := by
  rw [getElem?_turns, h]
  rfl

theorem getElem?_turns_of_timeout {inputs : List Input} {i : Nat}
    (h : inputs[i]? = some .timeout) :
    (turns inputs)[i]? = some (savedPaths (waiting (inputs.take i))) := by
  rw [getElem?_turns, h]
  rfl

theorem length_turns (inputs : List Input) : (turns inputs).length = inputs.length := by
  have hrun : ∀ pending, (run pending inputs).length = inputs.length := by
    induction inputs with
    | nil => exact fun _ ↦ rfl
    | cons input inputs ih => exact fun pending ↦ congrArg (· + 1) (ih _)
  exact hrun []

/-- A turn is that of an event, or it is that of a timeout. -/
theorem turns_cases {inputs : List Input} {i : Nat} {turn : List Path}
    (h : (turns inputs)[i]? = some turn) :
    turn = [] ∨ inputs[i]? = some .timeout ∧ turn = savedPaths (waiting (inputs.take i)) := by
  rw [getElem?_turns] at h
  obtain ⟨input, hinput, rfl⟩ := Option.map_eq_some_iff.1 h
  cases input with
  | event event => exact .inl rfl
  | timeout => exact .inr ⟨hinput, rfl⟩

/-- An event that another one takes the place of matters for the next timeout only. -/
theorem getElem?_turns_set {inputs : List Input} {j n : Nat} {event : Event} (other : Event)
    (hj : inputs[j]? = some (.event event)) (hn : ¬ IsClosedAt inputs j n event) :
    (turns (inputs.set j (.event other)))[n]? = (turns inputs)[n]? := by
  by_cases hnj : n = j
  · subst hnj
    have hset : (inputs.set n (.event other))[n]? = some (.event other) := by
      rw [List.getElem?_set_self (List.getElem?_eq_some_iff.1 hj).1]
    rw [getElem?_turns_of_event hset, getElem?_turns_of_event hj]
  · have hset : (inputs.set j (.event other))[n]? = inputs[n]? :=
      List.getElem?_set_ne (Ne.symm hnj)
    cases hinput : inputs[n]? with
    | none => rw [getElem?_turns, getElem?_turns, hset, hinput]; rfl
    | some input =>
      cases input with
      | event later =>
        rw [getElem?_turns_of_event (hset.trans hinput), getElem?_turns_of_event hinput]
      | timeout =>
        rw [getElem?_turns_of_timeout (hset.trans hinput), getElem?_turns_of_timeout hinput]
        congr 2
        rcases Nat.lt_or_ge j n with hlt | hge
        · -- Another timeout stands between the event and this one, and what came before it is gone.
          have hbetween : ∃ k, j < k ∧ k < n ∧ inputs[k]? = some .timeout := by
            by_contra hnone
            push Not at hnone
            exact hn ⟨hj, hinput, hlt, hnone⟩
          obtain ⟨k, hjk, hkn, hk⟩ := hbetween
          have hset : ((inputs.set j (.event other)).take n)[k]? = some .timeout := by
            rw [List.getElem?_take_of_lt hkn, List.getElem?_set_ne (Nat.ne_of_lt hjk), hk]
          have htake : (inputs.take n)[k]? = some .timeout := by
            rw [List.getElem?_take_of_lt hkn, hk]
          rw [waiting_eq_drop hset, waiting_eq_drop htake, List.take_set,
            List.drop_set_of_lt (by omega)]
        · rw [List.take_set_of_le hge]

/-- The loop refreshes at timeouts only, at each of them the files that were saved since the one before,
each file once, and every event is in one batch. -/
theorem loop_treats_in_batches (inputs : List Input) : TreatsInBatches inputs where
  length_eq := length_turns inputs
  at_event i event h := getElem?_turns_of_event h
  at_timeout i h := getElem?_turns_of_timeout h
  parted := flatten_batches_append inputs
  refreshed j i event path hclosed hsave hpath hpython := by
    have hwaits : event ∈ waiting (inputs.take i) :=
      (mem_waiting_take_iff hclosed.timeout_at).2 ⟨j, hclosed⟩
    have hsaved : path ∈ saves (waiting (inputs.take i)) :=
      mem_saves_iff.2 ⟨event, hwaits, hsave, hpath, hpython⟩
    obtain ⟨kept, hkept⟩ := Path.exists_filter_same_sortedSet hsaved
    exact ⟨_, kept, getElem?_turns_of_timeout hclosed.timeout_at, hkept⟩
  caused i turn path hturn hpath := by
    rcases turns_cases hturn with rfl | ⟨htimeout, rfl⟩
    · cases hpath
    · obtain ⟨event, hwaits, hsave⟩ := mem_saves_iff.1 (Path.mem_of_mem_sortedSet hpath)
      obtain ⟨j, hclosed⟩ := (mem_waiting_take_iff htimeout).1 hwaits
      exact ⟨j, event, hclosed, hsave⟩
  once turn hturn := by
    obtain ⟨i, hi⟩ := List.mem_iff_getElem?.1 hturn
    rcases turns_cases hi with rfl | ⟨-, rfl⟩
    · exact List.Pairwise.nil
    · exact (Path.ascending_sortedSet _).imp Path.same_eq_false_of_lt
  apart j event other hj n hn := getElem?_turns_set other hj hn

end CodeRepair.Watch
