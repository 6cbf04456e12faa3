import PolicyReplay.Dialogue

/-!
# Logging is read-only

A computation that logs is told the least severity that is written, but it may not look at it: its
result is the same at each, and what is written is a choice by severity from what there is to write.
`Logging.Filtered` says this of one computation, and it is kept when computations are put together.
A log by itself is a row of entries and level changes, and there the level that holds is the last
one that was named rightly.

## Key results

- `Filtered.bind`: one computation after the other
- `Dialogue.filtered_conduct`: a dialogue, whatever the peer answers
- `Log.getElem?_replay`: what is written after which level changes
- `Log.replay_unknown`: a level that has no name changes nothing
-/

namespace PolicyReplay

variable {α β σ : Type}

/-- Every severity is at least the least one. -/
theorem Severity.trace_le (severity : Severity) : .trace ≤ severity := Nat.zero_le severity.rank

namespace Log

/-- The entries of at least a given severity. -/
def atLeast (least : Severity) (entries : List Entry) : List Entry :=
  entries.filter (least ≤ ·.severity)

@[simp] theorem atLeast_nil (least : Severity) : atLeast least [] = [] := rfl

/-- What is written of two rows of entries. -/
@[simp] theorem atLeast_append (least : Severity) (before after : List Entry) :
    atLeast least (before ++ after) = atLeast least before ++ atLeast least after :=
  List.filter_append ..

/-- An entry of enough severity is written. -/
theorem atLeast_cons_of_le {least : Severity} {entry : Entry} (h : least ≤ entry.severity)
    (rest : List Entry) : atLeast least (entry :: rest) = entry :: atLeast least rest :=
  List.filter_cons_of_pos (decide_eq_true h)

/-- Only what is there is written. -/
theorem mem_of_mem_atLeast {least : Severity} {entry : Entry} {entries : List Entry}
    (h : entry ∈ atLeast least entries) : entry ∈ entries :=
  (List.mem_filter.mp h).1

end Log

namespace Logging

/-- The least severity decides which entries are written, and nothing else. All that there is to
write is of one kind. -/
structure Filtered (P : Log.Entry → Prop) (x : Logging α) : Prop where
  entries : ∀ least, (x.run least).1 = Log.atLeast least (x.run .trace).1
  result : ∀ least, (x.run least).2 = (x.run .trace).2
  kind : ∀ entry ∈ (x.run .trace).1, P entry

variable {P Q : Log.Entry → Prop}

/-- Every entry is written where the least severity is the lowest one. -/
theorem run_write_trace (entry : Log.Entry) : (write entry).run .trace = ([entry], ()) := by
  rw [run_write, if_pos entry.severity.trace_le]

/-- To give a result writes nothing. -/
theorem Filtered.pure (a : α) : Filtered P (pure a) :=
  ⟨fun _ => rfl, fun _ => rfl, fun _ hentry => nomatch hentry⟩

/-- To write an entry is left out if the entry is not severe enough. -/
theorem Filtered.write {entry : Log.Entry} (hentry : P entry) : Filtered P (write entry) where
  entries least := by
    rw [run_write_trace, run_write]
    -- whether the entry is written depends on the same comparison on both sides
    by_cases h : least ≤ entry.severity
    · rw [if_pos h, Log.atLeast_cons_of_le h, Log.atLeast_nil]
    · rw [if_neg h, Log.atLeast, List.filter_cons_of_neg (by simpa using h), List.filter_nil]
  result _ := rfl
  kind := by
    rw [run_write_trace]
    exact List.forall_mem_singleton.mpr hentry

/-- An event is an entry. -/
theorem Filtered.event {event : Log.Event} {fields : Log.Fields}
    (hentry : P (event.entry fields)) : Filtered P (Logging.event event fields) :=
  .write hentry

/-- The second computation starts from the same result, so it is the same one. -/
theorem Filtered.bind {x : Logging α} {f : α → Logging β} (hx : Filtered P x)
    (hf : ∀ a, Filtered P (f a)) : Filtered P (x >>= f) where
  entries least := by
    rw [run_bind, run_bind, hx.result least, hx.entries least, (hf _).entries least,
      Log.atLeast_append]
  -- the result of the first computation does not depend on the least severity
  result least := by
    rw [run_bind, run_bind, hx.result least, (hf _).result least]
  kind := by
    rw [run_bind]
    exact List.forall_mem_append.mpr ⟨hx.kind, (hf _).kind⟩

/-- What is made of the result does not change what is written. -/
theorem Filtered.map {x : Logging α} (hx : Filtered P x) (f : α → β) : Filtered P (x.map f) :=
  ⟨hx.entries, fun least => congrArg f (hx.result least), hx.kind⟩

/-- What writes entries of one kind writes entries of any wider kind. -/
theorem Filtered.mono {x : Logging α} (hx : Filtered P x) (h : ∀ entry, P entry → Q entry) :
    Filtered Q x :=
  ⟨hx.entries, hx.result, fun entry hentry => h entry (hx.kind entry hentry)⟩

end Logging

/-- Any entry. -/
def Log.Entry.Any (_ : Log.Entry) : Prop := True

/-- A dialogue logs and does not look at the log, whatever the peer answers. -/
theorem Dialogue.filtered_conduct (peer : Peer σ) (d : Dialogue α) (s : σ) :
    (d.conduct peer s).Filtered Log.Entry.Any := by
  -- by the dialogue: the answer of the peer decides how it goes on, and does not depend on the log
  induction d generalizing s with
  -- a result or a crash writes nothing
  | done value => exact .pure _
  | crash message => exact .pure _
  | connect next ih =>
    simp only [conduct]
    -- where the dialogue ends with the connection, nothing is written either
    rcases peer.connect s with ⟨_ | e | message, s'⟩
    · exact (ih (.ok ()) s').map _
    · exact (ih (.error e) s').map _
    · exact .pure _
  | send payload next ih => exact (ih _ _).map _
  | receive next ih => exact (ih _ _).map _
  | close next ih => exact (ih _ _).map _
  | clock next ih => exact ih _ _
  | log entry next ih => exact (Logging.Filtered.write trivial).bind fun _ => ih s
  | count tally next ih => exact (ih s).map _

/-! ## Level changes -/

namespace Log

/-- The level that an action asks for by a name that is one. -/
def Action.asked? : Action → Option Severity
  | setLevel text => (Severity.parse text).toOption
  | write _ => none

/-- The level that holds after actions: the last one that was asked for, or `least`. -/
def levelAfter (least : Severity) (actions : List Action) : Severity :=
  (actions.filterMap Action.asked?).getLast?.getD least

variable {least : Severity} {actions rest : List Action} {action : Action} {entry : Entry}

/-- An action changes the level to the one that it asks for, if there is one. -/
theorem Action.level_eq (least : Severity) (action : Action) :
    action.level least = action.asked?.getD least := by
  cases action with
  | write entry => rfl
  | setLevel text =>
    rw [level, asked?]
    cases Severity.parse text with
    -- a name that is no level is one that asks for nothing
    | ok severity => rfl
    | error e => rfl

/-- The level after actions, by the first of them. -/
theorem levelAfter_cons (least : Severity) (action : Action) (actions : List Action) :
    levelAfter least (action :: actions) = levelAfter (action.level least) actions := by
  rw [levelAfter, levelAfter, Action.level_eq]
  -- the first action counts only if no later one asks for a level
  cases hasked : action.asked? with
  | none => rw [List.filterMap_cons_none hasked, Option.getD_none]
  | some severity =>
    rw [List.filterMap_cons_some hasked, List.getLast?_cons, Option.getD_some]
    cases (actions.filterMap Action.asked?).getLast? <;> rfl

/-- What is written by actions and then by others at the level that holds then. -/
theorem replay_append (least : Severity) (actions rest : List Action) :
    replay least (actions ++ rest) =
      replay least actions ++ replay (levelAfter least actions) rest := by
  -- for every level, since the first action may change it
  induction actions generalizing least with
  | nil => rfl
  | cons action actions ih =>
    rw [List.cons_append, replay, replay, ih, levelAfter_cons, List.cons_append]

/-- Each action writes what it writes at the level that was last asked for. -/
theorem getElem?_replay (least : Severity) (actions : List Action) (action : Action)
    (rest : List Action) :
    (replay least (actions ++ action :: rest))[actions.length]? =
      some (action.entries (levelAfter least actions)) := by
  -- each action writes one group of entries, which may have none
  have hlength : (replay least actions).length = actions.length := by
    induction actions generalizing least with
    | nil => rfl
    | cons action actions ih => rw [replay, List.length_cons, List.length_cons, ih]
  rw [replay_append, List.getElem?_append_right (by omega), hlength, Nat.sub_self]
  rfl

/-- A level that has no name changes nothing in what is written before it and behind it. -/
theorem replay_unknown {text : String} {e : Severity.UnknownLevel}
    (h : Severity.parse text = .error e) (least : Severity) (actions rest : List Action) :
    (replay least (actions ++ .setLevel text :: rest)).flatten =
      (replay least (actions ++ rest)).flatten := by
  -- such an action leaves the level as it is, and writes nothing itself
  have hlevel (least : Severity) : (Action.setLevel text).level least = least := by
    rw [Action.level, h]
  rw [replay_append, replay_append, replay, hlevel, List.flatten_append, List.flatten_append,
    List.flatten_cons]
  rfl

end Log
end PolicyReplay
