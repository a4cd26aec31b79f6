import CommandLine.Proofs.Completion
import CommandLine.Proofs.Lookahead

/-!
# Recorded errors

A run records an error as soon as an event finds it, unless it was recorded before. So the recorded
errors are all different, and they only grow at their end. After all events they are the errors of
the outcome, to which building adds none.
-/

namespace CommandLine

/-! ### Recording -/

/-- Record an error, unless it was recorded before. -/
def record (errors : List ParseError) (error : ParseError) : List ParseError :=
  if error ∈ errors then errors else errors ++ [error]

lemma record_distinct (errors : List ParseError) (error : ParseError) :
    record (distinct errors) error = distinct (errors ++ [error]) := by
  rw [record, distinct_append]
  by_cases h : error ∈ errors <;> simp [distinct, h]

/-- Recording errors one by one leaves each at its first place. -/
lemma foldl_record_distinct (errors more : List ParseError) :
    more.foldl record (distinct errors) = distinct (errors ++ more) := by
  induction more generalizing errors with
  | nil => simp
  | cons error rest ih => rw [List.foldl_cons, record_distinct, ih, List.append_assoc]; rfl

lemma distinct_prefix (errors more : List ParseError) :
    distinct errors <+: distinct (errors ++ more) := by
  rw [distinct_append]
  exact List.prefix_append _ _

lemma distinct_append_of_nodup {errors more : List ParseError} (hnodup : more.Nodup)
    (hnew : ∀ error ∈ more, error ∉ errors) :
    distinct (errors ++ more) = distinct errors ++ more := by
  rw [distinct_append, distinct_eq_self hnodup, List.filter_eq_self.mpr]
  intro error herror
  exact decide_eq_true (hnew error herror)

namespace Program

variable {σ α : Type} (program : Program σ α)

/-- Perform an event and record the error that it finds. -/
def keep (state : σ × List ParseError) (event : Event) : σ × List ParseError :=
  let (stored, found) := program.perform (state.1, []) event
  (stored, found.foldl record state.2)

/-- The storage and the recorded errors after some events. -/
def after (events : List Event) : σ × List ParseError :=
  events.foldl program.keep (program.initial, [])

/-- What an event does to the storage and what it finds do not depend on earlier errors. -/
lemma perform_eq (so : σ × List ParseError) (event : Event) :
    program.perform so event =
      ((program.perform (so.1, []) event).1, so.2 ++ (program.perform (so.1, []) event).2) := by
  cases event with
  | mention mention => simp [perform]
  | report error => simp [perform]
  | store slot text blame =>
    simp only [perform]
    cases program.store slot text so.1 <;> simp

lemma foldl_keep (events : List Event) (stored : σ) (errors : List ParseError) :
    events.foldl program.keep (stored, distinct errors) =
      ((events.foldl program.perform (stored, errors)).1,
        distinct (events.foldl program.perform (stored, errors)).2) := by
  induction events generalizing stored errors with
  | nil => rfl
  | cons event rest ih =>
    rw [List.foldl_cons, List.foldl_cons, program.perform_eq (stored, errors) event]
    simp only [keep, foldl_record_distinct]
    exact ih _ _

/-- Recording errors as they are found comes to collecting them at the end. -/
theorem after_eq (events : List Event) :
    program.after events =
      ((program.performAll events).1, distinct (program.performAll events).2) :=
  program.foldl_keep events program.initial []

lemma nodup_after (events : List Event) : (program.after events).2.Nodup := by
  rw [after_eq]
  exact nodup_distinct _

/-- Recorded errors stay as they are, and others come behind them. -/
lemma prefix_after (events more : List Event) :
    (program.after events).2 <+: (program.after (events ++ more)).2 := by
  have hperform (so : σ × List ParseError) :
      ∃ found, (more.foldl program.perform so).2 = so.2 ++ found := by
    induction more generalizing so with
    | nil => exact ⟨[], by simp⟩
    | cons event rest ih =>
      obtain ⟨found, hfound⟩ := ih (program.perform so event)
      exact ⟨_, by rw [List.foldl_cons, hfound, perform_eq, List.append_assoc]⟩
  obtain ⟨found, hfound⟩ := hperform (program.performAll events)
  rw [after_eq, after_eq]
  rw [performAll] at hfound ⊢
  rw [performAll, List.foldl_append, hfound]
  exact distinct_prefix _ _

end Program

/-! ### Errors of outcomes -/

def Outcome.reported {α : Type} : Outcome α → List ParseError
  | .errors collected => collected.errors
  | .options _ | .command _ => []

namespace Interface

variable {α : Type} {interface : Interface} {environment : Environment α}

/-- The error that an event finds: the one that it reports, or the blame for a text that cannot be
decoded. -/
def fault? (interface : Interface) (environment : Environment α) : Event → Option ParseError
  | .mention _ => none
  | .report error => some error
  | .store slot text blame =>
    if (interface.decode? environment slot text).isSome then none else some blame

lemma errors_perform (event : Event) (so : Storage α × List ParseError) :
    ((interface.program environment).perform so event).2 =
      so.2 ++ (interface.fault? environment event).toList := by
  cases event with
  | mention mention => simp [Program.perform, fault?]
  | report error => rfl
  | store slot text blame =>
    cases hvalue : interface.decode? environment slot text with
    | none => simp [perform_store_of_decode?_eq_none hvalue, fault?, hvalue]
    | some value =>
      obtain ⟨base, hbase⟩ := exists_base_of_decode? hvalue
      simp [perform_store_of_decode? hbase hvalue, fault?, hvalue]

lemma errors_foldl_perform (events : List Event) (so : Storage α × List ParseError) :
    (events.foldl (interface.program environment).perform so).2 =
      so.2 ++ events.filterMap (interface.fault? environment) := by
  induction events generalizing so with
  | nil => simp
  | cons event rest ih =>
    rw [List.foldl_cons, ih, errors_perform, List.filterMap_cons]
    cases interface.fault? environment event <;> simp

lemma errors_after (events : List Event) :
    ((interface.program environment).after events).2 =
      distinct (events.filterMap (interface.fault? environment)) := by
  rw [Program.after_eq, Program.performAll, errors_foldl_perform]
  rfl

/-- A run reports the errors that are recorded up to its end. -/
theorem reported_parse {arguments : List String} {reader : Reader} {events : List Event}
    (run : Reader.readAll (interface.model environment) .initial arguments = .ok (reader, events)) :
    ((interface.program environment).parse arguments).reported =
      ((interface.program environment).after
        (events ++ reader.finish (interface.model environment))).2 := by
  have hparse : (interface.program environment).parse arguments =
      (interface.program environment).conclude
        (events ++ reader.finish (interface.model environment)) := by
    rw [Program.parse]
    simp only [program, run]
  rw [hparse, Program.after_eq, Program.conclude]
  cases hcollect : ParseErrors.collect ((interface.program environment).performAll
      (events ++ reader.finish (interface.model environment))).2 with
  | some collected =>
    simp only [hcollect]
    exact ParseErrors.errors_of_collect hcollect
  | none =>
    -- without an error the record is built, so building adds none
    have hnone := ParseErrors.collect_eq_none_iff.mp hcollect
    obtain ⟨built, hbuild⟩ := exists_build run hnone
    have hok : (interface.program environment).build
        ((interface.program environment).performAll
          (events ++ reader.finish (interface.model environment))).1 = .ok built := hbuild
    simp only [hok, hnone]
    rfl

end Interface

end CommandLine
