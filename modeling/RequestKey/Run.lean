import RequestKey.Fault
import RequestKey.Record

/-!
# Runs

A run is an operation together with all that it reports: it ends with a result
or with a fault, and in both cases the records made before the end remain.
-/

namespace RequestKey

/-- The end of an operation and the records it made, in order. -/
structure Run (α : Type) where
  /-- The result, or the fault that ended the run. -/
  outcome : Except Fault α
  /-- The records made until the end. -/
  records : List Record

namespace Run

/-- Continue a run that has a result; a fault ends it. -/
def andThen (run : Run α) (next : α -> Run β) : Run β :=
  match run.outcome with
  | .ok value => ⟨(next value).outcome, run.records ++ (next value).records⟩
  | .error fault => ⟨.error fault, run.records⟩

instance : Monad Run where
  pure value := ⟨.ok value, []⟩
  bind := andThen

/-- The run that makes records and does nothing else. -/
def report (records : List Record) : Run Unit :=
  ⟨.ok (), records⟩

/-- The run that ends as given without a record. -/
def ofExcept (outcome : Except Fault α) : Run α :=
  ⟨outcome, []⟩

@[simp] theorem outcome_pure (value : α) :
    (pure value : Run α).outcome = .ok value := rfl

@[simp] theorem records_pure (value : α) :
    (pure value : Run α).records = [] := rfl

@[simp] theorem outcome_report (records : List Record) :
    (report records).outcome = .ok () := rfl

@[simp] theorem records_report (records : List Record) :
    (report records).records = records := rfl

@[simp] theorem outcome_ofExcept (outcome : Except Fault α) :
    (ofExcept outcome).outcome = outcome := rfl

@[simp] theorem records_ofExcept (outcome : Except Fault α) :
    (ofExcept outcome).records = [] := rfl

/-- The end of a continued run is the end of its continuation, if it gets
there. -/
@[simp] theorem outcome_bind (run : Run α) (next : α -> Run β) :
    (run >>= next).outcome = run.outcome.bind fun value => (next value).outcome := by
  obtain ⟨outcome, records⟩ := run
  cases outcome <;> rfl

/-- A continued run adds the records of its continuation, if it gets there. -/
@[simp] theorem records_bind (run : Run α) (next : α -> Run β) :
    (run >>= next).records =
      run.records ++
        match run.outcome with
        | .ok value => (next value).records
        | .error _ => [] := by
  obtain ⟨outcome, records⟩ := run
  cases outcome with
  | ok value => rfl
  | error fault => exact (List.append_nil records).symm

/-- Two runs with the same end and the same records are the same run. -/
@[ext] theorem ext
    {left right : Run α}
    (outcome : left.outcome = right.outcome)
    (records : left.records = right.records) :
    left = right := by
  cases left
  cases right
  simp_all

end Run
end RequestKey
