import TrustZoneSdk.SecureDb.Db

/-!
# Programs over one database handle

A step names an operation and fixes everything the operation does not control:
the traversal order of the key set and the verdicts on its TEE calls.
-/

namespace TrustZoneSdk.SecureDb

open TrustZoneSdk.Foundation

inductive Op where
  | put (key : String) (value : Bytes)
  | get (key : String)
  | delete (key : String)
  | clear
  | listEntriesWithPrefix (pre : String)
  | reopen
  deriving DecidableEq, Repr

def Op.keys : Op → List String
  | .put key _ => [key]
  | .get key => [key]
  | .delete key => [key]
  | .clear => []
  | .listEntriesWithPrefix _ => []
  | .reopen => []

inductive Answer where
  | done (result : Except (Halt DbError) Unit)
  | value (result : Except (Halt DbError) Bytes)
  | entries (result : Except (Halt DbError) Entries)

def Answer.isKilled : Answer → Bool
  | .done (.error .killed) => true
  | .value (.error .killed) => true
  | .entries (.error .killed) => true
  | _ => false

structure Step where
  op : Op
  order : IterationOrder String
  schedule : List Verdict

variable (codec : KeyListCodec)

def Op.exec (order : IterationOrder String) (op : Op) (state : DbState) :
    Answer × DbState :=
  match op with
  | .put key value =>
      let result := (SecureStorageDb.put codec order key value).run state
      (.done (Run.outcome result), Run.state result)
  | .get key =>
      let result := (state.db.get key).run state.tee
      (.value (Run.outcome result), { state with tee := Run.state result })
  | .delete key =>
      let result := (SecureStorageDb.delete codec order key).run state
      (.done (Run.outcome result), Run.state result)
  | .clear =>
      let result := (SecureStorageDb.clear codec order).run state
      (.done (Run.outcome result), Run.state result)
  | .listEntriesWithPrefix pre =>
      let result := (state.db.listEntriesWithPrefix order pre).run state.tee
      (.entries (Run.outcome result), { state with tee := Run.state result })
  | .reopen =>
      match (SecureStorageDb.open codec state.db.name).run state.tee with
      | .ok db tee => (.done (.ok ()), ⟨tee, db⟩)
      | .error halt tee => (.done (.error halt), { state with tee })

def Step.exec (step : Step) (state : DbState) : Answer × DbState :=
  step.op.exec codec step.order
    { state with tee := { state.tee with schedule := step.schedule } }

/-- Run the steps in order.  Nothing runs after the TA has been killed. -/
def run : List Step → DbState → List Answer × DbState
  | [], state => ([], state)
  | step :: steps, state =>
      let (answer, state) := step.exec codec state
      if answer.isKilled then ([answer], state)
      else
        let (answers, final) := run steps state
        (answer :: answers, final)

end TrustZoneSdk.SecureDb
