import FluxDns.Storage.DetailQuery
import FluxDns.Storage.ResolveLog

/-!
# Numbers of commits

Every commit of detail records gets the next number of the store's clock and is announced under it.
When the numbers are used up, the clock starts a new epoch.
-/

namespace FluxDns.Storage

variable {Trace : Type}

attribute [ext] DetailCommitCursor

/-- The epoch and number of the last commit. -/
structure CommitClock where
  epoch : List UInt8
  sequence : UInt64

/-- The largest number of a commit. -/
def maxSequence : UInt64 := 0xffffffffffffffff

variable (primitives : Primitives Trace)

/-- `commit_cursor`. -/
def CommitClock.cursor (clock : CommitClock) : DetailCommitCursor :=
  ⟨"dqs_" ++ primitives.base64Encode clock.epoch, clock.sequence⟩

/-- The clock after the next commit was numbered. -/
def CommitClock.advance (clock : CommitClock) : CommitClock :=
  if clock.sequence = maxSequence then ⟨(primitives.sha256 clock.epoch).toList.take 16, 1⟩
  else { clock with sequence := clock.sequence + 1 }

/-- What is sent about a commit. -/
structure DetailCommitNotification (Trace : Type) where
  cursor : DetailCommitCursor
  records : List (DetailCommittedRecord Trace)

/-- The announcement that `publish_commit` sends. -/
def DetailCommitNotification.new (cursor : DetailCommitCursor)
    (dayUtc : Int) (records : List (ResolveDetailRecord Trace)) (rowIds : List Int) :
    DetailCommitNotification Trace :=
  ⟨cursor, (records.zip rowIds).map fun (record, rowId) =>
    ⟨.fromLocation primitives ⟨dayUtc, rowId⟩, record⟩⟩

def advanceRevision (revision : UInt64) : UInt64 :=
  if revision = maxSequence then revision else revision + 1

theorem toNat_succ_of_ne_max {sequence : UInt64} (room : sequence ≠ maxSequence) :
    (sequence + 1).toNat = sequence.toNat + 1 := by
  have bound := sequence.toNat_lt
  have room_nat : sequence.toNat ≠ maxSequence.toNat :=
    fun equal => room (UInt64.toNat_inj.mp equal)
  have max_eq : maxSequence.toNat = 2 ^ 64 - 1 := rfl
  rw [UInt64.toNat_add]
  simp only [UInt64.reduceToNat]
  omega

end FluxDns.Storage
