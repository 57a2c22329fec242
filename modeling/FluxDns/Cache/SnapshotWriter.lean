import FluxDns.Cache.SnapshotReader

/-!
# Publishing a snapshot

A write that returns a summary has published the file of its records.  A write that fails leaves
the published file alone, unless the operating system reports an error for what has happened: when
the directory sync fails after the rename, the complete new file is published.
-/

namespace FluxDns.Cache.Snapshot

open ByteReader Codec FileSystem Interaction AList Holds

variable {request : Request SnapshotPath Unit} (calm : Request SnapshotPath Unit → Choice → Choice)

/-- The operating system, with its choices restricted. -/
def machine (disk : SnapshotDisk) (request : Request SnapshotPath Unit) (choice : Choice) :
    Reply request × SnapshotDisk :=
  perform disk request (calm request choice)

/-- The directory sync succeeds, and a rename that is reported to have failed did not happen. -/
structure Steady : Prop where
  syncParent : ∀ path choice, (calm (.syncParent path) choice).fault = none
  rename : ∀ source target choice fault,
    (calm (.rename source target) choice).fault = some fault → fault.occurs = false

def steady (request : Request SnapshotPath Unit) (choice : Choice) : Choice :=
  match request with
  | .syncParent _ => { choice with fault := none }
  | .rename _ _ => { choice with fault := choice.fault.map fun fault => ⟨fault.error, false⟩ }
  | _ => choice

theorem steady_steady : Steady steady where
  syncParent _ _ := rfl
  rename source target choice fault failed := by
    obtain ⟨original, -, rfl⟩ := Option.map_eq_some_iff.mp failed
    rfl

variable {calm : Request SnapshotPath Unit → Choice → Choice}
  {post : Except CacheSnapshotError Unit → SnapshotDisk → Prop} {disk : SnapshotDisk}

abbrev Ends {α : Type} (calm : Request SnapshotPath Unit → Choice → Choice)
    (post : Except CacheSnapshotError α → SnapshotDisk → Prop) (disk : SnapshotDisk)
    (program : SnapshotProgram α) : Prop :=
  Holds (machine calm) (fun _ => True) (fun _ => True) post disk program

/-- The published file is the one of another disk. -/
def Untouched (disk next : SnapshotDisk) : Prop := next.lookup .published = disk.lookup .published

/-- The request is about the temporary file alone. -/
inductive OnTemporary : Request SnapshotPath Unit → Prop where
  | create : OnTemporary (.create .temporary ())
  | write (bytes : List UInt8) : OnTemporary (.write .temporary bytes)
  | sync : OnTemporary (.sync .temporary)
  | unlink : OnTemporary (.unlink .temporary)

theorem OnTemporary.interrupted (temporary : OnTemporary request) (choice : Choice) :
    OnTemporary (FileSystem.interrupted choice request) := by
  cases temporary with
  | create => exact .create
  | write bytes => exact .write _
  | sync => exact .sync
  | unlink => exact .unlink

theorem OnTemporary.untouched (temporary : OnTemporary request) {next : SnapshotDisk}
    {choice : Choice} (done : effect disk choice request = .ok next) : Untouched disk next := by
  have different : SnapshotPath.published ≠ SnapshotPath.temporary := by decide
  cases temporary with simp only [effect] at done
  | create =>
    split_ifs at done
    cases done
    exact lookup_insert_ne different
  | write bytes | sync =>
    split at done <;> cases done
    exact lookup_insert_ne different
  | unlink =>
    split at done <;> cases done
    exact lookup_erase_ne different

/-- A request about the temporary file fails or takes effect; the published file stays. -/
theorem ends_ask (temporary : OnTemporary request)
    (failed : ∀ error next, Untouched disk next → post (.error (.io error)) next)
    (done : ∀ choice next, effect disk choice request = .ok next → Untouched disk next →
      post (.ok ()) next) : Ends calm post disk (ask request) := by
  refine ⟨trivial, fun choice _ => ?_⟩
  simp only [machine]
  obtain ⟨next, -, effective, answer⟩ | ⟨error, -, answer⟩ | ⟨error, next, -, effective, answer⟩ :=
    perform_cases disk request (calm request choice)
  · rw [answer]
    exact ⟨trivial, done _ next effective (temporary.untouched effective)⟩
  · rw [answer]
    exact ⟨trivial, failed error disk rfl⟩
  · rw [answer]
    exact ⟨trivial, failed error next ((temporary.interrupted _).untouched effective)⟩

/-- The temporary file exists with the given content, beside the published file of `start`. -/
structure Staged (start disk : SnapshotDisk) (content : List UInt8) : Prop where
  untouched : Untouched start disk
  temporary : ∃ file, disk.lookup .temporary = some file ∧ file.content = content

def addRecords (codec : WireCodec) (sha : Sha256) (now : Instant) :
    List Visited → Draft → Except CacheSnapshotError Draft
  | [], draft => .ok draft
  | visited :: rest, draft =>
    match addRecord codec sha now draft visited with
    | .error error => .error error
    | .ok next => addRecords codec sha now rest next

section Writing

variable {codec : WireCodec} {sha : Sha256} {inputs : WriteInputs} {start disk : SnapshotDisk}

variable {content : List UInt8}

/-- A failed step of the writer leaves the published file alone; a successful one leaves a
temporary file. -/
def Wrote {α : Type} (start : SnapshotDisk) (reached : α → SnapshotDisk → Prop) :
    Except CacheSnapshotError α → SnapshotDisk → Prop
  | .ok value, disk => reached value disk
  | .error _, disk => Untouched start disk

variable (staged : Staged start disk content)

include staged

theorem ends_write (bytes : List UInt8)
    (failed : ∀ error next, Untouched start next → post (.error error) next)
    (done : ∀ next, Staged start next bytes → post (.ok ()) next) :
    Ends calm post disk (ask (.write .temporary bytes)) := by
  obtain ⟨file, found, -⟩ := staged.temporary
  refine ends_ask (.write bytes) (fun error next same => failed _ next ?_)
    fun choice next effective same => done next ⟨?_, ?_⟩
  · exact Eq.trans same staged.untouched
  · exact Eq.trans same staged.untouched
  · simp only [effect, found] at effective
    cases effective
    exact ⟨_, lookup_insert _, rfl⟩

theorem ends_writeRecord (draft : Draft) (visited : Visited) :
    Ends calm (Wrote start fun next disk =>
      addRecord codec sha inputs.now draft visited = .ok next ∧
        ∃ content, Staged start disk content) disk
      (writeRecord codec sha inputs draft visited) := by
  unfold writeRecord addRecord
  split
  · exact fail trivial staged.untouched
  · exact pure trivial ⟨rfl, content, staged⟩
  · next digest payload _ =>
    refine bind (ends_write staged _ (fun error next same => same) fun next first => ?_)
    refine bind (ends_write first _ (fun error next same => same) fun last second => ?_)
    exact ⟨trivial, rfl, _, second⟩

theorem ends_writeRecords (visited : List Visited) (draft : Draft) :
    Ends calm (Wrote start fun last disk =>
      addRecords codec sha inputs.now visited draft = .ok last ∧
        ∃ content, Staged start disk content) disk
      (writeRecords codec sha inputs visited draft) := by
  induction visited generalizing disk content draft with
  | nil => exact pure trivial ⟨rfl, content, staged⟩
  | cons visited rest induction =>
    refine bind (mono (ends_writeRecord staged draft visited) ?_)
    rintro (error | next) disk outcome
    · exact outcome
    · obtain ⟨added, content, staged⟩ := outcome
      rw [addRecords, added]
      exact induction staged next

omit staged

def draftFile (sha : Sha256) (inputs : WriteInputs) (draft : Draft) : List UInt8 :=
  encodeHeader (draftHeader sha inputs draft) ++ draft.body

/-- The complete file of the records stands where it should. -/
def Completed (codec : WireCodec) (sha : Sha256) (inputs : WriteInputs)
    (stands : SnapshotDisk → List UInt8 → Prop) (summary : CacheSnapshotWriteSummary)
    (disk : SnapshotDisk) : Prop :=
  ∃ draft, addRecords codec sha inputs.now inputs.visited .empty = .ok draft ∧
    summary = ⟨inputs.generatedAtUtcMillis, draft.recordCount, headerBytes + draft.body.length⟩ ∧
    stands disk (draftFile sha inputs draft)

theorem ends_writeTemporarySnapshot (codec : WireCodec) (sha : Sha256) (inputs : WriteInputs)
    (start : SnapshotDisk) :
    Ends calm (Wrote start (Completed codec sha inputs (Staged start))) start
      (writeTemporarySnapshot codec sha inputs) := by
  refine bind (ends_ask .create (fun error next same => same) fun choice next done same => ?_)
  have created : Staged start next [] := by
    refine ⟨same, ?_⟩
    simp only [effect] at done
    split_ifs at done
    cases done
    exact ⟨_, lookup_insert _, rfl⟩
  refine bind (ends_write created _ (fun error next same => same) fun disk headed => ?_)
  refine bind (mono (ends_writeRecords headed inputs.visited .empty) ?_)
  rintro (error | draft) disk outcome
  · exact outcome
  · obtain ⟨added, content, staged⟩ := outcome
    cases ended : inputs.ending with
    | error error => exact bind ⟨trivial, staged.untouched⟩
    | ok ending =>
      refine bind ⟨trivial, ?_⟩
      refine bind (ends_write staged _ (fun error next same => same) fun disk complete => ?_)
      obtain ⟨file, found, same_content⟩ := complete.temporary
      refine bind (ends_ask .sync (fun error next same => ?_) fun choice next done same => ?_)
      · exact Eq.trans same complete.untouched
      · refine ⟨trivial, draft, added, rfl, Eq.trans same complete.untouched, ?_⟩
        simp only [effect, found] at done
        cases done
        exact ⟨_, lookup_insert _, same_content⟩

/-- A published snapshot, or a failure with the file that was there before; only a machine that is
not steady may have published the snapshot nevertheless. -/
def Published {α : Type} (calm : Request SnapshotPath Unit → Choice → Choice)
    (start : SnapshotDisk) (reached : α → SnapshotDisk → Prop) :
    Except CacheSnapshotError α → SnapshotDisk → Prop
  | .ok value, disk => reached value disk
  | .error _, disk => (Steady calm → Untouched start disk) ∧
      (Untouched start disk ∨ ∃ value, reached value disk)

theorem perform_rename (disk : SnapshotDisk) {choice : Choice} {source target : SnapshotPath}
    (harmless : ∀ fault, choice.fault = some fault → fault.occurs = false) :
    (∃ next, effect disk choice (.rename source target) = .ok next ∧
      perform disk (.rename source target) choice = (.ok (), next)) ∨
    ∃ error, perform disk (.rename source target) choice = (.error error, disk) := by
  unfold perform
  cases chosen : choice.fault with
  | none =>
    cases done : effect disk choice (.rename source target) with
    | ok next => exact .inl ⟨next, rfl, rfl⟩
    | error error => exact .inr ⟨error, rfl⟩
  | some fault =>
    have unaffected := harmless fault chosen
    cases effect disk choice (interrupted choice (.rename source target)) <;>
      exact .inr ⟨fault.error, by simp [unaffected]⟩

def Holding (disk : SnapshotDisk) (content : List UInt8) : Prop :=
  ∃ file, disk.lookup .published = some file ∧ file.content = content

theorem ends_rename (staged : Staged start disk content) :
    Ends calm (Published calm start fun _ disk => Holding disk content) disk
      (ask (.rename .temporary .published)) := by
  refine ⟨trivial, fun choice _ => ?_⟩
  simp only [machine]
  obtain ⟨file, found, same_content⟩ := staged.temporary
  have renamed {next : SnapshotDisk}
      (done : effect disk (calm (.rename .temporary .published) choice)
        (.rename .temporary .published) = .ok next) : Holding next content := by
    simp only [effect, found] at done
    cases done
    exact ⟨file, lookup_insert _, same_content⟩
  obtain ⟨next, -, done, answer⟩ | ⟨error, -, answer⟩ | ⟨error, next, -, done, answer⟩ :=
    perform_cases disk (.rename .temporary .published) (calm (.rename .temporary .published) choice)
  · rw [answer]
    exact ⟨trivial, renamed done⟩
  · rw [answer]
    exact ⟨trivial, fun _ => staged.untouched, .inl staged.untouched⟩
  · rw [answer]
    refine ⟨trivial, fun steady => ?_, .inr ⟨(), renamed done⟩⟩
    obtain ⟨other, -, renamed⟩ | ⟨failure, refused⟩ :=
      perform_rename disk (steady.rename .temporary .published choice)
    · cases answer.symm.trans renamed
    · cases answer.symm.trans refused
      exact staged.untouched

/-- The sync of the directory changes nothing, and fails only when the machine is not steady. -/
theorem ends_syncParent (holding : Holding disk content) :
    Ends calm (Published calm start fun _ disk => Holding disk content) disk
      (ask (.syncParent .published)) := by
  refine ⟨trivial, fun choice _ => ?_⟩
  simp only [machine]
  obtain ⟨next, -, done, answer⟩ | ⟨error, faulty, answer⟩ | ⟨error, next, faulty, done, answer⟩ :=
    perform_cases disk (.syncParent .published) (calm (.syncParent .published) choice)
  · rw [answer]
    cases done
    exact ⟨trivial, holding⟩
  · rw [answer]
    refine ⟨trivial, fun steady => ?_, .inr ⟨(), holding⟩⟩
    cases faulty (steady.syncParent .published choice)
  · rw [answer]
    cases done
    exact ⟨trivial, fun steady => absurd (steady.syncParent .published choice) faulty,
      .inr ⟨(), holding⟩⟩

theorem ends_publish (staged : Staged start disk content) :
    Ends calm (Published calm start fun _ disk => Holding disk content) disk (publish inputs) := by
  have failed (error : CacheSnapshotError) :
      Ends calm (Published calm start fun _ disk => Holding disk content) disk
        (Program.fail error : SnapshotProgram Unit) :=
    fail trivial ⟨fun _ => staged.untouched, .inl staged.untouched⟩
  unfold publish
  split
  · exact failed _
  · split
    · exact failed _
    · exact failed _
    · refine bind (mono (ends_rename staged) ?_)
      rintro (error | renamed) disk outcome
      · exact outcome
      · exact ends_syncParent outcome

theorem ends_remove {α : Type} {reached : α → SnapshotDisk → Prop} {error : CacheSnapshotError}
    (failed : Published calm start reached (.error error) disk)
    (kept : ∀ value next, Untouched disk next → reached value disk → reached value next) :
    Ends calm (Published calm start reached) disk (do
      let _ ← (ask (.unlink .temporary)).attempt
      Program.fail error) := by
  have after {next : SnapshotDisk} (same : Untouched disk next) :
      Published calm start reached (.error error) next :=
    ⟨fun steady => Eq.trans same (failed.1 steady), failed.2.imp (Eq.trans same)
      fun ⟨value, reached⟩ => ⟨value, kept value next same reached⟩⟩
  exact bind (attempt (ends_ask .unlink (fun failure next same => ⟨trivial, after same⟩)
    fun choice next done same => ⟨trivial, after same⟩))

theorem Completed.kept (summary : CacheSnapshotWriteSummary) (next : SnapshotDisk)
    (same : Untouched disk next) (delivered : Completed codec sha inputs Holding summary disk) :
    Completed codec sha inputs Holding summary next := by
  obtain ⟨draft, added, rfl, file, found, content⟩ := delivered
  exact ⟨draft, added, rfl, file, Eq.trans same found, content⟩

/-- A write publishes the file of its records, or fails. -/
theorem ends_writeCacheSnapshotIfCurrent (codec : WireCodec) (sha : Sha256) (inputs : WriteInputs)
    (start : SnapshotDisk) :
    Ends calm (Published calm start (Completed codec sha inputs Holding)) start
      (writeCacheSnapshotIfCurrent codec sha inputs) := by
  unfold writeCacheSnapshotIfCurrent
  cases prepared : inputs.prepared with
  | error error => exact bind ⟨trivial, fun _ => rfl, .inl rfl⟩
  | ok preparation =>
    refine bind ⟨trivial, bind (attempt ?_)⟩
    refine bind (mono (ends_writeTemporarySnapshot codec sha inputs start) ?_)
    rintro (error | summary) disk outcome
    · exact ends_remove ⟨fun _ => outcome, .inl outcome⟩ Completed.kept
    · obtain ⟨draft, added, rfl, staged⟩ := outcome
      refine bind (mono (ends_publish staged) ?_)
      rintro (error | published) disk outcome
      · refine ends_remove ⟨outcome.1, outcome.2.imp_right fun ⟨_, holding⟩ => ?_⟩ Completed.kept
        exact ⟨_, draft, added, rfl, holding⟩
      · exact ⟨trivial, trivial, draft, added, rfl, outcome⟩

theorem published_of_complete (calm : Request SnapshotPath Unit → Choice → Choice)
    {choices : Nat → Choice} {result : Except CacheSnapshotError CacheSnapshotWriteSummary}
    (finished :
      complete (machine calm) choices start (writeCacheSnapshotIfCurrent codec sha inputs) =
      (disk, result)) : Published calm start (Completed codec sha inputs Holding) result disk := by
  have ended : ∀ choices, Published calm start (Completed codec sha inputs Holding)
      (complete (machine calm) choices start (writeCacheSnapshotIfCurrent codec sha inputs)).2
      (complete (machine calm) choices start (writeCacheSnapshotIfCurrent codec sha inputs)).1 :=
    fun choices => (ends_writeCacheSnapshotIfCurrent codec sha inputs start).of_complete
      fun _ => trivial
  have reached := ended choices
  rw [finished] at reached
  exact reached

end Writing

end FluxDns.Cache.Snapshot
