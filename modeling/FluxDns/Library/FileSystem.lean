import FluxDns.Library.AssociationList
import FluxDns.Library.Program

/-!
# A file system with faults

A disk maps paths to files; files with the same identity are hard links of one file.  Every
operation is atomic, and may be answered with an error whether or not it took effect.
-/

namespace FileSystem

/-- A file and whether its content was synced. -/
structure File (Attributes : Type) where
  identity : Nat
  content : List UInt8
  synced : Bool
  attributes : Attributes

abbrev Disk (Path Attributes : Type) := Map Path (File Attributes)

inductive IoError where
  | notFound
  | alreadyExists
  | fileTooLarge
  | wouldBlock
  | other
  deriving DecidableEq

inductive Request (Path Attributes : Type) where
  /-- Look at the disk without changing it. -/
  | inspect
  /-- Draw random bytes. -/
  | random (count : Nat)
  | create (path : Path) (attributes : Attributes)
  | write (path : Path) (bytes : List UInt8)
  | sync (path : Path)
  | syncParent (path : Path)
  | rename (source target : Path)
  | link (source target : Path)
  | unlink (path : Path)
  | lock (path : Path)

def Value (Path Attributes : Type) : Request Path Attributes → Type
  | .inspect => Disk Path Attributes
  | .random _ => List UInt8
  | _ => Unit

abbrev Reply {Path Attributes : Type} (request : Request Path Attributes) : Type :=
  Except IoError (Value Path Attributes request)

/-- A request that the operating system answers with an error. -/
structure Fault where
  error : IoError
  /-- Whether the operation took effect nevertheless. -/
  occurs : Bool

/-- What the environment decides about one request. -/
structure Choice where
  fault : Option Fault
  /-- The identity of a new file. -/
  identity : Nat
  /-- How much of a failed write is in the file. -/
  kept : Nat
  /-- The random bytes. -/
  random : Nat → UInt8

variable {Path Attributes : Type} [DecidableEq Path] (disk : Disk Path Attributes)

def linkCount (identity : Nat) : Nat :=
  disk.count fun file => decide (file.identity = identity)

def effect (choice : Choice) : Request Path Attributes → Except IoError (Disk Path Attributes)
  | .inspect | .random _ | .syncParent _ | .lock _ => .ok disk
  | .create path attributes =>
    if (disk.lookup path).isSome then .error .alreadyExists
    else if linkCount disk choice.identity ≠ 0 then .error .other
    else .ok (disk.insert path ⟨choice.identity, [], false, attributes⟩)
  | .write path bytes =>
    match disk.lookup path with
    | none => .error .notFound
    | some file => .ok (disk.insert path { file with content := bytes, synced := false })
  | .sync path =>
    match disk.lookup path with
    | none => .error .notFound
    | some file => .ok (disk.insert path { file with synced := true })
  | .rename source target =>
    match disk.lookup source with
    | none => .error .notFound
    | some file => .ok ((disk.erase source).insert target file)
  | .link source target =>
    match disk.lookup source, disk.lookup target with
    | none, _ => .error .notFound
    | some _, some _ => .error .alreadyExists
    | some file, none => .ok (disk.insert target file)
  | .unlink path =>
    match disk.lookup path with
    | none => .error .notFound
    | some _ => .ok (disk.erase path)

/-- What a failed request did when it took effect: a write may have stopped early. -/
def interrupted (choice : Choice) : Request Path Attributes → Request Path Attributes
  | .write path bytes => .write path (bytes.take choice.kept)
  | request => request

def value (choice : Choice) : (request : Request Path Attributes) → Value Path Attributes request
  | .inspect => disk
  | .random count => (List.range count).map choice.random
  | .create _ _ | .write _ _ | .sync _ | .syncParent _ | .rename _ _ | .link _ _ | .unlink _
  | .lock _ => ()

def perform (request : Request Path Attributes) (choice : Choice) :
    Reply request × Disk Path Attributes :=
  match choice.fault with
  | none =>
    match effect disk choice request with
    | .ok next => (.ok (value disk choice request), next)
    | .error error => (.error error, disk)
  | some fault =>
    match fault.occurs, effect disk choice (interrupted choice request) with
    | true, .ok next => (.error fault.error, next)
    | _, _ => (.error fault.error, disk)

/-- A request takes effect, is refused or fails, possibly after it took effect. -/
theorem perform_cases (request : Request Path Attributes) (choice : Choice) :
    (∃ next, choice.fault = none ∧ effect disk choice request = .ok next ∧
      perform disk request choice = (.ok (value disk choice request), next)) ∨
    (∃ error, (choice.fault = none → effect disk choice request = .error error) ∧
      perform disk request choice = (.error error, disk)) ∨
    (∃ error next, choice.fault ≠ none ∧
      effect disk choice (interrupted choice request) = .ok next ∧
      perform disk request choice = (.error error, next)) := by
  unfold perform
  cases chosen : choice.fault with
  | none =>
    cases done : effect disk choice request with
    | ok next => exact .inl ⟨next, rfl, rfl, rfl⟩
    | error error => exact .inr (.inl ⟨error, fun _ => rfl, rfl⟩)
  | some fault =>
    cases occurs : fault.occurs with
    | false => exact .inr (.inl ⟨fault.error, by simp, by simp [occurs]⟩)
    | true =>
      cases done : effect disk choice (interrupted choice request) with
      | ok next => exact .inr (.inr ⟨fault.error, next, by simp, rfl, by simp [occurs]⟩)
      | error error => exact .inr (.inl ⟨fault.error, by simp, by simp [occurs]⟩)

end FileSystem
