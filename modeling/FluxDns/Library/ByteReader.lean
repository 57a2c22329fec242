import Mathlib.Tactic.Positivity
import Mathlib.Tactic.Ring

/-!
# Readers of byte strings

Big-endian numbers and readers that consume their input from the left.  `Reads` says that a reader
takes exactly the given bytes off any longer input, which is how a decoder inverts its encoder.
-/

namespace ByteReader

open List

variable {bytes : List UInt8} {stop : Nat}

/-- The lowest `width` base-256 digits of a number, most significant digit first. -/
def bigEndian : Nat → Nat → List UInt8
  | 0, _ => []
  | width + 1, value => bigEndian width (value / 256) ++ [UInt8.ofNat value]

/-- The number with the given base-256 digits. -/
def fromBigEndian (bytes : List UInt8) : Nat :=
  bytes.foldl (fun value byte => value * 256 + byte.toNat) 0

@[simp]
theorem length_bigEndian (width value : Nat) : (bigEndian width value).length = width := by
  induction width generalizing value with
  | zero => rfl
  | succ width induction => simp [bigEndian, induction]

theorem fromBigEndian_append_singleton (bytes : List UInt8) (byte : UInt8) :
    fromBigEndian (bytes ++ [byte]) = fromBigEndian bytes * 256 + byte.toNat := by
  simp [fromBigEndian]

theorem fromBigEndian_bigEndian (width value : Nat) :
    fromBigEndian (bigEndian width value) = value % 256 ^ width := by
  induction width generalizing value with
  | zero => simp [bigEndian, fromBigEndian, Nat.mod_one]
  | succ width induction =>
    have digit : (UInt8.ofNat value).toNat = value % 256 := by simp
    rw [bigEndian, fromBigEndian_append_singleton, induction, digit]
    rw [pow_succ', Nat.mod_mul]
    ring

def slice (bytes : List UInt8) (start stop : Nat) : List UInt8 := (bytes.take stop).drop start

theorem slice_cons (byte : UInt8) (rest : List UInt8) (start stop : Nat) :
    slice (byte :: rest) (start + 1) (stop + 1) = slice rest start stop := rfl

theorem slice_self {bytes : List UInt8} (length : bytes.length = stop) :
    slice bytes 0 stop = bytes := by
  rw [slice, ← length, take_length, drop_zero]

variable {left : List UInt8} (right : List UInt8)

theorem slice_append_of_le {start : Nat} (within : stop ≤ left.length) :
    slice (left ++ right) start stop = slice left start stop := by
  rw [slice, take_append_of_le_length within, slice]

theorem slice_append_left (length : left.length = stop) : slice (left ++ right) 0 stop = left := by
  rw [slice_append_of_le right length.ge, slice_self length]

theorem slice_append_right {start : Nat} (before : left.length ≤ start) :
    slice (left ++ right) start stop = slice right (start - left.length) (stop - left.length) := by
  simp only [slice, drop_take, drop_append, drop_eq_nil_of_le before, nil_append]
  congr 1
  omega

variable (width : Nat)

/-- Two's complement of a fixed width, as an unsigned number. -/
def unsigned (value : Int) : Nat := (value % 2 ^ width).toNat

/-- The signed number with a two's complement of the given width. -/
def signed (value : Nat) : Int :=
  if value < 2 ^ (width - 1) then value else (value : Int) - 2 ^ width

theorem unsigned_lt (value : Int) : unsigned width value < 2 ^ width := by
  have power : ((2 ^ width : Nat) : Int) = 2 ^ width := by push_cast; rfl
  unfold unsigned
  omega

theorem signed_unsigned {value : Int} (lower : -2 ^ width ≤ value) (upper : value < 2 ^ width) :
    signed (width + 1) (unsigned (width + 1) value) = value := by
  have doubled : (2 : Int) ^ (width + 1) = 2 * 2 ^ width := by ring
  have power : ((2 ^ width : Nat) : Int) = 2 ^ width := by push_cast; rfl
  have residue : value % (2 * 2 ^ width) = if 0 ≤ value then value else value + 2 * 2 ^ width := by
    split
    · exact Int.emod_eq_of_lt (by omega) (by omega)
    · rw [← Int.add_emod_right]
      exact Int.emod_eq_of_lt (by omega) (by omega)
  unfold signed unsigned
  rw [doubled, Nat.add_sub_cancel, residue]
  split <;> split <;> omega

variable {ε α β : Type} {result : β × List UInt8} {value : α} {input : List UInt8}

theorem bind_eq_ok {first : Except ε α} {next : α → Except ε β} {result : β} :
    first >>= next = .ok result ↔ ∃ value, first = .ok value ∧ next value = .ok result := by
  cases first with
  | error error =>
    simp only [reduceCtorEq, false_and, exists_false, iff_false]
    intro impossible
    cases impossible
  | ok value =>
    simp only [Except.ok.injEq, exists_eq_left']
    rfl

theorem ok_bind (value : α) (next : α → Except ε β) : Except.ok value >>= next = next value := rfl

theorem error_bind (error : ε) (next : α → Except ε β) :
    Except.error error >>= next = .error error :=
  rfl

/-- A computation that consumes input bytes and may fail. -/
abbrev Reader (ε α : Type) := StateT (List UInt8) (Except ε) α

/-- Take a number of bytes, failing when the input is shorter. -/
def take (failure : ε) (length : Nat) : Reader ε (List UInt8) := fun input =>
  if length ≤ input.length then .ok (input.take length, input.drop length) else .error failure

def number (failure : ε) (width : Nat) : Reader ε Nat := fromBigEndian <$> take failure width

def ensure (condition : Bool) (failure : ε) : Reader ε Unit :=
  if condition then pure () else throw failure

/-- A value that may be missing. -/
def require (value : Option α) (failure : ε) : Reader ε α :=
  match value with
  | some value => pure value
  | none => throw failure

/-- The reader takes exactly these bytes off every input that starts with them. -/
def Reads (reader : Reader ε α) (bytes : List UInt8) (value : α) : Prop :=
  ∀ rest, reader.run (bytes ++ rest) = .ok (value, rest)

theorem reads_take (failure : ε) (bytes : List UInt8) :
    Reads (take failure bytes.length) bytes bytes := by
  intro rest
  simp [take, StateT.run]

variable {reader : Reader ε α}

theorem Reads.map (reads : Reads reader bytes value) (f : α → β) :
    Reads (f <$> reader) bytes (f value) := by
  intro rest
  rw [StateT.run_map, reads rest]
  rfl

theorem reads_number (failure : ε) {width value : Nat} (fits : value < 256 ^ width) :
    Reads (number failure width) (bigEndian width value) value := by
  have reads := (reads_take failure (bigEndian width value)).map fromBigEndian
  rw [length_bigEndian, fromBigEndian_bigEndian, Nat.mod_eq_of_lt fits] at reads
  exact reads

theorem Reads.run_bind (reads : Reads reader bytes value) (next : α → Reader ε β)
    (rest : List UInt8) : (reader >>= next).run (bytes ++ rest) = (next value).run rest := by
  rw [StateT.run_bind, reads rest]
  rfl

theorem Reads.bind {more : List UInt8} {result : β} (reads : Reads reader bytes value)
    {next : α → Reader ε β} (reads_next : Reads (next value) more result) :
    Reads (reader >>= next) (bytes ++ more) result := by
  intro rest
  rw [append_assoc, reads.run_bind, reads_next]

theorem run_ensure_bind {condition : Bool} {failure : ε} {next : Unit → Reader ε β} :
    (ensure condition failure >>= next).run input = .ok result ↔
      condition = true ∧ (next ()).run input = .ok result := by
  cases condition
  · simp only [Bool.false_eq_true, false_and, iff_false]
    intro impossible
    cases impossible
  · simp only [true_and]
    rfl

theorem run_require_bind {value : Option α} {failure : ε} {next : α → Reader ε β} :
    (require value failure >>= next).run input = .ok result ↔
      ∃ present, value = some present ∧ (next present).run input = .ok result := by
  cases value with
  | none =>
    simp only [reduceCtorEq, false_and, exists_false, iff_false]
    intro impossible
    cases impossible
  | some present =>
    simp only [Option.some.injEq, exists_eq_left']
    rfl

end ByteReader
