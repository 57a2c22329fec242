import FluxDns.Cache.Codec

/-!
# The query parameter of DoH requests

The decoder gathers six bits of each digit and gives out a byte whenever it has eight.  What it
accepts is the one text without padding that stands for the decoded bytes.
-/

namespace FluxDns.Transport

open Cache.Codec

/-- The value of a digit. -/
def sextet (byte : UInt8) : Option Nat :=
  if 65 ≤ byte ∧ byte ≤ 90 then some (byte.toNat - 65)
  else if 97 ≤ byte ∧ byte ≤ 122 then some (byte.toNat - 97 + 26)
  else if 48 ≤ byte ∧ byte ≤ 57 then some (byte.toNat - 48 + 52)
  else if byte = 45 then some 62
  else if byte = 95 then some 63
  else none

/-- The loop of `decode_base64url`; the accumulator has less than fourteen bits. -/
def decodeDigits : List UInt8 → (accumulator bits : Nat) → (output : List UInt8) →
    Option (List UInt8)
  | [], accumulator, bits, output => if 0 < bits ∧ accumulator ≠ 0 then none else some output
  | byte :: text, accumulator, bits, output => do
    let accumulator := accumulator <<< 6 ||| (← sextet byte)
    let bits := bits + 6
    if 8 ≤ bits then
      let bits := bits - 8
      let output := output ++ [UInt8.ofNat (accumulator >>> bits)]
      if maxDnsWireBytes < output.length then none
      else decodeDigits text (accumulator &&& (1 <<< bits - 1)) bits output
    else decodeDigits text accumulator bits output

def decodeBase64url (value : List UInt8) : Option (List UInt8) :=
  if value = [] ∨ 61 ∈ value ∨ value.length % 4 = 1 then none else decodeDigits value 0 0 []

/-- The digit of a value below 64. -/
def digit (value : Nat) : UInt8 :=
  if value < 26 then .ofNat (value + 65)
  else if value < 52 then .ofNat (value - 26 + 97)
  else if value < 62 then .ofNat (value - 52 + 48)
  else if value = 62 then 45
  else 95

/-- The encoding without padding, in groups of three bytes. -/
def encodeBase64url : List UInt8 → List UInt8
  | [] => []
  | [first] => [digit (first.toNat / 4), digit (first.toNat % 4 * 16)]
  | [first, second] => [digit (first.toNat / 4),
      digit (first.toNat % 4 * 16 + second.toNat / 16), digit (second.toNat % 16 * 4)]
  | first :: second :: third :: rest =>
    digit (first.toNat / 4) :: digit (first.toNat % 4 * 16 + second.toNat / 16) ::
      digit (second.toNat % 16 * 4 + third.toNat / 64) :: digit (third.toNat % 64) ::
      encodeBase64url rest

theorem sextet_digit {value : Nat} (small : value < 64) : sextet (digit value) = some value := by
  have all : ∀ value : Fin 64, sextet (digit value) = some value.val := by decide
  exact all ⟨value, small⟩

theorem sextet_eq_some {byte : UInt8} {value : Nat} (found : sextet byte = some value) :
    value < 64 ∧ digit value = byte := by
  have all : ∀ byte : Fin 256, ∀ value ∈ sextet (.ofFin byte),
      value < 64 ∧ digit value = .ofFin byte := by decide +kernel
  exact all byte.toFin value found

variable {text output result : List UInt8} {accumulator value : Nat}

theorem decodeDigits_start (small : value < 64) :
    decodeDigits (digit value :: text) 0 0 output = decodeDigits text value 6 output := by
  simp [decodeDigits, sextet_digit small]

/-- A round of the loop that gives out a byte. -/
theorem decodeDigits_byte (bits : Nat) (small : value < 64) :
    decodeDigits (digit value :: text) accumulator (bits + 2) output =
      if maxDnsWireBytes ≤ output.length then none
      else decodeDigits text ((accumulator * 64 + value) % 2 ^ bits) bits
        (output ++ [.ofNat ((accumulator * 64 + value) / 2 ^ bits)]) := by
  have joined : accumulator <<< 6 ||| value = accumulator * 64 + value := by
    rw [← Nat.shiftLeft_add_eq_or_of_lt small, Nat.shiftLeft_eq]
  simp only [← Nat.lt_add_one_iff]
  simp [decodeDigits, sextet_digit small, joined, Nat.shiftRight_eq_div_pow, Nat.one_shiftLeft]

theorem exists_digit {byte : UInt8} {bits : Nat}
    (found : decodeDigits (byte :: text) accumulator bits output = some result) :
    ∃ value < 64, byte = digit value := by
  cases read : sextet byte with
  | none => simp [decodeDigits, read] at found
  | some value =>
    obtain ⟨small, same⟩ := sextet_eq_some read
    exact ⟨value, small, same.symm⟩

theorem exists_byte {byte : UInt8} (bits : Nat)
    (found : decodeDigits (byte :: text) accumulator (bits + 2) output = some result) :
    ∃ value < 64, byte = digit value ∧
      decodeDigits text ((accumulator * 64 + value) % 2 ^ bits) bits
        (output ++ [.ofNat ((accumulator * 64 + value) / 2 ^ bits)]) = some result := by
  obtain ⟨value, small, rfl⟩ := exists_digit found
  rw [decodeDigits_byte bits small] at found
  split at found
  · cases found
  · exact ⟨value, small, rfl, found⟩

/-- A text that the loop accepts is the encoding of what it gives out. -/
theorem exists_encode : ∀ {text output : List UInt8}, text.length % 4 ≠ 1 →
    decodeDigits text 0 0 output = some result →
      ∃ bytes, text = encodeBase64url bytes ∧ result = output ++ bytes
  | [], _, _, found => by
    cases found
    exact ⟨[], rfl, (List.append_nil _).symm⟩
  | [_], _, odd, _ => absurd rfl odd
  | [_, _], output, odd, found => by
    obtain ⟨first, first_lt, rfl⟩ := exists_digit found
    rw [decodeDigits_start first_lt] at found
    obtain ⟨second, second_lt, rfl, ended⟩ := exists_byte 4 found
    rw [decodeDigits] at ended
    split at ended
    · cases ended
    next complete =>
    refine ⟨_, ?_, (Option.some.inj ended).symm⟩
    simp only [encodeBase64url, UInt8.toNat_ofNat']
    congr <;> omega
  | [_, _, _], output, odd, found => by
    obtain ⟨first, first_lt, rfl⟩ := exists_digit found
    rw [decodeDigits_start first_lt] at found
    obtain ⟨second, second_lt, rfl, two⟩ := exists_byte 4 found
    obtain ⟨third, third_lt, rfl, ended⟩ := exists_byte 2 two
    rw [decodeDigits] at ended
    split at ended
    · cases ended
    next complete =>
    refine ⟨_, ?_, (Option.some.inj ended).symm.trans (List.append_assoc _ _ _)⟩
    simp only [List.cons_append, List.nil_append, encodeBase64url, UInt8.toNat_ofNat']
    congr <;> omega
  | _ :: _ :: _ :: _ :: rest, output, odd, found => by
    obtain ⟨first, first_lt, rfl⟩ := exists_digit found
    rw [decodeDigits_start first_lt] at found
    obtain ⟨second, second_lt, rfl, two⟩ := exists_byte 4 found
    obtain ⟨third, third_lt, rfl, three⟩ := exists_byte 2 two
    obtain ⟨fourth, fourth_lt, rfl, four⟩ := exists_byte 0 three
    rw [Nat.pow_zero, Nat.mod_one] at four
    simp only [List.length_cons] at odd
    obtain ⟨bytes, rfl, rfl⟩ := exists_encode (by omega) four
    refine ⟨_ :: _ :: _ :: bytes, ?_, by simp only [List.append_assoc]; rfl⟩
    simp only [encodeBase64url, UInt8.toNat_ofNat']
    congr <;> omega

theorem decodeDigits_encode (bytes output : List UInt8)
    (fits : (output ++ bytes).length ≤ maxDnsWireBytes) :
    decodeDigits (encodeBase64url bytes) 0 0 output = some (output ++ bytes) := by
  have joined (byte : UInt8) {value : Nat} (same : value = byte.toNat) : .ofNat value = byte := by
    rw [same, UInt8.ofNat_toNat]
  induction bytes using encodeBase64url.induct generalizing output with
    simp only [List.length_append, List.length_cons, List.length_nil] at fits
  | case1 => simp [encodeBase64url, decodeDigits]
  | case2 first =>
    have first_lt := first.toNat_lt
    simp (disch := omega) [encodeBase64url, decodeDigits_start, decodeDigits_byte, joined first]
    exact ⟨by omega, if_neg (by omega)⟩
  | case3 first second =>
    have first_lt := first.toNat_lt
    have second_lt := second.toNat_lt
    simp (disch := omega) [encodeBase64url, decodeDigits_start, decodeDigits_byte, joined first,
      joined second]
    exact ⟨by omega, by omega, if_neg (by omega)⟩
  | case4 first second third rest induction =>
    have first_lt := first.toNat_lt
    have second_lt := second.toNat_lt
    have third_lt := third.toNat_lt
    simp (disch := omega) [encodeBase64url, decodeDigits_start, decodeDigits_byte, joined first,
      joined second, joined third, Nat.mod_one]
    refine ⟨by omega, by omega, by omega, ?_⟩
    rw [induction _ (by simp; omega), List.append_assoc]
    rfl

theorem digits_encode (bytes : List UInt8) :
    61 ∉ encodeBase64url bytes ∧ (encodeBase64url bytes).length % 4 ≠ 1 := by
  have padding (value : Nat) : 61 ≠ digit value := by
    unfold digit
    split_ifs <;> simp [← UInt8.toNat_inj] <;> omega
  induction bytes using encodeBase64url.induct with
  | case1 | case2 first | case3 first second => simp [encodeBase64url, padding]
  | case4 first second third rest induction =>
    simp only [encodeBase64url, List.mem_cons, padding, false_or, List.length_cons]
    exact ⟨induction.1, by omega⟩

/-- Bytes are read back from their encoding, and a text that is accepted is the encoding of its
bytes; so there is one text for a message. -/
theorem base64url_canonical :
    (∀ bytes, bytes ≠ [] → bytes.length ≤ 65535 →
      decodeBase64url (encodeBase64url bytes) = some bytes) ∧
    (∀ value bytes, decodeBase64url value = some bytes → value = encodeBase64url bytes) ∧
    ∀ value other bytes, decodeBase64url value = some bytes →
      decodeBase64url other = some bytes → value = other := by
  have canonical (value bytes : List UInt8) (found : decodeBase64url value = some bytes) :
      value = encodeBase64url bytes := by
    unfold decodeBase64url at found
    split at found
    · cases found
    · next accepted =>
      simp only [not_or] at accepted
      obtain ⟨decoded, same, rfl⟩ := exists_encode accepted.2.2 found
      exact same
  refine ⟨fun bytes nonempty short => ?_, canonical, fun value other bytes found again => ?_⟩
  · obtain ⟨unpadded, complete⟩ := digits_encode bytes
    have filled : encodeBase64url bytes ≠ [] := by
      induction bytes using encodeBase64url.induct <;> simp_all [encodeBase64url]
    rw [decodeBase64url, if_neg (by simp [unpadded, complete, filled])]
    exact decodeDigits_encode bytes [] short
  · rw [canonical value bytes found, canonical other bytes again]

end FluxDns.Transport
