import Mathlib.Data.Finset.Insert

/-!
# The matcher of the regular expressions of a rule set

Each token of a compiled expression takes as many characters as it can and gives them back one by
one until the rest of the tokens match.  Positions from which the rest has failed are remembered
across the branches of the search.
-/

namespace FluxDns.Resource.Regex

open List

inductive RegexAtom where
  | literal (expected : Char)
  | any
  | charClass (ranges : List (Char × Char)) (negated : Bool)

/-- An atom with its repetitions. -/
structure RegexToken where
  atom : RegexAtom
  min : Nat
  max : Option Nat

/-- A compiled expression. -/
structure CompiledRegex where
  anchoredStart : Bool
  anchoredEnd : Bool
  tokens : List RegexToken

def atomMatches : RegexAtom → Char → Bool
  | .literal expected, character => expected == character
  | .any, _ => true
  | .charClass ranges negated, character =>
    let matched := ranges.any fun (start, stop) => decide (start ≤ character ∧ character ≤ stop)
    if negated then !matched else matched

/-- The loop that collects positions: how many characters of the text the token can take, after
`count` that it has taken. -/
def RegexToken.maxCount (token : RegexToken) : List Char → Nat → Nat
  | [], count => count
  | character :: text, count =>
    if (token.max.all fun max => decide (count < max)) && atomMatches token.atom character then
      token.maxCount text (count + 1)
    else count

/-- The positions behind the token, the last one first. -/
def RegexToken.positions (token : RegexToken) (text : List Char) (charIndex : Nat) : List Nat :=
  let maxCount := token.maxCount (text.drop charIndex) 0
  (range' token.min (maxCount + 1 - token.min)).reverse.map (charIndex + ·)

/-- The loop over the positions that are left to try. -/
def tryEach (search : Nat → Finset (Nat × Nat) → Bool × Finset (Nat × Nat)) :
    List Nat → Finset (Nat × Nat) → Bool × Finset (Nat × Nat)
  | [], failed => (false, failed)
  | position :: positions, failed =>
    match search position failed with
    | (true, failed) => (true, failed)
    | (false, failed) => tryEach search positions failed

/-- `match_here`, with the tokens from `tokenIndex` on. -/
def matchHere (text : List Char) (anchoredEnd : Bool) :
    List RegexToken → Nat → Nat → Finset (Nat × Nat) → Bool × Finset (Nat × Nat)
  | [], _, charIndex, failed => (!anchoredEnd || charIndex == text.length, failed)
  | token :: tokens, tokenIndex, charIndex, failed =>
    if (tokenIndex, charIndex) ∈ failed then (false, failed)
    else
      match tryEach (fun position failed =>
          matchHere text anchoredEnd tokens (tokenIndex + 1) position failed)
          (token.positions text charIndex) failed with
      | (true, failed) => (true, failed)
      | (false, failed) => (false, insert (tokenIndex, charIndex) failed)

def CompiledRegex.isMatch (regex : CompiledRegex) (text : String) : Bool :=
  let chars := text.toList
  let starts := if regex.anchoredStart then [0] else range (chars.length + 1)
  starts.any fun start => (matchHere chars regex.anchoredEnd regex.tokens 0 start ∅).1

/-- The piece has a number of characters that the token allows, all matched by its atom. -/
structure RegexToken.Fits (token : RegexToken) (piece : List Char) : Prop where
  min_le : token.min ≤ piece.length
  le_max : ∀ max ∈ token.max, piece.length ≤ max
  matched : ∀ character ∈ piece, atomMatches token.atom character = true

/-- The text begins with consecutive pieces, one for each token, and ends with the last one if the
expression is anchored there. -/
def Splits (anchoredEnd : Bool) (tokens : List RegexToken) (text : List Char) : Prop :=
  ∃ pieces rest, text = pieces.flatten ++ rest ∧ List.Forall₂ RegexToken.Fits tokens pieces ∧
    (anchoredEnd = true → rest = [])

variable {anchoredEnd : Bool} {token : RegexToken} {tokens : List RegexToken} {text : List Char}
  {failed : Finset (Nat × Nat)}

theorem splits_nil_iff : Splits anchoredEnd [] text ↔ (anchoredEnd = true → text = []) := by
  constructor
  · rintro ⟨pieces, rest, rfl, fits, ends⟩
    cases fits
    exact ends
  · intro ends
    exact ⟨[], text, rfl, .nil, ends⟩

theorem splits_cons_iff : Splits anchoredEnd (token :: tokens) text ↔
    ∃ count ≤ text.length, token.Fits (text.take count) ∧
      Splits anchoredEnd tokens (text.drop count) := by
  constructor
  · rintro ⟨pieces, rest, rfl, fits, ends⟩
    cases fits with
    | @cons _ piece _ pieces fit fits =>
      refine ⟨piece.length, by simp, ?_, pieces, rest, ?_, fits, ends⟩
      · rw [flatten_cons, append_assoc, take_left]
        exact fit
      · rw [flatten_cons, append_assoc, drop_left]
  · rintro ⟨count, -, fit, pieces, rest, split, fits, ends⟩
    refine ⟨text.take count :: pieces, rest, ?_, .cons fit fits, ends⟩
    rw [flatten_cons, append_assoc, ← split, take_append_drop]

theorem le_maxCount_iff {start : Nat} (allowed : ∀ max ∈ token.max, start ≤ max) (count : Nat) :
    start + count ≤ token.maxCount text start ↔ count ≤ text.length ∧
      (∀ max ∈ token.max, start + count ≤ max) ∧
      ∀ character ∈ text.take count, atomMatches token.atom character = true := by
  induction text generalizing start count with
  | nil =>
    rw [RegexToken.maxCount]
    constructor
    · intro within
      obtain rfl : count = 0 := by omega
      exact ⟨le_rfl, allowed, by simp⟩
    · rintro ⟨none_left, -⟩
      obtain rfl := Nat.le_zero.mp none_left
      exact le_rfl
  | cons character text induction =>
    cases count with
    | zero =>
      have reached : start ≤ token.maxCount (character :: text) start := by
        rw [RegexToken.maxCount]
        split
        · next more =>
          have allowed_next : ∀ max ∈ token.max, start < max := by
            simpa [Option.all_eq_true] using (Bool.and_eq_true_iff.mp more).1
          exact Nat.le_of_succ_le ((induction allowed_next 0).mpr ⟨by simp, allowed_next, by simp⟩)
        · exact le_rfl
      simpa [reached] using allowed
    | succ count =>
      rw [RegexToken.maxCount, take_succ_cons, forall_mem_cons, length_cons,
        Nat.add_le_add_iff_right]
      split
      · next more =>
        rw [Bool.and_eq_true_iff] at more
        have allowed_next : ∀ max ∈ token.max, start < max := by
          simpa [Option.all_eq_true] using more.1
        rw [← Nat.add_assoc, Nat.add_right_comm, induction allowed_next count]
        simp only [more.2, true_and]
      · next no_more =>
        constructor
        · omega
        · rintro ⟨-, below, matched, -⟩
          refine absurd (Bool.and_eq_true_iff.mpr ⟨?_, matched⟩) no_more
          refine (Option.all_eq_true _ _).mpr fun max given => decide_eq_true ?_
          have := below max given
          omega

theorem mem_positions_iff {charIndex position : Nat} :
    position ∈ token.positions text charIndex ↔ ∃ count ≤ (text.drop charIndex).length,
      token.Fits ((text.drop charIndex).take count) ∧ charIndex + count = position := by
  rw [RegexToken.positions, mem_map]
  generalize text.drop charIndex = text
  refine exists_congr fun count => ?_
  rw [← and_assoc]
  refine and_congr_left fun _ => ?_
  have taken := @le_maxCount_iff token text 0 (fun _ _ => Nat.zero_le _) count
  have range : count ∈ (range' token.min (token.maxCount text 0 + 1 - token.min)).reverse ↔
      token.min ≤ count ∧ 0 + count ≤ token.maxCount text 0 := by
    rw [mem_reverse, mem_range'_1]
    omega
  rw [range, taken, Nat.zero_add]
  constructor
  · rintro ⟨min_le, within, le_max, matched⟩
    rw [← Nat.min_eq_left within, ← length_take] at min_le le_max
    exact ⟨within, min_le, le_max, matched⟩
  · rintro ⟨within, min_le, le_max, matched⟩
    rw [length_take, Nat.min_eq_left within] at min_le le_max
    exact ⟨min_le, within, le_max, matched⟩

theorem tryEach_spec {search : Nat → Finset (Nat × Nat) → Bool × Finset (Nat × Nat)}
    {goal : Nat → Prop} {known : Finset (Nat × Nat) → Prop} {positions : List Nat}
    (searched : ∀ position ∈ positions, ∀ failed, known failed →
      ((search position failed).1 = true ↔ goal position) ∧ known (search position failed).2)
    (before : known failed) :
    ((tryEach search positions failed).1 = true ↔ ∃ position ∈ positions, goal position) ∧
      known (tryEach search positions failed).2 := by
  induction positions generalizing failed with
  | nil => exact ⟨by simp [tryEach], before⟩
  | cons position positions induction =>
    rw [forall_mem_cons] at searched
    have first := searched.1 failed before
    have rest := induction searched.2 first.2
    rw [tryEach]
    generalize search position failed = result at first rest
    obtain ⟨found, failed⟩ := result
    cases found with
    | true => exact ⟨by simp [← first.1], first.2⟩
    | false => exact ⟨by simp [← first.1, rest.1], rest.2⟩

/-- The rest of the tokens does not match from any position that is remembered. -/
def Remembered (anchoredEnd : Bool) (all : List RegexToken) (text : List Char)
    (failed : Finset (Nat × Nat)) : Prop :=
  ∀ entry ∈ failed, ¬Splits anchoredEnd (all.drop entry.1) (text.drop entry.2)

theorem matchHere_spec {all : List RegexToken} {tokenIndex charIndex : Nat}
    (rest : all.drop tokenIndex = tokens) (within : charIndex ≤ text.length)
    (known : Remembered anchoredEnd all text failed) :
    ((matchHere text anchoredEnd tokens tokenIndex charIndex failed).1 = true ↔
      Splits anchoredEnd tokens (text.drop charIndex)) ∧
    Remembered anchoredEnd all text
      (matchHere text anchoredEnd tokens tokenIndex charIndex failed).2 := by
  induction tokens generalizing tokenIndex charIndex failed with
  | nil =>
    refine ⟨?_, known⟩
    rw [matchHere, splits_nil_iff, drop_eq_nil_iff]
    cases anchoredEnd with
    | false => simp
    | true => simp [Nat.le_antisymm_iff, within]
  | cons token tokens induction =>
    rw [matchHere]
    split
    · next mem =>
      have unsplit := known _ mem
      rw [rest] at unsplit
      exact ⟨by simp [unsplit], known⟩
    · have rest_next : all.drop (tokenIndex + 1) = tokens := by
        rw [← drop_drop, rest, drop_one, tail_cons]
      have searched : ∀ position ∈ token.positions text charIndex, ∀ failed,
          Remembered anchoredEnd all text failed →
          ((matchHere text anchoredEnd tokens (tokenIndex + 1) position failed).1 = true ↔
            Splits anchoredEnd tokens (text.drop position)) ∧
          Remembered anchoredEnd all text
            (matchHere text anchoredEnd tokens (tokenIndex + 1) position failed).2 := by
        intro position mem failed known
        obtain ⟨count, fits, -, rfl⟩ := mem_positions_iff.mp mem
        rw [length_drop] at fits
        exact induction rest_next (by omega) known
      have tried := tryEach_spec searched known
      have found : (∃ position ∈ token.positions text charIndex,
          Splits anchoredEnd tokens (text.drop position)) ↔
          Splits anchoredEnd (token :: tokens) (text.drop charIndex) := by
        simp only [mem_positions_iff, splits_cons_iff, drop_drop]
        constructor
        · rintro ⟨_, ⟨count, within, fits, rfl⟩, splits⟩
          exact ⟨count, within, fits, splits⟩
        · rintro ⟨count, within, fits, splits⟩
          exact ⟨_, ⟨count, within, fits, rfl⟩, splits⟩
      rw [found] at tried
      revert tried
      generalize tryEach _ _ failed = result
      obtain ⟨matched, failed⟩ := result
      rintro ⟨decided, known⟩
      cases matched with
      | true => exact ⟨by simp [← decided], known⟩
      | false =>
        refine ⟨by simp [← decided], ?_⟩
        rw [Remembered, Finset.forall_mem_insert, rest]
        exact ⟨by simp [← decided], known⟩

/-- An expression matches a text exactly when the text from some start on splits into pieces for
its tokens. -/
theorem isMatch_iff (regex : CompiledRegex) (text : String) :
    regex.isMatch text = true ↔ ∃ start ≤ text.toList.length,
      (regex.anchoredStart = true → start = 0) ∧ ∃ pieces rest,
        text.toList.drop start = pieces.flatten ++ rest ∧
        List.Forall₂ RegexToken.Fits regex.tokens pieces ∧
        (regex.anchoredEnd = true → rest = []) := by
  have matched {start : Nat} (within : start ≤ text.toList.length) :
      (matchHere text.toList regex.anchoredEnd regex.tokens 0 start ∅).1 = true ↔
        Splits regex.anchoredEnd regex.tokens (text.toList.drop start) :=
    (matchHere_spec drop_zero within (by simp [Remembered])).1
  rw [CompiledRegex.isMatch, any_eq_true]
  refine exists_congr fun start => ?_
  have starts : start ∈ (if regex.anchoredStart then [0] else range (text.toList.length + 1)) ↔
      start ≤ text.toList.length ∧ (regex.anchoredStart = true → start = 0) := by
    split
    · next anchored => simp +contextual [anchored]
    · next free =>
      rw [mem_range, Nat.lt_succ_iff]
      simp [free]
  rw [starts, and_assoc]
  refine and_congr_right fun within => and_congr_right fun _ => ?_
  exact matched within

end FluxDns.Resource.Regex
