import Mathlib.Data.List.Forall2
import Mathlib.Data.String.Basic

/-!
# Path templates of DoH routes

A template is an absolute path in which one segment may stand for the identifier of a client.  Two
templates overlap when their segments agree, and this is so exactly when some path is matched by
both of them.
-/

namespace FluxDns.Config

variable {text path : List Char} {texts : List (List Char)} {template : List Char}
  {marker : List Char}

def clientIdMarker : List Char := "\x7bclient_id\x7d".toList

/-- The texts before and after the first occurrence of a marker. -/
def splitMarker (marker : List Char) : List Char → Option (List Char × List Char)
  | [] => none
  | char :: rest =>
    if marker.isPrefixOf (char :: rest) then some ([], (char :: rest).drop marker.length)
    else (splitMarker marker rest).map fun (before, after) => (char :: before, after)

open List

theorem not_infix_of_splitMarker_eq_none (marked : marker ≠ [])
    (absent : splitMarker marker text = none) : ¬marker <:+: text := by
  induction text with
  | nil =>
    intro inside
    exact marked (infix_nil.mp inside)
  | cons char rest ih =>
    rw [splitMarker] at absent
    split at absent <;> try cases absent
    next different =>
    rw [infix_cons_iff]
    rintro (start | later)
    · exact different <| isPrefixOf_iff_prefix.mpr start
    · exact ih (Option.map_eq_none_iff.mp absent) later

/-- The first occurrence of a marker, with no other one before it. -/
theorem splitMarker_eq_some {before after : List Char} (marked : marker ≠ [])
    (found : splitMarker marker text = some (before, after)) :
    text = before ++ (marker ++ after) ∧ ¬marker <:+: before := by
  induction text generalizing before with
  | nil => cases found
  | cons char rest ih =>
    rw [splitMarker] at found
    split at found
    · next start =>
      cases found
      obtain ⟨remaining, remaining_eq⟩ := isPrefixOf_iff_prefix.mp start
      rw [← remaining_eq, drop_left]
      exact ⟨rfl, fun inside => marked (infix_nil.mp inside)⟩
    · next different =>
      obtain ⟨⟨front, back⟩, rest_eq, same⟩ := Option.map_eq_some_iff.mp found
      cases same
      obtain ⟨rfl, outside⟩ := ih rest_eq
      refine ⟨rfl, ?_⟩
      rw [infix_cons_iff]
      rintro (start | later)
      · have whole : marker <+: char :: (front ++ (marker ++ after)) :=
          start.trans (prefix_append (char :: front) _)
        exact different <| isPrefixOf_iff_prefix.mpr whole
      · exact outside later

inductive DohPathPatternError where
  | invalidPath
  | invalidPlaceholder

/-- The texts around a placeholder leave it a segment of its own. -/
structure Surrounds (before after : List Char) : Prop where
  slash_before : before.getLast? = some '/'
  slash_after : after = [] ∨ after.head? = some '/'
  once_before : ¬clientIdMarker <:+: before
  once_after : ¬clientIdMarker <:+: after

/-- `DohPathPattern`; the placeholder is given by the texts before and after it. -/
structure DohPathPattern where
  template : List Char
  placeholder : Option (List Char × List Char)
  absolute : template.head? = some '/'
  no_query : '?' ∉ template
  literal : placeholder = none → ¬clientIdMarker <:+: template
  split_eq : ∀ before after, placeholder = some (before, after) →
    template = before ++ (clientIdMarker ++ after)
  surrounds : ∀ before after, placeholder = some (before, after) → Surrounds before after

/-- An absolute path without query, fragment and control characters. -/
def isTemplatePath (template : List Char) : Bool :=
  decide (template.head? = some '/') && decide ('?' ∉ template) && decide ('#' ∉ template) &&
    template.all fun char => !(decide (char.val < 0x20) || char.val == 0x7f)

theorem clientIdMarker_ne_nil : clientIdMarker ≠ [] := by
  decide

theorem head?_of_isTemplatePath (valid : isTemplatePath template = true) :
    template.head? = some '/' := by
  simp only [isTemplatePath, Bool.and_eq_true, decide_eq_true_eq] at valid
  exact valid.1.1.1

theorem no_query_of_isTemplatePath (valid : isTemplatePath template = true) : '?' ∉ template := by
  simp only [isTemplatePath, Bool.and_eq_true, decide_eq_true_eq] at valid
  exact valid.1.1.2

namespace DohPathPattern

def new (template : String) : Except DohPathPatternError DohPathPattern :=
  if valid : isTemplatePath template.toList = true then
    match found : splitMarker clientIdMarker template.toList with
    | none =>
      .ok {
        template := template.toList
        placeholder := none
        absolute := head?_of_isTemplatePath valid
        no_query := no_query_of_isTemplatePath valid
        literal := fun _ => not_infix_of_splitMarker_eq_none clientIdMarker_ne_nil found
        split_eq := nofun
        surrounds := nofun }
    | some (before, after) =>
      if repeated : splitMarker clientIdMarker after = none then
        if complete : before.getLast? = some '/' ∧ (after = [] ∨ after.head? = some '/') then
          .ok {
            template := template.toList
            placeholder := some (before, after)
            absolute := head?_of_isTemplatePath valid
            no_query := no_query_of_isTemplatePath valid
            literal := nofun
            split_eq := by
              rintro _ _ ⟨⟩
              exact (splitMarker_eq_some clientIdMarker_ne_nil found).1
            surrounds := by
              rintro _ _ ⟨⟩
              exact ⟨complete.1, complete.2, (splitMarker_eq_some clientIdMarker_ne_nil found).2,
                not_infix_of_splitMarker_eq_none clientIdMarker_ne_nil repeated⟩ }
        else .error .invalidPlaceholder
      else .error .invalidPlaceholder
  else .error .invalidPath

/-- `bare_path`: what a template with its placeholder at the end also stands for. -/
def barePath (pattern : DohPathPattern) : Option (List Char) :=
  match pattern.placeholder with
  | none => none
  | some (before, after) =>
    if after ≠ [] then none
    else if before = ['/'] then some before
    else if before.getLast? = some '/' then some before.dropLast
    else none

/-- What a path has between two texts. -/
def between (before after path : List Char) : Option (List Char) :=
  if before.isPrefixOf path && after.isSuffixOf path then
    if before.length + after.length ≤ path.length then
      some ((path.drop before.length).take (path.length - before.length - after.length))
    else none
  else none

end DohPathPattern

/-- `matches`: the client identifier of a path that is matched, when it has one. -/
def DohPathPattern.matches (pattern : DohPathPattern) (path : List Char) :
    Option (Option (List Char)) :=
  match pattern.placeholder with
  | none => if path = pattern.template then some none else none
  | some (before, after) =>
    if after = [] ∧ pattern.barePath = some path then some none
    else
      match between before after path with
      | none => none
      | some value => if value = [] ∨ '/' ∈ value ∨ '?' ∈ value then none else some (some value)

inductive PathSegment where
  | literal (text : List Char)
  | clientId

/-- The texts between the slashes of an absolute path. -/
def segmentTexts (path : List Char) : List (List Char) := (path.splitOn '/').drop 1

def PathSegment.ofText (text : List Char) : PathSegment :=
  if text = clientIdMarker then .clientId else .literal text

namespace DohPathPattern

/-- `path_variants`: the segments of the template and of the bare path. -/
def pathVariants (pattern : DohPathPattern) : List (List PathSegment) :=
  (segmentTexts pattern.template).map .ofText ::
    (pattern.barePath.map fun path => (segmentTexts path).map .ofText).toList

end DohPathPattern

def segmentsCompatible : PathSegment → PathSegment → Bool
  | .clientId, .clientId => true
  | .clientId, .literal value | .literal value, .clientId => decide (value ≠ [])
  | .literal left, .literal right => decide (left = right)

def variantsOverlap (left right : List PathSegment) : Bool :=
  left.length == right.length &&
    (left.zip right).all fun (left, right) => segmentsCompatible left right

def DohPathPattern.overlaps (pattern other : DohPathPattern) : Bool :=
  pattern.pathVariants.any fun left =>
    other.pathVariants.any fun right => variantsOverlap left right

theorem slash_notMem_of_mem_splitOn (member : text ∈ path.splitOn '/') : '/' ∉ text := by
  induction path generalizing text with
  | nil =>
    rw [splitOn_nil, mem_singleton] at member
    simp [member]
  | cons char rest ih =>
    rw [splitOn_cons_eq_if_modifyHead] at member
    split at member
    · rcases mem_cons.mp member with rfl | later
      · simp
      · exact ih later
    · next other =>
      cases parts : rest.splitOn '/' with
      | nil => exact absurd parts (splitOn_ne_nil _ _)
      | cons first later =>
        rw [parts] at ih
        rw [parts, modifyHead_cons, mem_cons] at member
        rcases member with rfl | member
        · have different : '/' ≠ char := fun same => other (beq_iff_eq.mpr same.symm)
          rw [mem_cons, not_or]
          exact ⟨different, ih mem_cons_self⟩
        · exact ih (mem_cons_of_mem _ member)

theorem infix_of_mem_splitOn (member : text ∈ path.splitOn '/') : text <:+: path := by
  obtain ⟨index, found⟩ := mem_iff_getElem?.mp member
  have interspersed : text ∈ (path.splitOn '/').intersperse ['/'] := by
    apply mem_iff_getElem?.mpr
    exact ⟨2 * index, by rw [getElem?_intersperse_two_mul, found]⟩
  have joined : ((path.splitOn '/').intersperse ['/']).flatten = path := intercalate_splitOn '/'
  rw [← joined]
  exact infix_of_mem_flatten interspersed

theorem slash_notMem_of_mem_segmentTexts (member : text ∈ segmentTexts path) : '/' ∉ text :=
  slash_notMem_of_mem_splitOn (mem_of_mem_drop member)

theorem infix_of_mem_segmentTexts (member : text ∈ segmentTexts path) : text <:+: path :=
  infix_of_mem_splitOn (mem_of_mem_drop member)

theorem segmentTexts_cons (rest : List Char) : segmentTexts ('/' :: rest) = rest.splitOn '/' := by
  rfl

theorem exists_cons_of_head? (absolute : path.head? = some '/') : ∃ rest, path = '/' :: rest := by
  cases path with
  | nil => cases absolute
  | cons char rest =>
    cases absolute
    exact ⟨rest, rfl⟩

/-- The segments of absolute paths tell them apart. -/
theorem eq_of_segmentTexts_eq {left right : List Char} (left_absolute : left.head? = some '/')
    (right_absolute : right.head? = some '/') (same : segmentTexts left = segmentTexts right) :
    left = right := by
  obtain ⟨left, rfl⟩ := exists_cons_of_head? left_absolute
  obtain ⟨right, rfl⟩ := exists_cons_of_head? right_absolute
  rw [segmentTexts_cons, segmentTexts_cons] at same
  have joined : ['/'].intercalate (left.splitOn '/') = left := intercalate_splitOn '/'
  rw [← joined, same, intercalate_splitOn]

/-- A text without slashes between two slashes is a segment. -/
theorem segmentTexts_around {front value after : List Char} (plain : '/' ∉ value)
    (ends : after = [] ∨ after.head? = some '/') :
    segmentTexts (front ++ '/' :: (value ++ after)) =
      segmentTexts front ++ value :: segmentTexts after := by
  have front_pos : 1 ≤ (front.splitOn '/').length := length_pos_iff.mpr (splitOn_ne_nil _ _)
  have back : (value ++ after).splitOn '/' = value :: segmentTexts after := by
    rcases ends with rfl | absolute
    · rw [append_nil, splitOn_eq_singleton plain]
      rfl
    · obtain ⟨rest, rfl⟩ := exists_cons_of_head? absolute
      rw [splitOn_append_cons_self_of_not_mem plain, segmentTexts_cons]
  rw [segmentTexts, splitOn_append_cons_self, drop_append_of_le_length front_pos, back]
  rfl

def PathSegment.Accepts : PathSegment → List Char → Prop
  | .literal expected, text => text = expected
  | .clientId, text => text ≠ [] ∧ '?' ∉ text

def PathSegment.Plain : PathSegment → Prop
  | .literal text => '/' ∉ text ∧ '?' ∉ text
  | .clientId => True

theorem segmentsCompatible_iff {left right : PathSegment} (left_plain : left.Plain)
    (right_plain : right.Plain) :
    segmentsCompatible left right = true ↔
      ∃ text, '/' ∉ text ∧ left.Accepts text ∧ right.Accepts text := by
  cases left with
  | literal left =>
    cases right with
    | literal right =>
      simp only [segmentsCompatible, decide_eq_true_eq, PathSegment.Accepts]
      constructor
      · rintro rfl
        exact ⟨left, left_plain.1, rfl, rfl⟩
      · rintro ⟨text, _, rfl, rfl⟩
        rfl
    | clientId =>
      simp only [segmentsCompatible, decide_eq_true_eq, PathSegment.Accepts]
      constructor
      · intro nonempty
        exact ⟨left, left_plain.1, rfl, nonempty, left_plain.2⟩
      · rintro ⟨text, _, rfl, nonempty, _⟩
        exact nonempty
  | clientId =>
    cases right with
    | literal right =>
      simp only [segmentsCompatible, decide_eq_true_eq, PathSegment.Accepts]
      constructor
      · intro nonempty
        exact ⟨right, right_plain.1, ⟨nonempty, right_plain.2⟩, rfl⟩
      · rintro ⟨text, _, ⟨nonempty, _⟩, rfl⟩
        exact nonempty
    | clientId =>
      simp only [segmentsCompatible, true_iff, PathSegment.Accepts]
      exact ⟨['a'], by decide⟩

theorem variantsOverlap_cons (left right : PathSegment) (lefts rights : List PathSegment) :
    variantsOverlap (left :: lefts) (right :: rights) =
      (segmentsCompatible left right && variantsOverlap lefts rights) := by
  simp only [variantsOverlap, length_cons, zip_cons_cons, all_cons]
  rw [Bool.eq_iff_iff]
  simp
  tauto

theorem variantsOverlap_iff {left right : List PathSegment}
    (left_plain : ∀ segment ∈ left, segment.Plain)
    (right_plain : ∀ segment ∈ right, segment.Plain) :
    variantsOverlap left right = true ↔
      ∃ texts, (∀ text ∈ texts, '/' ∉ text) ∧ Forall₂ PathSegment.Accepts left texts ∧
        Forall₂ PathSegment.Accepts right texts := by
  induction left generalizing right with
  | nil =>
    cases right with
    | nil | cons segment rest => simp [variantsOverlap]
  | cons segment rest ih =>
    cases right with
    | nil => simp [variantsOverlap]
    | cons other others =>
      rw [forall_mem_cons] at left_plain right_plain
      rw [variantsOverlap_cons, Bool.and_eq_true,
        segmentsCompatible_iff left_plain.1 right_plain.1, ih left_plain.2 right_plain.2]
      constructor
      · rintro ⟨⟨text, plain, left_accepts, right_accepts⟩, texts, texts_plain, lefts, rights⟩
        exact ⟨text :: texts, forall_mem_cons.mpr ⟨plain, texts_plain⟩,
          .cons left_accepts lefts, .cons right_accepts rights⟩
      · rintro ⟨texts, texts_plain, lefts, rights⟩
        cases lefts with
        | cons left_accepts lefts =>
          cases rights with
          | cons right_accepts rights =>
            rw [forall_mem_cons] at texts_plain
            exact ⟨⟨_, texts_plain.1, left_accepts, right_accepts⟩, _, texts_plain.2, lefts, rights⟩

theorem forall₂_literal_iff {others : List (List Char)} :
    Forall₂ PathSegment.Accepts (texts.map .literal) others ↔ others = texts := by
  induction texts generalizing others with
  | nil => simp
  | cons text rest ih =>
    cases others with
    | nil => simp
    | cons other others => simp [PathSegment.Accepts, ih]

/-- One placeholder among literal segments accepts any identifier in its place. -/
theorem forall₂_around_iff {lead trail others : List (List Char)} :
    Forall₂ PathSegment.Accepts (lead.map .literal ++ .clientId :: trail.map .literal) others ↔
      ∃ value, others = lead ++ value :: trail ∧ value ≠ [] ∧ '?' ∉ value := by
  induction lead generalizing others with
  | nil =>
    cases others with
    | nil => simp
    | cons other others =>
      simp only [map_nil, nil_append, forall₂_cons, forall₂_literal_iff,
        PathSegment.Accepts, cons.injEq]
      constructor
      · rintro ⟨accepted, rfl⟩
        exact ⟨other, ⟨rfl, rfl⟩, accepted⟩
      · rintro ⟨value, ⟨rfl, rfl⟩, accepted⟩
        exact ⟨accepted, rfl⟩
  | cons text rest ih =>
    cases others with
    | nil => simp
    | cons other others => simp [PathSegment.Accepts, ih, and_assoc]

open PathSegment

theorem map_ofText_of_forall_ne (different : ∀ text ∈ texts, text ≠ clientIdMarker) :
    texts.map ofText = texts.map .literal :=
  map_congr_left fun text member => if_neg (different text member)

theorem map_ofText_segmentTexts (absent : ¬clientIdMarker <:+: path) :
    (segmentTexts path).map ofText = (segmentTexts path).map .literal := by
  refine map_ofText_of_forall_ne fun text member same => absent ?_
  rw [← same]
  exact infix_of_mem_segmentTexts member

theorem plain_ofText (no_query : '?' ∉ path) (member : text ∈ segmentTexts path) :
    (ofText text).Plain := by
  rw [ofText]
  split
  · trivial
  · refine ⟨slash_notMem_of_mem_segmentTexts member, fun inside => no_query ?_⟩
    exact (infix_of_mem_segmentTexts member).subset inside

namespace DohPathPattern

variable {before after : List Char} {pattern : DohPathPattern} {variant : List PathSegment}
  {path : List Char}

theorem between_eq_some_iff {value : List Char} :
    between before after path = some value ↔ path = before ++ (value ++ after) := by
  rw [between]
  constructor
  · intro found
    split at found <;> try cases found
    next around =>
    rw [Bool.and_eq_true, isPrefixOf_iff_prefix, isSuffixOf_iff_suffix] at around
    obtain ⟨⟨back, rfl⟩, ⟨front, path_eq⟩⟩ := around
    split at found <;> cases found
    next fits =>
    rw [length_append] at fits
    obtain ⟨value, rfl⟩ : after <:+ back := by
      apply suffix_of_suffix_length_le ⟨front, path_eq⟩ (suffix_append before back)
      omega
    have size : (before ++ (value ++ after)).length - before.length - after.length =
        value.length := by
      simp only [length_append]
      omega
    rw [size, drop_left, take_left]
  · rintro rfl
    have front : before.isPrefixOf (before ++ (value ++ after)) = true :=
      isPrefixOf_iff_prefix.mpr (prefix_append _ _)
    have back : after.isSuffixOf (before ++ (value ++ after)) = true := by
      rw [isSuffixOf_iff_suffix, ← append_assoc]
      exact suffix_append _ _
    have fits : before.length + after.length ≤ (before ++ (value ++ after)).length := by
      simp only [length_append]
      omega
    have size : (before ++ (value ++ after)).length - before.length - after.length =
        value.length := by
      simp only [length_append]
      omega
    rw [front, back, Bool.and_self, if_pos rfl, if_pos fits, size, drop_left, take_left]

theorem of_barePath_eq_some {bare : List Char} (found : pattern.barePath = some bare) :
    bare.head? = some '/' ∧ bare <+: pattern.template ∧ ¬clientIdMarker <:+: bare := by
  rw [barePath] at found
  split at found <;> try cases found
  next before after placeholder_eq =>
  have template_eq := pattern.split_eq before after placeholder_eq
  have absent := (pattern.surrounds before after placeholder_eq).once_before
  have absolute := pattern.absolute
  rw [template_eq] at absolute ⊢
  split_ifs at found with ended root slash
  · cases found
    rw [root] at absent ⊢
    exact ⟨rfl, prefix_append _ _, absent⟩
  · cases found
    obtain ⟨front, rfl⟩ := getLast?_eq_some_iff.mp slash
    rw [dropLast_concat]
    have nonempty : front ≠ [] := fun empty => root (by rw [empty]; rfl)
    have head_eq : front.head? = some '/' := by
      rwa [append_assoc, head?_append_of_ne_nil _ nonempty] at absolute
    refine ⟨head_eq, ?_, fun inside => absent ?_⟩
    · rw [append_assoc]
      exact prefix_append _ _
    · exact inside.trans (prefix_append front _).isInfix

theorem mem_pathVariants_iff : variant ∈ pattern.pathVariants ↔
      variant = (segmentTexts pattern.template).map .ofText ∨
        ∃ bare, pattern.barePath = some bare ∧ (segmentTexts bare).map .ofText = variant := by
  rw [pathVariants, mem_cons, Option.mem_toList, Option.map_eq_some_iff]

theorem plain_of_mem_pathVariants (member : variant ∈ pattern.pathVariants) :
    ∀ segment ∈ variant, segment.Plain := by
  intro segment segment_mem
  rcases mem_pathVariants_iff.mp member with rfl | ⟨bare, found, rfl⟩
  · obtain ⟨text, text_mem, rfl⟩ := mem_map.mp segment_mem
    exact plain_ofText pattern.no_query text_mem
  · obtain ⟨text, text_mem, rfl⟩ := mem_map.mp segment_mem
    have part := (of_barePath_eq_some found).2.1
    exact plain_ofText (fun inside => pattern.no_query (part.subset inside)) text_mem

theorem bare_accepts_iff {bare : List Char} (found : pattern.barePath = some bare)
    (absolute : path.head? = some '/') :
    Forall₂ PathSegment.Accepts ((segmentTexts bare).map .ofText) (segmentTexts path) ↔
      path = bare := by
  obtain ⟨bare_absolute, _, absent⟩ := of_barePath_eq_some found
  rw [map_ofText_segmentTexts absent, forall₂_literal_iff]
  constructor
  · exact eq_of_segmentTexts_eq absolute bare_absolute
  · rintro rfl
    rfl

theorem ne_nil_of_mem_pathVariants (member : variant ∈ pattern.pathVariants) : variant ≠ [] := by
  have segments_ne {path : List Char} (absolute : path.head? = some '/') :
      (segmentTexts path).map ofText ≠ [] := by
    obtain ⟨rest, rfl⟩ := exists_cons_of_head? absolute
    rw [segmentTexts_cons, ne_eq, map_eq_nil_iff]
    exact splitOn_ne_nil _ _
  rcases mem_pathVariants_iff.mp member with rfl | ⟨bare, found, rfl⟩
  · exact segments_ne pattern.absolute
  · exact segments_ne (of_barePath_eq_some found).1

variable (placeholder_eq : pattern.placeholder = some (before, after))

include placeholder_eq

theorem template_accepts_iff (absolute : path.head? = some '/') :
    Forall₂ PathSegment.Accepts ((segmentTexts pattern.template).map .ofText)
        (segmentTexts path) ↔
      ∃ value, path = before ++ (value ++ after) ∧ value ≠ [] ∧ '/' ∉ value ∧ '?' ∉ value := by
  have surrounds := pattern.surrounds before after placeholder_eq
  have template_eq := pattern.split_eq before after placeholder_eq
  have template_absolute := pattern.absolute
  obtain ⟨front, rfl⟩ := getLast?_eq_some_iff.mp surrounds.slash_before
  have around (value : List Char) :
      front ++ ['/'] ++ (value ++ after) = front ++ '/' :: (value ++ after) := by
    simp
  have front_absent : ¬clientIdMarker <:+: front := fun inside =>
    surrounds.once_before (inside.trans (prefix_append front _).isInfix)
  have marker_plain : '/' ∉ clientIdMarker := by decide
  have segments_eq : (segmentTexts pattern.template).map ofText =
      (segmentTexts front).map .literal ++ .clientId :: (segmentTexts after).map .literal := by
    rw [template_eq, around, segmentTexts_around marker_plain surrounds.slash_after,
      map_append, map_cons, map_ofText_segmentTexts front_absent,
      map_ofText_segmentTexts surrounds.once_after, ofText, if_pos rfl]
  rw [segments_eq, forall₂_around_iff]
  constructor
  · rintro ⟨value, texts_eq, nonempty, no_query⟩
    have value_mem : value ∈ segmentTexts path := by
      rw [texts_eq]
      exact mem_append_right _ mem_cons_self
    have plain := slash_notMem_of_mem_segmentTexts value_mem
    refine ⟨value, ?_, nonempty, plain, no_query⟩
    rw [around]
    apply eq_of_segmentTexts_eq absolute
    · rw [template_eq, around] at template_absolute
      cases front with
      | nil => rfl
      | cons char rest => exact template_absolute
    · rw [texts_eq, segmentTexts_around plain surrounds.slash_after]
  · rintro ⟨value, rfl, nonempty, plain, no_query⟩
    exact ⟨value, by rw [around, segmentTexts_around plain surrounds.slash_after], nonempty,
      no_query⟩

theorem head?_of_placeholder (rest : List Char) : (before ++ rest).head? = some '/' := by
  have absolute := pattern.absolute
  rw [pattern.split_eq before after placeholder_eq] at absolute
  have nonempty : before ≠ [] := by
    rintro rfl
    cases (pattern.surrounds [] after placeholder_eq).slash_before
  rwa [head?_append_of_ne_nil _ nonempty] at absolute ⊢

theorem matches_isSome_iff_of_placeholder (path : List Char) :
    (pattern.matches path).isSome = true ↔
      pattern.barePath = some path ∨
        ∃ value, path = before ++ (value ++ after) ∧ value ≠ [] ∧ '/' ∉ value ∧ '?' ∉ value := by
  have bare_end {bare : List Char} (found : pattern.barePath = some bare) : after = [] := by
    rw [barePath, placeholder_eq] at found
    by_contra longer
    simp [longer] at found
  rw [DohPathPattern.matches, placeholder_eq]
  by_cases bare : after = [] ∧ pattern.barePath = some path
  · simp [bare]
  · have not_bare : pattern.barePath ≠ some path := fun found => bare ⟨bare_end found, found⟩
    dsimp only
    rw [if_neg bare]
    simp only [not_bare, false_or, ← between_eq_some_iff]
    cases between before after path with
    | none => simp
    | some value =>
      simp only [Option.some.injEq, exists_eq_left']
      by_cases refused : value = [] ∨ '/' ∈ value ∨ '?' ∈ value
      · rw [if_pos refused]
        tauto
      · rw [if_neg refused]
        tauto

omit placeholder_eq

theorem matches_isSome_iff (pattern : DohPathPattern) (path : List Char) :
    (pattern.matches path).isSome = true ↔
      path.head? = some '/' ∧ ∃ variant ∈ pattern.pathVariants,
        Forall₂ PathSegment.Accepts variant (segmentTexts path) := by
  simp only [mem_pathVariants_iff]
  cases placeholder_eq : pattern.placeholder with
  | none =>
    have no_bare : pattern.barePath = none := by rw [barePath, placeholder_eq]
    rw [DohPathPattern.matches, placeholder_eq]
    constructor
    · intro matched
      have path_eq : path = pattern.template := by
        by_contra different
        simp [different] at matched
      subst path_eq
      refine ⟨pattern.absolute, _, .inl rfl, ?_⟩
      rw [map_ofText_segmentTexts (pattern.literal placeholder_eq), forall₂_literal_iff]
    · rintro ⟨absolute, variant, rfl | ⟨bare, found, _⟩, accepted⟩
      · rw [map_ofText_segmentTexts (pattern.literal placeholder_eq), forall₂_literal_iff]
          at accepted
        rw [eq_of_segmentTexts_eq absolute pattern.absolute accepted]
        simp
      · rw [no_bare] at found
        cases found
  | some around =>
    obtain ⟨before, after⟩ := around
    rw [matches_isSome_iff_of_placeholder placeholder_eq path]
    constructor
    · rintro (found | ⟨value, path_eq, plain⟩)
      · have absolute := (of_barePath_eq_some found).1
        exact ⟨absolute, _, .inr ⟨path, found, rfl⟩, (bare_accepts_iff found absolute).mpr rfl⟩
      · have absolute : path.head? = some '/' := by
          rw [path_eq]
          exact head?_of_placeholder placeholder_eq _
        exact ⟨absolute, _, .inl rfl,
          (template_accepts_iff placeholder_eq absolute).mpr ⟨value, path_eq, plain⟩⟩
    · rintro ⟨absolute, variant, rfl | ⟨bare, found, rfl⟩, accepted⟩
      · exact .inr ((template_accepts_iff placeholder_eq absolute).mp accepted)
      · rw [(bare_accepts_iff found absolute).mp accepted]
        exact .inl found

/-- `overlaps` finds out whether some path is matched by both templates. -/
theorem overlaps_iff (pattern other : DohPathPattern) : pattern.overlaps other = true ↔
      ∃ path, (pattern.matches path).isSome = true ∧ (other.matches path).isSome = true := by
  simp only [overlaps, any_eq_true, matches_isSome_iff]
  constructor
  · rintro ⟨left, left_mem, right, right_mem, overlap⟩
    obtain ⟨texts, plain, lefts, rights⟩ := (variantsOverlap_iff
      (plain_of_mem_pathVariants left_mem) (plain_of_mem_pathVariants right_mem)).mp overlap
    have nonempty : texts ≠ [] := by
      rintro rfl
      rw [forall₂_nil_right_iff] at lefts
      exact ne_nil_of_mem_pathVariants left_mem lefts
    have texts_eq : segmentTexts ('/' :: ['/'].intercalate texts) = texts := by
      rw [segmentTexts_cons, splitOn_intercalate '/' plain nonempty]
    refine ⟨'/' :: ['/'].intercalate texts, ⟨rfl, left, left_mem, ?_⟩, rfl, right, right_mem, ?_⟩
    · rwa [texts_eq]
    · rwa [texts_eq]
  · rintro ⟨path, ⟨_, left, left_mem, lefts⟩, _, right, right_mem, rights⟩
    refine ⟨left, left_mem, right, right_mem, ?_⟩
    exact (variantsOverlap_iff (plain_of_mem_pathVariants left_mem)
      (plain_of_mem_pathVariants right_mem)).mpr
        ⟨segmentTexts path, fun _ => slash_notMem_of_mem_segmentTexts, lefts, rights⟩

end DohPathPattern

end FluxDns.Config
