import Mathlib
import TensorGraph.Proofs.Outcome
import TensorGraph.Substitution.Options

/-!
# Written selections

A text selects kinds by its parts between commas. A part may be blank, or name a kind, and a name
may be written in many ways: its letters in either case, with underscores anywhere, between any
blanks. `Text.Spells` and `Kind.Written` say which ways there are, and `Options.Listed` which kinds
a list of parts names.

Reading goes the other way. It cuts the blanks off the two ends of a part first, then drops the
underscores and the case, and looks for the kind whose name is left. So a blank between underscores
is as foreign to a name as any other character, and a part of underscores is not blank. Since no two
names differ in their case only, the kind that is found is the one that was meant. The main
statement is `Options.parse_round_trips`: reading finds the kinds that are written, and accepts
nothing else.
-/

namespace TensorGraph

namespace Text

/-! ## Blanks at the ends -/

/-- There is nothing but blanks in the text. -/
def Blank (text : List Char) : Prop := ∀ c ∈ text, isBlank c = true

variable {before text after name : List Char}

theorem Blank.comma_not_mem (blank : Blank text) : ',' ∉ text :=
  fun inside => absurd (blank _ inside) (by decide)

/-- Only blanks are cut off. -/
theorem exists_trim (text : List Char) :
    ∃ before after, Blank before ∧ Blank after ∧ text = before ++ trim text ++ after := by
  refine ⟨text.takeWhile isBlank, ((text.dropWhile isBlank).reverse.takeWhile isBlank).reverse,
    fun c inside => List.mem_takeWhile_imp inside,
    fun c inside => List.mem_takeWhile_imp (List.mem_reverse.mp inside), ?_⟩
  rw [trim, List.append_assoc, ← List.reverse_append, List.takeWhile_append_dropWhile,
    List.reverse_reverse, List.takeWhile_append_dropWhile]

/-- Nothing is left of blanks, and only of them. -/
theorem trim_eq_nil_iff : trim text = [] ↔ Blank text := by
  constructor
  · intro empty
    obtain ⟨before, after, front, back, whole⟩ := exists_trim text
    rw [empty, List.append_nil] at whole
    rw [whole]
    exact List.forall_mem_append.mpr ⟨front, back⟩
  · intro blank
    rw [trim, List.dropWhile_eq_nil_iff.mpr blank]
    rfl

theorem dropWhile_isBlank (visible : ∀ c ∈ text, isBlank c = false) :
    text.dropWhile isBlank = text := by
  cases text with
  | nil => rfl
  | cons c text => rw [List.dropWhile_cons_of_neg (by simp [visible])]

/-- All blanks at the ends are cut off. -/
theorem trim_between (front : Blank before) (back : Blank after)
    (visible : ∀ c ∈ text, isBlank c = false) : trim (before ++ text ++ after) = text := by
  have behind : (after.reverse ++ text.reverse).dropWhile isBlank = text.reverse := by
    rw [List.dropWhile_append_of_pos fun c inside => back c (List.mem_reverse.mp inside),
      dropWhile_isBlank fun c inside => visible c (List.mem_reverse.mp inside)]
  rw [trim, List.append_assoc, List.dropWhile_append_of_pos front]
  cases text with
  | nil =>
      rw [List.nil_append, List.dropWhile_eq_nil_iff.mpr back]
      rfl
  | cons c text =>
      rw [List.cons_append, List.dropWhile_cons_of_neg (by simp [visible]), ← List.cons_append,
        List.reverse_append, behind, List.reverse_reverse]

/-! ## Letters in either case -/

/-- Two characters are the same apart from their case if one is the small letter or the capital of
the other. -/
theorem toLower_eq_toLower_iff {c d : Char} :
    c.toLower = d.toLower ↔ c = d.toLower ∨ c = d.toUpper := by
  constructor
  · intro same
    by_cases capital : c.isUpper
    · right
      have stays := Char.toUpper_eq_of_not_isLower (Char.not_isLower_of_isUpper capital)
      calc c = c.toUpper := stays.symm
        _ = d.toUpper := by
          rw [← Char.toUpper_toLower_eq_toUpper, same, Char.toUpper_toLower_eq_toUpper]
    · left
      rw [← same, Char.toLower_eq_of_not_isUpper capital]
  · rintro (rfl | rfl)
    · exact Char.toLower_toLower_eq_toLower d
    · exact Char.toLower_toUpper_eq_toLower d

/-- The text has the letters of the name, each as a small letter or as a capital, and underscores
in any places. -/
inductive Spells : List Char → List Char → Prop
  | nil : Spells [] []
  | underscore {name text : List Char} : Spells name text → Spells name ('_' :: text)
  | letter {c written : Char} {name text : List Char} : written = c.toLower ∨ written = c.toUpper →
      Spells name text → Spells (c :: name) (written :: text)

/-- A name spells itself. -/
theorem spells_self (name : List Char) : Spells name name := by
  induction name with
  | nil => exact .nil
  | cons c name ih => exact .letter (toLower_eq_toLower_iff.mp rfl) ih

/-- Without its underscores, and apart from the case, the text is the name. -/
theorem spells_iff (plain : '_' ∉ name) :
    Spells name text ↔ (text.filter (· ≠ '_')).map Char.toLower = name.map Char.toLower := by
  constructor
  · intro spelled
    induction spelled with
    | nil => rfl
    | underscore _ ih =>
        rw [List.filter_cons_of_neg (by decide)]
        exact ih plain
    | @letter c written name text either _ ih =>
        rw [List.mem_cons, not_or] at plain
        have same := toLower_eq_toLower_iff.mpr either
        -- an underscore has no other case, so it cannot stand for a letter
        have kept : written ≠ '_' := by
          rintro rfl
          rcases toLower_eq_toLower_iff.mp same.symm with rfl | rfl <;> exact plain.1 rfl
        rw [List.filter_cons_of_pos (by simpa using kept), List.map_cons, List.map_cons, same,
          ih plain.2]
  · intro same
    induction text generalizing name with
    | nil =>
        rw [List.map_eq_nil_iff.mp same.symm]
        exact .nil
    | cons written text ih =>
        by_cases underscore : written = '_'
        · subst underscore
          rw [List.filter_cons_of_neg (by decide)] at same
          exact .underscore (ih plain same)
        · rw [List.filter_cons_of_pos (by simpa using underscore), List.map_cons] at same
          obtain ⟨c, name, rfl, first, others⟩ := List.map_eq_cons_iff.mp same.symm
          rw [List.mem_cons, not_or] at plain
          exact .letter (toLower_eq_toLower_iff.mp first.symm) (ih plain.2 others.symm)

/-- Blanks have no case. -/
theorem toLower_of_isBlank {c : Char} (blank : isBlank c = true) : c.toLower = c := by
  apply Char.toLower_eq_of_not_isUpper
  intro capital
  have range : 65 ≤ c.toNat ∧ c.toNat ≤ 90 := by
    simpa [Char.isUpper, UInt32.le_iff_toNat_le] using capital
  simp only [isBlank, Bool.or_eq_true, Bool.and_eq_true, decide_eq_true_eq, beq_iff_eq] at blank
  omega

/-- If a name has no blanks and commas, neither has what is written for it. -/
theorem Spells.visible (spelled : Spells name text)
    (plain : ∀ c ∈ name.map Char.toLower, isBlank c = false ∧ c ≠ ',') :
    ∀ c ∈ text, isBlank c = false ∧ c ≠ ',' := by
  induction spelled with
  | nil => exact fun _ inside => absurd inside List.not_mem_nil
  | underscore _ ih => exact List.forall_mem_cons.mpr ⟨by decide, ih plain⟩
  | @letter c written name text either _ ih =>
      rw [List.map_cons, List.forall_mem_cons] at plain
      obtain ⟨⟨visible, separate⟩, others⟩ := plain
      rw [← toLower_eq_toLower_iff.mpr either] at visible separate
      refine List.forall_mem_cons.mpr ⟨⟨?_, ?_⟩, ih others⟩
      · by_contra blank
        rw [Bool.not_eq_false] at blank
        rw [toLower_of_isBlank blank, blank] at visible
        cases visible
      · rintro rfl
        exact separate rfl

end Text

namespace Substitution

namespace Kind

/-! ## Names of kinds -/

/-- The part of a text names the kind. -/
def Written (kind : Kind) (part : List Char) : Prop :=
  ∃ before name after, Text.Blank before ∧ Text.Spells kind.name.toList name ∧ Text.Blank after ∧
    part = before ++ name ++ after

/-- Names have neither blanks nor commas. -/
theorem name_plain (kind : Kind) :
    ∀ c ∈ lowerCase kind.name.toList, Text.isBlank c = false ∧ c ≠ ',' := by
  have checked :
      (lowerCase kind.name.toList).all (fun c => !Text.isBlank c && c != ',') = true := by
    cases kind <;> rfl
  simpa using checked

theorem underscore_not_mem_name (kind : Kind) : '_' ∉ kind.name.toList := by
  cases kind <;> decide +kernel

/-- Names differ in more than the case. -/
theorem nodup_names : (all.map fun kind => lowerCase kind.name.toList).Nodup := by
  decide +kernel

variable {kind : Kind} {part : List Char}

theorem normalized_of_named? (found : named? part = some kind) :
    normalized part = lowerCase kind.name.toList := by
  rw [named?] at found
  have compared := List.find?_some found
  exact (beq_iff_eq.mp compared).symm

/-- The kind that is found is the only one with the name. -/
theorem named?_eq_some_iff :
    named? part = some kind ↔ normalized part = lowerCase kind.name.toList := by
  refine ⟨normalized_of_named?, fun same => ?_⟩
  cases found : named? part with
  | none =>
      rw [named?, List.find?_eq_none] at found
      exact absurd (beq_iff_eq.mpr same.symm) (found kind (mem_all kind))
  | some other =>
      -- the kind that is found first may only be another one if both have the same name
      have shared := (normalized_of_named? found).symm.trans same
      rw [List.inj_on_of_nodup_map nodup_names (mem_all other) (mem_all kind) shared]

/-- A part names a kind if what is compared of it is what is compared of the kind's name. -/
theorem written_iff : kind.Written part ↔ normalized part = lowerCase kind.name.toList := by
  constructor
  · rintro ⟨before, name, after, front, spelled, back, rfl⟩
    have visible := spelled.visible (name_plain kind)
    rw [normalized, Text.trim_between front back fun c inside => (visible c inside).1]
    exact (Text.spells_iff (underscore_not_mem_name kind)).mp spelled
  · intro same
    obtain ⟨before, after, front, back, whole⟩ := Text.exists_trim part
    exact ⟨before, Text.trim part, after, front,
      (Text.spells_iff (underscore_not_mem_name kind)).mpr same, back, whole⟩

theorem parse_eq_ok_iff : Kind.parse (String.ofList part) = .ok kind ↔ kind.Written part := by
  rw [Kind.parse, require_eq_ok, String.toList_ofList, named?_eq_some_iff, written_iff]

/-- A part that names no kind is refused, and shown as it is written. -/
theorem parse_of_not_written (unknown : ∀ kind : Kind, ¬ kind.Written part) :
    Kind.parse (String.ofList part) = refuse (.unknownKind (String.ofList part)) := by
  have none : named? part = none :=
    Option.eq_none_iff_forall_ne_some.mpr fun kind found =>
      unknown kind (written_iff.mpr (named?_eq_some_iff.mp found))
  rw [Kind.parse, String.toList_ofList, none]
  rfl

/-- What names a kind is not blank. -/
theorem Written.not_blank (h : kind.Written part) : ¬ Text.Blank part := by
  intro blank
  have nothing : normalized part = [] := by
    rw [normalized, Text.trim_eq_nil_iff.mpr blank]
    rfl
  have name := nothing.symm.trans (written_iff.mp h)
  cases kind <;> exact absurd name (by decide)

theorem Written.comma_not_mem (h : kind.Written part) : ',' ∉ part := by
  obtain ⟨before, name, after, front, spelled, back, rfl⟩ := h
  have visible := spelled.visible (name_plain kind)
  simp only [List.mem_append, not_or]
  exact ⟨⟨front.comma_not_mem, fun inside => (visible _ inside).2 rfl⟩, back.comma_not_mem⟩

end Kind

namespace Options

/-! ## Parts of a text -/

/-- The parts name the kinds in their order, one in each part that is not blank. -/
inductive Listed : List Kind → List (List Char) → Prop
  | nil : Listed [] []
  | blank {part : List Char} {kinds : List Kind} {parts : List (List Char)} : Text.Blank part →
      Listed kinds parts → Listed kinds (part :: parts)
  | kind {kind : Kind} {part : List Char} {kinds : List Kind} {parts : List (List Char)} :
      kind.Written part → Listed kinds parts → Listed (kind :: kinds) (part :: parts)

/-- The part is not blank and names no kind. -/
def Stray (part : List Char) : Prop := ¬ Text.Blank part ∧ ∀ kind : Kind, ¬ kind.Written part

/-- The text selects the kinds that its parts between commas name. -/
def Selects (text : String) (kinds : List Kind) : Prop :=
  ∃ parts, text.toList = [','].intercalate parts ∧ Listed kinds parts

/-- The part of the text is stray, and it is the first one that is. -/
def Strays (text : String) (part : List Char) : Prop :=
  ∃ kinds before after, text.toList = [','].intercalate (before ++ part :: after) ∧
    (∀ other ∈ part :: after, ',' ∉ other) ∧ Listed kinds before ∧ Stray part

variable {text : String} {part : List Char} {kinds : List Kind}
  {parts before after : List (List Char)}

theorem Listed.comma_not_mem (h : Listed kinds parts) : ∀ part ∈ parts, ',' ∉ part := by
  induction h with
  | nil => exact fun _ inside => absurd inside List.not_mem_nil
  | blank blank _ ih => exact List.forall_mem_cons.mpr ⟨blank.comma_not_mem, ih⟩
  | kind written _ ih => exact List.forall_mem_cons.mpr ⟨written.comma_not_mem, ih⟩

/-- Parts name kinds up to the first one that is stray, if there is one. -/
theorem listed_or_stray (parts : List (List Char)) :
    (∃ kinds, Listed kinds parts) ∨
      ∃ kinds before part after, parts = before ++ part :: after ∧ Listed kinds before ∧
        Stray part := by
  induction parts with
  | nil => exact .inl ⟨[], .nil⟩
  | cons part parts ih =>
      by_cases blank : Text.Blank part
      · rcases ih with ⟨kinds, listed⟩ | ⟨kinds, before, stray, after, rfl, listed, found⟩
        · exact .inl ⟨kinds, .blank blank listed⟩
        · exact .inr ⟨kinds, part :: before, stray, after, rfl, .blank blank listed, found⟩
      · by_cases known : ∃ kind : Kind, kind.Written part
        · obtain ⟨kind, written⟩ := known
          rcases ih with ⟨kinds, listed⟩ | ⟨kinds, before, stray, after, rfl, listed, found⟩
          · exact .inl ⟨kind :: kinds, .kind written listed⟩
          · exact .inr ⟨kind :: kinds, part :: before, stray, after, rfl, .kind written listed,
              found⟩
        · exact .inr ⟨[], [], part, parts, rfl, .nil, blank, not_exists.mp known⟩

/-- The parts are those of the library's split. -/
theorem splitAtCommas_eq (text : List Char) : splitAtCommas text = text.splitOn ',' := by
  induction text with
  | nil => rfl
  | cons c text ih =>
      rw [splitAtCommas, ih, List.splitOn_cons_eq_if_modifyHead]
      by_cases comma : c = ','
      · rw [if_pos comma, if_pos (beq_iff_eq.mpr comma)]
      · rw [if_neg comma, if_neg (by simpa using comma)]
        cases parts : text.splitOn ',' with
        | nil => exact absurd parts (List.splitOn_ne_nil _ _)
        | cons part parts => rfl

theorem comma_not_mem_of_mem_splitAtCommas {text part : List Char}
    (inside : part ∈ splitAtCommas text) : ',' ∉ part := by
  induction text generalizing part with
  | nil =>
      rw [List.mem_singleton.mp inside]
      exact List.not_mem_nil
  | cons c text ih =>
      unfold splitAtCommas at inside
      split at inside
      next =>
        rcases List.mem_cons.mp inside with rfl | inside
        · exact List.not_mem_nil
        · exact ih inside
      next other =>
        have first {rest : List Char} (separate : ',' ∉ rest) : ',' ∉ c :: rest :=
          List.not_mem_cons_of_ne_of_not_mem (Ne.symm other) separate
        split at inside
        next =>
          rw [List.mem_singleton.mp inside]
          exact first List.not_mem_nil
        next cut =>
          rw [cut] at ih
          rcases List.mem_cons.mp inside with rfl | inside
          · exact first (ih List.mem_cons_self)
          · exact ih (List.mem_cons_of_mem _ inside)

/-- The parts that a text is joined of are found again. -/
theorem entries_eq (whole : text.toList = [','].intercalate parts)
    (separate : ∀ part ∈ parts, ',' ∉ part) :
    entries text.toList = parts.filter fun part => !(Text.trim part).isEmpty := by
  rw [entries, splitAtCommas_eq, whole]
  cases parts with
  | nil => rfl
  | cons part parts => rw [List.splitOn_intercalate ',' separate (List.cons_ne_nil part parts)]

/-! ## Reading -/

def readParts (parts : List (List Char)) : Except Fault (List Kind) :=
  (parts.filter fun part => !(Text.trim part).isEmpty).mapM fun part =>
    Kind.parse (String.ofList part)

/-- A text is read part by part. -/
theorem parse_eq (whole : text.toList = [','].intercalate parts)
    (separate : ∀ part ∈ parts, ',' ∉ part) : parse text = only <$> readParts parts := by
  rw [parse, entries_eq whole separate, map_eq_pure_bind]
  rfl

theorem readParts_of_blank (blank : Text.Blank part) :
    readParts (part :: parts) = readParts parts := by
  rw [readParts, List.filter_cons_of_neg (by simpa using Text.trim_eq_nil_iff.mpr blank)]
  rfl

theorem readParts_of_not_blank (visible : ¬ Text.Blank part) :
    readParts (part :: parts) = do
      let kind ← Kind.parse (String.ofList part)
      let kinds ← readParts parts
      return kind :: kinds := by
  rw [readParts, List.filter_cons_of_pos (by simpa [Text.trim_eq_nil_iff] using visible),
    List.mapM_cons]
  rfl

/-- Parts that name kinds are read, whatever comes after them. -/
theorem Listed.readParts_append (h : Listed kinds before) (after : List (List Char)) :
    readParts (before ++ after) = (kinds ++ ·) <$> readParts after := by
  induction h with
  | nil =>
      rw [List.nil_append]
      cases readParts after <;> rfl
  | blank blank _ ih => rw [List.cons_append, readParts_of_blank blank, ih]
  | kind written _ ih =>
      rw [List.cons_append, readParts_of_not_blank written.not_blank,
        Kind.parse_eq_ok_iff.mpr written, ih]
      cases readParts after <;> rfl

theorem Listed.readParts_eq (h : Listed kinds parts) : readParts parts = .ok kinds := by
  calc readParts parts
      = readParts (parts ++ []) := by rw [List.append_nil]
    _ = .ok (kinds ++ []) := h.readParts_append []
    _ = .ok kinds := by rw [List.append_nil]

/-- Reading stops at a stray part. -/
theorem Stray.readParts_cons (stray : Stray part) (after : List (List Char)) :
    readParts (part :: after) = .error (.of (.unknownKind (String.ofList part))) := by
  rw [readParts_of_not_blank stray.1, Kind.parse_of_not_written stray.2]
  rfl

/-- A text that selects kinds is read as these kinds. -/
theorem Selects.parse_eq (h : Selects text kinds) : parse text = .ok (only kinds) := by
  obtain ⟨parts, whole, listed⟩ := h
  rw [Options.parse_eq whole listed.comma_not_mem, listed.readParts_eq]
  rfl

theorem Strays.parse_eq (h : Strays text part) :
    parse text = .error (.of (.unknownKind (String.ofList part))) := by
  obtain ⟨kinds, before, after, whole, separate, listed, stray⟩ := h
  rw [Options.parse_eq whole (List.forall_mem_append.mpr ⟨listed.comma_not_mem, separate⟩),
    listed.readParts_append, stray.readParts_cons]
  rfl

/-- Every text either selects kinds or has a stray part. -/
theorem selects_or_strays (text : String) :
    (∃ kinds, Selects text kinds) ∨ ∃ part, Strays text part := by
  have whole : text.toList = [','].intercalate (splitAtCommas text.toList) := by
    rw [splitAtCommas_eq, List.intercalate_splitOn]
  have separate : ∀ part ∈ splitAtCommas text.toList, ',' ∉ part :=
    fun _ => comma_not_mem_of_mem_splitAtCommas
  rcases listed_or_stray (splitAtCommas text.toList) with
    ⟨kinds, listed⟩ | ⟨kinds, before, part, after, parts, listed, stray⟩
  · exact .inl ⟨kinds, _, whole, listed⟩
  · rw [parts] at whole separate
    exact .inr ⟨part, kinds, before, after, whole,
      fun other inside => separate other (List.mem_append_right before inside), listed, stray⟩

/-- A text can be written for any kinds, by their names. -/
theorem selects_names (kinds : List Kind) :
    Selects (",".intercalate (kinds.map Kind.name)) kinds := by
  refine ⟨kinds.map fun kind => kind.name.toList, ?_, ?_⟩
  · rw [String.toList_intercalate, List.map_map]
    rfl
  · induction kinds with
    | nil => exact .nil
    | cons kind kinds ih =>
        refine .kind ⟨[], kind.name.toList, [], List.forall_mem_nil _, Text.spells_self _,
          List.forall_mem_nil _, ?_⟩ ih
        rw [List.nil_append, List.append_nil]

/-- Reading a text finds just the kinds that the text selects, without limits; if there are none, it
refuses the first part that is stray. -/
theorem parse_round_trips :
    (∀ kinds, Selects (",".intercalate (kinds.map Kind.name)) kinds) ∧
      ∀ text : String,
        (∀ options, parse text = .ok options ↔
          Selects text options.kinds ∧ options.maxPartitions = none ∧ options.minNodes = 1) ∧
        ∀ fault, parse text = .error fault ↔
          ∃ part, Strays text part ∧ fault = .of (.unknownKind (String.ofList part)) := by
  refine ⟨selects_names, fun text => ⟨fun options => ⟨fun found => ?_, ?_⟩,
    fun fault => ⟨fun failed => ?_, ?_⟩⟩⟩
  · rcases selects_or_strays text with ⟨kinds, selects⟩ | ⟨part, strays⟩
    · cases found.symm.trans selects.parse_eq
      exact ⟨selects, rfl, rfl⟩
    · cases found.symm.trans strays.parse_eq
  · rintro ⟨selects, unlimited, single⟩
    rw [selects.parse_eq, only, ← unlimited, ← single]
  · rcases selects_or_strays text with ⟨kinds, selects⟩ | ⟨part, strays⟩
    · cases failed.symm.trans selects.parse_eq
    · cases failed.symm.trans strays.parse_eq
      exact ⟨part, strays, rfl⟩
  · rintro ⟨part, strays, rfl⟩
    exact strays.parse_eq

example : parse " a_d_dN ,,MUL_,\t" = .ok (only [.addN, .mul]) := by decide +kernel

end Options

end Substitution

end TensorGraph
