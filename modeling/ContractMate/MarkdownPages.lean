import ContractMate.SarvamArchives

/-!
# Pages of Markdown members

What is left of pages that are joined with form feeds and split again, where blank pages
are dropped.
-/

namespace ContractMate

namespace SarvamVision

open PythonText Patterns ParsedPages

/-! ## Pieces between form feeds -/

/-- The pieces between form feeds that are not blank. -/
def shownPieces (text : Text) : List Text :=
  ((text.splitOnP (· == formFeed)).filter fun piece => !isBlank piece).map strip

theorem shownPieces_append (front back : Text) :
    shownPieces (front ++ formFeed :: back) = shownPieces front ++ shownPieces back := by
  have cut : (front ++ formFeed :: back).splitOnP (· == formFeed) =
      front.splitOnP (· == formFeed) ++ back.splitOnP (· == formFeed) :=
    List.splitOnP_append_cons front back (by simp)
  rw [shownPieces, cut, List.filter_append, List.map_append]
  rfl

variable {text : Text}

theorem shownPieces_single (absent : formFeed ∉ text) :
    shownPieces text = if isBlank text then [] else [strip text] := by
  have single : text.splitOnP (· == formFeed) = [text] := by
    apply List.splitOnP_eq_singleton
    intro character member
    rw [beq_eq_false_iff_ne]
    rintro rfl
    exact absent member
  rw [shownPieces, single]
  cases blank : isBlank text <;> simp [blank]

theorem shownPieces_intercalate {texts : List Text} :
    shownPieces ([formFeed].intercalate texts) = texts.flatMap shownPieces := by
  induction texts with
  | nil => rfl
  | cons text rest induction =>
      cases rest with
      | nil => simp
      | cons next rest =>
          rw [List.intercalate_cons_cons, List.append_assoc, List.singleton_append,
            shownPieces_append, induction]
          exact List.flatMap_cons.symm

theorem strip_cons_space {character : Char} (space : isSpace character = true)
    (text : Text) : strip (character :: text) = strip text := by
  have blank : isBlank [character] = true := by simpa [isBlank] using space
  have none_ : isBlank [] = true := rfl
  simpa using strip_surrounded blank none_ text

/-- White space in front of a text adds no piece. -/
theorem shownPieces_cons_space {character : Char} (space : isSpace character = true)
    (text : Text) : shownPieces (character :: text) = shownPieces text := by
  rw [shownPieces, shownPieces, List.splitOnP_cons_eq_if_modifyHead]
  split
  · rfl
  · cases split : text.splitOnP (· == formFeed) with
    | nil => exact absurd split (List.splitOnP_ne_nil _ _)
    | cons piece rest =>
        have blank : isBlank (character :: piece) = isBlank piece := by simp [isBlank, space]
        rw [List.modifyHead_cons, List.filter_cons, List.filter_cons, blank]
        split
        · rw [List.map_cons, List.map_cons, strip_cons_space space]
        · rfl

theorem shownPieces_front {front : Text} (blank : isBlank front = true) (text : Text) :
    shownPieces (front ++ text) = shownPieces text := by
  induction front with
  | nil => rfl
  | cons character rest induction =>
      rw [isBlank, List.all_cons, Bool.and_eq_true] at blank
      rw [List.cons_append, shownPieces_cons_space blank.1, induction blank.2]

theorem shownPieces_blank (blank : isBlank text = true) :
    shownPieces text = [] := by
  have pieces := shownPieces_front blank []
  rw [List.append_nil] at pieces
  exact pieces

/-- White space behind a text adds no piece. -/
theorem shownPieces_back {back : Text} (blank : isBlank back = true) (text : Text) :
    shownPieces (text ++ back) = shownPieces text := by
  by_cases held : formFeed ∈ text
  · obtain ⟨first, rest, split⟩ := List.append_of_mem held
    have shorter : rest.length < text.length := by
      rw [split, List.length_append, List.length_cons]
      omega
    rw [split, List.append_assoc, List.cons_append, shownPieces_append, shownPieces_append,
      shownPieces_back blank rest]
  · by_cases heldBack : formFeed ∈ back
    · obtain ⟨first, rest, split⟩ := List.append_of_mem heldBack
      have shorter : first.length < back.length := by
        rw [split, List.length_append, List.length_cons]
        omega
      rw [split, isBlank_append, Bool.and_eq_true, isBlank, isBlank, List.all_cons,
        Bool.and_eq_true] at blank
      rw [split, ← List.append_assoc, shownPieces_append, shownPieces_back blank.1 text,
        shownPieces_blank blank.2.2, List.append_nil]
    · have absent : formFeed ∉ text ++ back := by simp [held, heldBack]
      have none_ : isBlank [] = true := rfl
      have stripped : strip (text ++ back) = strip text := by
        simpa using strip_surrounded none_ blank text
      rw [shownPieces_single absent, shownPieces_single held, isBlank_append, blank,
        Bool.and_true, stripped]
termination_by text.length + back.length
decreasing_by all_goals omega

/-- Stripping a text changes none of its pieces. -/
theorem shownPieces_strip (text : Text) : shownPieces (strip text) = shownPieces text := by
  obtain ⟨front, back, frontBlank, backBlank, split⟩ := strip_split text
  conv_rhs => rw [← split, shownPieces_front frontBlank, shownPieces_back backBlank]

/-- A text that is not blank has a piece. -/
theorem shownPieces_ne_nil (visible : isBlank text = false) :
    shownPieces text ≠ [] := by
  induction text with
  | nil => cases visible
  | cons character rest induction =>
      cases space : isSpace character with
      | true =>
          rw [shownPieces_cons_space space]
          rw [isBlank, List.all_cons, space, Bool.true_and] at visible
          exact induction visible
      | false =>
          have other : (character == formFeed) = false := by
            rw [beq_eq_false_iff_ne]
            rintro rfl
            exact absurd space (by decide)
          have cut := List.splitOnP_cons_eq_if_modifyHead (p := (· == formFeed)) character rest
          rw [other] at cut
          rw [shownPieces, cut]
          cases split : rest.splitOnP (· == formFeed) with
          | nil => exact absurd split (List.splitOnP_ne_nil _ _)
          | cons piece others => simp [isBlank, space]

/-- The pieces of a page: its text, or several if there is a form feed within the text. -/
theorem shownPieces_of_clean (clean : formFeed ∉ strip text) :
    shownPieces text = if isBlank text then [] else [strip text] := by
  have blank : isBlank (strip text) = isBlank text := by
    rw [Bool.eq_iff_iff, ← strip_eq_nil_iff, ← strip_eq_nil_iff, strip_strip]
  rw [← shownPieces_strip, shownPieces_single clean, blank, strip_strip]

theorem two_le_shownPieces (held : formFeed ∈ strip text) :
    2 ≤ (shownPieces text).length := by
  obtain ⟨front, back, split⟩ := List.append_of_mem held
  have trimmed := trimmed_strip text
  rw [split] at trimmed
  have feed : isSpace formFeed = true := by decide
  have frontVisible : isBlank front = false := by
    cases front with
    | nil =>
        have visible := trimmed.front formFeed rfl
        rw [feed] at visible
        cases visible
    | cons character rest =>
        have visible := trimmed.front character rfl
        simp [isBlank, visible]
  have backVisible : isBlank back = false := by
    cases last : back.getLast? with
    | none =>
        rw [List.getLast?_eq_none_iff.mp last] at trimmed
        have visible := trimmed.back formFeed (by simp)
        rw [feed] at visible
        cases visible
    | some character =>
        have visible := trimmed.back character (by simp [List.getLast?_cons, last])
        rw [isBlank, List.all_eq_false]
        exact ⟨character, List.mem_of_getLast? last, by simp [visible]⟩
  have one := List.length_pos_iff.mpr (shownPieces_ne_nil frontVisible)
  have two := List.length_pos_iff.mpr (shownPieces_ne_nil backVisible)
  rw [← shownPieces_strip, split, shownPieces_append, List.length_append]
  omega

/-! ## Page headings -/

/-- White space weighs nothing. -/
def visibility (character : Char) : Nat :=
  if isSpace character then 0 else 1

theorem weigh_blank (blank : isBlank text = true) : weigh visibility text = 0 := by
  induction text with
  | nil => rfl
  | cons character rest induction =>
      rw [isBlank, List.all_cons, Bool.and_eq_true] at blank
      rw [weigh_cons, induction blank.2, visibility, if_pos blank.1]

theorem weigh_pos (visible : isBlank text = false) :
    0 < weigh visibility text := by
  induction text with
  | nil => cases visible
  | cons character rest induction =>
      rw [weigh_cons]
      cases space : isSpace character with
      | true =>
          rw [isBlank, List.all_cons, space, Bool.true_and] at visible
          have later := induction visible
          omega
      | false =>
          have one : visibility character = 1 := by simp [visibility, space]
          omega

theorem weigh_strip (text : Text) : weigh visibility (strip text) = weigh visibility text := by
  obtain ⟨front, back, frontBlank, backBlank, split⟩ := strip_split text
  have whole := congrArg (weigh visibility) split
  rw [weigh_append, weigh_append, weigh_blank frontBlank, weigh_blank backBlank] at whole
  omega

theorem weighs_page : (word "page").Weighs visibility 1 := by
  have letter : (Pattern.one (ignoringCase 'p')).Weighs visibility 1 := by
    apply Pattern.weighs_one
    intro character accepted
    have either_ : character = 'p' ∨ character = 'P' := by simpa [ignoringCase] using accepted
    rcases either_ with rfl | rfl <;> decide
  exact letter.seq_left _

/-- No page heading starts with a form feed. -/
theorem pageHeading_formFeed (position : Nat) (rest : Text) :
    pageHeading.lengths position (formFeed :: rest) = [] := by
  apply Pattern.lengths_seq_eq_nil
  · simp [Pattern.lengths, formFeed]
  apply Pattern.lengths_seq_eq_nil
  · simp [Pattern.optional, Pattern.all, Pattern.lengths, word, ignoringCase, formFeed]
  apply Pattern.lengths_seq_eq_nil
  · intro length matched
    simp [Pattern.optional, Pattern.all, Pattern.lengths, formFeed] at matched
    omega
  · simp [Pattern.all, Pattern.lengths, word, ignoringCase, formFeed]

/-- A page heading shows at least the word. -/
theorem separates_pageHeading :
    Separates visibility 0 (· == formFeed) pageHeading where
  light _ _ := Nat.zero_le _
  heavy := (((weighs_page.seq_left _).seq_right _).seq_right _).seq_right _
  apart position symbol rest matched := by
    rw [beq_eq_false_iff_ne]
    rintro rfl
    exact matched (pageHeading_formFeed position rest)
  nonempty := by decide

/-! ## Pages under their numbers -/

/-- The pages that are not blank, under their numbers. -/
def shownPages : Nat → List Text → List (Nat × Text)
  | _, [] => []
  | number, text :: rest =>
      if isBlank text then shownPages (number + 1) rest
      else (number, strip text) :: shownPages (number + 1) rest

def joinPages (texts : List Text) : Text :=
  [formFeed].intercalate texts

/-- The pages that are read from Markdown in which pages are joined with form feeds. -/
def markdownPages (texts : List Text) : List Text :=
  splitMarkdownPages (strip (joinPages texts))

/-- The pages of a Markdown member keep their numbers and texts. -/
structure MarkdownSafe (texts : List Text) : Prop where
  blankLast : texts.Pairwise fun first second => isBlank first = true → isBlank second = true
  clean : ∀ text ∈ texts, formFeed ∉ strip text
  headless : ¬ pageHeading.Occurs 0 (strip (joinPages texts))

section ShownPages

variable {texts : List Text} {start : Nat}

theorem le_of_mem_shownPages {entry : Nat × Text} (member : entry ∈ shownPages start texts) :
    start ≤ entry.1 ∧ entry.1 < start + texts.length := by
  induction texts generalizing start with
  | nil => cases member
  | cons text rest induction =>
      rw [shownPages] at member
      rw [List.length_cons]
      split at member
      · have bounds := induction member
        omega
      · rcases List.mem_cons.mp member with rfl | later
        · omega
        · have bounds := induction later
          omega

/-- The numbers grow. -/
theorem pairwise_shownPages :
    (shownPages start texts).Pairwise fun first second => first.1 < second.1 := by
  induction texts generalizing start with
  | nil => exact .nil
  | cons text rest induction =>
      rw [shownPages]
      split
      · exact induction
      · refine .cons ?_ induction
        intro entry member
        exact (le_of_mem_shownPages member).1

/-- The pages up to a number are the first ones. -/
theorem filter_shownPages (count : Nat) :
    (shownPages start texts).filter (fun entry => entry.1 < start + count) =
      shownPages start (texts.take count) := by
  induction texts generalizing start count with
  | nil => simp [shownPages]
  | cons text rest induction =>
      cases count with
      | zero =>
          rw [List.take_zero, shownPages, List.filter_eq_nil_iff]
          intro entry member
          have bounds := le_of_mem_shownPages member
          simpa using bounds.1
      | succ count =>
          have shift : start + (count + 1) = start + 1 + count := by omega
          rw [List.take_succ_cons, shownPages, shownPages, shift]
          split
          · exact induction count
          · rw [List.filter_cons_of_pos (by simp; omega), induction count]

theorem weighAll_shownPages :
    weighAll visibility ((shownPages start texts).map Prod.snd) =
      weighAll visibility texts := by
  induction texts generalizing start with
  | nil => rfl
  | cons text rest induction =>
      rw [shownPages, weighAll_cons]
      split
      · rename_i blank
        rw [induction, weigh_blank blank, Nat.zero_add]
      · rw [List.map_cons, weighAll_cons, induction, weigh_strip]

theorem length_shownPages :
    (shownPages start texts).length = texts.countP fun text => !isBlank text := by
  induction texts generalizing start with
  | nil => rfl
  | cons text rest induction =>
      rw [shownPages, List.countP_cons]
      cases blank : isBlank text <;> simp [induction]

end ShownPages

/-! ## What is left of the pages -/

section Markdown

variable {texts : List Text} {start : Nat}

theorem splitMarkdownPages_shown {markdown piece : Text}
    (member : piece ∈ splitMarkdownPages markdown) :
    isBlank piece = false ∧ strip piece = piece := by
  obtain ⟨raw, inPieces, rfl⟩ := List.mem_map.mp member
  have visible : isBlank raw = false := by simpa using (List.mem_filter.mp inPieces).2
  refine ⟨isBlank_of_strip ?_, strip_strip raw⟩
  rw [Ne, strip_eq_nil_iff, visible]
  exact Bool.false_ne_true

/-- Dropping blank pieces and stripping the others loses nothing visible. -/
theorem weighAll_shown (pieces : List Text) :
    weighAll visibility ((pieces.filter fun piece => !isBlank piece).map strip) =
      weighAll visibility pieces := by
  induction pieces with
  | nil => rfl
  | cons piece rest induction =>
      rw [weighAll_cons]
      cases blank : isBlank piece with
      | true =>
          rw [List.filter_cons_of_neg (by simp [blank]), induction, weigh_blank blank,
            Nat.zero_add]
      | false =>
          rw [List.filter_cons_of_pos (by simp [blank]), List.map_cons, weighAll_cons,
            induction, weigh_strip]

theorem weigh_joinPages (texts : List Text) :
    weigh visibility (joinPages texts) = weighAll visibility texts := by
  cases texts with
  | nil => rfl
  | cons text rest =>
      have joined := weigh_intercalate visibility formFeed (List.cons_ne_nil text rest)
      have feed : visibility formFeed = 0 := by decide
      rw [feed, Nat.zero_mul] at joined
      exact joined

/-- The pieces show no more than the pages, and less if there is a page heading. -/
theorem weighAll_markdownPages_le (texts : List Text) :
    weighAll visibility (markdownPages texts) ≤ weighAll visibility texts := by
  have bound := separates_pageHeading.weighAll_splitFrom_le 0 0 (strip (joinPages texts))
  rw [List.drop_zero, weigh_strip, weigh_joinPages, Nat.zero_mul] at bound
  rw [markdownPages, splitMarkdownPages, weighAll_shown]
  exact bound

theorem weighAll_markdownPages_lt (occurs : pageHeading.Occurs 0 (strip (joinPages texts))) :
    weighAll visibility (markdownPages texts) < weighAll visibility texts := by
  have bound := separates_pageHeading.weighAll_splitFrom_lt 0 0 (strip (joinPages texts)) occurs
  rw [List.drop_zero, weigh_strip, weigh_joinPages, Nat.zero_mul] at bound
  rw [markdownPages, splitMarkdownPages, weighAll_shown]
  exact bound

/-- If the first pieces are the pages then there are no more pieces, and there is no page
heading. -/
theorem complete_of_take
    (same : shownPages start ((markdownPages texts).take texts.length) =
      shownPages start texts) :
    (markdownPages texts).drop texts.length = [] ∧
      ¬ pageHeading.Occurs 0 (strip (joinPages texts)) := by
  have kept : weighAll visibility ((markdownPages texts).take texts.length) =
      weighAll visibility texts := by
    have weights := congrArg (fun entries => weighAll visibility (entries.map Prod.snd)) same
    simpa [weighAll_shownPages] using weights
  have split : weighAll visibility ((markdownPages texts).take texts.length) +
      weighAll visibility ((markdownPages texts).drop texts.length) =
        weighAll visibility (markdownPages texts) := by
    rw [weighAll, weighAll, ← List.sum_append, ← List.map_append, List.take_append_drop,
      weighAll]
  have bound := weighAll_markdownPages_le texts
  constructor
  · rw [List.eq_nil_iff_forall_not_mem]
    intro piece member
    have none_ : weighAll visibility ((markdownPages texts).drop texts.length) = 0 := by omega
    have weightless := List.sum_eq_zero_iff_forall_eq_nat.mp none_ _
      (List.mem_map_of_mem member)
    have positive := weigh_pos (splitMarkdownPages_shown (List.mem_of_mem_drop member)).1
    omega
  · intro occurs
    have less := weighAll_markdownPages_lt occurs
    omega

/-- Without page headings the pieces are those between form feeds. -/
theorem markdownPages_eq (headless : ¬ pageHeading.Occurs 0 (strip (joinPages texts))) :
    markdownPages texts = texts.flatMap shownPieces := by
  have pieces : markdownSeparator.split (strip (joinPages texts)) =
      (strip (joinPages texts)).splitOnP (· == formFeed) :=
    Separates.split_eq_splitOnP headless
  rw [markdownPages, splitMarkdownPages, pieces]
  change shownPieces (strip (joinPages texts)) = _
  rw [shownPieces_strip, joinPages, shownPieces_intercalate]

/-- Every page that is not blank has at least one piece. -/
theorem countP_le_length (texts : List Text) :
    (texts.countP fun text => !isBlank text) ≤ (texts.flatMap shownPieces).length := by
  induction texts with
  | nil => exact Nat.le_refl 0
  | cons text rest induction =>
      rw [List.countP_cons, List.flatMap_cons, List.length_append]
      cases blank : isBlank text with
      | true => simpa using Nat.le_add_left_of_le induction
      | false =>
          have one := List.length_pos_iff.mpr (shownPieces_ne_nil blank)
          simp only [Bool.not_false, if_true]
          omega

/-- With one piece a page, no page holds a form feed. -/
theorem clean_of_length (same : (texts.flatMap shownPieces).length =
    texts.countP fun text => !isBlank text) : ∀ text ∈ texts, formFeed ∉ strip text := by
  induction texts with
  | nil => nofun
  | cons text rest induction =>
      have least := countP_le_length rest
      have own := countP_le_length [text]
      rw [List.flatMap_cons, List.length_append, List.countP_cons] at same
      rw [List.flatMap_singleton, List.countP_singleton] at own
      rw [List.forall_mem_cons]
      constructor
      · intro held
        have two := two_le_shownPieces held
        have visible : isBlank text = false := by
          rw [Bool.eq_false_iff]
          intro blank
          rw [strip_eq_nil_iff.mpr blank] at held
          cases held
        rw [visible, Bool.not_false, if_pos rfl] at same
        omega
      · apply induction
        generalize (if (!isBlank text) = true then 1 else 0) = single at own same
        omega

/-- Contiguous numbers leave blank pages at the end only. -/
theorem blankLast_of_numbers {pieces : List Text}
    (visible : ∀ piece ∈ pieces, isBlank piece = false)
    (same : shownPages start pieces = shownPages start texts) :
    texts.Pairwise fun first second => isBlank first = true → isBlank second = true := by
  induction texts generalizing start pieces with
  | nil => exact .nil
  | cons text rest induction =>
      cases blank : isBlank text with
      | true =>
          have allBlank : ∀ other ∈ rest, isBlank other = true := by
            rw [shownPages, if_pos blank] at same
            cases pieces with
            | nil =>
                have count : (shownPages (start + 1) rest).length =
                    rest.countP fun other => !isBlank other := length_shownPages
                rw [← same] at count
                intro other member
                have none_ := List.countP_eq_zero.mp count.symm other member
                simpa using none_
            | cons piece others =>
                rw [shownPages, visible piece List.mem_cons_self] at same
                have first : (start, strip piece) ∈ shownPages (start + 1) rest :=
                  same ▸ List.mem_cons_self
                have bounds := le_of_mem_shownPages first
                simp at bounds
          refine .cons (fun other member _ => allBlank other member) ?_
          apply List.pairwise_of_forall_mem_list
          intro first _ second member _
          exact allBlank second member
      | false =>
          refine .cons (fun other _ impossible => ?_) ?_
          · rw [blank] at impossible
            cases impossible
          · rw [shownPages, blank] at same
            cases pieces with
            | nil => cases same
            | cons piece others =>
                rw [shownPages, visible piece List.mem_cons_self] at same
                exact induction (fun other member => visible other (by simp [member]))
                  (List.cons.inj same).2

/-- Clean pages with the blank ones at the end keep their numbers. -/
theorem shownPages_of_clean (clean : ∀ text ∈ texts, formFeed ∉ strip text)
    (blankLast : texts.Pairwise fun first second =>
      isBlank first = true → isBlank second = true) :
    shownPages start (texts.flatMap shownPieces) = shownPages start texts := by
  induction texts generalizing start with
  | nil => rfl
  | cons text rest induction =>
      rw [List.forall_mem_cons] at clean
      obtain ⟨later, blankLast⟩ := List.pairwise_cons.mp blankLast
      rw [List.flatMap_cons, shownPieces_of_clean clean.1, shownPages]
      cases blank : isBlank text with
      | true =>
          have none_ : rest.flatMap shownPieces = [] := by
            rw [List.flatMap_eq_nil_iff]
            intro other member
            exact shownPieces_blank (later other member blank)
          have count : (shownPages (start + 1) rest).length = 0 := by
            rw [length_shownPages, List.countP_eq_zero]
            intro other member
            simp [later other member blank]
          rw [if_pos rfl, if_pos rfl, none_, List.length_eq_zero_iff.mp count]
          rfl
      | false =>
          have visible : isBlank (strip text) = false := by
            apply isBlank_of_strip
            rw [Ne, strip_eq_nil_iff, blank]
            exact Bool.false_ne_true
          rw [if_neg Bool.false_ne_true, if_neg Bool.false_ne_true, List.singleton_append,
            shownPages, if_neg (by simp [visible]), strip_strip, induction clean.2 blankLast]

/-- The pages of Markdown keep numbers and texts if and only if they are safe. -/
theorem shownPages_markdownPages :
    shownPages start (markdownPages texts) = shownPages start texts ↔ MarkdownSafe texts := by
  have visible : ∀ piece ∈ markdownPages texts, isBlank piece = false :=
    fun piece member => (splitMarkdownPages_shown member).1
  constructor
  · intro same
    have first : shownPages start ((markdownPages texts).take texts.length) =
        shownPages start texts := by
      rw [← filter_shownPages, same, filter_shownPages, List.take_length]
    have headless := (complete_of_take first).2
    refine ⟨blankLast_of_numbers visible same, ?_, headless⟩
    apply clean_of_length
    have count := congrArg List.length same
    have all : ((markdownPages texts).countP fun piece => !isBlank piece) =
        (markdownPages texts).length := by
      rw [List.countP_eq_length]
      intro piece member
      simpa using visible piece member
    rw [length_shownPages, length_shownPages, all] at count
    rw [← markdownPages_eq headless, count]
  · intro safe
    rw [markdownPages_eq safe.headless]
    exact shownPages_of_clean safe.clean safe.blankLast

end Markdown

end SarvamVision

end ContractMate
