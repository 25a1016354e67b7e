import ContractMate.PageChunking
import ContractMate.SarvamVision

/-!
# Page numbers from OCR

The pages of a document have numbers of their own, each in the range of its page group, if
and only if the items of every archive name different pages of its group.  Which page an
item names is said here of the item and its position alone.
-/

namespace ContractMate

namespace SarvamVision

open PythonText PageChunking

open ChatEvidence (Metadata MetadataValue)

/-! ## The page that an item names -/

/-- The value is taken for a number: an integer that is not negative, a boolean, or a text
of digits. -/
def MeantAsNumber : Json → Prop
  | .int value => 0 ≤ value
  | .bool _ => True
  | .text value => isDigits value.toList = true
  | _ => False

/-- The number that a value stands for.  Digits that are not decimal stand for none, nor
do more of them than are converted. -/
inductive HoldsNumber : Json → Nat → Prop
  | int (number : Nat) : HoldsNumber (.int number) number
  | bool (value : Bool) : HoldsNumber (.bool value) value.toNat
  | text {value : String} {digits : List Nat} (some_ : digits ≠ [])
      (few : digits.length ≤ 4300)
      (decimal : value.toList.map decimalValue = digits.map some) :
      HoldsNumber (.text value) (Nat.ofDigits 10 digits.reverse)

/-- A dictionary has a number under a key. -/
def NumberUnder (fields : List (String × Json)) (key : String) : Prop :=
  ∃ value, fields.lookup key = some value ∧ MeantAsNumber value

/-- The first of the keys for page numbers under which an item has a number, and which. -/
def FirstNumber (item : Json) (key : String) (number : Nat) : Prop :=
  ∃ fields earlier later value, item = .object fields ∧
    pageNumberKeys = earlier ++ key :: later ∧
    (∀ other ∈ earlier, ¬ NumberUnder fields other) ∧
    fields.lookup key = some value ∧ HoldsNumber value number

/-- An item has a number under none of the keys. -/
def Unnumbered (item : Json) : Prop :=
  ∀ fields, item = .object fields → ∀ key ∈ pageNumberKeys, ¬ NumberUnder fields key

/-- The page of its group that an item names at a position: indices are counted from zero,
numbers from one with zero taken for one, and an item without a number is found where it
stands. -/
inductive NamesPage (item : Json) (position : Nat) : Nat → Prop
  | index {number : Nat} (first : FirstNumber item "page_index" number) :
      NamesPage item position (number + 1)
  | number {key : String} {number : Nat} (first : FirstNumber item key number)
      (other : key ≠ "page_index") : NamesPage item position (max number 1)
  | position (none_ : Unnumbered item) : NamesPage item position position

theorem foldl_eq_ofDigits (digits : List Nat) :
    digits.foldl (fun number digit => number * 10 + digit) 0 =
      Nat.ofDigits 10 digits.reverse := by
  rw [Nat.ofDigits_eq_foldr, List.foldr_reverse]
  congr 1
  funext number digit
  exact (Nat.add_comm _ _).trans (congrArg _ (Nat.mul_comm _ _))

variable {value : Text} {key : String} {item : Json}

theorem isDigits_of_decimal {digits : List Nat} (some_ : digits ≠ [])
    (decimal : value.map decimalValue = digits.map some) : isDigits value = true := by
  have nonempty : value ≠ [] := by
    rintro rfl
    exact some_ (by simpa using decimal.symm)
  have each : ∀ character ∈ value, isDecimal character = true := by
    intro character member
    have mapped : decimalValue character ∈ digits.map some :=
      decimal ▸ List.mem_map_of_mem member
    obtain ⟨digit, _, same⟩ := List.mem_map.mp mapped
    rw [isDecimal, ← same, Option.isSome_some]
  rw [isDigits, Bool.and_eq_true, List.all_eq_true]
  exact ⟨by simpa using nonempty, fun character member => by simp [each character member]⟩

theorem mapM_decimalValue {digits : List Nat} :
    value.mapM decimalValue = some digits ↔ value.map decimalValue = digits.map some := by
  induction value generalizing digits with
  | nil => cases digits <;> simp
  | cons character rest induction =>
      rw [List.mapM_cons, List.map_cons]
      cases own : decimalValue character with
      | none => cases digits <;> simp
      | some digit =>
          cases later : rest.mapM decimalValue with
          | none =>
              have never : ∀ digits : List Nat, rest.map decimalValue ≠ digits.map some := by
                intro digits same
                rw [induction.mpr same] at later
                cases later
              cases digits with
              | nil => simp
              | cons head tail => simp [never tail]
          | some found =>
              have same := induction.mp later
              cases digits with
              | nil => simp
              | cons head tail =>
                  simp [same, (Option.some_injective _).list_map.eq_iff]

/-- What `int` makes of a text. -/
theorem intOfDigits_ok {number : Nat} :
    intOfDigits value = .ok number ↔ ∃ digits : List Nat, digits.length ≤ 4300 ∧
      value.map decimalValue = digits.map some ∧
        Nat.ofDigits 10 digits.reverse = number := by
  have length {digits : List Nat} (decimal : value.map decimalValue = digits.map some) :
      value.length = digits.length := by
    simpa using congrArg List.length decimal
  rw [intOfDigits]
  split
  · rename_i many
    constructor
    · intro converted
      cases converted
    · rintro ⟨digits, few, decimal, _⟩
      have same := length decimal
      omega
  · rename_i few
    cases mapped : value.mapM decimalValue with
    | none =>
        constructor
        · intro converted
          cases converted
        · rintro ⟨digits, _, decimal, _⟩
          rw [mapM_decimalValue.mpr decimal] at mapped
          cases mapped
    | some digits =>
        have decimal := mapM_decimalValue.mp mapped
        dsimp only
        rw [foldl_eq_ofDigits]
        constructor
        · intro converted
          have same := length decimal
          exact ⟨digits, by omega, decimal, Except.ok.inj converted⟩
        · rintro ⟨digits', _, decimal', rfl⟩
          have same := mapM_decimalValue.mpr decimal'
          rw [mapped] at same
          cases same
          rfl

theorem namedNumber_eq_none {value : Json} :
    namedNumber key value = none ↔ ¬ MeantAsNumber value := by
  cases value <;> simp [namedNumber, MeantAsNumber]

theorem namedNumber_ok {value : Json} {page : PageNumber} :
    namedNumber key value = some (.ok page) ↔
      ∃ number, HoldsNumber value number ∧ countedFrom key number = page := by
  cases value with
  | int value =>
      rw [namedNumber]
      constructor
      · intro named
        split_ifs at named with positive
        cases named
        obtain ⟨number, rfl⟩ := Int.eq_ofNat_of_zero_le positive
        exact ⟨number, .int number, rfl⟩
      · rintro ⟨number, holds, rfl⟩
        cases holds
        rw [if_pos (Int.natCast_nonneg number), Int.toNat_natCast]
  | bool value =>
      constructor
      · intro named
        cases named
        exact ⟨_, .bool value, rfl⟩
      · rintro ⟨_, ⟨⟩, rfl⟩
        rfl
  | text value =>
      rw [namedNumber]
      constructor
      · intro named
        split_ifs at named with isNumber
        rw [Option.some.injEq] at named
        cases converted : intOfDigits value.toList with
        | error error =>
            rw [converted] at named
            cases named
        | ok number =>
            rw [converted] at named
            cases named
            obtain ⟨digits, few, decimal, rfl⟩ := intOfDigits_ok.mp converted
            have some_ : digits ≠ [] := by
              rintro rfl
              have empty : value.toList = [] := by simpa using decimal
              rw [empty] at isNumber
              cases isNumber
            exact ⟨_, .text some_ few decimal, rfl⟩
      · rintro ⟨_, holds, rfl⟩
        cases holds with
        | text some_ few decimal =>
            rw [if_pos (isDigits_of_decimal some_ decimal),
              intOfDigits_ok.mpr ⟨_, few, decimal, rfl⟩]
            rfl
  | null | float _ | list _ | object _ =>
      constructor
      · intro named
        cases named
      · rintro ⟨_, holds, _⟩
        cases holds

theorem bind_namedNumber_eq_none {fields : List (String × Json)} :
    (fields.lookup key).bind (namedNumber key) = none ↔ ¬ NumberUnder fields key := by
  rw [NumberUnder]
  cases fields.lookup key with
  | none => simp
  | some value => simp [namedNumber_eq_none]

/-- The first number of an item is found. -/
theorem extractPageNumber_of_first {number : Nat}
    (first : FirstNumber item key number) (position : PageNumber) :
    extractPageNumber item position = .ok (countedFrom key number) := by
  obtain ⟨fields, earlier, later, value, rfl, keys, before, stored, holds⟩ := first
  have found : (pageNumberKeys.findSome? fun key =>
      (fields.lookup key).bind (namedNumber key)) = some (.ok (countedFrom key number)) := by
    refine List.findSome?_eq_some_iff.mpr ⟨earlier, key, later, keys, ?_, ?_⟩
    · rw [stored]
      exact namedNumber_ok.mpr ⟨number, holds, rfl⟩
    · intro other member
      exact bind_namedNumber_eq_none.mpr (before other member)
  rw [extractPageNumber, found, Option.getD_some]

theorem extractPageNumber_of_unnumbered (none_ : Unnumbered item)
    (position : PageNumber) : extractPageNumber item position = .ok position := by
  cases item with
  | object fields =>
      have missing : (pageNumberKeys.findSome? fun key =>
          (fields.lookup key).bind (namedNumber key)) = none := by
        rw [List.findSome?_eq_none_iff]
        intro key member
        exact bind_namedNumber_eq_none.mpr (none_ fields rfl key member)
      rw [extractPageNumber, missing, Option.getD_none]
  | _ => rfl

/-- A number is the first one of its item, or the item has none. -/
theorem extractPageNumber_cases {position page : PageNumber}
    (extracted : extractPageNumber item position = .ok page) :
    (∃ key number, FirstNumber item key number ∧ countedFrom key number = page) ∨
      Unnumbered item ∧ page = position := by
  cases item with
  | object fields =>
      rw [extractPageNumber] at extracted
      cases found : pageNumberKeys.findSome? fun key =>
          (fields.lookup key).bind (namedNumber key) with
      | none =>
          rw [found] at extracted
          refine .inr ⟨?_, (Except.ok.inj extracted).symm⟩
          rintro _ ⟨⟩ key member
          exact bind_namedNumber_eq_none.mp (List.findSome?_eq_none_iff.mp found key member)
      | some result =>
          rw [found] at extracted
          have named : result = .ok page := extracted
          subst named
          obtain ⟨earlier, key, later, keys, own, before⟩ :=
            List.findSome?_eq_some_iff.mp found
          obtain ⟨value, stored, own⟩ := Option.bind_eq_some_iff.mp own
          obtain ⟨number, holds, same⟩ := namedNumber_ok.mp own
          refine .inl ⟨key, number, ⟨fields, earlier, later, value, rfl, keys, ?_, stored,
            holds⟩, same⟩
          intro other member
          exact bind_namedNumber_eq_none.mp (before other member)
  | _ =>
      refine .inr ⟨?_, (Except.ok.inj extracted).symm⟩
      rintro _ ⟨⟩

theorem namesPage_of_first {number position : Nat} (first : FirstNumber item key number) :
    NamesPage item position (countedFrom key number).val := by
  rw [countedFrom]
  split_ifs with indexed
  · subst indexed
    exact .index first
  · exact .number first indexed

/-- `_extract_page_number` yields the page that an item names. -/
theorem extractPageNumber_ok {position page : PageNumber} :
    extractPageNumber item position = .ok page ↔ NamesPage item position.val page.val := by
  constructor
  · intro extracted
    rcases extractPageNumber_cases extracted with ⟨key, number, first, rfl⟩ | ⟨none_, rfl⟩
    · exact namesPage_of_first first
    · exact .position none_
  · intro names
    obtain ⟨page, positive⟩ := page
    simp only at names
    cases names with
    | index first => exact extractPageNumber_of_first first position
    | @number key number first other =>
        rw [extractPageNumber_of_first first position, countedFrom]
        simp only [if_neg other]
    | position none_ => exact extractPageNumber_of_unnumbered none_ position

theorem NamesPage.pos {position page : Nat} (positive : 1 ≤ position)
    (names : NamesPage item position page) : 1 ≤ page := by
  cases names with
  | index first => omega
  | number first other => omega
  | position none_ => exact positive

/-- An item names one page. -/
theorem NamesPage.unique {position first second : Nat}
    (positive : 1 ≤ position) (names : NamesPage item position first)
    (again : NamesPage item position second) : first = second := by
  have one := @extractPageNumber_ok item ⟨position, positive⟩ ⟨first, names.pos positive⟩
  have other := @extractPageNumber_ok item ⟨position, positive⟩ ⟨second, again.pos positive⟩
  have same := (one.mpr names).symm.trans (other.mpr again)
  exact congrArg Subtype.val (Except.ok.inj same)

/-! ## The pages of an archive -/

/-- The items that have a text, with their positions. -/
def textItems (casefold : String → String) (items : List Json) : List (Json × Nat) :=
  (items.zipIdx 1).filter fun item => itemText casefold item.1 ≠ []

/-- An item names a page of a group with an offset. -/
def NamedWithin (pageOffset : Nat) (item : Json × Nat) (pageNumber : Nat) : Prop :=
  ∃ number, NamesPage item.1 item.2 number ∧ pageNumber = pageOffset + number

/-- The pages that are read are those that the items name. -/
theorem named_of_documentPagesFrom {casefold : String → String} {pageOffset index : Nat}
    {items : List Json} {pages : List LaidOutPage}
    (read : documentPagesFrom casefold pageOffset index items = .ok pages) :
    List.Forall₂ (NamedWithin pageOffset)
      ((items.zipIdx (index + 1)).filter fun item => itemText casefold item.1 ≠ [])
      (pages.map fun page => page.pageNumber) := by
  induction items generalizing index pages with
  | nil =>
      cases read
      exact .nil
  | cons item rest induction =>
      rw [documentPagesFrom] at read
      rw [List.zipIdx_cons, List.filter_cons]
      split at read
      · rename_i empty
        rw [if_neg (by simpa using empty)]
        exact induction read
      · rename_i some_
        rw [if_pos (by simpa using some_)]
        obtain ⟨number, numbered, read⟩ := ok_of_bind read
        obtain ⟨found, later, read⟩ := ok_of_bind read
        have whole : pageOf casefold pageOffset item number :: found = pages :=
          Except.ok.inj read
        rw [← whole, List.map_cons]
        exact .cons ⟨number.val, extractPageNumber_ok.mp numbered, rfl⟩ (induction later)

theorem position_of_textItems {casefold : String → String} {items : List Json}
    {item : Json × Nat} (member : item ∈ textItems casefold items) : 1 ≤ item.2 :=
  (List.mem_zipIdx (List.mem_filter.mp member).1).1

section Determined

variable {Item Value : Type} {determines : Item → Value → Prop} {items : List Item}
  {values : List Value}

theorem exists_value_of_mem (related : List.Forall₂ determines items values) {item : Item}
    (member : item ∈ items) : ∃ value ∈ values, determines item value := by
  induction related with
  | nil => cases member
  | cons own rest induction =>
      rcases List.mem_cons.mp member with rfl | later
      · exact ⟨_, List.mem_cons_self, own⟩
      · obtain ⟨value, inRest, determined⟩ := induction later
        exact ⟨value, List.mem_cons_of_mem _ inRest, determined⟩

theorem exists_item_of_mem (related : List.Forall₂ determines items values) {value : Value}
    (member : value ∈ values) : ∃ item ∈ items, determines item value := by
  induction related with
  | nil => cases member
  | cons own rest induction =>
      rcases List.mem_cons.mp member with rfl | later
      · exact ⟨_, List.mem_cons_self, own⟩
      · obtain ⟨item, inRest, determined⟩ := induction later
        exact ⟨item, List.mem_cons_of_mem _ inRest, determined⟩

/-- Values that are each determined by an item differ where their items exclude each
other. -/
theorem nodup_iff_pairwise
    (unique : ∀ item ∈ items, ∀ first second, determines item first →
      determines item second → first = second)
    (related : List.Forall₂ determines items values) :
    values.Nodup ↔ items.Pairwise fun first second =>
      ∀ value, determines first value → ¬ determines second value := by
  induction related with
  | nil => simp
  | @cons item value items values own rest induction =>
      have single : ∀ other, determines item other → other = value := by
        intro other determined
        exact unique item List.mem_cons_self other value determined own
      rw [List.nodup_cons, List.pairwise_cons,
        induction fun item member => unique item (List.mem_cons_of_mem _ member)]
      refine and_congr_left fun _ => ?_
      constructor
      · intro absent other member value' determined also
        obtain rfl := single value' determined
        obtain ⟨found, inRest, determined'⟩ := exists_value_of_mem rest member
        have same := unique other (List.mem_cons_of_mem _ member) _ _ also determined'
        exact absent (same ▸ inRest)
      · intro apart member
        obtain ⟨other, inRest, also⟩ := exists_item_of_mem rest member
        exact apart other inRest value own also

end Determined

section Numbers

variable {Page : Type} {casefold : String → String}
  {provider : List Page × Nat → Except Exn OcrJob} {pages : List Page}
  {parsedDocument : ParsedDocument}

/-! ## Results of the groups -/

variable {group : List Page × Nat} {found : List LaidOutPage} {archive : List ArchiveMember}

theorem processChunk_ok (processed : processChunk casefold provider group = .ok found) :
    ∃ job archive, provider group = .ok job ∧ job.archive = some archive ∧
      parseArchive casefold archive group.2 = .ok found := by
  rw [processChunk] at processed
  obtain ⟨job, provided, processed⟩ := ok_of_bind processed
  split at processed
  · cases processed
  · cases opened : job.archive with
    | none =>
        rw [opened] at processed
        cases processed
    | some archive =>
        rw [opened] at processed
        exact ⟨job, archive, provided, opened, processed⟩

/-- Every group yields a page, and only pages with a text. -/
theorem visible_of_processChunk
    (processed : processChunk casefold provider group = .ok found) :
    found ≠ [] ∧ ∀ page ∈ found, isBlank page.text.toList = false := by
  obtain ⟨_, archive, _, _, parsed⟩ := processChunk_ok processed
  obtain ⟨read, some_⟩ := parseArchive_ok parsed
  exact ⟨some_, fun page member => documentPagesFrom_visible read member⟩

/-- The PDF is supported and has pages, and all its groups can be processed. -/
structure Readable (casefold : String → String)
    (provider : List Page × Nat → Except Exn OcrJob) (pages : List Page)
    (parsedDocument : ParsedDocument) : Prop where
  supported : parsedDocument.mimeType = "application/pdf"
  nonempty : pages ≠ []
  processed : Processed casefold provider (pageGroups pages)

theorem pageGroups_ne_nil (some_ : pages ≠ []) : pageGroups pages ≠ [] := by
  intro none_
  have whole : ((pageGroups pages).flatMap fun group => group.1.zipIdx (group.2 + 1)) =
      pages.zipIdx 1 := flatMap_pageGroups
  rw [none_, List.flatMap_nil, eq_comm, List.zipIdx_eq_nil_iff] at whole
  exact some_ whole

/-- A document comes out exactly when all groups can be processed. -/
theorem extract_ok_iff_readable {document : ParsedDocument} :
    extract casefold provider pages parsedDocument = .ok document ↔
      Readable casefold provider pages parsedDocument ∧
        reassemble parsedDocument ((pageGroups pages).flatMap (groupPages casefold provider)) =
          document := by
  rw [extract_ok]
  constructor
  · rintro ⟨supported, some_, found, collected, _, rfl⟩
    obtain ⟨processed, rfl⟩ := collect_ok.mp collected
    exact ⟨⟨supported, some_, processed⟩, rfl⟩
  · rintro ⟨readable, rfl⟩
    refine ⟨readable.supported, readable.nonempty, _,
      collect_ok.mpr ⟨readable.processed, rfl⟩, ?_, rfl⟩
    obtain ⟨group, member⟩ :=
      List.exists_mem_of_ne_nil _ (pageGroups_ne_nil readable.nonempty)
    obtain ⟨some_, visible⟩ := visible_of_processChunk (readable.processed group member)
    obtain ⟨page, inGroup⟩ := List.exists_mem_of_ne_nil _ some_
    exact ⟨page, List.mem_flatMap.mpr ⟨group, member, inGroup⟩, visible page inGroup⟩

/-- The items of an archive with a text name different pages of its group. -/
structure Fits (casefold : String → String) (archive : List ArchiveMember) (count : Nat) :
    Prop where
  distinct : (textItems casefold (archiveItems casefold archive)).Pairwise fun first second =>
    ∀ number, NamesPage first.1 first.2 number → ¬ NamesPage second.1 second.2 number
  bounded : ∀ item ∈ textItems casefold (archiveItems casefold archive), ∀ number,
    NamesPage item.1 item.2 number → number ≤ count

/-- What indexing makes of a page; `describe` is the value of its warnings. -/
def contentOf (describe : List String → MetadataValue) (page : DocumentPage) : PageContent where
  pageNumber := some page.pageNumber
  text := page.text.toList
  metadata := [("warnings", describe page.warnings)]

/-- The numbers are distinct, in the ranges of the groups, and fit for the chunker. -/
structure NumbersSound (casefold : String → String)
    (provider : List Page × Nat → Except Exn OcrJob) (pages : List Page)
    (document : ParsedDocument) : Prop where
  distinct : (document.pages.map fun page => page.pageNumber).Nodup
  inRange : ∀ group ∈ pageGroups pages, ∀ page ∈ groupPages casefold provider group,
    group.2 < page.pageNumber ∧ page.pageNumber ≤ group.2 + group.1.length
  accepted : ∀ (digest : Text → String) (chunker : PageAwareChunker) (contractId : String)
    (describe : List String → MetadataValue) (metadata : Metadata),
    isBlank document.documentId.toList = false → isBlank contractId.toList = false →
      ∃ chunks, chunkPages digest chunker document.documentId contractId
        (document.pages.map (contentOf describe)) metadata = .ok chunks

/-- The pages of a group are those that the items of its archive name. -/
theorem named_of_processChunk {job : OcrJob} (provided : provider group = .ok job)
    (opened : job.archive = some archive)
    (processed : processChunk casefold provider group =
      .ok (groupPages casefold provider group)) :
    List.Forall₂ (NamedWithin group.2) (textItems casefold (archiveItems casefold archive))
      ((groupPages casefold provider group).map fun page => page.pageNumber) := by
  obtain ⟨job', archive', provided', opened', parsed⟩ := processChunk_ok processed
  rw [provided] at provided'
  cases provided'
  rw [opened] at opened'
  cases opened'
  exact named_of_documentPagesFrom (parseArchive_ok parsed).1

theorem unique_of_textItems {pageOffset : Nat}
    {item : Json × Nat} (member : item ∈ textItems casefold (archiveItems casefold archive))
    (first second : Nat) (names : NamedWithin pageOffset item first)
    (again : NamedWithin pageOffset item second) : first = second := by
  obtain ⟨number, names, rfl⟩ := names
  obtain ⟨number', again, rfl⟩ := again
  rw [names.unique (position_of_textItems member) again]

/-- The items name different pages if and only if the pages have different numbers. -/
theorem nodup_iff_distinct {numbers : List Nat} (named : List.Forall₂ (NamedWithin group.2)
      (textItems casefold (archiveItems casefold archive)) numbers) :
    numbers.Nodup ↔
      (textItems casefold (archiveItems casefold archive)).Pairwise fun first second =>
        ∀ number, NamesPage first.1 first.2 number → ¬ NamesPage second.1 second.2 number := by
  rw [nodup_iff_pairwise (fun item member => unique_of_textItems member) named]
  apply List.Pairwise.iff
  intro first second
  constructor
  · intro apart number names again
    exact apart _ ⟨number, names, rfl⟩ ⟨number, again, rfl⟩
  · rintro apart _ ⟨number, names, rfl⟩ ⟨number', again, same⟩
    obtain rfl := Nat.add_left_cancel same
    exact apart number names again

/-- Documents whose pages have distinct numbers pass the chunker. -/
theorem chunkPages_ok {document : ParsedDocument}
    (distinct : (document.pages.map fun page => page.pageNumber).Nodup)
    (digest : Text → String) (chunker : PageAwareChunker) {contractId : String}
    (describe : List String → MetadataValue) (metadata : Metadata)
    (documentNamed : isBlank document.documentId.toList = false)
    (contractNamed : isBlank contractId.toList = false) :
    ∃ chunks, chunkPages digest chunker document.documentId contractId
      (document.pages.map (contentOf describe)) metadata = .ok chunks := by
  have numbered : Numbered (document.pages.map (contentOf describe)) := by
    constructor
    · intro content member
      obtain ⟨page, _, rfl⟩ := List.mem_map.mp member
      exact ⟨page.pageNumber, rfl, Int.ofNat_le.mpr page.pageNumber_pos⟩
    · rw [List.map_map]
      have casts : Function.Injective fun number : Nat => some (number : Int) :=
        fun first second same => Int.ofNat.inj (Option.some.inj same)
      have numbers := distinct.map casts
      rw [List.map_map] at numbers
      exact numbers
  rw [chunkPages, documentNamed, contractNamed]
  exact ⟨_, chunkEach_ok numbered (by simp)⟩

/-- The numbers of a document are those of the groups' pages. -/
theorem nodup_numbers :
    ((reassemble parsedDocument found).pages.map fun page => page.pageNumber).Nodup ↔
      (found.map fun page => page.pageNumber).Nodup := by
  rw [reassemble, List.map_map]
  exact ((List.perm_insertionSort byNumber found).map _).nodup_iff

/-- The pages of a group whose archive fits are in its range. -/
theorem ranges_of_fits (processed : processChunk casefold provider group =
      .ok (groupPages casefold provider group))
    (fits : ∀ job archive, provider group = .ok job → job.archive = some archive →
      Fits casefold archive group.1.length) :
    ((groupPages casefold provider group).map fun page => page.pageNumber).Nodup ∧
      ∀ page ∈ groupPages casefold provider group,
        group.2 < page.pageNumber ∧ page.pageNumber ≤ group.2 + group.1.length := by
  obtain ⟨job, archive, provided, opened, _⟩ := processChunk_ok processed
  have named := named_of_processChunk provided opened processed
  have fit := fits job archive provided opened
  constructor
  · exact (nodup_iff_distinct named).mpr fit.distinct
  · intro page inGroup
    obtain ⟨item, inArchive, number, names, same⟩ :=
      exists_item_of_mem named (List.mem_map_of_mem inGroup)
    have positive := names.pos (position_of_textItems inArchive)
    have bound := fit.bounded item inArchive number names
    omega

/-- The numbers from the archives fit if and only if those of the document are sound. -/
theorem numbersSound_iff :
    (∀ document, extract casefold provider pages parsedDocument = .ok document →
        NumbersSound casefold provider pages document) ↔
      (Readable casefold provider pages parsedDocument →
        ∀ group ∈ pageGroups pages, ∀ job archive, provider group = .ok job →
          job.archive = some archive → Fits casefold archive group.1.length) := by
  constructor
  · intro sound readable group member job archive provided opened
    have named := named_of_processChunk provided opened (readable.processed group member)
    have done := sound _ (extract_ok_iff_readable.mpr ⟨readable, rfl⟩)
    constructor
    · have distinct := nodup_numbers.mp done.distinct
      rw [List.map_flatMap, List.nodup_flatMap] at distinct
      exact (nodup_iff_distinct named).mp (distinct.1 group member)
    · intro item inArchive number names
      obtain ⟨_, shown, within⟩ := exists_value_of_mem named inArchive
      obtain ⟨page, inGroup, rfl⟩ := List.mem_map.mp shown
      have same := unique_of_textItems inArchive _ _ ⟨number, names, rfl⟩ within
      have range := done.inRange group member page inGroup
      omega
  · rintro fits document extracted
    obtain ⟨readable, rfl⟩ := extract_ok_iff_readable.mp extracted
    have ranges : ∀ group ∈ pageGroups pages,
        ((groupPages casefold provider group).map fun page => page.pageNumber).Nodup ∧
          ∀ page ∈ groupPages casefold provider group,
            group.2 < page.pageNumber ∧ page.pageNumber ≤ group.2 + group.1.length := by
      intro group member
      exact ranges_of_fits (readable.processed group member) (fits readable group member)
    have distinct : (((pageGroups pages).flatMap (groupPages casefold provider)).map
        fun page => page.pageNumber).Nodup := by
      rw [List.map_flatMap, List.nodup_flatMap]
      refine ⟨fun group member => (ranges group member).1, ?_⟩
      apply pairwise_pageGroups.imp_of_mem
      intro first second inFirst inSecond before number here there
      obtain ⟨page, inGroup, rfl⟩ := List.mem_map.mp here
      obtain ⟨page', inGroup', same⟩ := List.mem_map.mp there
      have bound := (ranges first inFirst).2 page inGroup
      have bound' := (ranges second inSecond).2 page' inGroup'
      omega
    have numbersDistinct : ((reassemble parsedDocument ((pageGroups pages).flatMap
        (groupPages casefold provider))).pages.map fun page => page.pageNumber).Nodup :=
      nodup_numbers.mpr distinct
    refine ⟨numbersDistinct, fun group member => (ranges group member).2, ?_⟩
    intro digest chunker contractId describe metadata documentNamed contractNamed
    exact chunkPages_ok numbersDistinct digest chunker describe metadata documentNamed
      contractNamed

end Numbers

/-! ## Two items for one page -/

section Samples

/-- An archive whose items count from zero and from one. -/
def ambiguousArchive : List ArchiveMember :=
  [{ name := "document.json"
     text := some []
     json := some (.object [("pages", .list
       [.object [("page_number", .int 0), ("text", .text "Cover")],
         .object [("page_number", .int 1), ("text", .text "Clause 1")]])]) }]

def ambiguousProvider (_ : List String × Nat) : Except Exn OcrJob :=
  .ok { state := "completed", archive := some ambiguousArchive }

def scannedDocument : ParsedDocument where
  documentId := "document"
  sha256 := "digest"
  mimeType := "application/pdf"
  pageCount := 2
  pages := []
  parserName := "pdfmuse"
  parserVersion := "local-fallback-v2"
  requiresOcr := true

/-- Two pages come out under one number. -/
theorem zero_clamped_collides :
    ∃ document, extract id ambiguousProvider ["Cover", "Clause 1"] scannedDocument =
        .ok document ∧
      ¬ NumbersSound id ambiguousProvider ["Cover", "Clause 1"] document := by
  have numbers : (extract id ambiguousProvider ["Cover", "Clause 1"]
      scannedDocument).toOption.map (fun document =>
        document.pages.map fun page => page.pageNumber) = some [1, 1] := by
    decide
  cases extracted : extract id ambiguousProvider ["Cover", "Clause 1"] scannedDocument with
  | error error =>
      rw [extracted] at numbers
      cases numbers
  | ok document =>
      rw [extracted] at numbers
      refine ⟨document, rfl, fun sound => ?_⟩
      have distinct := sound.distinct
      have same : (document.pages.map fun page => page.pageNumber) = [1, 1] :=
        Option.some.inj numbers
      rw [same] at distinct
      exact absurd distinct (by decide)

end Samples

end SarvamVision

end ContractMate
