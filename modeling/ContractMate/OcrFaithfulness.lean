import ContractMate.MarkdownPages
import ContractMate.OcrPageNumbers

/-!
# OCR of faithful archives

Archives that hold the pages of their groups in order.  The document that is put together
from them has every visible page under its number if and only if no group is blank and the
Markdown archives are safe.
-/

namespace ContractMate

namespace SarvamVision

open PythonText Patterns ParsedPages

/-! ## Faithful archives -/

/-- An item that holds the text of a page and names no number. -/
inductive HoldsPage (casefold : String → String) (page : Text) : Json → Prop
  | string : HoldsPage casefold page (.text (String.ofList page))
  | dictionary {fields : List (String × Json)}
      (unnumbered : ∀ key ∈ pageNumberKeys, fields.lookup key = none)
      (held : ∃ key ∈ textKeys, fields.lookup key = some (.text (String.ofList page)))
      (only : ∀ key ∈ textKeys, ∀ value, fields.lookup key = some (.text value) →
        value = String.ofList page)
      (flat : ∀ field ∈ fields, casefold field.1 ∉ nestedKeys) :
      HoldsPage casefold page (.object fields)

/-- A value that is, or holds, a list of page items. -/
inductive HoldsList (casefold : String → String) (items : List Json) : Json → Prop
  | list : HoldsList casefold items (.list items)
  | collection {before after : List (String × Json)} {key : String}
      (named : casefold key ∈ pageCollectionKeys)
      (first : pageCollection casefold before = none) :
      HoldsList casefold items (.object (before ++ (key, .list items) :: after))
  | wrapped {key : String} {value : Json} (inner : HoldsList casefold items value) :
      HoldsList casefold items (.object [(key, value)])

inductive ArchiveFormat where
  | json
  | markdown
deriving DecidableEq, Repr

section Archives

variable (casefold : String → String)

/-- The members that may hold pages. -/
def pageMembers (archive : List ArchiveMember) : List ArchiveMember :=
  archive.filter fun member =>
    isJsonName casefold member.name || isMarkdownName casefold member.name

/-- An archive that holds pages in order: as a JSON list without numbers, or as Markdown
with form feeds between them. -/
inductive Faithful (archive : List ArchiveMember) (pages : List Text) :
    ArchiveFormat → Prop
  | json {member : ArchiveMember} {payload : Json} {items : List Json}
      (only : pageMembers casefold archive = [member])
      (named : isJsonName casefold member.name = true)
      (decoded : member.text.isSome = true) (parsed : member.json = some payload)
      (found : HoldsList casefold items payload)
      (held : List.Forall₂ (HoldsPage casefold) pages items) :
      Faithful archive pages .json
  | markdown {member : ArchiveMember} (only : pageMembers casefold archive = [member])
      (named : isMarkdownName casefold member.name = true)
      (joined : member.text = some (joinPages pages)) :
      Faithful archive pages .markdown

end Archives

/-- The texts that are read as pages. -/
def readTexts (format : ArchiveFormat) (pages : List Text) : List Text :=
  match format with
  | .json => pages
  | .markdown => markdownPages pages

/-! ## Reading a faithful archive -/

section Reading

variable {casefold : String → String} {archive : List ArchiveMember} {page : Text}

theorem joinLines_singleton (text : Text) : joinLines [text] = text := by
  simp [joinLines]

/-- Equal texts are joined once. -/
theorem eraseDups_of_forall_eq {texts : List Text} {text : Text} (some_ : texts ≠ [])
    (equal : ∀ other ∈ texts, other = text) : texts.eraseDups = [text] := by
  cases texts with
  | nil => exact absurd rfl some_
  | cons first rest =>
      rw [List.forall_mem_cons] at equal
      have none_ : (rest.filter fun other => !other == first) = [] := by
        rw [List.filter_eq_nil_iff]
        intro other member
        simp [equal.1, equal.2 other member]
      rw [List.eraseDups_cons, none_, equal.1]
      rfl

theorem extractNested_flat {fields : List (String × Json)}
    (flat : ∀ field ∈ fields, casefold field.1 ∉ nestedKeys) :
    extractNested casefold fields = [] := by
  induction fields with
  | nil => rfl
  | cons field rest induction =>
      obtain ⟨key, nested⟩ := field
      rw [List.forall_mem_cons] at flat
      rw [extractNested, if_neg (fun named => flat.1 named.1), induction flat.2]

/-- The text of an item that holds a page. -/
theorem itemText_of_holdsPage {item : Json} (holds : HoldsPage casefold page item) :
    itemText casefold item = strip page := by
  cases holds with
  | string => rw [itemText, String.toList_ofList]
  | @dictionary fields unnumbered held only flat =>
      have texts : ∀ text ∈ directTexts fields, text = strip page := by
        intro text member
        obtain ⟨key, inKeys, found⟩ := List.mem_filterMap.mp member
        split at found
        · rename_i value looked
          split at found
          · cases found
          · rw [← Option.some.inj found, only key inKeys value looked, String.toList_ofList]
        · cases found
      rw [itemText.eq_2 _ _ (by simp), extractText]
      split
      · rename_i direct
        rw [eraseDups_of_forall_eq direct texts, joinLines_singleton]
      · rename_i direct
        obtain ⟨key, inKeys, looked⟩ := held
        have blank : isBlank page = true := by
          by_contra visible
          apply direct
          intro none_
          have member : strip page ∈ directTexts fields := by
            refine List.mem_filterMap.mpr ⟨key, inKeys, ?_⟩
            rw [looked]
            simp [visible]
          rw [none_] at member
          cases member
        rw [extractNested_flat flat, strip_eq_nil_iff.mpr blank]
        rfl

/-- An item without a number has the number of its position. -/
theorem extractPageNumber_of_holdsPage {item : Json} (holds : HoldsPage casefold page item)
    (fallback : PageNumber) : extractPageNumber item fallback = .ok fallback := by
  cases holds with
  | string => rfl
  | @dictionary fields unnumbered held only flat =>
      have none_ : (pageNumberKeys.findSome? fun key =>
          (fields.lookup key).bind (namedNumber key)) = none := by
        rw [List.findSome?_eq_none_iff]
        intro key inKeys
        rw [unnumbered key inKeys]
        rfl
      rw [extractPageNumber, none_]
      rfl

/-- A page's number and text. -/
def entryOf (page : DocumentPage) : Nat × Text :=
  (page.pageNumber, page.text.toList)

variable {pages : List Text} {items : List Json} {member : ArchiveMember}

/-- The pages of a list of items without numbers. -/
theorem documentPages_of_holds (pageOffset index : Nat)
    (held : List.Forall₂ (HoldsPage casefold) pages items) :
    ∃ found, documentPagesFrom casefold pageOffset index items = .ok found ∧
      (found.map fun page => entryOf page.toDocumentPage) =
        shownPages (pageOffset + index + 1) pages := by
  induction held generalizing index with
  | nil => exact ⟨[], rfl, rfl⟩
  | @cons page item pages items holds held induction =>
      obtain ⟨found, read, entries⟩ := induction (index + 1)
      rw [documentPagesFrom, itemText_of_holdsPage holds, shownPages]
      by_cases blank : isBlank page = true
      · rw [if_pos (strip_eq_nil_iff.mpr blank), if_pos blank]
        exact ⟨found, read, entries⟩
      · rw [if_neg (fun empty => blank (strip_eq_nil_iff.mp empty)), if_neg blank,
          extractPageNumber_of_holdsPage holds, read]
        refine ⟨_, rfl, ?_⟩
        rw [List.map_cons, entries]
        simp [entryOf, pageOf, itemText_of_holdsPage holds, Nat.add_assoc]

/-- The items are found in the value that holds them. -/
theorem findPageItems_of_holdsList {payload : Json}
    (found : HoldsList casefold items payload) (some_ : items ≠ [])
    (proper : items.all isDictOrStr = true) : findPageItems casefold payload = items := by
  induction found with
  | list => rw [findPageItems, if_pos ⟨some_, proper⟩]
  | @collection before after key named first =>
      have located : pageCollection casefold (before ++ (key, .list items) :: after) =
          some items := by
        rw [pageCollection] at first ⊢
        rw [List.findSome?_append, first, List.findSome?_cons]
        simp [named]
      rw [findPageItems, located]
  | @wrapped key value inner induction =>
      rw [findPageItems]
      cases located : pageCollection casefold [(key, value)] with
      | none =>
          have nested : findInFields casefold [(key, value)] = items := by
            rw [findInFields, induction, if_pos some_]
          dsimp only
          rw [nested, if_pos some_]
      | some others =>
          cases inner with
          | list =>
              rw [pageCollection, List.findSome?_cons] at located
              by_cases named : casefold key ∈ pageCollectionKeys
              · simp only [named, if_true] at located
                exact (Option.some.inj located).symm
              · simp [named] at located
          | collection named first => simp [pageCollection] at located
          | wrapped inner => simp [pageCollection] at located

/-- The one member with a name. -/
theorem membersNamed_single {accepts : String → Bool}
    (only : pageMembers casefold archive = [member])
    (within : ∀ name, accepts name = true →
      (isJsonName casefold name || isMarkdownName casefold name) = true)
    (accepted : accepts member.name = true) : membersNamed archive accepts = [member] := by
  have mem_only : ∀ other ∈ archive, accepts other.name = true → other = member := by
    intro other inArchive other_
    have inPages : other ∈ pageMembers casefold archive :=
      List.mem_filter.mpr ⟨inArchive, within other.name other_⟩
    rw [only] at inPages
    exact List.mem_singleton.mp inPages
  have names : (archive.map ArchiveMember.name).filter accepts = [member.name] := by
    have kept : archive.filter (accepts ∘ ArchiveMember.name) = [member] := by
      have twice : (pageMembers casefold archive).filter (accepts ∘ ArchiveMember.name) =
          archive.filter (accepts ∘ ArchiveMember.name) := by
        rw [pageMembers, List.filter_filter]
        apply List.filter_congr
        intro other _
        cases other_ : accepts other.name with
        | false => simp [other_]
        | true => simp [other_, within other.name other_]
      rw [← twice, only]
      simp [accepted]
    rw [List.filter_map, kept]
    rfl
  have inArchive : member ∈ archive := by
    have inPages : member ∈ pageMembers casefold archive := only ▸ List.mem_singleton_self member
    exact (List.mem_filter.mp inPages).1
  have read : readMember archive member.name = some member := by
    rw [readMember]
    cases found : archive.reverse.find? fun other => other.name == member.name with
    | none =>
        have different := List.find?_eq_none.mp found member (List.mem_reverse.mpr inArchive)
        simp at different
    | some other =>
        have named : other.name = member.name := by simpa using List.find?_some found
        have inArchive' := List.mem_reverse.mp (List.mem_of_find?_eq_some found)
        rw [mem_only other inArchive' (named ▸ accepted)]
  rw [membersNamed, names]
  simp [read]

/-- No member where the one member for pages has another name. -/
theorem membersNamed_none {accepts : String → Bool}
    (only : pageMembers casefold archive = [member])
    (within : ∀ name, accepts name = true →
      (isJsonName casefold name || isMarkdownName casefold name) = true)
    (refused : accepts member.name = false) : membersNamed archive accepts = [] := by
  have names : (archive.map ArchiveMember.name).filter accepts = [] := by
    rw [List.filter_map, List.map_eq_nil_iff, List.filter_eq_nil_iff]
    intro other inArchive accepted
    have inPages : other ∈ pageMembers casefold archive :=
      List.mem_filter.mpr ⟨inArchive, within other.name accepted⟩
    rw [only, List.mem_singleton] at inPages
    rw [inPages] at accepted
    exact absurd (accepted.symm.trans refused) (by simp)
  rw [membersNamed, names]
  rfl

/-- A name has one of the endings only. -/
theorem not_isMarkdownName {name : String} (json : isJsonName casefold name = true) :
    isMarkdownName casefold name = false := by
  rw [isJsonName, hasSuffix, List.isSuffixOf_iff_suffix] at json
  rw [isMarkdownName, Bool.or_eq_false_iff]
  constructor
  · rw [Bool.eq_false_iff]
    intro markdown
    rw [hasSuffix, List.isSuffixOf_iff_suffix] at markdown
    exact absurd (List.suffix_of_suffix_length_le markdown json (by decide)) (by decide)
  · rw [Bool.eq_false_iff]
    intro markdown
    rw [hasSuffix, List.isSuffixOf_iff_suffix] at markdown
    exact absurd (List.suffix_of_suffix_length_le json markdown (by decide)) (by decide)

theorem not_isJsonName {name : String} (markdown : isMarkdownName casefold name = true) :
    isJsonName casefold name = false := by
  rw [Bool.eq_false_iff]
  intro json
  rw [not_isMarkdownName json] at markdown
  cases markdown

/-- The pages of the only JSON member. -/
theorem pagesFromJson_single {payload : Json} {pageOffset : Nat}
    {found : List LaidOutPage} (decoded : member.text.isSome = true)
    (parsed : member.json = some payload)
    (read : documentPages casefold (findPageItems casefold payload) pageOffset = .ok found) :
    pagesFromJson casefold pageOffset [member] = .ok found := by
  obtain ⟨text, held⟩ := Option.isSome_iff_exists.mp decoded
  rw [pagesFromJson, held, parsed]
  dsimp only
  rw [read]
  cases found with
  | nil => rfl
  | cons page rest => rfl

/-- The raw pages of the only Markdown member. -/
theorem rawPages_single (joined : member.text = some (joinPages pages)) :
    rawPages [member] = .ok (markdownPages pages) := by
  rw [rawPages, joined]
  dsimp only
  cases blank : isBlank (joinPages pages) with
  | true =>
      rw [markdownPages, strip_eq_nil_iff.mpr blank]
      rfl
  | false =>
      simp only [rawPages, Bool.false_eq_true, if_false]
      rw [markdownPages]
      exact congrArg Except.ok (List.append_nil _)

/-- Raw pages are items without numbers. -/
theorem holdsPage_map (pages : List Text) :
    List.Forall₂ (HoldsPage casefold) pages
      (pages.map fun page => .text (String.ofList page)) := by
  rw [List.forall₂_map_right_iff, List.forall₂_same]
  intro page _
  exact .string

theorem isDictOrStr_of_holds (held : List.Forall₂ (HoldsPage casefold) pages items) :
    items.all isDictOrStr = true := by
  induction held with
  | nil => rfl
  | cons holds _ induction =>
      rw [List.all_cons, induction, Bool.and_true]
      cases holds <;> rfl

/-- What comes of a faithful archive: an error if its pages are blank. -/
theorem parseArchive_of_faithful {format : ArchiveFormat}
    (faithful : Faithful casefold archive pages format) (some_ : pages ≠ []) (pageOffset : Nat) :
    if shownPages (pageOffset + 1) (readTexts format pages) = [] then
      ∃ error, parseArchive casefold archive pageOffset = .error error
    else ∃ found, parseArchive casefold archive pageOffset = .ok found ∧
      (found.map fun page => entryOf page.toDocumentPage) =
        shownPages (pageOffset + 1) (readTexts format pages) := by
  have jsonWithin : ∀ name, isJsonName casefold name = true →
      (isJsonName casefold name || isMarkdownName casefold name) = true := by
    intro name json
    rw [json, Bool.true_or]
  have markdownWithin : ∀ name, isMarkdownName casefold name = true →
      (isJsonName casefold name || isMarkdownName casefold name) = true := by
    intro name markdown
    rw [markdown, Bool.or_true]
  cases faithful with
  | @json member payload items only named decoded parsed found held =>
      have noMarkdown := membersNamed_none only markdownWithin (not_isMarkdownName named)
      have json := membersNamed_single only jsonWithin named
      have items_ : items ≠ [] := by
        rintro rfl
        exact some_ (List.forall₂_nil_right_iff.mp held)
      obtain ⟨own, read, entries⟩ := documentPages_of_holds pageOffset 0 held
      have items' := findPageItems_of_holdsList found items_ (isDictOrStr_of_holds held)
      have jsonPages : pagesFromJson casefold pageOffset [member] = .ok own :=
        pagesFromJson_single decoded parsed (items' ▸ read)
      have raw : pagesFromMarkdown casefold pageOffset [] = .ok [] := rfl
      rw [parseArchive, json, jsonPages, noMarkdown, raw, readTexts, ← entries]
      cases own with
      | nil => exact ⟨_, rfl⟩
      | cons page rest => exact ⟨_, rfl, rfl⟩
  | @markdown member only named joined =>
      have noJson := membersNamed_none only jsonWithin (not_isJsonName named)
      have markdown := membersNamed_single only markdownWithin named
      obtain ⟨own, read, entries⟩ := documentPages_of_holds pageOffset 0
        (holdsPage_map (markdownPages pages))
      have raw : pagesFromMarkdown casefold pageOffset [member] = .ok own := by
        rw [pagesFromMarkdown, rawPages_single joined]
        exact read
      have jsonPages : pagesFromJson casefold pageOffset [] = .ok [] := rfl
      rw [parseArchive, noJson, jsonPages, markdown, raw, readTexts, ← entries]
      cases own with
      | nil => exact ⟨_, rfl⟩
      | cons page rest => exact ⟨_, rfl, rfl⟩

end Reading

/-! ## Groups of entries -/

section Entries

variable {Group Entry : Type} {number : Entry → Nat} {start limit : Group → Nat}
  {produced expected : Group → List Entry}

/-- Entries are produced as expected in all groups if they are so on the whole: no group
produces entries of a group before it. -/
theorem eq_of_perm_flatMap {groups : List Group}
    (ordered : groups.Pairwise fun first second => limit first ≤ start second)
    (above : ∀ group ∈ groups, ∀ entry ∈ produced group, start group ≤ number entry)
    (within : ∀ group ∈ groups, ∀ entry ∈ expected group,
      start group ≤ number entry ∧ number entry < limit group)
    (complete : ∀ group ∈ groups,
      ((produced group).filter fun entry => number entry < limit group).Perm (expected group) →
        produced group = expected group)
    (perm : (groups.flatMap produced).Perm (groups.flatMap expected)) :
    ∀ group ∈ groups, produced group = expected group := by
  induction groups with
  | nil => nofun
  | cons group rest induction =>
      obtain ⟨before, ordered⟩ := List.pairwise_cons.mp ordered
      rw [List.forall_mem_cons] at above within complete
      rw [List.flatMap_cons, List.flatMap_cons] at perm
      have later : ∀ other : Group → List Entry,
          (∀ next ∈ rest, ∀ entry ∈ other next, start next ≤ number entry) →
            ((rest.flatMap other).filter fun entry => number entry < limit group) = [] := by
        intro other bound
        rw [List.filter_eq_nil_iff]
        intro entry member
        obtain ⟨next, inRest, inNext⟩ := List.mem_flatMap.mp member
        have least := bound next inRest entry inNext
        have after := before next inRest
        simp only [decide_eq_true_eq]
        omega
      have own : ((expected group).filter fun entry => number entry < limit group) =
          expected group := by
        rw [List.filter_eq_self]
        intro entry member
        simpa using (within.1 entry member).2
      have cut := perm.filter fun entry => number entry < limit group
      rw [List.filter_append, List.filter_append, later produced above.2,
        later expected (fun next inRest entry inNext => (within.2 next inRest entry inNext).1),
        List.append_nil, List.append_nil, own] at cut
      have here := complete.1 cut
      rw [here, List.perm_append_left_iff] at perm
      rw [List.forall_mem_cons]
      exact ⟨here, induction ordered above.2 within.2 complete.2 perm⟩

end Entries

/-! ## The whole document -/

section Documents

variable {casefold : String → String} {provider : List Text × Nat → Except Exn OcrJob}
  {format : List Text × Nat → ArchiveFormat} {texts : List Text}
  {parsedDocument : ParsedDocument}

/-- Every visible page is there once, under its number, and there are no other pages. -/
def PagesKept (texts : List Text) (document : ParsedDocument) : Prop :=
  (document.pages.map entryOf).Perm (shownPages 1 texts)

/-- The provider completes the job of a group with a faithful archive. -/
def Provides (casefold : String → String)
    (provider : List Text × Nat → Except Exn OcrJob) (format : List Text × Nat → ArchiveFormat)
    (group : List Text × Nat) : Prop :=
  ∃ job archive, provider group = .ok job ∧ job.state = "completed" ∧
    job.archive = some archive ∧ Faithful casefold archive group.1 (format group)

theorem shownPages_eq_filterMap (start : Nat) :
    shownPages start texts = (texts.zipIdx start).filterMap fun entry =>
      if isBlank entry.1 then none else some (entry.2, strip entry.1) := by
  induction texts generalizing start with
  | nil => rfl
  | cons text rest induction =>
      rw [shownPages, List.zipIdx_cons, List.filterMap_cons, induction]
      cases isBlank text <;> rfl

/-- The visible pages of a PDF are those of its groups. -/
theorem shownPages_groups :
    ((pageGroups texts).flatMap fun group => shownPages (group.2 + 1) group.1) =
      shownPages 1 texts := by
  rw [shownPages_eq_filterMap, ← flatMap_pageGroups, List.filterMap_flatMap]
  apply List.flatMap_congr
  intro group _
  rw [shownPages_eq_filterMap]

variable {group : List Text × Nat}

theorem nonempty_of_mem_pageGroups (member : group ∈ pageGroups texts) : group.1 ≠ [] := by
  obtain ⟨index, inRange, rfl⟩ := List.mem_map.mp member
  rw [List.mem_range, maxPagesPerJob] at inRange
  rw [← List.length_pos_iff]
  simp only [List.length_take, List.length_drop, maxPagesPerJob]
  omega

/-- The entries of a group: an error if all its pages are blank. -/
theorem processChunk_of_provides
    (provides : Provides casefold provider format group) (some_ : group.1 ≠ []) :
    if shownPages (group.2 + 1) (readTexts (format group) group.1) = [] then
      ∃ error, processChunk casefold provider group = .error error
    else processChunk casefold provider group = .ok (groupPages casefold provider group) ∧
      ((groupPages casefold provider group).map fun page => entryOf page.toDocumentPage) =
        shownPages (group.2 + 1) (readTexts (format group) group.1) := by
  obtain ⟨job, archive, provided, state, opened, faithful⟩ := provides
  have parsed := parseArchive_of_faithful faithful some_ group.2
  have same : processChunk casefold provider group =
      parseArchive casefold archive group.2 := by
    rw [processChunk, provided]
    simp only [bind, Except.bind, state, ne_eq, not_true, if_false, opened]
  rw [same]
  split at parsed
  · rename_i blank
    rw [if_pos blank]
    exact parsed
  · rename_i visible
    obtain ⟨found, read, entries⟩ := parsed
    rw [if_neg visible, groupPages_eq (same.trans read)]
    exact ⟨read, entries⟩

theorem shownPages_eq_nil {pages : List Text} {start : Nat} :
    shownPages start pages = [] ↔ ∀ text ∈ pages, isBlank text = true := by
  rw [← List.length_eq_zero_iff, length_shownPages, List.countP_eq_zero]
  simp

/-- The pages of a group keep numbers and texts. -/
theorem readTexts_iff :
    shownPages (group.2 + 1) (readTexts (format group) group.1) =
        shownPages (group.2 + 1) group.1 ↔
      (format group = .markdown → MarkdownSafe group.1) := by
  cases format group with
  | json => simp [readTexts]
  | markdown => simpa [readTexts] using shownPages_markdownPages

/-- A group that has its visible pages has no others. -/
theorem readTexts_complete
    (perm : ((shownPages (group.2 + 1) (readTexts (format group) group.1)).filter
      fun entry => entry.1 < group.2 + 1 + group.1.length).Perm
        (shownPages (group.2 + 1) group.1)) :
    shownPages (group.2 + 1) (readTexts (format group) group.1) =
      shownPages (group.2 + 1) group.1 := by
  cases named : format group with
  | json => rfl
  | markdown =>
      rw [named, readTexts, filter_shownPages] at perm
      have same : shownPages (group.2 + 1) ((markdownPages group.1).take group.1.length) =
          shownPages (group.2 + 1) group.1 := by
        refine perm.eq_of_pairwise ?_ pairwise_shownPages pairwise_shownPages
        intro first second _ _ less less'
        exact absurd (less.trans less') (Nat.lt_irrefl _)
      have none_ := (complete_of_take same).1
      have whole : (markdownPages group.1).take group.1.length = markdownPages group.1 := by
        have split := List.take_append_drop group.1.length (markdownPages group.1)
        rw [none_, List.append_nil] at split
        exact split
      rw [readTexts, ← whole]
      exact same

theorem entries_of_document {found : List LaidOutPage} :
    ((reassemble parsedDocument found).pages.map entryOf).Perm
      (found.map fun page => entryOf page.toDocumentPage) := by
  rw [reassemble, List.map_map]
  exact (List.perm_insertionSort byNumber found).map _

/-- The entries that a document has if all groups can be processed. -/
theorem entries_of_groups (parsedDocument : ParsedDocument)
    (entries : ∀ group ∈ pageGroups texts,
      ((groupPages casefold provider group).map fun page => entryOf page.toDocumentPage) =
        shownPages (group.2 + 1) (readTexts (format group) group.1)) :
    ((reassemble parsedDocument ((pageGroups texts).flatMap
        (groupPages casefold provider))).pages.map entryOf).Perm
      ((pageGroups texts).flatMap fun group =>
        shownPages (group.2 + 1) (readTexts (format group) group.1)) := by
  have perm : ((reassemble parsedDocument ((pageGroups texts).flatMap
      (groupPages casefold provider))).pages.map entryOf).Perm
        (((pageGroups texts).flatMap (groupPages casefold provider)).map
          fun page => entryOf page.toDocumentPage) := entries_of_document
  rw [List.map_flatMap, List.flatMap_congr entries] at perm
  exact perm

/-- A document with the visible pages has those of each group. -/
theorem readTexts_of_perm
    (perm : ((pageGroups texts).flatMap fun group =>
        shownPages (group.2 + 1) (readTexts (format group) group.1)).Perm
      ((pageGroups texts).flatMap fun group => shownPages (group.2 + 1) group.1)) :
    ∀ group ∈ pageGroups texts,
      shownPages (group.2 + 1) (readTexts (format group) group.1) =
        shownPages (group.2 + 1) group.1 := by
  have ordered : (pageGroups texts).Pairwise fun first second =>
      first.2 + 1 + first.1.length ≤ second.2 + 1 := by
    apply pairwise_pageGroups.imp
    intro first second before
    omega
  have above : ∀ group ∈ pageGroups texts,
      ∀ entry ∈ shownPages (group.2 + 1) (readTexts (format group) group.1),
        group.2 + 1 ≤ entry.1 := by
    intro group _ entry inGroup
    exact (le_of_mem_shownPages inGroup).1
  have within : ∀ group ∈ pageGroups texts, ∀ entry ∈ shownPages (group.2 + 1) group.1,
      group.2 + 1 ≤ entry.1 ∧ entry.1 < group.2 + 1 + group.1.length := by
    intro group _ entry inGroup
    exact le_of_mem_shownPages inGroup
  apply eq_of_perm_flatMap ordered above within ?_ perm
  intro group _ cut
  exact readTexts_complete cut

/-- The visible pages keep their numbers if and only if no group is blank and the groups
read from Markdown are safe. -/
theorem pagesKept_iff (supported : parsedDocument.mimeType = "application/pdf")
    (visible : ∃ text ∈ texts, isBlank text = false)
    (provides : ∀ group ∈ pageGroups texts, Provides casefold provider format group) :
    (∃ document, extract casefold provider texts parsedDocument = .ok document ∧
        PagesKept texts document) ↔
      ∀ group ∈ pageGroups texts, (∃ text ∈ group.1, isBlank text = false) ∧
        (format group = .markdown → MarkdownSafe group.1) := by
  have results : ∀ group ∈ pageGroups texts,
      if shownPages (group.2 + 1) (readTexts (format group) group.1) = [] then
        ∃ error, processChunk casefold provider group = .error error
      else processChunk casefold provider group = .ok (groupPages casefold provider group) ∧
        ((groupPages casefold provider group).map fun page => entryOf page.toDocumentPage) =
          shownPages (group.2 + 1) (readTexts (format group) group.1) :=
    fun group member => processChunk_of_provides (provides group member)
      (nonempty_of_mem_pageGroups member)
  have some_ : texts ≠ [] := by
    rintro rfl
    obtain ⟨text, member, _⟩ := visible
    cases member
  constructor
  · rintro ⟨document, extracted, kept⟩
    obtain ⟨readable, rfl⟩ := extract_ok_iff_readable.mp extracted
    have shown : ∀ group ∈ pageGroups texts,
        shownPages (group.2 + 1) (readTexts (format group) group.1) ≠ [] ∧
          ((groupPages casefold provider group).map
            fun page => entryOf page.toDocumentPage) =
              shownPages (group.2 + 1) (readTexts (format group) group.1) := by
      intro group member
      have result := results group member
      split at result
      · obtain ⟨error, failed⟩ := result
        rw [readable.processed group member] at failed
        cases failed
      · rename_i some_
        exact ⟨some_, result.2⟩
    have perm := (entries_of_groups parsedDocument
      fun group member => (shown group member).2).symm.trans kept
    rw [← shownPages_groups] at perm
    have same := readTexts_of_perm perm
    intro group member
    refine ⟨?_, readTexts_iff.mp (same group member)⟩
    have nonblank := (shown group member).1
    rw [same group member, Ne, shownPages_eq_nil] at nonblank
    push Not at nonblank
    simpa using nonblank
  · intro condition
    have same : ∀ group ∈ pageGroups texts,
        shownPages (group.2 + 1) (readTexts (format group) group.1) =
          shownPages (group.2 + 1) group.1 :=
      fun group member => readTexts_iff.mpr (condition group member).2
    have done : ∀ group ∈ pageGroups texts,
        processChunk casefold provider group = .ok (groupPages casefold provider group) ∧
          ((groupPages casefold provider group).map
            fun page => entryOf page.toDocumentPage) =
              shownPages (group.2 + 1) (readTexts (format group) group.1) := by
      intro group member
      have result := results group member
      have nonblank : shownPages (group.2 + 1) (readTexts (format group) group.1) ≠ [] := by
        rw [same group member, Ne, shownPages_eq_nil]
        obtain ⟨text, inGroup, shown⟩ := (condition group member).1
        intro blank
        rw [blank text inGroup] at shown
        cases shown
      rw [if_neg nonblank] at result
      exact result
    refine ⟨_, extract_ok_iff_readable.mpr
      ⟨⟨supported, some_, fun group member => (done group member).1⟩, rfl⟩, ?_⟩
    have perm := entries_of_groups parsedDocument fun group member => (done group member).2
    rw [List.flatMap_congr same, shownPages_groups] at perm
    exact perm

end Documents

section Samples

def clausePage : Text :=
  "Clause 1".toList

/-- A scan of two groups, with a blank second page. -/
def splitScan : List Text :=
  clausePage :: [] :: List.replicate 10 clausePage

def splitFormat (group : List Text × Nat) : ArchiveFormat :=
  if group.2 = 0 then .json else .markdown

/-- The first group comes as a JSON list, the second one as Markdown. -/
def splitArchive (group : List Text × Nat) : List ArchiveMember :=
  match splitFormat group with
  | .json =>
      [{ name := "document.json", text := some []
         json := some (.list (group.1.map fun page => .text (String.ofList page))) }]
  | .markdown => [{ name := "document.md", text := some (joinPages group.1), json := none }]

def splitProvider (group : List Text × Nat) : Except Exn OcrJob :=
  .ok ⟨"completed", none, some (splitArchive group)⟩

theorem pagesKept_iff_sample :
    ∃ document, extract id splitProvider splitScan scannedDocument = .ok document ∧
      PagesKept splitScan document := by
  have groups : pageGroups splitScan =
      [(clausePage :: [] :: List.replicate 8 clausePage, 0), ([clausePage, clausePage], 10)] :=
    rfl
  have provides : ∀ group ∈ pageGroups splitScan,
      Provides id splitProvider splitFormat group := by
    rw [groups]
    intro group member
    rcases List.mem_pair.mp member with rfl | rfl
    · refine ⟨_, _, rfl, rfl, rfl, .json rfl (by decide) rfl rfl .list ?_⟩
      rw [List.forall₂_map_right_iff, List.forall₂_same]
      exact fun page _ => .string
    · exact ⟨_, _, rfl, rfl, rfl, .markdown rfl (by decide) rfl⟩
  refine (pagesKept_iff rfl ⟨clausePage, by simp [splitScan], by decide⟩ provides).mpr ?_
  rw [groups]
  intro group member
  rcases List.mem_pair.mp member with rfl | rfl
  · exact ⟨⟨clausePage, by simp, by decide⟩, fun markdown => absurd markdown (by decide)⟩
  · exact ⟨⟨clausePage, by simp, by decide⟩, readTexts_iff.mp (by decide +kernel)⟩

/-- A scan of two pages, the first one blank. -/
def blankCover : List Text :=
  [[], clausePage]

def coverArchive : List ArchiveMember :=
  [{ name := "document.md", text := some (joinPages blankCover), json := none }]

def coverProvider (_ : List Text × Nat) : Except Exn OcrJob :=
  .ok ⟨"completed", none, some coverArchive⟩

/-- Behind a blank cover the second page of a Markdown archive comes out as the first. -/
theorem blank_cover_shifts :
    (∃ text ∈ blankCover, isBlank text = false) ∧
      (∀ group ∈ pageGroups blankCover, Provides id coverProvider (fun _ => .markdown) group) ∧
        ¬ ∃ document, extract id coverProvider blankCover scannedDocument = .ok document ∧
          PagesKept blankCover document := by
  refine ⟨⟨clausePage, by simp [blankCover], by decide⟩, ?_, ?_⟩
  · intro group member
    have one : group = (blankCover, 0) := by
      simpa [pageGroups, maxPagesPerJob, blankCover] using member
    rw [one]
    exact ⟨_, coverArchive, rfl, rfl, rfl, .markdown rfl (by decide) rfl⟩
  · rintro ⟨document, extracted, kept⟩
    have entries : (extract id coverProvider blankCover scannedDocument).toOption.map
        (fun document => document.pages.map entryOf) = some [(1, clausePage)] := by
      decide
    rw [extracted] at entries
    have same : document.pages.map entryOf = [(1, clausePage)] := Option.some.inj entries
    rw [PagesKept, same] at kept
    exact absurd kept (by decide)

end Samples

end SarvamVision

end ContractMate
