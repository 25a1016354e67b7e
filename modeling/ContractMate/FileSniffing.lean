import Mathlib

/-!
# File sniffing

What an uploaded file is taken for.  Text is recognised by its first 4096 bytes, which
must be UTF-8 by themselves, so that a longer document is text only if no character
lies across that boundary.
-/

namespace ContractMate

namespace FileSniffing

/-- The results of `sniff_mime_type`. -/
inductive SniffedType where
  | pdf
  | docx
  | plainText
  | octetStream
deriving DecidableEq, Repr

/-- `b"%PDF-"`. -/
def pdfSignature : List UInt8 := [0x25, 0x50, 0x44, 0x46, 0x2D]

/-- `b"PK\x03\x04"`. -/
def zipSignature : List UInt8 := [0x50, 0x4B, 0x03, 0x04]

/-- `data.startswith(signature)`. -/
def startsWith (data : ByteArray) (signature : List UInt8) : Bool :=
  signature.isPrefixOf data.data.toList

/-- The length of the sample. -/
def sampleSize : Nat := 4096

/-- `data[:4096]`. -/
def sample (data : ByteArray) : ByteArray := data.extract 0 sampleSize

/-- `byte < 32 and byte not in {9, 10, 13}`. -/
def isControl (byte : UInt8) : Bool :=
  byte < 32 && !([9, 10, 13] : List UInt8).contains byte

/-- `sum(1 for byte in sample if ...)`. -/
def controls (bytes : ByteArray) : Nat := bytes.data.toList.countP isControl

/-- `control / max(len(sample), 1) < 0.05`; for so few bytes no quotient is rounded
across the bound. -/
def fewControls (bytes : ByteArray) : Bool :=
  controls bytes * 20 < max bytes.size 1

/-- `_looks_like_text`. -/
def looksLikeText (data : ByteArray) : Bool :=
  if data.size = 0 then true
  else
    match (sample data).utf8Decode? with
    | none => false
    | some _ => fewControls (sample data)

/-- `sniff_mime_type`, with `file_path.suffix`; no other letters are lowered to those of
the suffix. -/
def sniffMimeType (data : ByteArray) (suffix : String) : SniffedType :=
  if startsWith data pdfSignature then .pdf
  else if startsWith data zipSignature && suffix.toLower == ".docx" then .docx
  else if looksLikeText data then .plainText
  else .octetStream

/-- UTF-8 text with few control bytes at its beginning, and no signature. -/
structure IsText (data : ByteArray) : Prop where
  decodes : data.IsValidUTF8
  notPdf : startsWith data pdfSignature = false
  notZip : startsWith data zipSignature = false
  few : fewControls (sample data) = true

/-- The sample ends inside a character: the byte after it begins none. -/
def CutInside (data : ByteArray) : Prop :=
  ∃ longer : sampleSize < data.size, ¬ (data[sampleSize]).IsUTF8FirstByte

section Text

variable {data : ByteArray} {suffix : String}

theorem sample_of_short (short : data.size ≤ sampleSize) : sample data = data := by
  have whole := data.extract_zero_max_size (i := sampleSize)
  rwa [Nat.max_eq_left short] at whole

/-- A piece of UTF-8 is UTF-8 itself unless it ends inside a character. -/
theorem sample_valid_iff (decodes : data.IsValidUTF8) :
    (sample data).IsValidUTF8 ↔ ¬ CutInside data := by
  by_cases longer : sampleSize < data.size
  · let text : String := String.ofByteArray data decodes
    have inside : (⟨sampleSize⟩ : String.Pos.Raw) < text.rawEndPos := longer
    have boundary := String.Pos.Raw.isValid_iff_isUTF8FirstByte (s := text)
      (p := ⟨sampleSize⟩)
    have different : (⟨sampleSize⟩ : String.Pos.Raw) ≠ text.rawEndPos := by
      intro same
      have size : sampleSize = data.size := congrArg String.Pos.Raw.byteIdx same
      omega
    have ordered : (⟨sampleSize⟩ : String.Pos.Raw) ≤ text.rawEndPos := Nat.le_of_lt longer
    rw [String.Pos.Raw.isValid_iff_isValidUTF8_extract_zero, and_iff_right ordered,
      or_iff_right different] at boundary
    apply boundary.trans
    simp only [CutInside, not_exists, not_not]
    exact ⟨fun ⟨_, first⟩ _ => first, fun first => ⟨inside, first longer⟩⟩
  · have kept : ¬ CutInside data := fun ⟨within, _⟩ => longer within
    rw [sample_of_short (Nat.le_of_not_lt longer), iff_true_right kept]
    exact decodes

theorem looksLikeText_iff :
    looksLikeText data = true ↔ (sample data).IsValidUTF8 ∧ fewControls (sample data) := by
  unfold looksLikeText
  by_cases empty : data.size = 0
  · have none : data = ByteArray.empty := ByteArray.size_eq_zero_iff.mp empty
    rw [if_pos empty, none, sample_of_short (Nat.zero_le _)]
    simp [fewControls, controls]
  · rw [if_neg empty, ← ByteArray.isSome_utf8Decode?_iff]
    cases (sample data).utf8Decode? <;> simp

/-- Text is recognised unless its sample ends inside a character. -/
theorem sniffs_text_iff (text : IsText data) :
    sniffMimeType data suffix = .plainText ↔ ¬ CutInside data := by
  have looks : looksLikeText data = true ↔ ¬ CutInside data := by
    rw [looksLikeText_iff, sample_valid_iff text.decodes, and_iff_left text.few]
  rw [← looks, sniffMimeType]
  simp only [text.notPdf, text.notZip, Bool.false_and, Bool.false_eq_true, if_false]
  split <;> simp_all

/-- What is taken for text begins with text. -/
theorem valid_of_sniffed (sniffed : sniffMimeType data suffix = .plainText) :
    (sample data).IsValidUTF8 := by
  have looks : looksLikeText data = true := by
    unfold sniffMimeType at sniffed
    split at sniffed
    · cases sniffed
    split at sniffed
    · cases sniffed
    split at sniffed
    · assumption
    · cases sniffed
  exact (looksLikeText_iff.mp looks).1

end Text

/-- Every text is recognised whatever its length, unless the byte after its sample belongs
to a character that begins in the sample; and nothing is recognised whose sample cannot
begin a text. -/
theorem plain_text_detection (data : ByteArray) (suffix : String) :
    ((IsText data → sniffMimeType data suffix = .plainText) ↔
        ¬ (IsText data ∧ CutInside data)) ∧
      ((∀ rest : ByteArray, ¬ (sample data ++ rest).IsValidUTF8) →
        sniffMimeType data suffix ≠ .plainText) := by
  constructor
  · rw [not_and]
    apply forall_congr'
    intro text
    exact sniffs_text_iff text
  · intro undecodable sniffed
    apply undecodable ByteArray.empty
    rw [ByteArray.append_empty]
    exact valid_of_sniffed sniffed

/-! ## A document that is missed -/

/-- Letters of one byte and a letter of two. -/
def lettersAccented (letters : Nat) : ByteArray :=
  (List.replicate letters (0x61 : UInt8) ++ [0xC3, 0xA9]).toByteArray

section Document

variable (letters : Nat)

theorem toList_lettersAccented : (lettersAccented letters).data.toList =
    List.replicate letters (0x61 : UInt8) ++ [0xC3, 0xA9] := by
  simp [lettersAccented]

theorem size_lettersAccented : (lettersAccented letters).size = letters + 2 := by
  simp [lettersAccented]

theorem valid_lettersAccented : (lettersAccented letters).IsValidUTF8 := by
  refine ⟨List.replicate letters 'a' ++ ['é'], ?_⟩
  have plain : (List.replicate letters 'a').flatMap String.utf8EncodeChar =
      List.replicate letters (0x61 : UInt8) := by
    induction letters with
    | zero => rfl
    | succ letters induction =>
        rw [List.replicate_succ, List.flatMap_cons, induction]
        rfl
  rw [List.utf8Encode, List.flatMap_append, plain]
  rfl

theorem isText_lettersAccented : IsText (lettersAccented letters) := by
  have bytes := toList_lettersAccented letters
  constructor
  · exact valid_lettersAccented letters
  · rw [startsWith, bytes]
    cases letters <;> rfl
  · rw [startsWith, bytes]
    cases letters <;> rfl
  · have harmless : controls (sample (lettersAccented letters)) = 0 := by
      rw [controls, List.countP_eq_zero]
      intro byte member
      have inside : byte ∈ (lettersAccented letters).data.toList := by
        rw [sample, ByteArray.data_extract, Array.toList_extract] at member
        exact List.mem_of_mem_drop (List.mem_of_mem_take member)
      rw [bytes] at inside
      rcases List.mem_append.mp inside with plain | accented
      · rw [(List.mem_replicate.mp plain).2]
        decide
      · have second : byte = 0xC3 ∨ byte = 0xA9 := by simpa using accented
        rcases second with rfl | rfl <;> decide
    rw [fewControls, harmless, decide_eq_true_eq]
    exact Nat.lt_of_lt_of_le Nat.zero_lt_one (Nat.le_max_right _ _)

theorem second_byte_lettersAccented (inside : letters + 1 < (lettersAccented letters).size) :
    (lettersAccented letters)[letters + 1] = 0xA9 := by
  have within : letters + 1 <
      (List.replicate letters (0x61 : UInt8) ++ [0xC3, 0xA9]).length := by
    simp
  have read : (lettersAccented letters)[letters + 1] =
      (List.replicate letters (0x61 : UInt8) ++ [0xC3, 0xA9])[letters + 1] :=
    List.getElem_toByteArray
  rw [read, List.getElem_append_right (by simp)]
  simp

theorem cutInside_lettersAccented : CutInside (lettersAccented 4095) := by
  have longer : sampleSize < (lettersAccented 4095).size := by
    rw [size_lettersAccented]
    decide
  refine ⟨longer, ?_⟩
  have second := second_byte_lettersAccented 4095 longer
  rw [show (lettersAccented 4095)[sampleSize] = 0xA9 from second]
  decide

end Document

/-- A document of 4097 bytes is text and is not recognised. -/
theorem long_text_missed :
    IsText (lettersAccented 4095) ∧
      sniffMimeType (lettersAccented 4095) ".txt" ≠ .plainText :=
  ⟨isText_lettersAccented 4095, fun sniffed =>
    (sniffs_text_iff (isText_lettersAccented 4095)).mp sniffed cutInside_lettersAccented⟩

end FileSniffing

end ContractMate
