import ContractMate.EscapedText
import ContractMate.SlackRendering

/-!
# Text of others in Slack messages

Each message is taken apart into what its builder writes itself and what it interpolates,
escaped or as it is.  The blocks escape all they interpolate.  The texts escape nothing,
so that a message is neutral exactly when what its text interpolates is already escaped.
-/

namespace ContractMate

namespace SlackRendering

open PythonText

/-- The characters that Slack reads as control characters. -/
def controlCharacters : Escaping where
  references := [('&', ['a', 'm', 'p']), ('<', ['l', 't']), ('>', ['g', 't'])]
  ampersand := rfl
  semicolon := rfl
  plain_names := by decide

/-- What a builder puts together: text of its own, and values that it interpolates. -/
inductive Piece where
  | own (text : String)
  | plain (value : String)
  | escaped (value : String)
deriving DecidableEq, Repr

namespace Piece

def text : Piece → String
  | own text => text
  | plain value => value
  | escaped value => escape value

/-- The part of the message that comes from the value. -/
def interpolated : Piece → Option String
  | own _ => none
  | plain value => some value
  | escaped value => some (escape value)

end Piece

/-- The pieces of a text. -/
abbrev Template := List Piece

def Template.text (template : Template) : String :=
  String.join (template.map Piece.text)

/-- The substrings of a text that come from interpolated values. -/
def Template.interpolated (template : Template) : List String :=
  template.filterMap Piece.interpolated

/-- No control character is left unescaped. -/
def Neutral (text : String) : Prop :=
  controlCharacters.isEscaped text.toList = true

instance (text : String) : Decidable (Neutral text) :=
  inferInstanceAs (Decidable (_ = true))

def Template.Neutral (template : Template) : Prop :=
  ∀ text ∈ template.interpolated, SlackRendering.Neutral text

/-- A call of one of the builders. -/
inductive Message where
  | receipt (filename : String)
  | review (review : Option ContractReview) (filename : String) (contractUrl : ContractUrl)
      (fallbackMessage : String)
  | failure (filename : String)
  | rejection (message : String)

namespace Message

def render : Message → String × List SlackBlock
  | receipt filename => receiptMessage filename
  | review reviewed filename contractUrl fallbackMessage =>
      reviewMessage reviewed filename contractUrl fallbackMessage
  | failure filename => failureMessage filename
  | rejection message => rejectionMessage message

/-- The pieces of the text. -/
def text : Message → Template
  | receipt filename =>
      [.own "Samvid received ", .plain filename,
        .own " and queued it for contract review."]
  | review none filename _ fallbackMessage =>
      [.own "Review completed for ", .plain filename, .own ". ", .plain fallbackMessage]
  | review (some reviewed) filename _ _ =>
      [.own "Review completed for ", .plain filename,
        .own ": ", .own (riskCounts reviewed), .own ". Recommended action: ",
        .plain reviewed.recommendedNextAction]
  | failure filename =>
      [.own "Samvid could not complete the review for ", .plain filename,
        .own ". Please try again or open Samvid for help."]
  | rejection message => [.own "Samvid could not accept this request: ", .plain message]

/-- The titles of the first risks. -/
def topRisks (reviewed : ContractReview) : Template :=
  (((reviewed.risks.take 3).map fun risk =>
    [.own "• ", .escaped risk.title]).intersperse [.own "\n"]).flatten

/-- The pieces of the `mrkdwn` texts of the blocks. -/
def blocks : Message → List Template
  | receipt filename =>
      [[.own "*Contract received*\n\x60", .escaped filename, .own "\x60 is queued for review."]]
  | review none filename _ _ => [[.own "*Review completed*\n", .escaped filename]]
  | review (some reviewed) filename _ _ =>
      [.own "*File*\n", .escaped filename, .own "\n\n", .own "*Risks*\n",
        .own (riskCounts reviewed), .own "\n\n*Recommended action*\n",
        .escaped reviewed.recommendedNextAction] ::
      if (topRisks reviewed).text = "" then []
      else [.own "*Top risks*\n" :: topRisks reviewed]
  | failure filename =>
      [[.own "*Review failed*\nWe couldn't complete the review for ", .escaped filename,
        .own ". Please try again."]]
  | rejection message => [[.own "*Contract not accepted*\n", .escaped message]]

end Message

/-- The `mrkdwn` texts of blocks. -/
def mrkdwn (blocks : List SlackBlock) : List String :=
  blocks.filterMap fun
    | .section text => some text
    | _ => none

theorem text_two (first second : Piece) :
    Template.text [first, second] = first.text ++ second.text := by
  simp [Template.text]

theorem text_three (first second third : Piece) :
    Template.text [first, second, third] = first.text ++ second.text ++ third.text := by
  simp [Template.text, String.append_assoc]

theorem text_four (first second third fourth : Piece) :
    Template.text [first, second, third, fourth] =
      first.text ++ second.text ++ third.text ++ fourth.text := by
  simp [Template.text, String.append_assoc]

theorem text_cons (piece : Piece) (template : Template) :
    Template.text (piece :: template) = piece.text ++ Template.text template := by
  simp [Template.text]

theorem text_append (front back : Template) :
    Template.text (front ++ back) = front.text ++ back.text := by
  simp [Template.text]

theorem text_intersperse (separator : String) (templates : List Template) :
    Template.text ((templates.intersperse [.own separator]).flatten) =
      separator.intercalate (templates.map Template.text) := by
  induction templates with
  | nil => simp [Template.text]
  | cons first rest induction =>
      cases rest with
      | nil => simp
      | cons second rest =>
          have shape : (first :: second :: rest).intersperse [Piece.own separator] =
              first :: [.own separator] :: (second :: rest).intersperse [.own separator] :=
            rfl
          rw [shape, List.flatten_cons, List.flatten_cons, text_append, List.singleton_append,
            text_cons, induction]
          simp only [List.map_cons, String.intercalate_cons_cons, Piece.text,
            String.append_assoc]

theorem text_topRisks (reviewed : ContractReview) :
    (Message.topRisks reviewed).text = "\n".intercalate
      ((reviewed.risks.take 3).map fun risk => "• " ++ escape risk.title) := by
  have titles : ∀ risk ∈ reviewed.risks.take 3,
      Template.text [.own "• ", .escaped risk.title] = "• " ++ escape risk.title :=
    fun risk _ => text_two (.own _) (.escaped _)
  rw [Message.topRisks, text_intersperse, List.map_map]
  exact congrArg _ (List.map_congr_left titles)

theorem text_reviewText (first before counts behind filename action : String) :
    Template.text [.own first, .plain filename, .own before, .own counts, .own behind,
      .plain action] = first ++ filename ++ before ++ counts ++ behind ++ action := by
  simp [Template.text, Piece.text, String.append_assoc]

theorem text_reviewBlock (first gap before counts behind filename action : String) :
    Template.text [.own first, .escaped filename, .own gap, .own before, .own counts,
      .own behind, .escaped action] =
        first ++ escape filename ++ gap ++ (before ++ counts ++ behind ++ escape action) := by
  simp [Template.text, Piece.text, String.append_assoc]

theorem mrkdwn_reviewBlocks (heading file top titles : String) (contractUrl : ContractUrl) :
    mrkdwn ([.header heading, .section file] ++
      (if titles = "" then [] else [.section (top ++ titles)]) ++ [actions contractUrl]) =
        file :: if titles = "" then [] else [top ++ titles] := by
  by_cases none : titles = ""
  · rw [if_pos none, if_pos none]
    rfl
  · rw [if_neg none, if_neg none]
    rfl

/-- The pieces make up the message. -/
theorem render_pieces (message : Message) :
    message.render.1 = message.text.text ∧
      mrkdwn message.render.2 = message.blocks.map Template.text := by
  cases message with
  | receipt filename | failure filename =>
      exact ⟨(text_three (.own _) (.plain _) (.own _)).symm,
        congrArg (fun text => [text]) (text_three (.own _) (.escaped _) (.own _)).symm⟩
  | rejection message =>
      exact ⟨(text_two (.own _) (.plain _)).symm,
        congrArg (fun text => [text]) (text_two (.own _) (.escaped _)).symm⟩
  | review reviewed filename contractUrl fallbackMessage =>
      cases reviewed with
      | none =>
          exact ⟨(text_four (.own _) (.plain _) (.own _) (.plain _)).symm,
            congrArg (fun text => [text]) (text_two (.own _) (.escaped _)).symm⟩
      | some reviewed =>
          refine ⟨(text_reviewText ..).symm, ?_⟩
          apply (mrkdwn_reviewBlocks ..).trans
          apply Eq.trans _ (List.map_cons ..).symm
          rw [text_reviewBlock, text_topRisks]
          by_cases none : "\n".intercalate
              ((reviewed.risks.take 3).map fun risk => "• " ++ escape risk.title) = ""
          · rw [if_pos none, if_pos none]
            rfl
          · rw [if_neg none, if_neg none, List.map_cons, text_cons, text_topRisks]
            rfl

/-! ## Neutral messages -/

theorem escapeChar_controlCharacters (character : Char) :
    controlCharacters.escapeChar character =
      if character = '&' then "&amp;".toList
      else if character = '<' then "&lt;".toList
      else if character = '>' then "&gt;".toList
      else [character] := by
  by_cases ampersand : character = '&'
  · subst ampersand
    decide
  · by_cases less : character = '<'
    · subst less
      decide
    · by_cases greater : character = '>'
      · subst greater
        decide
      · have plain : controlCharacters.references.lookup character = none := by
          simp [controlCharacters, List.lookup, beq_eq_false_iff_ne.mpr ampersand,
            beq_eq_false_iff_ne.mpr less, beq_eq_false_iff_ne.mpr greater]
        rw [Escaping.escapeChar, plain, if_neg ampersand, if_neg less, if_neg greater]

/-- `_escape` replaces the control characters. -/
theorem toList_escape (value : String) :
    (escape value).toList = controlCharacters.escape value.toList := by
  rw [escape, String.toList_ofList, Escaping.escape]
  exact List.flatMap_congr fun character _ => (escapeChar_controlCharacters character).symm

theorem neutral_escape (value : String) : Neutral (escape value) := by
  rw [Neutral, toList_escape]
  exact Escaping.isEscaped_escape _

/-- Values that are interpolated as they are. -/
def Template.plainValues (template : Template) : List String :=
  template.filterMap fun
    | .plain value => some value
    | _ => none

/-- What is escaped is neutral; what is not has to be so by itself. -/
theorem template_neutral_iff (template : Template) :
    template.Neutral ↔ ∀ value ∈ template.plainValues, Neutral value := by
  induction template with
  | nil => simp [Template.Neutral, Template.interpolated, Template.plainValues]
  | cons piece template induction =>
      rw [Template.Neutral, Template.interpolated, Template.plainValues] at *
      cases piece with
      | own text => simpa [Piece.interpolated] using induction
      | plain value => simpa [Piece.interpolated] using fun _ => induction
      | escaped value => simpa [Piece.interpolated, neutral_escape] using induction

/-- No text or block of the message shows an unescaped control character of others. -/
def Message.Neutral (message : Message) : Prop :=
  message.text.Neutral ∧ ∀ template ∈ message.blocks, template.Neutral

/-- The values that the text of a message interpolates. -/
def Message.values : Message → List String
  | receipt filename => [filename]
  | review none filename _ fallbackMessage => [filename, fallbackMessage]
  | review (some reviewed) filename _ _ => [filename, reviewed.recommendedNextAction]
  | failure filename => [filename]
  | rejection message => [message]

theorem plainValues_text (message : Message) :
    message.text.plainValues = message.values := by
  cases message with
  | review reviewed filename contractUrl fallbackMessage => cases reviewed <;> rfl
  | receipt filename | failure filename | rejection message => rfl

theorem plainValues_intersperse {separator : String} {templates : List Template}
    (none : ∀ template ∈ templates, template.plainValues = []) :
    Template.plainValues ((templates.intersperse [.own separator]).flatten) = [] := by
  rw [Template.plainValues, List.filterMap_eq_nil_iff]
  intro piece member
  obtain ⟨template, listed, within⟩ := List.mem_flatten.mp member
  have origin : template = [.own separator] ∨ template ∈ templates := by
    clear member within none
    induction templates with
    | nil => cases listed
    | cons first rest induction =>
        cases rest with
        | nil => exact .inr listed
        | cons second rest =>
            rcases List.mem_cons.mp listed with rfl | listed
            · exact .inr (List.mem_cons_self ..)
            · rcases List.mem_cons.mp listed with rfl | listed
              · exact .inl rfl
              · exact (induction listed).imp_right (List.mem_cons_of_mem _)
  rcases origin with rfl | stored
  · rw [List.mem_singleton.mp within]
  · have all := none template stored
    rw [Template.plainValues, List.filterMap_eq_nil_iff] at all
    exact all piece within

/-- The blocks interpolate nothing as it is. -/
theorem plainValues_blocks (message : Message) :
    ∀ template ∈ message.blocks, template.plainValues = [] := by
  intro template member
  cases message with
  | receipt filename | failure filename | rejection message =>
      rw [List.mem_singleton.mp member]
      rfl
  | review reviewed filename contractUrl fallbackMessage =>
      cases reviewed with
      | none =>
          rw [List.mem_singleton.mp member]
          rfl
      | some reviewed =>
          rcases List.mem_cons.mp member with rfl | top
          · rfl
          · by_cases none : (Message.topRisks reviewed).text = ""
            · rw [if_pos none] at top
              cases top
            · rw [if_neg none] at top
              rw [List.mem_singleton.mp top]
              apply plainValues_intersperse
              intro template mapped
              obtain ⟨risk, _, rfl⟩ := List.mem_map.mp mapped
              rfl

/-- A message is neutral exactly when every value that its text interpolates is. -/
theorem message_neutral_iff (message : Message) :
    message.render.1 = message.text.text ∧
      mrkdwn message.render.2 = message.blocks.map Template.text ∧
      (message.Neutral ↔ ∀ value ∈ message.values, Neutral value) := by
  refine ⟨(render_pieces message).1, (render_pieces message).2, ?_⟩
  have blocks : ∀ template ∈ message.blocks, template.Neutral := by
    intro template member
    rw [template_neutral_iff, plainValues_blocks message template member]
    intro value none
    cases none
  rw [Message.Neutral, template_neutral_iff, plainValues_text]
  exact and_iff_left blocks

/-- The name of a file becomes a mention of the channel. -/
theorem receipt_mentions_channel : ¬ ∀ message : Message, message.Neutral := by
  intro neutral
  have named : Neutral "<!channel>.pdf" :=
    (neutral (.receipt "<!channel>.pdf")).1 _ (List.mem_singleton.mpr rfl)
  revert named
  decide

end SlackRendering

end ContractMate
