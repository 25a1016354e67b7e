import ContractMate.HtmlTemplates
import ContractMate.ReviewSchemas

/-!
# The HTML of review emails

`render_review_email_html` puts a review together from formatted strings, whose texts of
their own are kept apart here from what they interpolate.
-/

namespace ContractMate

namespace ReviewEmailHtml

open Html PythonText

/-! ## Rendering -/

/-- `SEVERITY_ORDER`. -/
def severityOrder : List RiskSeverity :=
  [.critical, .high, .medium, .low]

/-- `SEVERITY_COLORS`: the color, the background and the border. -/
def severityColors : RiskSeverity → String × String × String
  | .critical => ("#991b1b", "#fef2f2", "#fecaca")
  | .high => ("#b45309", "#fffbeb", "#fde68a")
  | .medium => ("#a16207", "#fefce8", "#fef08a")
  | .low => ("#166534", "#f0fdf4", "#bbf7d0")

/-- The arguments of `render_review_email_html`. -/
structure ReviewEmail where
  review : ContractReview
  recipientName : Option String := none
  recipientAddress : Option String := none
  contractUrl : Option String := none

/-- An optional text that counts as true. -/
def given (text : Option String) : Option String :=
  text.filter (· ≠ "")

/-- `text.split()`: the words between white space. -/
def words (text : Text) : List Text :=
  (text.splitOnP isSpace).filter (· ≠ [])

/-- `" ".join(words)`. -/
def joinWords (words : List Text) : Text :=
  [' '].intercalate words

/-- `email_recipient_name`. -/
def emailRecipientName (capitalize : Text → Text) (displayName address : Option String) :
    Text :=
  let displayName := (displayName.getD "").toList
  if strip displayName ≠ [] then joinWords (words displayName)
  else
    let localPart := (address.getD "").toList.takeWhile (· ≠ '@')
    let localPart := Html.replace '.' [' '] localPart
    let localPart := Html.replace '_' [' '] localPart
    let localPart := Html.replace '-' [' '] localPart
    let name := joinWords ((words localPart).map capitalize)
    if name = [] then "there".toList else name

/-- `_risks_by_severity`: the group of a severity, in the order of the review. -/
def risksBySeverity (review : ContractReview) (severity : RiskSeverity) : List ContractRisk :=
  review.risks.filter (·.severity = severity)

/-- A text of the program's own that goes through `escape`. -/
def escapedOwn (text : String) : Piece :=
  .own (String.ofList (escape text.toList))

/-- The text in front of the title of a section. -/
def sectionOpening : Template :=
  [.own "<div style=\"margin:0 0 25px\"><h2 style=\"margin:0 0 9px;color:#14201e;",
    .own "font-size:11px;font-weight:700;letter-spacing:0.08em;line-height:1.4;",
    .own "text-transform:uppercase\">"]

/-- `_section`. -/
def sectionOf (title : String) (content : Template) : Template :=
  sectionOpening ++ [escapedOwn title] ++ [.own "</h2>"] ++ content ++ [.own "</div>"]

def partyItem (party : ContractParty) : Template :=
  [.own "<div style=\"padding:8px 0;border-top:1px solid #e7ecea;color:#30403c;",
    .own "font-size:13px;line-height:1.45\"><strong style=\"color:#14201e\">",
    .escaped party.name.toList, .own "</strong>"] ++
    (match given party.role with
    | none => []
    | some role =>
        [.own " <span style=\"color:#6b7673\">&middot; ", .escaped role.toList,
          .own "</span>"]) ++
    [.own "</div>"]

def partyHtml (review : ContractReview) : Template :=
  if review.parties = [] then []
  else sectionOf "Parties"
    ([.own "<div style=\"border-bottom:1px solid #e7ecea\">"] ++
      review.parties.flatMap partyItem ++ [.own "</div>"])

def termRow (term : ContractTerm) : Template :=
  [.own "<tr><td style=\"padding:8px 10px;border-bottom:1px solid #e7ecea;color:#56625f;",
    .own "font-size:13px\">", .escaped term.name.toList,
    .own "</td><td style=\"padding:8px 10px;border-bottom:1px solid #e7ecea;color:#14201e;",
    .own "font-size:13px;font-weight:700\">"] ++
    (match given term.value with
    | none => [escapedOwn "Not found"]
    | some value => [.escaped value.toList]) ++
    [.own "</td></tr>"]

def termsHtml (review : ContractReview) : Template :=
  if review.keyTerms = [] then []
  else sectionOf "Key terms"
    ([.own "<table role=\"presentation\" width=\"100%\" cellspacing=\"0\" cellpadding=\"0\" ",
      .own "style=\"border:1px solid #e7ecea;border-radius:6px;border-collapse:separate\">"] ++
      review.keyTerms.flatMap termRow ++ [.own "</table>"])

def riskSection (severity : RiskSeverity) (risk : ContractRisk) : Template :=
  let (color, background, _) := severityColors severity
  [.own "<div style=\"margin:0 0 10px;padding:15px 16px;border:1px solid #dfe5e3;",
    .own "border-left:3px solid ", .own color,
    .own ";border-radius:6px;background:#ffffff\"><div style=\"margin:0 0 9px;color:",
    .own color,
    .own ";font-size:10px;font-weight:700;letter-spacing:0.08em;text-transform:uppercase\">",
    escapedOwn severity.value, .own " risk &middot; Page ",
    .number risk.evidence.pageNumber,
    .own "</div><h3 style=\"margin:0 0 6px;color:#14201e;font-size:15px;line-height:1.4\">",
    .escaped risk.title.toList,
    .own "</h3><p style=\"margin:0 0 10px;color:#43514e;font-size:13px;line-height:1.55\">",
    .escaped risk.explanation.toList,
    .own "</p><div style=\"margin:0 0 10px;padding:9px 11px;border-radius:4px;background:",
    .own background, .own ";color:#43514e;font-size:12px;line-height:1.5\">&ldquo;",
    .escaped risk.evidence.exactText.toList,
    .own "&rdquo;</div><p style=\"margin:0;color:#263532;font-size:12px;line-height:1.55\">",
    .own "<strong>Next step:</strong> ", .escaped risk.recommendation.toList,
    .own "</p></div>"]

def riskSections (review : ContractReview) : Template :=
  severityOrder.flatMap fun severity =>
    (risksBySeverity review severity).flatMap (riskSection severity)

def findingsHtml (review : ContractReview) : Template :=
  if riskSections review = [] then
    [.own "<div style=\"padding:14px 16px;border:1px solid #dfe5e3;border-radius:6px;",
      .own "background:#ffffff;color:#43514e;font-size:13px;line-height:1.55\">No ",
      .own "evidence-grounded risks were identified.</div>"]
  else riskSections review

def limitationItem (item : String) : Template :=
  [.own "<li style=\"margin:0 0 6px\">", .escaped item.toList, .own "</li>"]

def limitationsHtml (review : ContractReview) : Template :=
  if review.limitations = [] then []
  else sectionOf "Review limitations"
    ([.own "<ul style=\"margin:0;padding-left:20px;color:#56625f;font-size:13px;",
      .own "line-height:1.6\">"] ++
      review.limitations.flatMap limitationItem ++ [.own "</ul>"])

def actionHtml (contractUrl : Option String) : Template :=
  match given contractUrl with
  | none => []
  | some contractUrl =>
      [.own "<div style=\"margin:26px 0 0\"><a href=\"", .escaped contractUrl.toList,
        .own "\" style=\"display:inline-block;padding:10px 14px;border-radius:6px;",
        .own "background:#0d9488;color:#ffffff;font-size:13px;font-weight:700;",
        .own "text-decoration:none\">Open contract in Samvid &rarr;</a></div>"]

/-- The beginning of the document, up to the recommended next step. -/
def opening (name : Text) (review : ContractReview) : Template :=
  [.own "<!doctype html><html><head><meta name=\"viewport\" content=\"width=device-width, ",
    .own "initial-scale=1.0\"></head><body style=\"margin:0;padding:0;background:#f6f7f4;",
    .own "font-family:Arial,Helvetica,sans-serif;color:#14201e\"><table role=\"presentation\" ",
    .own "width=\"100%\" cellspacing=\"0\" cellpadding=\"0\" style=\"background:#f6f7f4\"><tr>",
    .own "<td align=\"center\" style=\"padding:32px 16px\"><table role=\"presentation\" ",
    .own "width=\"100%\" cellspacing=\"0\" cellpadding=\"0\" style=\"max-width:620px;",
    .own "border:1px solid #dfe5e3;border-radius:8px;background:#ffffff\"><tr><td ",
    .own "style=\"height:3px;background:#0d9488;font-size:0;line-height:0\">&nbsp;</td></tr>",
    .own "<tr><td style=\"padding:19px 26px;border-bottom:1px solid #e7ecea\"><table ",
    .own "role=\"presentation\" width=\"100%\" cellspacing=\"0\" cellpadding=\"0\"><tr><td ",
    .own "style=\"color:#14201e;font-size:17px;font-weight:700\">Samvid</td><td ",
    .own "align=\"right\" style=\"color:#0d9488;font-size:10px;font-weight:700;",
    .own "letter-spacing:0.08em;text-transform:uppercase\">Review ready</td></tr></table></td>",
    .own "</tr><tr><td style=\"padding:28px 26px 10px\"><p style=\"margin:0 0 16px;",
    .own "color:#30403c;font-size:15px;line-height:1.55\">Hi ", .escaped name,
    .own ",</p><h1 style=\"margin:0 0 8px;font-size:23px;line-height:1.25;color:#14201e\">",
    .own "Your contract review is ready.</h1><p style=\"margin:0 0 22px;color:#66736f;",
    .own "font-size:13px;line-height:1.55\">Here is the short version, with evidence kept ",
    .own "close to every finding.</p><div style=\"margin:0 0 25px;padding:15px 16px;",
    .own "border:1px solid #dfe5e3;border-radius:6px;background:#f8faf9\"><div ",
    .own "style=\"margin-bottom:5px;color:#75817d;font-size:10px;font-weight:700;",
    .own "letter-spacing:0.08em;text-transform:uppercase\">Document</div><div ",
    .own "style=\"margin-bottom:14px;color:#14201e;font-size:14px;font-weight:700\">",
    .escaped review.contractType.toList,
    .own "</div><div style=\"margin-bottom:5px;color:#75817d;font-size:10px;font-weight:700;",
    .own "letter-spacing:0.08em;text-transform:uppercase\">Recommended next step</div><div ",
    .own "style=\"color:#30403c;font-size:13px;line-height:1.55\">",
    .escaped review.recommendedNextAction.toList, .own "</div></div>"]

/-- The end of the document. -/
def closing : Template :=
  [.own "<p style=\"margin:26px 0 0;color:#43514e;font-size:13px;line-height:1.55\">Thanks,",
    .own "<br><strong style=\"color:#14201e\">Samvid</strong></p></td></tr><tr><td ",
    .own "style=\"padding:15px 26px;border-top:1px solid #e7ecea;color:#7a8582;",
    .own "font-size:10px\">Sent via Samvid &middot; Contract intelligence that stays with the ",
    .own "work</td></tr></table></td></tr></table></body></html>"]

section Rendering

variable (capitalize : Text → Text)

/-- The formatted strings of `render_review_email_html`. -/
def template (email : ReviewEmail) : Template :=
  let name := emailRecipientName capitalize email.recipientName email.recipientAddress
  opening name email.review ++
    (partyHtml email.review ++ termsHtml email.review ++
      sectionOf "Key findings" (findingsHtml email.review) ++ limitationsHtml email.review ++
      actionHtml email.contractUrl) ++
    closing

/-- `render_review_email_html`. -/
def renderReviewEmailHtml (email : ReviewEmail) : Text :=
  (template capitalize email).text

end Rendering

/-! ## Every template can be filled in -/

/-- Only links have fields in their values. -/
def links : List Text :=
  [['h', 'r', 'e', 'f']]

section Settling

variable {content : Template}

theorem settles_escapedOwn (text : String) : Settles links [escapedOwn text] := by
  have plain : ∀ character ∈ escape text.toList, character ≠ '<' ∧ character ≠ '"' :=
    fun _ => plain_escape
  have stands : State.data.place? links = some .text := rfl
  have scans := scan_content stands plain
  rw [← String.toList_ofList (l := escape text.toList)] at scans
  exact ⟨_, read_own.mpr ⟨_, _, _, scans, rfl, rfl⟩⟩

set_option maxRecDepth 4000 in
theorem settles_sectionOf (title : String) (settles : Settles links content) :
    Settles links (sectionOf title content) := by
  have front : Settles links sectionOpening :=
    settles_of_landing [some _, some _, some _] rfl rfl
  have behind : Settles links [.own "</h2>"] := settles_of_landing [some _] rfl rfl
  have back : Settles links [.own "</div>"] := settles_of_landing [some _] rfl rfl
  exact (((front.append (settles_escapedOwn title)).append behind).append settles).append back

theorem settles_partyItem (party : ContractParty) : Settles links (partyItem party) := by
  rw [partyItem]
  cases given party.role with
  | none => exact settles_of_landing [some _, some _, none, some _, some _] rfl rfl
  | some role =>
      exact settles_of_landing
        [some _, some _, none, some _, some _, none, some _, some _] rfl rfl

set_option maxRecDepth 4000 in
theorem settles_termRow (term : ContractTerm) : Settles links (termRow term) := by
  rw [termRow]
  cases given term.value with
  | none =>
      exact settles_of_landing [some _, some _, none, some _, some _, some _, some _] rfl rfl
  | some value =>
      exact settles_of_landing [some _, some _, none, some _, some _, none, some _] rfl rfl

set_option maxRecDepth 4000 in
theorem settles_riskSection (severity : RiskSeverity) (risk : ContractRisk) :
    Settles links (riskSection severity risk) := by
  cases severity <;>
    exact settles_of_landing [some _, some _, some _, some _, some _, some _, some _, some _,
      none, some _, none, some _, none, some _, some _, some _, none, some _, some _, none,
      some _] rfl rfl

theorem settles_limitationItem (item : String) : Settles links (limitationItem item) :=
  settles_of_landing [some _, none, some _] rfl rfl

theorem settles_partyHtml (review : ContractReview) : Settles links (partyHtml review) := by
  rw [partyHtml]
  by_cases none : review.parties = []
  · rw [if_pos none]
    exact settles_nil
  · rw [if_neg none]
    apply settles_sectionOf
    have front : Settles links [.own "<div style=\"border-bottom:1px solid #e7ecea\">"] :=
      settles_of_landing [some _] rfl rfl
    have back : Settles links [.own "</div>"] := settles_of_landing [some _] rfl rfl
    exact (front.append (settles_flatMap fun party _ => settles_partyItem party)).append back

set_option maxRecDepth 4000 in
theorem settles_termsHtml (review : ContractReview) : Settles links (termsHtml review) := by
  rw [termsHtml]
  by_cases none : review.keyTerms = []
  · rw [if_pos none]
    exact settles_nil
  · rw [if_neg none]
    apply settles_sectionOf
    refine Settles.append (Settles.append ?_
      (settles_flatMap fun term _ => settles_termRow term)) ?_
    · exact settles_of_landing [some _, some _] rfl rfl
    · exact settles_of_landing [some _] rfl rfl

set_option maxRecDepth 4000 in
theorem settles_findingsHtml (review : ContractReview) :
    Settles links (findingsHtml review) := by
  rw [findingsHtml]
  by_cases none : riskSections review = []
  · rw [if_pos none]
    exact settles_of_landing [some _, some _, some _] rfl rfl
  · rw [if_neg none]
    exact settles_flatMap fun severity _ =>
      settles_flatMap fun risk _ => settles_riskSection severity risk

theorem settles_limitationsHtml (review : ContractReview) :
    Settles links (limitationsHtml review) := by
  rw [limitationsHtml]
  by_cases none : review.limitations = []
  · rw [if_pos none]
    exact settles_nil
  · rw [if_neg none]
    apply settles_sectionOf
    refine Settles.append (Settles.append ?_
      (settles_flatMap fun item _ => settles_limitationItem item)) ?_
    · exact settles_of_landing [some _, some _] rfl rfl
    · exact settles_of_landing [some _] rfl rfl

set_option maxRecDepth 4000 in
theorem settles_actionHtml (contractUrl : Option String) :
    Settles links (actionHtml contractUrl) := by
  rw [actionHtml]
  cases given contractUrl with
  | none => exact settles_nil
  | some contractUrl =>
      exact settles_of_landing [some _, none, some _, some _, some _] rfl rfl

set_option maxRecDepth 20000 in
theorem settles_opening (name : Text) (review : ContractReview) :
    Settles links (opening name review) :=
  settles_of_landing [some _, some _, some _, some _, some _, some _, some _, some _, some _,
    some _, some _, some _, some _, some _, some _, none, some _, some _, some _, some _,
    some _, some _, some _, some _, none, some _, some _, some _, none, some _] rfl rfl

set_option maxRecDepth 4000 in
theorem settles_closing : Settles links closing :=
  settles_of_landing [some _, some _, some _, some _, some _] rfl rfl

theorem settles_template (capitalize : Text → Text) (email : ReviewEmail) :
    Settles links (template capitalize email) := by
  have parts := (((((settles_partyHtml email.review).append
    (settles_termsHtml email.review)).append
    (settles_sectionOf "Key findings" (settles_findingsHtml email.review))).append
    (settles_limitationsHtml email.review)).append (settles_actionHtml email.contractUrl))
  exact ((settles_opening _ email.review).append parts).append settles_closing

end Settling

/-! ## Emails of the same shape -/

section Shapes

variable {first second : ReviewEmail}

/-- The same numbers of parties, terms, limitations and risks of each severity, and the
same optional fields. -/
structure SameShape (first second : ReviewEmail) : Prop where
  parties : first.review.parties.map (fun party => (given party.role).isSome) =
    second.review.parties.map fun party => (given party.role).isSome
  keyTerms : first.review.keyTerms.map (fun term => (given term.value).isSome) =
    second.review.keyTerms.map fun term => (given term.value).isSome
  risks : ∀ severity, (risksBySeverity first.review severity).length =
    (risksBySeverity second.review severity).length
  limitations : first.review.limitations.length = second.review.limitations.length
  contractUrl : (given first.contractUrl).isSome = (given second.contractUrl).isSome

/-- The texts that are filled in, in the order of the document. -/
def ReviewEmail.fields (capitalize : Text → Text) (email : ReviewEmail) : List Text :=
  [emailRecipientName capitalize email.recipientName email.recipientAddress,
    email.review.contractType.toList, email.review.recommendedNextAction.toList] ++
  (email.review.parties.flatMap fun party =>
    party.name.toList :: ((given party.role).map String.toList).toList) ++
  (email.review.keyTerms.flatMap fun term =>
    term.name.toList :: ((given term.value).map String.toList).toList) ++
  (severityOrder.flatMap fun severity =>
    (risksBySeverity email.review severity).flatMap fun risk =>
      [Nat.toDigits 10 risk.evidence.pageNumber, risk.title.toList, risk.explanation.toList,
        risk.evidence.exactText.toList, risk.recommendation.toList]) ++
  email.review.limitations.map String.toList ++
  ((given email.contractUrl).map String.toList).toList

theorem outline_sectionOf (title : String) {content other : Template}
    (same : content.outline = other.outline) :
    (sectionOf title content).outline = (sectionOf title other).outline := by
  simp only [sectionOf, outline_append, same]

theorem outline_partyItem {party other : ContractParty}
    (same : (given party.role).isSome = (given other.role).isSome) :
    (partyItem party).outline = (partyItem other).outline := by
  rw [partyItem, partyItem]
  generalize given party.role = role at same ⊢
  generalize given other.role = otherRole at same ⊢
  cases role <;> cases otherRole
  · rfl
  · cases same
  · cases same
  · rfl

theorem outline_termRow {term other : ContractTerm}
    (same : (given term.value).isSome = (given other.value).isSome) :
    (termRow term).outline = (termRow other).outline := by
  rw [termRow, termRow]
  generalize given term.value = value at same ⊢
  generalize given other.value = otherValue at same ⊢
  cases value <;> cases otherValue
  · rfl
  · cases same
  · cases same
  · rfl

theorem outline_riskSections (same : SameShape first second) :
    (riskSections first.review).outline = (riskSections second.review).outline := by
  have risks : ∀ severity,
      Template.outline ((risksBySeverity first.review severity).flatMap (riskSection severity)) =
        Template.outline
          ((risksBySeverity second.review severity).flatMap (riskSection severity)) :=
    fun severity => outline_flatMap_length (fun _ _ => rfl) (same.risks severity)
  simp only [riskSections, severityOrder, List.flatMap_cons, List.flatMap_nil, outline_append,
    risks]

theorem outline_partyHtml (same : SameShape first second) :
    (partyHtml first.review).outline = (partyHtml second.review).outline := by
  have items := outline_flatMap_congr (fun _ _ => outline_partyItem) same.parties
  have none : first.review.parties = [] ↔ second.review.parties = [] := by
    rw [← List.map_eq_nil_iff, same.parties, List.map_eq_nil_iff]
  rw [partyHtml, partyHtml]
  by_cases empty : first.review.parties = []
  · rw [if_pos empty, if_pos (none.mp empty)]
  · rw [if_neg empty, if_neg (mt none.mpr empty)]
    apply outline_sectionOf
    simp only [outline_append, items]

theorem outline_termsHtml (same : SameShape first second) :
    (termsHtml first.review).outline = (termsHtml second.review).outline := by
  have rows := outline_flatMap_congr (fun _ _ => outline_termRow) same.keyTerms
  have none : first.review.keyTerms = [] ↔ second.review.keyTerms = [] := by
    rw [← List.map_eq_nil_iff, same.keyTerms, List.map_eq_nil_iff]
  rw [termsHtml, termsHtml]
  by_cases empty : first.review.keyTerms = []
  · rw [if_pos empty, if_pos (none.mp empty)]
  · rw [if_neg empty, if_neg (mt none.mpr empty)]
    apply outline_sectionOf
    simp only [outline_append, rows]

theorem outline_findingsHtml (same : SameShape first second) :
    (findingsHtml first.review).outline = (findingsHtml second.review).outline := by
  have sections := outline_riskSections same
  have none := eq_nil_of_outline sections
  rw [findingsHtml, findingsHtml]
  by_cases empty : riskSections first.review = []
  · rw [if_pos empty, if_pos (none.mp empty)]
  · rw [if_neg empty, if_neg (mt none.mpr empty), sections]

theorem outline_limitationsHtml (same : SameShape first second) :
    (limitationsHtml first.review).outline = (limitationsHtml second.review).outline := by
  have agree : ∀ item other, (limitationItem item).outline = (limitationItem other).outline :=
    fun _ _ => rfl
  have items := outline_flatMap_length agree same.limitations
  have none : first.review.limitations = [] ↔ second.review.limitations = [] := by
    rw [← List.length_eq_zero_iff, same.limitations, List.length_eq_zero_iff]
  rw [limitationsHtml, limitationsHtml]
  by_cases empty : first.review.limitations = []
  · rw [if_pos empty, if_pos (none.mp empty)]
  · rw [if_neg empty, if_neg (mt none.mpr empty)]
    apply outline_sectionOf
    simp only [outline_append, items]

theorem outline_actionHtml {contractUrl other : Option String}
    (same : (given contractUrl).isSome = (given other).isSome) :
    (actionHtml contractUrl).outline = (actionHtml other).outline := by
  rw [actionHtml, actionHtml]
  generalize given contractUrl = url at same ⊢
  generalize given other = otherUrl at same ⊢
  cases url <;> cases otherUrl
  · rfl
  · cases same
  · cases same
  · rfl

theorem outline_template (capitalize : Text → Text) (same : SameShape first second) :
    (template capitalize first).outline = (template capitalize second).outline := by
  have begins : ∀ name other, (opening name first.review).outline =
      (opening other second.review).outline := fun _ _ => rfl
  have findings := outline_sectionOf "Key findings" (outline_findingsHtml same)
  rw [template, template]
  simp only [outline_append]
  rw [begins _ (emailRecipientName capitalize second.recipientName second.recipientAddress),
    outline_partyHtml same, outline_termsHtml same, findings, outline_limitationsHtml same,
    outline_actionHtml same.contractUrl]

/-! ## The fields of an email -/

theorem fields_sectionOf (title : String) (content : Template) :
    (sectionOf title content).fields = content.fields := by
  rw [sectionOf, fields_append, fields_append, fields_append, fields_append]
  exact List.append_nil _

theorem fields_partyItem (party : ContractParty) :
    (partyItem party).fields =
      party.name.toList :: ((given party.role).map String.toList).toList := by
  rw [partyItem]
  cases given party.role <;> rfl

theorem fields_termRow (term : ContractTerm) :
    (termRow term).fields = term.name.toList :: ((given term.value).map String.toList).toList := by
  rw [termRow]
  cases given term.value <;> rfl

theorem fields_partyHtml (review : ContractReview) :
    (partyHtml review).fields = review.parties.flatMap fun party =>
      party.name.toList :: ((given party.role).map String.toList).toList := by
  rw [partyHtml]
  by_cases none : review.parties = []
  · rw [if_pos none, none]
    rfl
  · rw [if_neg none, fields_sectionOf, fields_append, fields_append, fields_flatMap,
      List.flatMap_congr fun party _ => fields_partyItem party]
    exact List.append_nil _

theorem fields_termsHtml (review : ContractReview) :
    (termsHtml review).fields = review.keyTerms.flatMap fun term =>
      term.name.toList :: ((given term.value).map String.toList).toList := by
  rw [termsHtml]
  by_cases none : review.keyTerms = []
  · rw [if_pos none, none]
    rfl
  · rw [if_neg none, fields_sectionOf, fields_append, fields_append, fields_flatMap,
      List.flatMap_congr fun term _ => fields_termRow term]
    exact List.append_nil _

theorem fields_riskSections (review : ContractReview) :
    (riskSections review).fields = severityOrder.flatMap fun severity =>
      (risksBySeverity review severity).flatMap fun risk =>
        [Nat.toDigits 10 risk.evidence.pageNumber, risk.title.toList, risk.explanation.toList,
          risk.evidence.exactText.toList, risk.recommendation.toList] := by
  rw [riskSections, fields_flatMap]
  apply List.flatMap_congr
  intro severity _
  exact fields_flatMap _ _

theorem fields_findingsHtml (review : ContractReview) :
    (findingsHtml review).fields = (riskSections review).fields := by
  rw [findingsHtml]
  by_cases none : riskSections review = []
  · rw [if_pos none, none]
    rfl
  · rw [if_neg none]

theorem fields_limitationsHtml (review : ContractReview) :
    (limitationsHtml review).fields = review.limitations.map String.toList := by
  rw [limitationsHtml]
  by_cases none : review.limitations = []
  · rw [if_pos none, none]
    rfl
  · have items : Template.fields (review.limitations.flatMap limitationItem) =
        review.limitations.map String.toList := by
      rw [fields_flatMap]
      exact List.map_eq_flatMap.symm
    rw [if_neg none, fields_sectionOf, fields_append, fields_append, items]
    exact List.append_nil _

theorem fields_actionHtml (contractUrl : Option String) :
    (actionHtml contractUrl).fields = ((given contractUrl).map String.toList).toList := by
  rw [actionHtml]
  cases given contractUrl <;> rfl

theorem fields_template (capitalize : Text → Text) (email : ReviewEmail) :
    (template capitalize email).fields = email.fields capitalize := by
  rw [template, ReviewEmail.fields]
  simp only [fields_append, fields_partyHtml, fields_termsHtml, fields_sectionOf,
    fields_findingsHtml, fields_riskSections, fields_limitationsHtml, fields_actionHtml,
    List.append_assoc]
  have first : ∀ name, (opening name email.review).fields =
      [name, email.review.contractType.toList, email.review.recommendedNextAction.toList] :=
    fun _ => rfl
  have last : closing.fields = [] := rfl
  rw [first, last, List.append_nil]

end Shapes

/-- Two emails of the same shape have the same tags, attribute names and attribute values
but for the links.  Each shows its fields at the same positions, and reading the references
there gives back their texts. -/
theorem review_emails_injection_free (capitalize : Text → Text) (entities : Entities)
    (first second : ReviewEmail) (same : SameShape first second) :
    ∃ firstParts secondParts,
      Fills entities (renderReviewEmailHtml capitalize first) firstParts
        (first.fields capitalize) ∧
      Fills entities (renderReviewEmailHtml capitalize second) secondParts
        (second.fields capitalize) ∧
      firstParts.map Part.outline = secondParts.map Part.outline ∧
      (firstParts.flatMap Part.events).filter (Event.isTag links) =
        (secondParts.flatMap Part.events).filter (Event.isTag links) := by
  have found := same_tags_of_outline entities (settles_template capitalize first)
    (outline_template capitalize same)
  rwa [fields_template, fields_template] at found

/-! ## An email with markup in its fields -/

section Sample

/-- The names that escaping writes. -/
def basicEntities : Entities where
  html5 name :=
    [("amp;".toList, ['&']), ("lt;".toList, ['<']), ("gt;".toList, ['>']),
      ("quot;".toList, ['"'])].lookup name
  amp := by decide
  lt := by decide
  gt := by decide
  quot := by decide

/-- `str.capitalize` on words of ASCII letters. -/
def capitalizeAscii : Text → Text
  | [] => []
  | first :: rest => first.toUpper :: rest.map Char.toLower

def sampleEmail (text : String) : ReviewEmail where
  review :=
    { contractId := "C1", contractType := text
      parties := [{ name := text, role := some "Landlord" }]
      keyTerms := [{ name := "Term", value := none, confidence := ⟨1, certain_range⟩ }]
      recommendedNextAction := text, limitations := [text] }
  recipientAddress := some "ana.lee@example.com"
  contractUrl := some "https://example.com/?a=1&b=2"

/-- A field with a tag and a plain one give the same tags. -/
theorem review_emails_injection_free_markup :
    ∃ firstParts secondParts,
      Fills basicEntities (renderReviewEmailHtml capitalizeAscii (sampleEmail "lease"))
        firstParts ((sampleEmail "lease").fields capitalizeAscii) ∧
      Fills basicEntities (renderReviewEmailHtml capitalizeAscii (sampleEmail "</div><br>"))
        secondParts ((sampleEmail "</div><br>").fields capitalizeAscii) ∧
      firstParts.map Part.outline = secondParts.map Part.outline ∧
      (firstParts.flatMap Part.events).filter (Event.isTag links) =
        (secondParts.flatMap Part.events).filter (Event.isTag links) := by
  apply review_emails_injection_free
  exact ⟨rfl, rfl, fun severity => by cases severity <;> rfl, rfl, rfl⟩

end Sample

end ReviewEmailHtml

end ContractMate
