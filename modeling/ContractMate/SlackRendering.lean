import ContractMate.ReviewSchemas
import ContractMate.SlackTables

/-!
# Slack messages

The texts and blocks of the messages that intake and worker queue.
-/

namespace ContractMate
namespace SlackRendering

/-- `_escape`: `&` first, so that no entity is escaped twice. -/
def escape (value : String) : String :=
  String.ofList (value.toList.flatMap fun character =>
    if character = '&' then "&amp;".toList
    else if character = '<' then "&lt;".toList
    else if character = '>' then "&gt;".toList
    else [character])

/-- `_actions`. -/
def actions (contractUrl : ContractUrl) : SlackBlock :=
  .actions "Open in Samvid" contractUrl

/-- `receipt_message`. -/
def receiptMessage (filename : String) : String × List SlackBlock :=
  ("Samvid received " ++ filename ++ " and queued it for contract review.",
    [.section ("*Contract received*\n\x60" ++ escape filename ++
      "\x60 is queued for review.")])

/-- The non-zero severity counts, worst first. -/
def riskCounts (review : ContractReview) : String :=
  let counts := [RiskSeverity.critical, .high, .medium, .low].filterMap
    fun level =>
      let count := (review.risks.map ContractRisk.severity).count level
      if count = 0 then none else some (toString count ++ " " ++ level.value)
  if counts.isEmpty then "No risks identified" else ", ".intercalate counts

/-- `review_message`. -/
def reviewMessage (review : Option ContractReview) (filename : String)
    (contractUrl : ContractUrl) (fallbackMessage : String) :
    String × List SlackBlock :=
  match review with
  | none =>
      ("Review completed for " ++ filename ++ ". " ++ fallbackMessage,
        [.section ("*Review completed*\n" ++ escape filename),
          actions contractUrl])
  | some review =>
      let titles := "\n".intercalate
        ((review.risks.take 3).map fun risk => "• " ++ escape risk.title)
      let fields := "*Risks*\n" ++ riskCounts review ++
        "\n\n*Recommended action*\n" ++ escape review.recommendedNextAction
      ("Review completed for " ++ filename ++ ": " ++ riskCounts review ++
          ". Recommended action: " ++ review.recommendedNextAction,
        [.header "Contract review ready",
          .section ("*File*\n" ++ escape filename ++ "\n\n" ++ fields)] ++
          (if titles = "" then []
            else [.section ("*Top risks*\n" ++ titles)]) ++
          [actions contractUrl])

/-- `failure_message`. -/
def failureMessage (filename : String) : String × List SlackBlock :=
  ("Samvid could not complete the review for " ++ filename ++
      ". Please try again or open Samvid for help.",
    [.section ("*Review failed*\nWe couldn't complete the review for " ++
      escape filename ++ ". Please try again.")])

/-- `rejection_message`. -/
def rejectionMessage (message : String) : String × List SlackBlock :=
  ("Samvid could not accept this request: " ++ message,
    [.section ("*Contract not accepted*\n" ++ escape message)])

end SlackRendering
end ContractMate
