import Concordance.Engine
import Concordance.Json.Basic

/-!
Answers to queries as they are printed: for readers as lines, for programs as JSON.
-/
namespace Concordance.Report

/-- What is printed when no document was found. -/
def noResults : Text := "There is no documents returned!".toList

def documentLine (places : Nat) (ranked : RankedDocument) : Text :=
  "Document: ".toList ++ ranked.doc ++ ", Similarity: ".toList ++ FloatText.fixed places ranked.score

/-- The documents of an answer, best first. -/
def answer (places : Nat) (documents : List RankedDocument) : Text :=
  if documents.isEmpty then noResults
  else Text.join ['\n'] ("Ranked Documents:".toList :: documents.map (documentLine places))

inductive AnswerError where
  /-- The number of places is negative. -/
  | negativePlaces
  deriving Repr, DecidableEq

def AnswerError.message : AnswerError → String
  | .negativePlaces => "Format specifier missing precision"

/-- The documents of an answer; scores cannot be printed with less than no places. -/
def answer? (places : Int) (documents : List RankedDocument) : Except AnswerError Text :=
  if places < 0 && !documents.isEmpty then .error .negativePlaces
  else .ok (answer places.toNat documents)

def documentJson (ranked : RankedDocument) : Json :=
  .object [("doc_id".toList, .text ranked.doc), ("score".toList, .float ranked.score)]

def answerJson (query : Text) (outcome : Outcome) : Json :=
  .object [("query".toList, .text query), ("rejected".toList, .bool outcome.isRejected),
    ("documents".toList, .array (outcome.documents.map documentJson))]

end Concordance.Report
