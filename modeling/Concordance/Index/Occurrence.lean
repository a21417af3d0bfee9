import Concordance.Analysis.Token
import Concordance.Index.Basic
import Concordance.Index.Positions

/-!
Occurrences of terms. A document gives one occurrence for each of its tokens; an index collects
occurrences by term and document, in whatever order they come.
-/
namespace Concordance

/-- A term at a position of a document. -/
structure Occurrence where
  term : Text
  doc : DocId
  position : Int
  deriving Repr, DecidableEq

namespace Occurrence

/-- The occurrences of a document's words, numbered from zero. -/
def ofDocument (doc : DocId) (t : Text) : List Occurrence :=
  (Analysis.tokens t).map fun token => ⟨token.text, doc, token.position⟩

def enter (postings : Assoc Text Postings) (occurrence : Occurrence) : Assoc Text Postings :=
  postings.update occurrence.term fun docs =>
    (docs.getD ∅).update occurrence.doc fun positions =>
      Positions.insert occurrence.position (positions.getD [])

end Occurrence

namespace Index

def ofOccurrences (occurrences : List Occurrence) : Index :=
  ofPostings (occurrences.foldl Occurrence.enter ∅)

/-- The index of documents with their texts. -/
def ofDocuments (documents : List (DocId × Text)) : Index :=
  ofOccurrences (documents.flatMap fun (doc, t) => Occurrence.ofDocument doc t)

end Index
end Concordance
