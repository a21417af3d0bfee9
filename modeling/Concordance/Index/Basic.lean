import Concordance.Assoc
import Concordance.DocSet
import Concordance.Number.Integer

/-!
The positional index: for every term the documents that hold it, and for every such document the
positions of the term. A term without documents is not kept, so the vocabulary is exactly the set of
terms that occur somewhere. Questions about unknown terms or documents have empty answers.
-/
namespace Concordance

/-- The documents of one term with the positions of the term in each. -/
abbrev Postings := Assoc DocId (List Int)

/-- A positional index. -/
structure Index where
  postings : Assoc Text Postings
  occupied : ∀ entry ∈ postings.entries, entry.2.entries.isEmpty = false

namespace Index

/-- The index of a table of postings; terms without documents are left out. -/
def ofPostings (postings : Assoc Text Postings) : Index where
  postings := postings.filterValues fun docs => !docs.entries.isEmpty
  occupied := by
    intro entry member
    simp only [Assoc.filterValues, List.mem_filter] at member
    simpa using member.2

/-- The index of nested lists of pairs. -/
def ofLists (lists : List (Text × List (DocId × List Int))) : Index :=
  ofPostings (Assoc.ofList (lists.map fun (term, docs) => (term, Assoc.ofList docs)))

def terms (index : Index) : List Text := index.postings.keys

def size (index : Index) : Nat := index.postings.size

def contains (index : Index) (term : Text) : Bool := index.postings.contains term

/-- The documents of a term, with its positions. -/
def postingsOf (index : Index) (term : Text) : Postings := (index.postings.get? term).getD ∅

/-- The positions of a term in a document. -/
def positionsOf (index : Index) (term : Text) (doc : DocId) : List Int :=
  ((index.postingsOf term).get? doc).getD []

/-- The documents that a table of postings lists. -/
def docSet (postings : Postings) : DocSet := ⟨postings.keys, postings.distinct⟩

/-- The documents that hold a term. -/
def documentsContaining (index : Index) (term : Text) : DocSet := docSet (index.postingsOf term)

/-- Every document with at least one term. -/
def documents (index : Index) : DocSet :=
  DocSet.ofList (index.postings.values.flatMap Assoc.keys)

def documentCount (index : Index) : Nat := index.documents.size

def sortedTerms (index : Index) : List Text := Text.sorted index.terms

/-- The index by its sizes. -/
def summary (index : Index) : Text :=
  "PositionalIndex(terms=".toList ++ Integer.decimalNat index.size ++ ", documents=".toList ++
    Integer.decimalNat index.documentCount ++ [')']

end Index
end Concordance
