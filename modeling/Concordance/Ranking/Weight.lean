import Concordance.Index.Basic
import Concordance.Number.Logarithm

/-!
Weights of terms. A term counts by the logarithm of its frequency, and by the logarithm of how rare it
is among the documents.
-/
namespace Concordance

namespace Weight

/-- The weight of a frequency: `1 + log10 n`, and nothing for a term that does not occur. -/
def ofFrequency (n : Int) : Float := if n < 1 then 0 else 1 + Double.log10Nat n.toNat

/-- The weight of being rare: `log10 (total / df)`, and nothing if either count is not positive. -/
def ofRarity? (df total : Int) : Except NumberError Float :=
  if df ≤ 0 ∨ total ≤ 0 then .ok 0 else Double.log10Quotient total.toNat df.toNat

/-- The weight of being rare, for counts whose quotient is in the floating-point range, as the
counts of an index are. -/
def ofRarity (df total : Nat) : Float :=
  match ofRarity? df total with
  | .ok weight => weight
  | .error _ => 0

end Weight

/-- What the collection says about one of its terms. -/
structure TermStatistics where
  name : Text
  rarity : Float
  postings : Postings

namespace TermStatistics

def documentFrequency (term : TermStatistics) : Nat := term.postings.size

/-- How often the term occurs in a document. -/
def frequencyIn (term : TermStatistics) (doc : DocId) : Nat :=
  ((term.postings.get? doc).getD []).length

def weightIn (term : TermStatistics) (doc : DocId) : Float :=
  Weight.ofFrequency (term.frequencyIn doc) * term.rarity

/-- The statistics of every term of an index. -/
def ofIndex (index : Index) : Assoc Text TermStatistics :=
  let total := index.documentCount
  index.postings.mapValues fun name postings =>
    ⟨name, Weight.ofRarity postings.size total, postings⟩

end TermStatistics
end Concordance
