import Concordance.Number.FloatText
import Concordance.Ranking.Weight

/-!
Tables about an index. Each row is a term, each column a document, both in code point order; every cell
is padded or cut to the width of its column.
-/
namespace Concordance.Report

/-- The beginning of a text up to a place, which counts from the end if it is negative. -/
def upTo (place : Int) (t : Text) : Text :=
  t.take (if place < 0 then (t.length + place).toNat else place.toNat)

/-- A cell: padded on the right, or cut and ended with three dots. -/
def cell (width : Int) (t : Text) : Text :=
  if width < t.length then upTo (width - 3) t ++ "...".toList else Text.padRight width.toNat t

/-- The widths of the columns. -/
structure Widths where
  term : Int
  document : Int
  deriving Repr, DecidableEq

/-- The widths where none are given. -/
def Widths.standard : Widths := ⟨15, 10⟩

/-- The greatest width that a cell can be padded to. -/
def widthLimit : Int := 9223372036854775807

inductive TableError where
  /-- A column is wider than a cell can be. -/
  | tooWide
  deriving Repr, DecidableEq

/-- Whether every column of a table can be padded. The terms have one column, each document another. -/
def Widths.fit (widths : Widths) (docs : List DocId) : Bool :=
  widths.term ≤ widthLimit && (docs.isEmpty || widths.document ≤ widthLimit)

/-- Refuses columns that cannot be padded. -/
def Widths.check (widths : Widths) (docs : List DocId) : Except TableError Unit :=
  if widths.fit docs then .ok () else .error .tooWide

/-- The value of a term in a document, or zero where it does not occur. -/
def value (spell : TermStatistics → DocId → Text) (term : TermStatistics) (doc : DocId) : Text :=
  if term.postings.contains doc then spell term doc else ['0']

def row (widths : Widths) (spell : TermStatistics → DocId → Text) (docs : List DocId)
    (term : TermStatistics) : Text :=
  cell widths.term term.name ++ docs.flatMap fun doc => cell widths.document (value spell term doc)

def heading (widths : Widths) (docs : List DocId) : Text :=
  cell widths.term "Term".toList ++ docs.flatMap (cell widths.document)

/-- The terms in code point order. -/
def sortedTerms (statistics : Assoc Text TermStatistics) : List TermStatistics :=
  (Text.sorted statistics.keys).filterMap statistics.get?

/-- The lines of a table of terms and documents. -/
def matrix (widths : Widths) (spell : TermStatistics → DocId → Text)
    (statistics : Assoc Text TermStatistics) (docs : List DocId) : List Text :=
  let columns := Text.sorted docs
  heading widths columns :: (sortedTerms statistics).map (row widths spell columns)

/-- How often each term occurs in each document. -/
def frequencies (widths : Widths) (statistics : Assoc Text TermStatistics) (docs : List DocId) :
    Text :=
  Text.join ['\n'] (matrix widths (fun term doc => Integer.decimalNat (term.frequencyIn doc))
    statistics docs)

/-- The weight of each term in each document, to four places. -/
def weights (widths : Widths) (statistics : Assoc Text TermStatistics) (docs : List DocId) : Text :=
  Text.join ['\n'] (matrix widths (fun term doc => FloatText.fixed 4 (term.weightIn doc))
    statistics docs)

/-- How rare each term is, to four places. -/
def rarities (statistics : Assoc Text TermStatistics) : Text :=
  Text.join ['\n'] ((sortedTerms statistics).map fun term =>
    term.name ++ '\t' :: FloatText.fixed 4 term.rarity)

end Concordance.Report
