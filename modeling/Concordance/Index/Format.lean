import Concordance.Index.Basic
import Concordance.Index.Entry
import Concordance.Text.Lines

/-!
The line format of an index: a term, a tab, and the term's entries separated by semicolons. Reading
skips short lines and malformed entries one by one, and keeps the first entry of a term and a
document. Writing puts terms and documents in code point order.
-/
namespace Concordance

/-- What the lines read so far hold, and what was skipped on the way. -/
structure Reading where
  postings : Assoc Text Postings
  lines : Nat
  shortLines : Nat
  /-- The malformed entries with the numbers of their lines. -/
  malformed : List (Nat × Text)

namespace Reading

/-- Nothing read yet. -/
def start : Reading := ⟨∅, 0, 0, []⟩

/-- Enters positions unless the term has some in the document already. -/
def enter (postings : Assoc Text Postings) (term : Text) (entry : Entry) : Assoc Text Postings :=
  postings.update term fun docs => (docs.getD ∅).add entry.doc entry.positions

/-- Reads one entry of a term on the current line. -/
def segment (term : Text) (reading : Reading) (segment : Text) : Reading :=
  match Entry.read? segment with
  | some entry => { reading with postings := enter reading.postings term entry }
  | none => { reading with malformed := reading.malformed ++ [(reading.lines, segment)] }

def line (reading : Reading) (line : Text) : Reading :=
  let reading := { reading with lines := reading.lines + 1 }
  match Text.splitOn '\t' (Text.chomp line) with
  | term :: details :: _ => (Text.splitOn ';' details).foldl (segment term) reading
  | _ => { reading with shortLines := reading.shortLines + 1 }

def ofLines (lines : List Text) : Reading := lines.foldl line start

def index (reading : Reading) : Index := Index.ofPostings reading.postings

end Reading

namespace Index

def ofLines (lines : List Text) : Index := (Reading.ofLines lines).index

def line (term : Text) (postings : Postings) : Text :=
  term ++ '\t' :: Text.join "; ".toList
    ((Text.sorted postings.keys).map fun doc => Entry.write doc ((postings.get? doc).getD []))

/-- The lines of an index, each with its end. -/
def lines (index : Index) : List Text :=
  index.sortedTerms.map fun term => line term (index.postingsOf term) ++ ['\n']

/-- An index in the line format. -/
def write (index : Index) : Text := index.lines.flatten

end Index
end Concordance
