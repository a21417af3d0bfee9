import Concordance.Proofs.FileRoundTrip

/-!
Loading normalises an index file. Whatever a file holds, the index that is loaded from it can be saved
and loaded again without change, and from then on saving gives the same octets every time.
-/
namespace Concordance.FileNormalisation
open FileRoundTrip

/-- Every text is loaded as some index; saving this index and loading it again gives its postings back,
and saving once more gives the same octets. -/
theorem one_load_normalises {tree : FileTree} {path : Path} (t : Text)
    (holds : tree.read path = .ok (Utf8.encode t)) :
    ∃ index, Index.load tree path = .ok index ∧
      ∀ before place written, index.save before place = .ok written →
        ∃ reread, Index.load written place = .ok reread ∧ SamePostings reread index ∧
          ∀ later elsewhere rewritten, reread.save later elsewhere = .ok rewritten →
            ∃ octets, written.read place = .ok octets ∧ rewritten.read elsewhere = .ok octets := by
  refine ⟨indexOf t, load_text holds, fun before place written saved => ?_⟩
  obtain ⟨storable, bounded⟩ := loaded_storable t
  obtain ⟨reread, loaded, same⟩ := reload_storable storable bounded saved
  refine ⟨reread, loaded, same, fun later elsewhere rewritten resaved => ?_⟩
  have sameOctets : reread.octets = (indexOf t).octets := by
    rw [Index.octets, Index.octets, same.write]
  refine ⟨(indexOf t).octets, FileWriting.read_write_below saved, ?_⟩
  rw [← sameOctets]
  exact FileWriting.read_write_below resaved

/-- Lines that end in three ways, a short line, malformed entries, repetitions, and a field too many. -/
def muddledText : Text :=
  "b\tx: 2,1,1; y 3; y: +4\r\nb\tx: 9; z: 0\rshort\na\tq: -1;; r: 1_0\tmore".toList

/-- A tree with this text in its only file. -/
def muddledTree : FileTree := FileTree.empty.set [['i']] (.file (Utf8.encode muddledText))

/-- What can be made out of the text stays as it is once it has been loaded. -/
theorem muddle_is_normalised :
    ∃ index written reread, Index.load muddledTree (.ofText ['i']) = .ok index ∧
      index.save muddledTree (.ofText ['i']) = .ok written ∧
      Index.load written (.ofText ['i']) = .ok reread ∧ SamePostings reread index ∧
      reread.positionsOf ['b'] ['x'] = [1, 2] := by
  have holds : muddledTree.read (.ofText ['i']) = .ok (Utf8.encode muddledText) := rfl
  obtain ⟨index, loaded, normal⟩ := one_load_normalises muddledText holds
  have known : index = indexOf muddledText := by
    rw [load_text holds] at loaded
    cases loaded
    rfl
  subst known
  obtain ⟨written, saved⟩ : ∃ written,
      (indexOf muddledText).save muddledTree (.ofText ['i']) = .ok written :=
    FileWriting.result_of_ok (by decide +kernel)
  obtain ⟨reread, reloaded, same, _⟩ := normal _ _ _ saved
  refine ⟨_, written, reread, loaded, saved, reloaded, same, ?_⟩
  rw [same.positions]
  decide +kernel

end Concordance.FileNormalisation
