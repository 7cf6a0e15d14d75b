import Luks.Format2

/-!
# Metadata read back

What a writer stores in the header area of a LUKS2 container is what the parser returns
(`Luks.parse_reads_back`): the records of the document, each with the values that were
stored, in the order of their entries. Nothing else in the buffer has a say: not the
binary header behind the size of the area, not what follows the NUL that ends the text, not
what follows the area.

So the freedom of the writer does not show: two documents that store the same metadata are
parsed alike (`Luks.parse_eq_parse_of_stores`).
-/

namespace Luks

variable {K : Crates} {m m' : Luks2Metadata} {root root' : Value} {B B' : HeaderBuffer}

/-- A document stores metadata in one way. -/
theorem StoresMetadata.unique (h : StoresMetadata K root m) (h' : StoresMetadata K root m') :
    m = m' := by
  have heq := (Luks2Header.ofDocument_of_stores h 2 0).symm.trans
    (Luks2Header.ofDocument_of_stores h' 2 0)
  injection heq with _ _ hslots hsegments hdigests
  cases m
  cases m'
  simp_all only

/-- A buffer whose document stores metadata parses to them. -/
theorem HeaderBuffer.parse_of_stores (h : StoresMetadata K root m)
    (hroot : K.fromSlice B.json = some root) : Luks2Header.parse K B.bytes =
      .ok ⟨2, B.hdrSize, m.keyslots, m.segments, m.digests⟩ := by
  rw [parse_bytes hroot, Luks2Header.ofDocument_of_stores h]

/-- **Two writers** that store the same metadata are read alike. -/
theorem parse_eq_parse_of_stores (h : StoresMetadata K root m) (h' : StoresMetadata K root' m)
    (hroot : K.fromSlice B.json = some root) (hroot' : K.fromSlice B'.json = some root')
    (hsize : B'.hdrSize = B.hdrSize) :
    Luks2Header.parse K B'.bytes = Luks2Header.parse K B.bytes := by
  rw [HeaderBuffer.parse_of_stores h' hroot', HeaderBuffer.parse_of_stores h hroot, hsize]

/-- **The parser reads back what a writer stores**, and the bytes that are not the text of
the document, the size of the area, magic or version do not change it. -/
theorem parse_reads_back (h : StoresMetadata K root m) (hroot : K.fromSlice B.json = some root) :
    Luks2Header.parse K B.bytes = .ok ⟨2, B.hdrSize, m.keyslots, m.segments, m.digests⟩ ∧
      ∀ B' : HeaderBuffer, B'.json = B.json → B'.hdrSize = B.hdrSize →
        Luks2Header.parse K B'.bytes = Luks2Header.parse K B.bytes := by
  refine ⟨HeaderBuffer.parse_of_stores h hroot, fun B' hjson hsize => ?_⟩
  have hroot' : K.fromSlice B'.json = some root := by rw [hjson, hroot]
  exact parse_eq_parse_of_stores h h hroot hroot' hsize

theorem parse_reads_back_sample :
    Luks2Header.parse Sample.tables2.crates Sample.format2.headerArea.buffer.bytes =
        .ok ⟨2, Sample.format2.headerArea.buffer.hdrSize, [Sample.slot2.record],
          [Sample.format2.segmentRecord], [Sample.format2.digestRecord Sample.tables2.crates]⟩ ∧
      ∀ B' : HeaderBuffer, B'.json = Sample.format2.headerArea.buffer.json →
        B'.hdrSize = Sample.format2.headerArea.buffer.hdrSize →
        Luks2Header.parse Sample.tables2.crates B'.bytes =
          Luks2Header.parse Sample.tables2.crates Sample.format2.headerArea.buffer.bytes :=
  parse_reads_back (Format2.storesMetadata_document (F := Sample.format2) Sample.tables2.spelling)
    Sample.fromSlice_format2

end Luks
